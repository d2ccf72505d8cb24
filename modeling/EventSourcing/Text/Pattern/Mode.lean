import EventSourcing.Text.CharSet
import EventSourcing.Text.Reader

/-!
# Modes of reading patterns

The settings under which a part of a pattern is read, and which sets of characters its signs stand
for under them. A sign that stands for no set under a mode makes the pattern unreadable.
-/

namespace EventSourcing.Text.Pattern

structure Mode where
  anyCase : Bool := false
  /-- The signs for the ends of the text stand for those of its lines. -/
  byLine : Bool := false
  acrossLines : Bool := false
  /-- Repetitions are eager only if they are marked. -/
  reluctant : Bool := false
  /-- Classes and words are made of all characters, not of those of ASCII. -/
  wide : Bool := true
  carriage : Bool := false
  spaced : Bool := false

namespace Mode

def set? (mode : Mode) (value : Bool) : Char → Option Mode
  | 'i' => some { mode with anyCase := value }
  | 'm' => some { mode with byLine := value }
  | 's' => some { mode with acrossLines := value }
  | 'U' => some { mode with reluctant := value }
  | 'u' => some { mode with wide := value }
  | 'R' => some { mode with carriage := value }
  | 'x' => some { mode with spaced := value }
  | _ => none

/-- The mode with the settings that letters stand for, those behind a dash turned off. No letter
stands twice, and a dash has letters behind it. -/
def change? (mode : Mode) (letters : List Char) : Option Mode := do
  let on := letters.takeWhile (· != '-')
  let off := letters.drop (on.length + 1)
  if decide letters.Nodup && letters.getLast? != some '-' then
    let mode ← on.foldlM (fun mode letter => mode.set? true letter) mode
    off.foldlM (fun mode letter => mode.set? false letter) mode
  else none

/-- A set of characters, in both cases if the case does not matter. -/
def fold (mode : Mode) (set : CharSet) : CharSet := if mode.anyCase then set.bothCases else set

def charSet? (mode : Mode) (c : Char) : Option CharSet :=
  if mode.anyCase && mode.wide then none else some (mode.fold (.ofChar c))

def rangeSet? (mode : Mode) (first last : Char) : Option CharSet :=
  if first ≤ last && (if mode.wide then !mode.anyCase else last.toNat < 0x80) then
    some (.ofRange first last)
  else none

/-- The set for a class with some characters, or with all others. -/
def classSet? (mode : Mode) (negated : Bool) (set : CharSet) : Option CharSet :=
  if negated then if mode.wide then some (mode.fold set).compl else none
  else some (mode.fold set)

def namedSet? (mode : Mode) (negated : Bool) (set : CharSet) : Option CharSet :=
  if mode.anyCase && mode.wide then none else mode.classSet? negated set

def letterSet? (mode : Mode) (set : CharSet) : Option CharSet :=
  if mode.wide then none else some set

def dotSet? (mode : Mode) : Option CharSet :=
  if !mode.wide then none
  else if mode.acrossLines then some .all
  else if mode.carriage then some ((CharSet.ofChar '\n').union (.ofChar '\r')).compl
  else some (CharSet.ofChar '\n').compl

end Mode

/-- Leaves out blanks, and remarks from a `#` to the end of its line. -/
def withoutRemarks (inRemark : Bool) : List Char → List Char
  | [] => []
  | c :: cs =>
    if inRemark then withoutRemarks (c != '\n') cs
    else if isBlank c then withoutRemarks false cs
    else if c == '#' then withoutRemarks true cs
    else c :: cs

def skip (mode : Mode) : Reader Unit :=
  modify fun cs => if mode.spaced then withoutRemarks false cs else cs

/-- What was read, or failure. -/
def found {α : Type} : Option α → Reader α
  | some a => pure a
  | none => failure

end EventSourcing.Text.Pattern
