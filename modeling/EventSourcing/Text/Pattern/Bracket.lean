import EventSourcing.Text.Pattern.Atom

/-!
# Classes of characters in brackets

A class lists characters, ranges of them and other classes; `&&`, `--` and `~~` make one class of
two. A class with a name stands between colons in a bracket of its own.
-/

namespace EventSourcing.Text.Pattern

inductive SetOp where
  | inter
  | diff
  | symmDiff

def SetOp.apply : SetOp → CharSet → CharSet → CharSet
  | inter => CharSet.inter
  | diff => CharSet.diff
  | symmDiff => CharSet.symmDiff

/-- The depth of parts that stand side by side: several lie one deeper than the deepest alone. -/
def jointDepth : List Nat → Nat
  | [] => 0
  | [depth] => depth
  | depths => depths.foldl max 0 + 1

structure Bracket where
  negated : Bool := false
  /-- What stands before the latest sign for an operation, with its depth. -/
  left : Option (SetOp × CharSet × Nat) := none
  items : CharSet := {}
  depths : List Nat := []
  opening : Bool := true

namespace Bracket

def add (bracket : Bracket) (set : CharSet) (depth : Nat) : Bracket :=
  { bracket with
    items := bracket.items.union set, depths := depth :: bracket.depths, opening := false }

/-- The characters of a class so far, and its depth. -/
def total (bracket : Bracket) (mode : Mode) : CharSet × Nat :=
  match bracket.left with
  | none => (bracket.items, jointDepth bracket.depths)
  | some (op, set, depth) =>
    (op.apply (mode.fold set) (mode.fold bracket.items), max depth (jointDepth bracket.depths) + 1)

def operate (bracket : Bracket) (mode : Mode) (op : SetOp) : Bracket :=
  { negated := bracket.negated, left := some (op, bracket.total mode), opening := false }

end Bracket

/-- Reads the start of a class, behind its bracket. -/
def bracketStart (mode : Mode) : Reader Bracket := do
  skip mode
  return { negated := (← oneOf? ['^']).isSome }

/-- The class with a name between colons that stands at the front of a text, behind its bracket. -/
def namedClass? : List Char → Option ((Bool × CharSet) × List Char)
  | ':' :: cs =>
    let negated := cs.head? == some '^'
    let cs := if negated then cs.drop 1 else cs
    let name := cs.takeWhile (· != ':')
    match CharSet.named? (String.ofList name), cs.drop name.length with
    | some set, ':' :: ']' :: rest => some ((negated, set), rest)
    | _, _ => none
  | _ => none

/-- Reads the first or the last character of a range, or an item of a class. -/
def classAtom (mode : Mode) : Reader Atom := do
  match ← found (← next?) with
  | '\\' => escape mode
  | c => return .char c

/-- The character behind what does not count; the text of a remark does. -/
def characterBehind (mode : Mode) (cs : List Char) : Option Char :=
  if mode.spaced then
    match cs.dropWhile isBlank with
    | '#' :: rest => (rest.dropWhile isBlank).head?
    | rest => rest.head?
  else cs.head?

/-- Reads an item of a class: a character, a range, or a set with a letter. A dash makes a range,
unless a dash or the end of the class follows it. -/
def classItem (mode : Mode) : Reader CharSet := do
  let first ← classAtom mode
  skip mode
  let isRange := match ← get with
    | '-' :: rest =>
      let behind := characterBehind mode rest
      behind != some ']' && behind != some '-'
    | _ => false
  if isRange then
    let _ ← next?
    skip mode
    match first, ← classAtom mode with
    | .char first, .char last => found (mode.rangeSet? first last)
    | _, _ => failure
  else
    match first with
    | .char c => found (mode.rangeSet? c c)
    | .set set => return set
    | .boundary _ => failure

/-- Reads on in a class that stands in some others, the innermost first. -/
def classStep (mode : Mode) :
    Bracket × List Bracket → Reader ((Bracket × List Bracket) ⊕ (CharSet × Nat))
  | (bracket, outer) => do
    skip mode
    match ← get with
    | '-' :: rest =>
      if bracket.opening then
        set rest
        let dash ← found (mode.rangeSet? '-' '-')
        return .inl ({ bracket.add dash 0 with opening := true }, outer)
      else if rest.head? == some '-' then
        set (rest.drop 1)
        return .inl (bracket.operate mode .diff, outer)
      else return .inl (bracket.add (← classItem mode) 0, outer)
    | ']' :: rest =>
      set rest
      if bracket.opening && bracket.depths.isEmpty then
        return .inl (bracket.add (← found (mode.rangeSet? ']' ']')) 0, outer)
      else
        let (characters, depth) := bracket.total mode
        let characters ← found (mode.classSet? bracket.negated characters)
        match outer with
        | [] => return .inr (characters, depth + 1)
        | around :: outer => return .inl (around.add characters (depth + 1), outer)
    | '[' :: rest =>
      match namedClass? rest with
      | some ((negated, named), rest) =>
        set rest
        return .inl (bracket.add (← found (mode.namedSet? negated named)) 0, outer)
      | none =>
        set rest
        return .inl (← bracketStart mode, bracket :: outer)
    | '&' :: '&' :: rest =>
      set rest
      return .inl (bracket.operate mode .inter, outer)
    | '~' :: '~' :: rest =>
      set rest
      return .inl (bracket.operate mode .symmDiff, outer)
    | _ => return .inl (bracket.add (← classItem mode) 0, outer)

def characterClass (mode : Mode) : Reader (CharSet × Nat) := do
  let bracket ← bracketStart mode
  iterate (classStep mode) (bracket, [])

end EventSourcing.Text.Pattern
