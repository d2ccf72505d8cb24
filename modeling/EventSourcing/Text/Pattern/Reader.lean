import EventSourcing.Text.Alphanumeric
import EventSourcing.Text.Pattern.Bracket

/-!
# Reading patterns

In a pattern a dot stands for any character of a line, brackets hold a class of characters, `^` and
`$` stand for the ends of the text, `|` parts alternatives, and `*`, `+` and `?` say how often the
item in front of them may stand, a further `?` that it is not eager. Parentheses group, and may set
how a part of the pattern is read: `(?i-u:x)`. A backslash makes a mark of a letter and takes the
meaning of a mark. Braces are reserved.

Characters beyond ASCII are read, but nothing is known of them: neither which of them are letters,
digits or blanks, nor which differ in case alone.
-/

namespace EventSourcing.Text.Pattern

inductive Fault where
  /-- It is written in no way that is known, or asks for what is not known of characters beyond
  ASCII. -/
  | unreadable
  /-- It asks for the edges of words that may have characters beyond ASCII. -/
  | wideWordEdge
  deriving DecidableEq

/-! ## Groups -/

inductive GroupHead where
  /-- A group, with the mode in it and perhaps a name. -/
  | group (mode : Mode) (name : Option (List Char))
  /-- No group: the mode from there on. -/
  | setting (mode : Mode)

def isNameChar (c : Char) : Bool := isAlphanumeric c || ['_', '.', '[', ']'].contains c

def groupName : Reader (List Char) := do
  let name := (← get).takeWhile (· != '>')
  modify fun cs => cs.drop name.length
  char '>'
  match name with
  | c :: cs => if (isLetter c || c == '_') && cs.all isNameChar then return name else failure
  | [] => failure

/-- Reads the settings behind a question mark and what ends them. -/
def settings (mode : Mode) : Reader GroupHead := do
  let letters := (← get).takeWhile fun c => c != ':' && c != ')'
  let changed ← found (mode.change? letters)
  match (← get).drop letters.length with
  | ':' :: rest =>
    set rest
    return .group changed none
  | ')' :: rest =>
    set rest
    if letters.isEmpty then failure else return .setting changed
  | _ => failure

def groupHead (mode : Mode) : Reader GroupHead := do
  skip mode
  match ← get with
  | '?' :: 'P' :: '<' :: rest =>
    set rest
    return .group mode (← groupName)
  | '?' :: '<' :: rest =>
    set rest
    return .group mode (← groupName)
  | '?' :: rest =>
    set rest
    settings mode
  | _ => return .group mode none

/-! ## Patterns -/

/-- A part of a pattern, and how deep the parts in it are nested. -/
structure Part where
  pattern : Pattern
  depth : Nat

structure Level where
  /-- The alternatives that are complete, latest first. -/
  alternatives : List Part := []
  /-- The items of the alternative that is not complete, latest first. -/
  items : List Part := []
  /-- The item behind them, which may still be repeated. -/
  latest : Option Part := none

namespace Level

/-- A group whose latest item stands as it is. -/
def settle (level : Level) : Level :=
  { level with items := level.latest.toList ++ level.items, latest := none }

def add (level : Level) (part : Part) : Level := { level.settle with latest := some part }

/-- A group with a setting, which takes a place among the items. -/
def addSetting (level : Level) : Level := (level.add ⟨.empty, 0⟩).settle

def branch (level : Level) : Part :=
  let items := level.settle.items
  ⟨items.foldl (fun rest item => .seq item.pattern rest) .empty,
    jointDepth (items.map Part.depth)⟩

def fork (level : Level) : Level := { alternatives := level.branch :: level.alternatives }

def whole (level : Level) : Part :=
  ⟨level.alternatives.foldl (fun rest part => .either part.pattern rest) level.branch.pattern,
    jointDepth ((level.branch :: level.alternatives).map Part.depth)⟩

end Level

structure Reading where
  mode : Mode := {}
  level : Level := {}
  /-- The groups around it, the innermost first, with the modes in them. -/
  outer : List (Mode × Level) := []
  names : List (List Char) := []
  /-- There was an edge of words that may have characters beyond ASCII. -/
  wideWordEdge : Bool := false

namespace Reading

def add (reading : Reading) (pattern : Pattern) : Reading :=
  { reading with level := reading.level.add ⟨pattern, 0⟩ }

def addEdge (reading : Reading) (edge : Edge) : Reading :=
  let ofWords := [Edge.wordEdge, .noWordEdge, .wordStart, .wordEnd].contains edge
  { reading.add (.boundary edge) with
    wideWordEdge := reading.wideWordEdge || reading.mode.wide && ofWords }

def enter (reading : Reading) (mode : Mode) (name : Option (List Char)) : Reading :=
  { reading with
    mode, level := {}, outer := (reading.mode, reading.level) :: reading.outer
    names := name.toList ++ reading.names }

def openGroup (reading : Reading) : Reader Reading := do
  match ← groupHead reading.mode with
  | .setting mode => return { reading with mode, level := reading.level.addSetting }
  | .group mode name =>
    if name.any reading.names.contains then failure else return reading.enter mode name

def closeGroup (reading : Reading) : Reader Reading :=
  match reading.outer with
  | (mode, level) :: outer =>
    let group := reading.level.whole
    return { reading with mode, level := level.add ⟨group.pattern, group.depth + 1⟩, outer }
  | [] => failure

def repetition (reading : Reading) (repeated : Bool → Pattern → Pattern) : Reader Reading :=
  match reading.level.latest with
  | some item => do
    let marked := (← oneOf? ['?']).isSome
    let pattern := repeated (marked == reading.mode.reluctant) item.pattern
    let latest := some ⟨pattern, item.depth + 1⟩
    return { reading with level := { reading.level with latest } }
  | none => failure

def item (reading : Reading) (c : Char) : Reader Reading := do
  let mode := reading.mode
  match c with
  | '(' => reading.openGroup
  | ')' => reading.closeGroup
  | '|' => return { reading with level := reading.level.fork }
  | '[' =>
    let (characters, depth) ← characterClass mode
    return { reading with level := reading.level.add ⟨.one characters, depth⟩ }
  | '\x7b' => failure
  | '?' => reading.repetition .optional
  | '*' => reading.repetition .many
  | '+' => reading.repetition .oneOrMore
  | '.' => return reading.add (.one (← found mode.dotSet?))
  | '^' => return reading.addEdge (if mode.byLine then .lineStart mode.carriage else .textStart)
  | '$' => return reading.addEdge (if mode.byLine then .lineEnd mode.carriage else .textEnd)
  | '\\' =>
    match ← escape mode with
    | .char c => return reading.add (.one (← found (mode.charSet? c)))
    | .set characters => return reading.add (.one characters)
    | .boundary edge => return reading.addEdge edge
  | c => return reading.add (.one (← found (mode.charSet? c)))

/-- Reads on; at the end of the text no group may be open. -/
def step (reading : Reading) : Reader (Reading ⊕ Reading) := do
  skip reading.mode
  match ← next? with
  | some c => Sum.inl <$> reading.item c
  | none => if reading.outer.isEmpty then return .inr reading else failure

end Reading

def depthLimit : Nat := 250

def parse (text : String) : Except Fault Pattern :=
  match iterate Reading.step {} text.toList with
  | some (reading, _) =>
    if depthLimit < reading.level.whole.depth then .error .unreadable
    else if reading.wideWordEdge then .error .wideWordEdge
    else .ok reading.level.whole.pattern
  | none => .error .unreadable

/-- A pattern fits a text if it is complete at its end; the first alternative that is complete ends
the others. -/
example : (parse "b.*d|x").toOption.map (fun p => p.fits "a.bcd") = some true ∧
    (parse "a|a.bcd").toOption.map (fun p => p.fits "a.bcd") = some false := by
  cbv

/-- A class takes away from a class; without all characters no class can be negated. -/
example : (parse "[a-z--c]$").toOption.map (fun p => p.fits "ab") = some true ∧
    (parse "(?-u)[^c]").toOption = none := by
  cbv

end EventSourcing.Text.Pattern
