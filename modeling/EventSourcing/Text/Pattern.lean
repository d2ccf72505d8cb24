import EventSourcing.Text.CharSet

/-!
# Patterns of texts

A pattern is looked for from every place of a text on. Where it can go on in several ways, an
earlier way ranks before a later one; a search that began earlier ranks before all later ones. The
way of the highest rank that completes the pattern ends all ways of lower rank. A text fits if a way
is complete at its end, so a pattern that is complete before, and leaves no way of a higher rank,
fits no longer text: `account` does not fit `account.open`, and `account|open` does not either.
-/

namespace EventSourcing.Text

/-- A place in a text: the characters around it. -/
structure Place where
  before : Option Char
  next : Option Char

/-- What a place has to be, without taking a character. -/
inductive Edge where
  | textStart
  | textEnd
  /-- The start of a line; a carriage return may end lines too. -/
  | lineStart (carriage : Bool)
  /-- The end of a line; a carriage return may end lines too. -/
  | lineEnd (carriage : Bool)
  | wordEdge
  | noWordEdge
  | wordStart
  | wordEnd
  deriving DecidableEq

def inWord (c : Option Char) : Bool := c.any CharSet.asciiWord.contains

/-- A place is as it has to be. -/
def Edge.holdsAt (place : Place) : Edge → Bool
  | textStart => place.before.isNone
  | textEnd => place.next.isNone
  | lineStart carriage =>
    place.before.all (· == '\n') ||
      carriage && place.before == some '\r' && place.next != some '\n'
  | lineEnd carriage =>
    if carriage then
      place.next.all (· == '\r') || place.next == some '\n' && place.before != some '\r'
    else place.next.all (· == '\n')
  | wordEdge => inWord place.before != inWord place.next
  | noWordEdge => inWord place.before == inWord place.next
  | wordStart => !inWord place.before && inWord place.next
  | wordEnd => inWord place.before && !inWord place.next

/-- What a text may be. Of two ways to go on, an item that is `eager` is tried once more before
the pattern behind it; any other afterwards. -/
inductive Pattern where
  /-- The text without characters. -/
  | empty
  | one (set : CharSet)
  /-- No character, at a certain place. -/
  | boundary (edge : Edge)
  | seq (first second : Pattern)
  | either (first second : Pattern)
  | optional (eager : Bool) (item : Pattern)
  /-- An item at least once. -/
  | oneOrMore (eager : Bool) (item : Pattern)
  /-- What may follow the characters that an item took: the item, if it takes some again, or
  nothing. -/
  | again (eager : Bool) (item : Pattern)
  deriving DecidableEq

namespace Pattern

def many (eager : Bool) (item : Pattern) : Pattern := optional eager (oneOrMore eager item)

/-- The ways of going on with nothing among them, in order. -/
def orNothing {α : Type} (eager : Bool) (ways : List (Option α)) : List (Option α) :=
  if eager then ways ++ [none] else none :: ways

/-- The ways to go on at a place, those of higher rank first: the pattern is complete (`none`), or
it takes the next character and a pattern is left. A way that stands twice counts where it stands
first. -/
def ways (place : Place) : Pattern → List (Option Pattern)
  | empty => [none]
  | one set => if place.next.any set.contains then [some empty] else []
  | boundary edge => if edge.holdsAt place then [none] else []
  | seq first second =>
    (first.ways place).eraseDups.flatMap fun way =>
      match way with
      | none => second.ways place
      | some rest => [some (seq rest second)]
  | either first second => first.ways place ++ second.ways place
  | optional eager item => orNothing eager (item.ways place)
  | oneOrMore eager item =>
    (item.ways place).map (Option.map fun rest => seq rest (again eager item))
  | again eager item =>
    orNothing eager (((item.ways place).filter Option.isSome).map
      (Option.map fun rest => seq rest (again eager item)))

/-- What is left of some patterns after the next character, up to the first way that is complete. -/
def leftOf (ways : List (Option Pattern)) : List Pattern :=
  ((ways.takeWhile Option.isSome).filterMap id).eraseDups

/-- One of the patterns that are under way, the highest rank first, is complete at the end of a
text; while `searching`, the pattern is begun at each place anew, with the lowest rank. -/
def completes (pattern : Pattern) (searching : Bool) (started : List Pattern)
    (before : Option Char) (text : List Char) : Bool :=
  let underWay := if searching then started ++ [pattern] else started
  match text with
  | [] => underWay.any fun p => (p.ways ⟨before, none⟩).contains none
  | c :: cs =>
    let ways := underWay.flatMap (ways ⟨before, c⟩)
    pattern.completes (searching && ways.all Option.isSome) (leftOf ways) c cs

def fits (pattern : Pattern) (text : String) : Bool :=
  pattern.completes true [] none text.toList

end Pattern

end EventSourcing.Text
