/-!
# Readers

A reader takes a value off the front of a text, or fails. What is shared by the readers of numbers,
instants and JSON stands here.
-/

namespace EventSourcing.Text

/-- Reads from the front of a text: a value and what is left. -/
abbrev Reader (α : Type) := StateT (List Char) Option α

def digitValue? (c : Char) : Option Nat :=
  if '0' ≤ c ∧ c ≤ '9' then some (c.toNat - '0'.toNat) else none

def isDigit (c : Char) : Bool := (digitValue? c).isSome

/-- The number written by a list of digits, most significant first. -/
def decimalNumber (cs : List Char) : Nat :=
  cs.foldl (fun n c => 10 * n + (c.toNat - '0'.toNat)) 0

def hexValue? (c : Char) : Option Nat :=
  if 'a' ≤ c ∧ c ≤ 'f' then some (c.toNat - 'a'.toNat + 10)
  else if 'A' ≤ c ∧ c ≤ 'F' then some (c.toNat - 'A'.toNat + 10)
  else digitValue? c

/-- The number written by a list of hexadecimal digits, most significant first. -/
def hexNumber? (cs : List Char) : Option Nat :=
  cs.foldlM (fun n c => (hexValue? c).map (16 * n + ·)) 0

/-- Reads the digits at the front, however many. -/
def digits : Reader (List Char) := fun cs =>
  let digits := cs.takeWhile isDigit
  some (digits, cs.drop digits.length)

/-- Reads a number of at least one and at most `width` digits. -/
def number (width : Nat) : Reader Nat := fun cs =>
  let digits := (cs.take width).takeWhile isDigit
  if digits.isEmpty then none else some (decimalNumber digits, cs.drop digits.length)

def char (c : Char) : Reader Unit
  | d :: cs => if d = c then some ((), cs) else none
  | [] => none

/-- Reads the next character, if there is one. -/
def next? : Reader (Option Char)
  | c :: cs => some (some c, cs)
  | [] => some (none, [])

/-- Reads one of some characters, if one is there. -/
def oneOf? (chosen : List Char) : Reader (Option Char)
  | c :: cs => if chosen.contains c then some (some c, cs) else some (none, c :: cs)
  | [] => some (none, [])

def word (w : String) : Reader Unit := fun cs =>
  if w.toList.isPrefixOf cs then some ((), cs.drop w.length) else none

/-- Repeats a reader, which hands something on from one time to the next, until it gives a result.
A time that takes nothing off the text and gives no result fails. -/
def iterate {α β : Type} (step : α → Reader (α ⊕ β)) (a : α) (cs : List Char) :
    Option (β × List Char) :=
  match step a cs with
  | some (.inr b, rest) => some (b, rest)
  | some (.inl a, rest) => if rest.length < cs.length then iterate step a rest else none
  | none => none
termination_by cs.length

end EventSourcing.Text
