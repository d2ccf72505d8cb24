/-!
# Checked arithmetic on 64-bit words

Identifiers, sequence numbers and amounts of money are signed 64-bit words. A checked sum is taken in
the integers and brought back only if it fits, so it never wraps.
-/

namespace EventSourcing.Word

/-- An integer lies in the range of a signed 64-bit word. -/
def Fits (n : Int) : Prop := -9223372036854775808 ≤ n ∧ n ≤ 9223372036854775807

instance (n : Int) : Decidable (Fits n) := inferInstanceAs (Decidable (_ ∧ _))

/-- The word that stands for an integer, where there is one. -/
def ofInt? (n : Int) : Option Int64 :=
  if Fits n then some (Int64.ofInt n) else none

/-- The sum of two words, where it is a word. -/
def add? (a b : Int64) : Option Int64 := ofInt? (a.toInt + b.toInt)

/-- The difference of two words, where it is a word. -/
def sub? (a b : Int64) : Option Int64 := ofInt? (a.toInt - b.toInt)

/-- The word after a word; the greatest word has none. -/
def succ? (a : Int64) : Option Int64 := ofInt? (a.toInt + 1)

def text (a : Int64) : String := toString a.toInt

/-- Why a text is not the decimal text of a word. -/
inductive ParseFault where
  | empty | invalidDigit | tooLarge | tooSmall
  deriving DecidableEq

def ParseFault.message : ParseFault → String
  | .empty => "cannot parse integer from empty string"
  | .invalidDigit => "invalid digit found in string"
  | .tooLarge => "number too large to fit in target type"
  | .tooSmall => "number too small to fit in target type"

/-- Reads the digits of a number, the one read so far being `n`; each digit has to keep it a
word. -/
def parseDigits (negative : Bool) : Int → List Char → Except ParseFault Int64
  | n, [] =>
    match ofInt? n with
    | some a => .ok a
    | none => .error (if negative then .tooSmall else .tooLarge)
  | n, c :: cs =>
    if '0' ≤ c ∧ c ≤ '9' then
      let digit : Int := c.toNat - '0'.toNat
      let next := if negative then 10 * n - digit else 10 * n + digit
      if Fits next then parseDigits negative next cs
      else .error (if negative then .tooSmall else .tooLarge)
    else .error .invalidDigit

/-- Reads a decimal text, with a sign or without. -/
def parse (s : String) : Except ParseFault Int64 :=
  match s.toList with
  | [] => .error .empty
  | ['+'] | ['-'] => .error .invalidDigit
  | '-' :: cs => parseDigits true 0 cs
  | '+' :: cs => parseDigits false 0 cs
  | cs => parseDigits false 0 cs

theorem fits_toInt (a : Int64) : Fits a.toInt := ⟨a.le_toInt, Int.le_of_lt_add_one a.toInt_lt⟩

theorem ofInt?_eq_some_iff {n : Int} {a : Int64} : ofInt? n = some a ↔ a.toInt = n := by
  unfold ofInt?
  split
  · next h =>
    have hn : (Int64.ofInt n).toInt = n := Int64.toInt_ofInt_of_le h.1 (Int.lt_add_one_of_le h.2)
    constructor
    · intro ha
      rw [← Option.some.inj ha]
      exact hn
    · intro ha
      rw [← ha, Int64.ofInt_toInt]
  · next h =>
    constructor
    · intro ha
      cases ha
    · intro ha
      exact absurd (ha ▸ fits_toInt a) h

theorem add?_eq_some_iff {a b c : Int64} : add? a b = some c ↔ c.toInt = a.toInt + b.toInt :=
  ofInt?_eq_some_iff

theorem succ?_eq_some_iff {a b : Int64} : succ? a = some b ↔ b.toInt = a.toInt + 1 :=
  ofInt?_eq_some_iff

end EventSourcing.Word
