import EventSourcing.Text.Blank

/-!
# Sets of characters

Sets of characters given by ranges of code points, with their union, difference and intersection,
and the sets that have a name in patterns.
-/

namespace EventSourcing.Text

structure CharSet where
  ranges : List (Nat × Nat) := []
  deriving DecidableEq

namespace CharSet

def contains (set : CharSet) (c : Char) : Bool := inRanges set.ranges c.toNat

def ofRange (first last : Char) : CharSet := ⟨[(first.toNat, last.toNat)]⟩

def ofChar (c : Char) : CharSet := ofRange c c

def all : CharSet := ⟨[(0, 0x10FFFF)]⟩

def union (set other : CharSet) : CharSet := ⟨set.ranges ++ other.ranges⟩

/-- The parts of a range that are outside of another one. -/
def outside (r s : Nat × Nat) : List (Nat × Nat) :=
  (if r.1 < s.1 then [(r.1, min r.2 (s.1 - 1))] else []) ++
    if s.2 < r.2 then [(max r.1 (s.2 + 1), r.2)] else []

/-- The characters of a set that are not in another one. -/
def diff (set other : CharSet) : CharSet :=
  ⟨other.ranges.foldl (fun ranges s => ranges.flatMap fun r => outside r s) set.ranges⟩

def inter (set other : CharSet) : CharSet := set.diff (set.diff other)

def symmDiff (set other : CharSet) : CharSet := (set.diff other).union (other.diff set)

def compl (set : CharSet) : CharSet := all.diff set

/-- The letters of a set, from A to Z and from a to z, in both cases, and its other characters. -/
def bothCases (set : CharSet) : CharSet :=
  let lowered := (set.inter (ofRange 'A' 'Z')).ranges.map fun r => (r.1 + 32, r.2 + 32)
  let raised := (set.inter (ofRange 'a' 'z')).ranges.map fun r => (r.1 - 32, r.2 - 32)
  ⟨set.ranges ++ lowered ++ raised⟩

/-! ## Sets with a name -/

def digits : CharSet := ofRange '0' '9'

def asciiLetters : CharSet := ⟨[(0x41, 0x5A), (0x61, 0x7A)]⟩

def asciiBlanks : CharSet := ⟨[(0x09, 0x0D), (0x20, 0x20)]⟩

def asciiWord : CharSet := (digits.union asciiLetters).union (ofChar '_')

def named? : String → Option CharSet
  | "alnum" => some (digits.union asciiLetters)
  | "alpha" => some asciiLetters
  | "ascii" => some ⟨[(0, 0x7F)]⟩
  | "blank" => some ⟨[(0x09, 0x09), (0x20, 0x20)]⟩
  | "cntrl" => some ⟨[(0, 0x1F), (0x7F, 0x7F)]⟩
  | "digit" => some digits
  | "graph" => some (ofRange '!' '~')
  | "lower" => some (ofRange 'a' 'z')
  | "print" => some (ofRange ' ' '~')
  | "punct" => some ((ofRange '!' '~').diff (digits.union asciiLetters))
  | "space" => some asciiBlanks
  | "upper" => some (ofRange 'A' 'Z')
  | "word" => some asciiWord
  | "xdigit" => some ⟨[(0x30, 0x39), (0x41, 0x46), (0x61, 0x66)]⟩
  | _ => none

end CharSet

end EventSourcing.Text
