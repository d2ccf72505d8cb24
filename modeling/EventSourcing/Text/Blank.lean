/-!
# Blank characters

The characters with the Unicode property White_Space, and cutting them off both ends of a text.
-/

namespace EventSourcing.Text

/-- Closed ranges of code points, ascending and apart: the property White_Space. -/
def blankRanges : List (Nat × Nat) :=
  [(0x09, 0x0D), (0x20, 0x20), (0x85, 0x85), (0xA0, 0xA0), (0x1680, 0x1680), (0x2000, 0x200A),
   (0x2028, 0x2029), (0x202F, 0x202F), (0x205F, 0x205F), (0x3000, 0x3000)]

def inRanges (ranges : List (Nat × Nat)) (code : Nat) : Bool :=
  ranges.any fun r => r.1 ≤ code && code ≤ r.2

def isBlank (c : Char) : Bool := inRanges blankRanges c.toNat

/-- A text holds no character but blank ones; the empty text is blank. -/
def isBlankText (s : String) : Bool := s.toList.all isBlank

def trimFront (cs : List Char) : List Char := cs.dropWhile isBlank

def trim (s : String) : String :=
  String.ofList (trimFront (trimFront s.toList).reverse).reverse

/-- Lowers the letters A to Z and leaves every other character as it is. -/
def lowerAscii (s : String) : String := String.ofList (s.toList.map Char.toLower)

end EventSourcing.Text
