import EventSourcing.Decimal.Shortest

/-!
# The text of a decimal

A decimal of moderate size is written positionally, with a digit on each side of the point. Any
other is written as a number from 1 up to 10 times a power of ten; the exponent has its sign and no
zeros in front.
-/

namespace EventSourcing.Decimal

/-- Which decimals are written positionally, by the power of ten of their first digit. -/
structure Layout where
  /-- The least such power. -/
  plainFrom : Int
  /-- The least greater power that is not one any more. -/
  plainBelow : Int

namespace Numeral

/-- The digits of a decimal without the zeros at their end. -/
def figures (d : Numeral) : List Char :=
  ((toString d.digits).toList.reverse.dropWhile (· == '0')).reverse

/-- The power of ten of the first digit. -/
def leading (d : Numeral) : Int := d.exponent + (toString d.digits).length - 1

def zeros (count : Nat) : List Char := List.replicate count '0'

def positional (d : Numeral) : String :=
  if d.leading < 0 then
    String.ofList ('0' :: '.' :: zeros (-d.leading - 1).toNat ++ d.figures)
  else
    let places := d.leading.toNat + 1
    let whole := d.figures.take places
    let fraction := d.figures.drop places
    String.ofList (whole ++ zeros (places - whole.length) ++
      '.' :: (if fraction.isEmpty then ['0'] else fraction))

def exponentText (exponent : Int) : String :=
  if exponent < 0 then s!"e-{exponent.natAbs}" else s!"e+{exponent.natAbs}"

/-- The text of a decimal as a number from 1 up to 10 times a power of ten. -/
def scientific (d : Numeral) : String :=
  let fraction := d.figures.drop 1
  String.ofList (d.figures.take 1 ++ (if fraction.isEmpty then [] else '.' :: fraction)) ++
    exponentText d.leading

def text (layout : Layout) (d : Numeral) : String :=
  if layout.plainFrom ≤ d.leading ∧ d.leading < layout.plainBelow then d.positional
  else d.scientific

end Numeral

/-- The text of a value: the fewest digits that read back, behind a sign if it is negative. -/
def Binary.text (layout : Layout) (x : Binary) : String :=
  (if x.negative then "-" else "") ++ (if x.m = 0 then "0.0" else x.shortest.text layout)

end EventSourcing.Decimal
