/-!
# The fewest digits that read back

A binary floating point value stands for the interval of reals that round to it. The decimal chosen
for it lies in that interval, has the fewest digits that any point of the interval has, and is the
nearest of those; halfway between two of them the even one is taken.
-/

namespace EventSourcing.Decimal

/-- A finite value of 64 bits: a sign and `m * 2 ^ q`. -/
structure Binary where
  negative : Bool
  m : Nat
  q : Int
  /-- The gap to the value below is half the gap to the value above. -/
  narrowBelow : Bool

/-- The value of a bit pattern whose exponent is not all ones. -/
def Binary.ofBits (bits : UInt64) : Binary :=
  let exponent := ((bits >>> 52) &&& 0x7FF).toNat
  let fraction := (bits &&& 0xFFFFFFFFFFFFF).toNat
  let negative := (bits >>> 63) != 0
  if exponent == 0 then ⟨negative, fraction, -1074, false⟩
  else
    ⟨negative, 0x10000000000000 + fraction, (exponent : Int) - 1075,
      fraction == 0 && exponent > 1⟩

/-- A decimal, `digits * 10 ^ exponent`. -/
structure Numeral where
  digits : Nat
  exponent : Int
  deriving Repr, DecidableEq

def tenTo (exponent : Nat) : Nat := Nat.pow 10 exponent

/-- Compares `a * 10 ^ i` with `n * 2 ^ j` in the integers. -/
def compareScaled (a : Nat) (i : Int) (n : Nat) (j : Int) : Ordering :=
  compare (a * (tenTo i.toNat <<< (-j).toNat)) (n * (tenTo (-i).toNat <<< j.toNat))

/-- A decimal lies among the reals that round to the value, to nearest and ties to even. -/
def Binary.readsBack (x : Binary) (d : Numeral) : Bool :=
  let low := if x.narrowBelow then 4 * x.m - 1 else 4 * x.m - 2
  let high := 4 * x.m + 2
  let endsBelong := x.m % 2 == 0
  let below := compareScaled d.digits d.exponent low (x.q - 2)
  let above := compareScaled d.digits d.exponent high (x.q - 2)
  (below == .gt || (endsBelong && below == .eq)) && (above == .lt || (endsBelong && above == .eq))

/-- The least power of ten above a positive value. -/
def Binary.scale (x : Binary) : Int :=
  let estimate := Int.fdiv (((x.m.log2 : Int) + x.q) * 30103) 100000
  let candidates := [estimate - 1, estimate, estimate + 1, estimate + 2]
  (candidates.find? fun k => compareScaled 1 k x.m x.q == .gt).getD (estimate + 2)

/-- The decimals of one grid that read back: at most the two neighbours of the value, and of these
the nearer, the even one on a tie. -/
def Binary.onGrid (x : Binary) (grid : Int) : Option Numeral :=
  let whole := (x.m * (tenTo (-grid).toNat <<< x.q.toNat)) / (tenTo grid.toNat <<< (-x.q).toNat)
  let lower : Numeral := ⟨whole, grid⟩
  let upper : Numeral := ⟨whole + 1, grid⟩
  match x.readsBack lower, x.readsBack upper with
  | true, true =>
    match compareScaled (2 * whole + 1) grid (2 * x.m) x.q with
    | .gt => some lower
    | .lt => some upper
    | .eq => if whole % 2 = 0 then some lower else some upper
  | true, false => some lower
  | false, true => some upper
  | false, false => none

def Binary.exact (x : Binary) : Numeral :=
  ⟨(x.m * Nat.pow 5 (-x.q).toNat) <<< x.q.toNat, min x.q 0⟩

def Binary.shortest (x : Binary) : Numeral :=
  let scale := x.scale
  ((List.range 17).findSome? fun n => x.onGrid (scale - (n + 1 : Nat))).getD x.exact

end EventSourcing.Decimal
