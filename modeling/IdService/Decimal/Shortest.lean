/-!
# Shortest decimals

The fewest digits that read back as a given binary fraction. A binary fraction stands for an
interval of numbers, those that round to it; of the decimal grids, from the coarsest to the finest,
the first that has a point in the interval gives the digits. Everything is exact arithmetic on
natural numbers.
-/

namespace IdService.Decimal

/-- The positive number `m * 2^q`. Just above a power of two the numbers below lie twice as dense
as those above: `narrow` says so. -/
structure Binary where
  m : Nat
  q : Int
  narrow : Bool
deriving Repr, DecidableEq

/-- The number with the given bits, its sign left out. -/
def Binary.ofBits (bits : UInt64) : Binary :=
  let exponent := ((bits >>> 52) &&& 0x7FF).toNat
  let fraction := (bits &&& 0xFFFFFFFFFFFFF).toNat
  if exponent = 0 then ⟨fraction, -1074, false⟩
  else ⟨4503599627370496 + fraction, (exponent : Int) - 1075, fraction == 0 && exponent != 1⟩

/-- Whether the bits are those of a negative number. -/
def isNegative (bits : UInt64) : Bool := bits >>> 63 == 1

/-- The number `digits * 10^exponent`. -/
structure Scaled where
  digits : Nat
  exponent : Int
deriving Repr, DecidableEq

/-- A quarter of the last binary place of `x`, `n` times, counted in steps of `10^k`: the
numerator and the denominator of the quotient. -/
def Binary.inSteps (x : Binary) (k : Int) (n : Nat) : Nat × Nat :=
  (n * Nat.pow 2 (x.q - 2).toNat * Nat.pow 10 (-k).toNat,
    Nat.pow 2 (2 - x.q).toNat * Nat.pow 10 k.toNat)

/-- Whether `c * 10^k` rounds to `x`: it lies between the midpoints to the two neighbours of `x`,
which themselves round to `x` if its last bit is zero. -/
def Binary.readsBack (x : Binary) (k : Int) (c : Nat) : Bool :=
  let low := x.inSteps k (4 * x.m - if x.narrow then 1 else 2)
  let high := x.inSteps k (4 * x.m + 2)
  if x.m % 2 = 0 then low.1 ≤ c * low.2 && c * high.2 ≤ high.1
  else low.1 < c * low.2 && c * high.2 < high.1

/-- The point of the grid of `10^k` that rounds to `x` and is nearest to it, an even one if two are
equally near. -/
def Binary.onGrid? (x : Binary) (k : Int) : Option Nat :=
  let value := x.inSteps k (4 * x.m)
  let below := value.1 / value.2
  match x.readsBack k below, x.readsBack k (below + 1) with
  | true, true =>
    match compare (2 * value.1) ((2 * below + 1) * value.2) with
    | .lt => some below
    | .gt => some (below + 1)
    | .eq => some (if below % 2 = 0 then below else below + 1)
  | true, false => some below
  | false, true => some (below + 1)
  | false, false => none

/-- Looks for a point on `steps` grids, from that of `10^k` down. -/
def Binary.search (x : Binary) : Nat → Int → Scaled
  | 0, k => ⟨0, k⟩
  | steps + 1, k =>
    match x.onGrid? k with
    | some c => ⟨c, k⟩
    | none => x.search steps (k - 1)

/-- The decimal of the fewest digits that rounds to `x`. The largest number lies below `10^309`,
and the smallest has a digit at `10^(-324)`. -/
def Binary.shortest (x : Binary) : Scaled := x.search 640 309

end IdService.Decimal
