import PurchaseStatus.Decimal.Binary

namespace PurchaseStatus.Decimal

/-- A positive decimal number: `digits * 10 ^ exponent`. -/
structure Scientific where
  digits : Nat
  exponent : Int
  deriving DecidableEq, Repr

/-- The interval of the numbers that round to a binary number: both ends and the number itself
as multiples of one `scale`-th. The ends belong to it when the mantissa is even. -/
structure Rounding where
  low : Nat
  value : Nat
  high : Nat
  scale : Nat
  closed : Bool

/-- Half the way to each neighbour. Below a power of two the neighbours are twice as dense,
except at the least exponent. -/
def Rounding.ofFinite (mantissa : Nat) (exponent : Int) : Rounding :=
  let dense := mantissa = 0x10000000000000 ∧ -1074 < exponent
  let low := if dense then 4 * mantissa - 1 else 4 * mantissa - 2
  let up := Nat.pow 2 (exponent - 2).toNat
  { low := low * up
    value := 4 * mantissa * up
    high := (4 * mantissa + 2) * up
    scale := Nat.pow 2 (2 - exponent).toNat
    closed := mantissa % 2 = 0 }

/-- The number of digits before the point of `value / scale`; zero or less for a fraction whose
first digits are zeros. -/
def Rounding.magnitude (r : Rounding) : Int :=
  if r.scale ≤ r.value then (Nat.toDigits 10 (r.value / r.scale)).length
  else
    let zeros := (Nat.toDigits 10 (r.scale / r.value)).length - 1
    if r.scale ≤ r.value * Nat.pow 10 zeros then 1 - zeros else -zeros

/-- The point of the grid of the multiples of `10 ^ exponent` next to the value, if one lies in
the interval. Of two the nearer counts, and of two equally near ones the even one. -/
def Rounding.nearest? (r : Rounding) (exponent : Int) : Option Nat :=
  let up := Nat.pow 10 (-exponent).toNat
  let grid := Nat.pow 10 exponent.toNat * r.scale
  let below := r.value * up / grid
  let inside (d : Nat) : Bool :=
    if r.closed then r.low * up ≤ d * grid && d * grid ≤ r.high * up
    else r.low * up < d * grid && d * grid < r.high * up
  let rest := r.value * up % grid
  let takeBelow := 2 * rest < grid || (2 * rest == grid && below % 2 == 0)
  match inside below, inside (below + 1) with
  | false, false => none
  | true, false => some below
  | false, true => some (below + 1)
  | true, true => some (if takeBelow then below else below + 1)

/-- Moves trailing zeros of the digits into the exponent, at most `fuel` of them. -/
def Scientific.trim : Nat → Scientific → Scientific
  | 0, s => s
  | fuel + 1, s =>
    if s.digits % 10 = 0 ∧ s.digits ≠ 0 then
      Scientific.trim fuel ⟨s.digits / 10, s.exponent + 1⟩
    else s

/-- The fewest digits that read back as the number; of those the nearest. Seventeen always
do. -/
def shortest (mantissa : Nat) (exponent : Int) : Scientific :=
  let r := Rounding.ofFinite mantissa exponent
  let magnitude := r.magnitude
  let found := (List.range 17).findSome? fun (more : Nat) =>
    let grid := magnitude - ((more : Int) + 1)
    (r.nearest? grid).map fun digits => Scientific.mk digits grid
  (found.getD ⟨0, 0⟩).trim 20

end PurchaseStatus.Decimal
