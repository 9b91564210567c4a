namespace PurchaseStatus.Decimal

/-- A binary64 number taken apart. A finite one is `mantissa * 2 ^ exponent`. -/
inductive Binary where
  | nan
  | infinite (negative : Bool)
  | finite (negative : Bool) (mantissa : Nat) (exponent : Int)
  deriving DecidableEq

namespace Binary

/-- Reads sign, exponent and fraction off the bit pattern. Subnormal numbers share the exponent
of the least normal ones and lack the leading one. -/
def ofBits (bits : Nat) : Binary :=
  let negative : Bool := 0x8000000000000000 ≤ bits
  let biased : Nat := bits / 0x10000000000000 % 0x800
  let fraction : Nat := bits % 0x10000000000000
  if biased = 2047 then
    if fraction = 0 then .infinite negative else .nan
  else if biased = 0 then .finite negative fraction (-1074)
  else .finite negative (0x10000000000000 + fraction) ((biased : Int) - 1075)

def ofFloat (x : Float) : Binary := ofBits x.toBits.toNat

/-- The integer part, by cutting off the fraction. Numbers that are not finite have none. -/
def truncate? : Binary → Option Int
  | .nan | .infinite _ => none
  | .finite negative mantissa exponent =>
    let size : Nat :=
      if 0 ≤ exponent then mantissa * Nat.pow 2 exponent.toNat
      else mantissa / Nat.pow 2 (-exponent).toNat
    some (if negative then -(size : Int) else size)

end Binary

/-- The sixteen hexadecimal digits of the bit pattern; every NaN is written alike. -/
def hexText (x : Float) : String :=
  match Binary.ofFloat x with
  | .nan => "nan"
  | _ =>
    let digits := Nat.toDigits 16 x.toBits.toNat
    String.ofList (List.replicate (16 - digits.length) '0' ++ digits)

/-- A key whose order is the order of the numbers: the two zeros share one, and a NaN, which
compares with nothing, has none. -/
def orderKey? (x : Float) : Option Int :=
  let bits := x.toBits.toNat
  let size : Nat := bits % 0x8000000000000000
  if 0x7FF0000000000000 < size then none
  else some (if 0x8000000000000000 ≤ bits then -(size : Int) else size)

/-- `x ≤ y` as numbers. -/
def leNumber (x y : Float) : Bool :=
  match orderKey? x, orderKey? y with
  | some a, some b => a ≤ b
  | _, _ => false

theorem leNumber_trans {x y z : Float} (hxy : leNumber x y = true) (hyz : leNumber y z = true) :
    leNumber x z = true := by
  unfold leNumber at *
  split at hxy <;> split at hyz <;> simp_all
  omega

end PurchaseStatus.Decimal
