import PurchaseStatus.Decimal.Shortest

namespace PurchaseStatus.Decimal

/-- How a float is written: what differs between one text form and another. -/
structure Style where
  /-- The exponents, of one digit before the point, that are written without `e`. -/
  leastPositional : Int
  mostPositional : Int
  /-- Whether a positive exponent carries its sign. -/
  plusSign : Bool
  nan : String
  infinity : String

/-- Digits with the point behind the first `before` of them; zeros fill both sides. -/
def positional (digits : List Char) (before : Int) : String :=
  if before ≤ 0 then
    "0." ++ String.ofList (List.replicate (-before).toNat '0' ++ digits)
  else
    let whole := digits.take before.toNat
    let fraction := digits.drop before.toNat
    String.ofList (whole ++ List.replicate (before.toNat - whole.length) '0') ++ "." ++
      (if fraction.isEmpty then "0" else String.ofList fraction)

/-- The digits in exponent form, with a point only between digits. -/
def exponential (style : Style) (digits : List Char) (exponent : Int) : String :=
  let sign := if 0 ≤ exponent ∧ style.plusSign then "+" else ""
  let mantissa := match digits with
    | [] => ""
    | [d] => String.ofList [d]
    | d :: rest => String.ofList (d :: '.' :: rest)
  mantissa ++ "e" ++ sign ++ toString exponent

/-- The shortest text that reads back, with at least one digit behind a point that is
written. -/
def Style.render (style : Style) (x : Float) : String :=
  match Binary.ofFloat x with
  | .nan => style.nan
  | .infinite negative => (if negative then "-" else "") ++ style.infinity
  | .finite negative mantissa exponent =>
    let sign := if negative then "-" else ""
    if mantissa = 0 then sign ++ "0.0" else
    let s := shortest mantissa exponent
    let digits := Nat.toDigits 10 s.digits
    let leading := s.exponent + digits.length - 1
    sign ++
      if style.leastPositional ≤ leading ∧ leading ≤ style.mostPositional then
        positional digits (leading + 1)
      else exponential style digits leading

/-- `num / den` to the nearest integer, a half going to the even one. -/
def roundHalfEven (num den : Nat) : Nat :=
  let below := num / den
  let rest := num % den
  if 2 * rest < den ∨ (2 * rest = den ∧ below % 2 = 0) then below else below + 1

/-- One place behind the point, rounded from the exact value. Used for numbers that are neither
negative nor infinite. -/
def onePlace (x : Float) : String :=
  match Binary.ofFloat x with
  | .finite _ mantissa exponent =>
    let tenths :=
      roundHalfEven (10 * mantissa * Nat.pow 2 exponent.toNat) (Nat.pow 2 (-exponent).toNat)
    s!"{tenths / 10}.{tenths % 10}"
  | .infinite _ => "inf"
  | .nan => "NaN"

end PurchaseStatus.Decimal
