namespace PurchaseStatus.Decimal

def int64Min : Int := -0x8000000000000000

def int64Max : Int := 0x7FFFFFFFFFFFFFFF

/-- The integers of sixty-four bits. -/
def IsInt64 (i : Int) : Prop := int64Min ≤ i ∧ i ≤ int64Max

instance (i : Int) : Decidable (IsInt64 i) := inferInstanceAs (Decidable (_ ∧ _))

/-- The value of a run of decimal digits. -/
def ofDigits (cs : List Char) : Nat := Nat.ofDigitChars 10 cs 0

/-- A leading sign, as whether it is a minus, and what follows it. -/
def splitSign : List Char → Bool × List Char
  | '-' :: cs => (true, cs)
  | '+' :: cs => (false, cs)
  | cs => (false, cs)

/-- An optional sign and at least one digit, nothing else, whatever the size. -/
def wholeNumber? (cs : List Char) : Option Int :=
  let (negative, digits) := splitSign cs
  if digits.isEmpty || !digits.all Char.isDigit then none
  else some (if negative then -(ofDigits digits : Int) else ofDigits digits)

/-- Reads an integer of sixty-four bits. -/
def integer? (s : String) : Option Int :=
  (wholeNumber? s.toList).filter fun i => IsInt64 i

/-- `digits * 10 ^ exponent`, correctly rounded. Beyond the range of the format the digits do
not matter. -/
def scale (digits : Nat) (exponent : Int) : Float :=
  let size : Int := (Nat.toDigits 10 digits).length + exponent
  if digits = 0 ∨ size < -400 then 0
  else if 400 < size then Float.ofBits 0x7FF0000000000000
  else Float.ofScientific digits (exponent < 0) exponent.natAbs

/-- The digits at the start and what follows them. -/
def spanDigits (cs : List Char) : List Char × List Char := cs.span Char.isDigit

/-- An exponent mark with its number. Without digits behind the mark there is none. -/
def exponent? : List Char → Option (Int × List Char)
  | [] => some (0, [])
  | c :: cs =>
    if c = 'e' ∨ c = 'E' then
      let (negative, rest) := splitSign cs
      match spanDigits rest with
      | ([], _) => none
      | (digits, rest) =>
        some (if negative then -(ofDigits digits : Int) else ofDigits digits, rest)
    else some (0, c :: cs)

/-- Digits with an optional point among or around them, at least one digit, and an optional
exponent. -/
def unsignedFloat? (cs : List Char) : Option Float :=
  let (whole, rest) := spanDigits cs
  let (fraction, rest) := match rest with
    | '.' :: rest => spanDigits rest
    | rest => ([], rest)
  if whole.isEmpty && fraction.isEmpty then none else
  match exponent? rest with
  | some (exponent, []) =>
    some (scale (ofDigits (whole ++ fraction)) (exponent - fraction.length))
  | _ => none

def isNamed (cs : List Char) (name : String) : Bool := cs.map Char.toLower == name.toList

/-- Reads a decimal number, `inf`, `infinity` or `nan` in any case, with an optional sign. -/
def float? (s : String) : Option Float :=
  let (negative, cs) := splitSign s.toList
  let size : Option Float :=
    if isNamed cs "nan" then some (Float.ofBits 0x7FF8000000000000)
    else if isNamed cs "inf" || isNamed cs "infinity" then some (Float.ofBits 0x7FF0000000000000)
    else unsignedFloat? cs
  size.map fun x => if negative then -x else x

end PurchaseStatus.Decimal
