import PurchaseStatus.Decimal.Reading
import PurchaseStatus.Json.Reader

namespace PurchaseStatus.Toml

/-- Digits with single underscores between them: the digits and what follows. An underscore that
no digit follows is refused. -/
def digitRun? (isDigit : Char → Bool) : List Char → Option (List Char × List Char)
  | [] => none
  | c :: '_' :: cs =>
    if isDigit c then (digitRun? isDigit cs).map fun (digits, rest) => (c :: digits, rest) else none
  | c :: cs =>
    if !isDigit c then none
    else if cs.head?.any isDigit then
      (digitRun? isDigit cs).map fun (digits, rest) => (c :: digits, rest)
    else some ([c], cs)

/-- Digits that begin with zero only where zero is the whole. -/
def wholeDigits? : List Char → Option (List Char × List Char)
  | '0' :: cs => some (['0'], cs)
  | cs => digitRun? Char.isDigit cs

def exponent? : List Char → Option (Int × List Char)
  | c :: cs =>
    if c = 'e' ∨ c = 'E' then
      let (negative, rest) := Decimal.splitSign cs
      (digitRun? Char.isDigit rest).map fun (digits, rest) =>
        (if negative then -(Decimal.ofDigits digits : Int) else Decimal.ofDigits digits, rest)
    else some (0, c :: cs)
  | [] => some (0, [])

def fraction? : List Char → Option (List Char × List Char)
  | '.' :: cs => digitRun? Char.isDigit cs
  | cs => some ([], cs)

/-- A number in another base, as its digit values. -/
def based? (base : Nat) (cs : List Char) : Option (Json × List Char) := do
  let isDigit c := (Json.hexDigit? c).any (· < base)
  let (digits, rest) ← digitRun? isDigit cs
  let value := (digits.filterMap Json.hexDigit?).foldl (fun n digit => base * n + digit) 0
  if value < 0x8000000000000000 then return (.int value, rest) else none

/-- A decimal number behind its sign. With a fraction or an exponent it is a float, which may only
be infinite below zero; without, an integer of sixty-four bits. -/
def decimal? (negative : Bool) (cs : List Char) : Option (Json × List Char) := do
  let (whole, rest) ← wholeDigits? cs
  let isFloat := rest.head?.any fun c => c == '.' || c == 'e' || c == 'E'
  if isFloat then
    let (fraction, rest) ← fraction? rest
    let (exponent, rest) ← exponent? rest
    let size := Decimal.scale (Decimal.ofDigits (whole ++ fraction)) (exponent - fraction.length)
    if size.isInf && !negative then none
    return (.float (if negative then -size else size), rest)
  let value : Int := if negative then -(Decimal.ofDigits whole : Int) else Decimal.ofDigits whole
  if Decimal.IsInt64 value then return (.int value, rest) else none

/-- An integer or a float, infinity and `nan` included. -/
def number? (cs : List Char) : Option (Json × List Char) :=
  match cs with
  | '0' :: 'x' :: cs => based? 16 cs
  | '0' :: 'o' :: cs => based? 8 cs
  | '0' :: 'b' :: cs => based? 2 cs
  | _ =>
    let (negative, unsigned) := Decimal.splitSign cs
    match unsigned with
    | 'i' :: 'n' :: 'f' :: rest =>
      let size := Float.ofBits 0x7FF0000000000000
      some (.float (if negative then -size else size), rest)
    | 'n' :: 'a' :: 'n' :: rest => some (.float (Float.ofBits 0x7FF8000000000000), rest)
    | _ => decimal? negative unsigned

end PurchaseStatus.Toml
