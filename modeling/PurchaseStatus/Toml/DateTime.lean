import PurchaseStatus.Calendar
import PurchaseStatus.Decimal.Reading

namespace PurchaseStatus.Toml

/-- So many digits, as a number, and what follows them. -/
def digits? (width : Nat) (cs : List Char) : Option (Nat × List Char) :=
  let read := cs.take width
  if read.length = width ∧ read.all Char.isDigit then some (Decimal.ofDigits read, cs.drop width)
  else none

def separator? (c : Char) : List Char → Option (List Char)
  | d :: cs => if c = d then some cs else none
  | [] => none

def daysInMonth (year month : Nat) : Nat :=
  if month = 2 then if year % 4 = 0 ∧ (year % 100 ≠ 0 ∨ year % 400 = 0) then 29 else 28
  else if month ∈ [4, 6, 9, 11] then 30
  else 31

/-- A day `YYYY-MM-DD` that exists. -/
def date? (cs : List Char) : Option (String × List Char) := do
  let (year, cs) ← digits? 4 cs
  let (month, cs) ← digits? 2 (← separator? '-' cs)
  let (day, cs) ← digits? 2 (← separator? '-' cs)
  if 1 ≤ month ∧ month ≤ 12 ∧ 1 ≤ day ∧ day ≤ daysInMonth year month then
    return (s!"{Calendar.padded 4 year}-{Calendar.padded 2 month}-{Calendar.padded 2 day}", cs)
  else none

/-- The digits of a fraction of a second; those behind the ninth and zeros at the end are
dropped. -/
def secondFraction? : List Char → Option (String × List Char)
  | '.' :: cs =>
    match Decimal.spanDigits cs with
    | ([], _) => none
    | (digits, rest) =>
      let kept := ((digits.take 9).reverse.dropWhile (· == '0')).reverse
      some (if kept.isEmpty then "" else String.ofList ('.' :: kept), rest)
  | cs => some ("", cs)

/-- A time `HH:MM:SS` with an optional fraction. The sixtieth second is for leap seconds. -/
def time? (cs : List Char) : Option (String × List Char) := do
  let (hour, cs) ← digits? 2 cs
  let (minute, cs) ← digits? 2 (← separator? ':' cs)
  let (second, cs) ← digits? 2 (← separator? ':' cs)
  let (fraction, cs) ← secondFraction? cs
  if hour ≤ 23 ∧ minute ≤ 59 ∧ second ≤ 60 then
    let pad := Calendar.padded 2
    return (s!"{pad hour}:{pad minute}:{pad second}{fraction}", cs)
  else none

/-- The distance from universal time; none at all is written as nothing. -/
def offset? (cs : List Char) : Option (String × List Char) :=
  match cs with
  | 'Z' :: rest | 'z' :: rest => some ("Z", rest)
  | sign :: rest =>
    if sign = '+' ∨ sign = '-' then do
      let (hour, rest) ← digits? 2 rest
      let (minute, rest) ← digits? 2 (← separator? ':' rest)
      if hour ≤ 23 ∧ minute ≤ 59 then
        let sign := if sign = '-' ∧ 0 < hour + minute then "-" else "+"
        return (s!"{sign}{Calendar.padded 2 hour}:{Calendar.padded 2 minute}", rest)
      else none
    else some ("", cs)
  | [] => some ("", [])

/-- A day, with a time of that day where one follows. -/
def dateTime? (cs : List Char) : Option (String × List Char) := do
  let (date, rest) ← date? cs
  match rest with
  | mark :: after =>
    if mark = 'T' ∨ mark = 't' ∨ mark = ' ' then
      match time? after with
      | some (time, after) =>
        let (offset, after) ← offset? after
        return (s!"{date}T{time}{offset}", after)
      | none => return (date, rest)
    else return (date, rest)
  | [] => return (date, rest)

/-- A day, a time, or both, as text. -/
def moment? (cs : List Char) : Option (String × List Char) := (dateTime? cs).or (time? cs)

end PurchaseStatus.Toml
