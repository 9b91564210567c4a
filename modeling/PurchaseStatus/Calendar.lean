namespace PurchaseStatus.Calendar

structure Date where
  year : Int
  month : Nat
  day : Nat
  deriving DecidableEq, Repr

/-- The date of a day number, counted from 1970-01-01. Years are counted from March, so that the
leap day ends one; 400 of them make an era of 146097 days. -/
def ofDayNumber (dayNumber : Int) : Date :=
  let fromMarch := dayNumber + 719468
  let era := fromMarch.fdiv 146097
  let dayOfEra := (fromMarch.fmod 146097).toNat
  let yearOfEra := (dayOfEra - dayOfEra / 1460 + dayOfEra / 36524 - dayOfEra / 146096) / 365
  let dayOfYear := dayOfEra - (365 * yearOfEra + yearOfEra / 4 - yearOfEra / 100)
  let month := (5 * dayOfYear + 2) / 153
  let day := dayOfYear - (153 * month + 2) / 5 + 1
  let january := 10 ≤ month
  { year := yearOfEra + 400 * era + (if january then 1 else 0)
    month := if january then month - 9 else month + 3
    day := day }

/-- The digits of a number, with zeros in front up to the given width. -/
def padded (width n : Nat) : String :=
  let digits := Nat.toDigits 10 n
  String.ofList (List.replicate (width - digits.length) '0' ++ digits)

/-- Years of four digits stand alone, all others carry a sign. -/
def yearText (year : Int) : String :=
  if 0 ≤ year ∧ year ≤ 9999 then padded 4 year.toNat
  else (if year < 0 then "-" else "+") ++ padded 4 year.natAbs

def Date.text (date : Date) : String :=
  yearText date.year ++ "-" ++ padded 2 date.month ++ "-" ++ padded 2 date.day

/-- The years that the calendar covers. -/
def Date.IsCovered (date : Date) : Prop := -262143 ≤ date.year ∧ date.year ≤ 262142

instance (date : Date) : Decidable date.IsCovered := inferInstanceAs (Decidable (_ ∧ _))

/-- The text of a day, `YYYY-MM-DD`; nothing outside the calendar. -/
def dayText? (dayNumber : Int) : Option String :=
  let date := ofDayNumber dayNumber
  if date.IsCovered then some date.text else none

end PurchaseStatus.Calendar
