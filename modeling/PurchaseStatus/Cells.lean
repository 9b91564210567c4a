import PurchaseStatus.Series
import PurchaseStatus.Calendar
import PurchaseStatus.Decimal.Style
import PurchaseStatus.Decimal.Reading

namespace PurchaseStatus

/-- A text or null in each row. -/
abbrev Texts (n : Nat) := Series (Option String) n

/-- A float or null in each row. -/
abbrev Numbers (n : Nat) := Series (Option Float) n

/-- An integer or null in each row. -/
abbrev Integers (n : Nat) := Series (Option Int) n

/-- The values of a column, of one type. Dates are day numbers from 1970-01-01. -/
inductive Cells (n : Nat) where
  | text (values : Texts n)
  | int64 (values : Integers n)
  | int32 (values : Integers n)
  | float64 (values : Numbers n)
  | boolean (values : Series (Option Bool) n)
  | date32 (values : Integers n)
  | null
  deriving DecidableEq

namespace Series

variable {α : Type u} {β : Type v} {n : Nat}

/-- Reads every value that is not null; nothing if one of them cannot be read. -/
def readAll? (f : α → Option β) (s : Series (Option α) n) : Option (Series (Option β) n) :=
  if ∀ a ∈ s.toList.filterMap id, (f a).isSome then some (s.map (·.bind f)) else none

end Series

namespace Cells

variable {n : Nat}

/-- Floats in cells are written without a sign on a positive exponent. -/
def numberStyle : Decimal.Style := ⟨-5, 15, false, "NaN", "inf"⟩

def boolText (value : Bool) : String := if value then "true" else "false"

/-- The column as text; nothing for dates outside the calendar. -/
def text? : Cells n → Option (Texts n)
  | .text values => some values
  | .int64 values | .int32 values => some (values.map (·.map toString))
  | .float64 values => some (values.map (·.map numberStyle.render))
  | .boolean values => some (values.map (·.map boolText))
  | .date32 values => values.readAll? Calendar.dayText?
  | .null => some (.constant n none)

/-- The column as floats, null where a value cannot be read; nothing for dates. -/
def numbers? : Cells n → Option (Numbers n)
  | .text values => some (values.map (·.bind Decimal.float?))
  | .int64 values | .int32 values => some (values.map (·.map Float.ofInt))
  | .float64 values => some values
  | .boolean values => some (values.map (·.map fun value => if value then 1 else 0))
  | .date32 _ => none
  | .null => some (.constant n none)

/-- The integer part of a float that has one of sixty-four bits. -/
def wholePart? (x : Float) : Option Int :=
  (Decimal.Binary.ofFloat x).truncate?.filter fun i => Decimal.IsInt64 i

/-- The column as integers, null where a value cannot be read. -/
def integers : Cells n → Integers n
  | .text values => values.map (·.bind Decimal.integer?)
  | .int64 values | .int32 values | .date32 values => values
  | .float64 values => values.map (·.bind wholePart?)
  | .boolean values => values.map (·.map fun value => if value then 1 else 0)
  | .null => .constant n none

/-- One column under the other, if they are of one type. -/
def append? {m : Nat} : Cells n → Cells m → Option (Cells (n + m))
  | .text a, .text b => some (.text (a ++ b))
  | .int64 a, .int64 b => some (.int64 (a ++ b))
  | .int32 a, .int32 b => some (.int32 (a ++ b))
  | .float64 a, .float64 b => some (.float64 (a ++ b))
  | .boolean a, .boolean b => some (.boolean (a ++ b))
  | .date32 a, .date32 b => some (.date32 (a ++ b))
  | .null, .null => some .null
  | _, _ => none

/-- A column of the same type without values. -/
def withoutRows : Cells n → Cells 0
  | .text _ => .text ⟨[], rfl⟩
  | .int64 _ => .int64 ⟨[], rfl⟩
  | .int32 _ => .int32 ⟨[], rfl⟩
  | .float64 _ => .float64 ⟨[], rfl⟩
  | .boolean _ => .boolean ⟨[], rfl⟩
  | .date32 _ => .date32 ⟨[], rfl⟩
  | .null => .null

end Cells

end PurchaseStatus
