import PurchaseStatus.Check.Basic
import PurchaseStatus.Check.Input
import PurchaseStatus.Schema
import PurchaseStatus.Text.Offset
import PurchaseStatus.Text.Search

namespace PurchaseStatus

variable {n : Nat}

/-- The first six bytes of a period, as a number. -/
def periodStart? (period : String) : Option Int :=
  (Text.takeBytes? 6 period).bind Decimal.integer?

/-- What stands behind the separator of a period, without blanks, as a number. -/
def periodEnd? (period : String) : Option Int :=
  (Text.dropBytes? 7 period).bind fun text => Decimal.integer? (Text.trim text)

/-- A month with the two ends of a period. -/
structure MonthInPeriod where
  month : Int
  first : Int
  last : Int
  deriving DecidableEq

/-- The three numbers, if all of them can be read. -/
def monthInPeriod? (month : Option Int) (period : Option String) : Option MonthInPeriod := do
  let month ← month
  let period ← period
  return ⟨month, ← periodStart? period, ← periodEnd? period⟩

/-- Equal as numbers where both quantities are numbers, and otherwise as trimmed texts. -/
def sameQuantity (numbers : Option Float × Option Float) (texts : Option String × Option String) :
    Bool :=
  match numbers with
  | (some a, some b) => a == b
  | _ =>
    match texts with
    | (some a, some b) => Text.trim a == Text.trim b
    | _ => false

/-- What is left of an amount, where both amounts are numbers. -/
def difference? (amount billed : Option Float) : Option Float := do return (← amount) - (← billed)

namespace CheckInput

variable (input : CheckInput n)

/-- The rows whose month satisfies the comparison with the processing date. -/
def monthAgainstDate? (compare : Int → Int → Bool) : Option (Mask n) := do
  let date ← input.date
  let months ← input.batch.integers? Schema.expectedMonth
  return months.rowsWhere false (compare · date)

def periods? : Option (Texts n) := input.batch.text? Schema.descriptionPeriod

/-- The rows whose period satisfies the predicate. -/
def periodsWhere? (p : String → Bool) : Option (Mask n) :=
  input.periods?.map (·.rowsWhere false p)

def monthsInPeriods? : Option (Series (Option MonthInPeriod) n) := do
  let months ← input.batch.integers? Schema.expectedMonth
  let periods ← input.periods?
  return months.zipWith monthInPeriod? periods

def unbilled? : Option (Numbers n) := do
  let amounts ← input.batch.numbers? Schema.entryAmount
  let billed ← input.batch.numbers? Schema.entryBilledAmount
  return amounts.zipWith difference? billed

end CheckInput

namespace Builtin

variable (input : CheckInput n)

def noStatusMask : Mask n := (input.batch.textOrNulls input.statusColumn).unset

def ermInRangeMask? : Option (Mask n) :=
  input.monthsInPeriods?.map (·.rowsWhere false fun m => m.first ≤ m.month && m.month ≤ m.last)

/-- The period that stands for a format error is in no range. -/
def outOfRangeMask? : Option (Mask n) := do
  let months ← input.monthsInPeriods?
  let periods ← input.periods?
  return (months.rowsWhere false fun m => m.month < m.first || m.last < m.month).andNot
    (periods.rowsWhere false (· == Schema.formatErrorPeriod))

def qtyMatchedMask? : Option (Mask n) := do
  let entryTexts ← input.batch.text? Schema.entryQuantity
  let receivedTexts ← input.batch.text? Schema.receivedQuantity
  let entries ← input.batch.numbers? Schema.entryQuantity
  let received ← input.batch.numbers? Schema.receivedQuantity
  return (entries.zipWith Prod.mk received).zipWith sameQuantity (entryTexts.zipWith Prod.mk receivedTexts)

def notBilledMask? : Option (Mask n) :=
  (input.batch.numbers? Schema.entryBilledAmount).map (·.rowsWhere false (· == 0))

def hasBillingMask? : Option (Mask n) :=
  (input.batch.numbers? Schema.billedQuantity).map (·.rowsWhere true (· != 0))

def mentionsCompletion (remark : String) : Bool :=
  Text.contains remark "已完成" || Text.contains (Text.asciiLower remark) "rent"

def mentionsBooking (remark : String) : Bool :=
  Text.contains remark "已完成" || Text.contains remark "已入帳"

def remarkCompletedMask : Mask n :=
  ((input.batch.textOrNulls Schema.procurementRemark).rowsWhere false mentionsCompletion).or
    ((input.batch.textOrNulls Schema.financeRemark).rowsWhere false mentionsBooking)

/-- Without the column every row counts as not incomplete. -/
def prNotIncompleteMask : Mask n :=
  match input.batch.text? Schema.financeRequestRemark with
  | some remarks => remarks.rowsWhere true fun remark => !Text.contains remark "未完成"
  | none => .constant n true

/-- Without the column no row is in error. -/
def notErrorMask : Mask n :=
  match input.batch.text? Schema.procurementRemark with
  | some remarks => remarks.rowsWhere true (· != "error")
  | none => .constant n true

/-- Without an entity the fixed-asset accounts of `spx` count. -/
def fixedAssetPath (entity : Option String) : String :=
  "fa_accounts." ++ Text.asciiLower (entity.getD "spx")

def isFaMask? : Option (Mask n) := do
  let accounts ← input.config.resolveList? (fixedAssetPath input.entity)
  let ledger ← input.batch.text? Schema.glAccount
  return ledger.rowsWhere false accounts.contains

/-- The check's own logic. The two derived checks negate what their base check gives, a mask
registered for it included. -/
def compute? : Builtin → Option (Mask n)
  | noStatus => some (noStatusMask input)
  | ermLeDate => input.monthAgainstDate? fun month date => month ≤ date
  | ermGtDate => input.monthAgainstDate? fun month date => date < month
  | ermInRange => ermInRangeMask? input
  | outOfRange => outOfRangeMask? input
  | descErmLeDate => input.date.bind fun date =>
      input.periodsWhere? fun period => (periodEnd? period).any (· ≤ date)
  | descErmGtDate => input.date.bind fun date =>
      input.periodsWhere? fun period => (periodStart? period).any (date < ·)
  | descErmNotError => input.periodsWhere? fun period => (periodStart? period).any (· != 100001)
  | formatError => input.periodsWhere? (· == Schema.formatErrorPeriod)
  | qtyMatched => qtyMatchedMask? input
  | qtyNotMatched => ((input.registered? qtyMatched.name).or (qtyMatchedMask? input)).map Mask.not
  | notBilled => notBilledMask? input
  | hasBilling => hasBillingMask? input
  | fullyBilled => input.unbilled?.map (·.rowsWhere false (· == 0))
  | hasUnpaid => input.unbilled?.map (·.rowsWhere false (· != 0))
  | remarkCompleted => some (remarkCompletedMask input)
  | prNotIncomplete => some (prNotIncompleteMask input)
  | notError => some (notErrorMask input)
  | isFa => isFaMask? input
  | notFa => ((input.registered? isFa.name).or (isFaMask? input)).map Mask.not

/-- The registered mask, or else the check's own logic. -/
def evaluate? (b : Builtin) : Option (Mask n) := (input.registered? b.name).or (b.compute? input)

end Builtin

namespace Check

variable (input : CheckInput n)

def negateIf (negate : Bool) (mask : Mask n) : Mask n := if negate then mask.not else mask

/-- The rows whose value equals the expected one, both read as the cast asks. -/
def equalsMask? (field : String) : Expected → Option (Mask n)
  | .int want => (input.batch.integers? field).map (·.rowsWhere false (· == want))
  | .float want => (input.batch.numbers? field).map (·.rowsWhere false (· == want))
  | .text want => (input.batch.text? field).map (·.rowsWhere false (· == want))

/-- The check's own logic; nothing where it cannot be evaluated. -/
def compute? : Check → Option (Mask n)
  | contains field pattern negate => do
    let column ← input.batch.text? (← field)
    let pattern ← pattern
    return negateIf negate (column.rowsWhere false pattern.isFoundIn)
  | equals field expected negate => do
    let mask ← equalsMask? input (← field) (← expected)
    return negateIf negate mask
  | inList field values negate => do
    let column ← input.batch.text? (← field)
    let values ← values
    return negateIf negate (column.rowsWhere false values.contains)
  | isNull field negate => do
    let column ← input.batch.text? (← field)
    return negateIf negate column.unset
  | builtin b => b.evaluate? input
  | prebuilt _ => none
  | always => some (.constant n true)

/-- The mask registered under the type name, or else the check's own logic. -/
def evaluate? (check : Check) : Option (Mask n) :=
  (input.registered? check.name).or (check.compute? input)

end Check

/-- Evaluates built-in checks once and gives the masks under their names. Checks that cannot be
evaluated are left out. -/
def precompute (input : CheckInput n) (builtins : List Builtin) : List (String × Mask n) :=
  builtins.filterMap fun b => (b.evaluate? input).map (b.name, ·)

end PurchaseStatus
