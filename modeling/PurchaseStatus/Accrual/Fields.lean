import PurchaseStatus.Batch
import PurchaseStatus.Config.Tree
import PurchaseStatus.RecordKind
import PurchaseStatus.Schema
import PurchaseStatus.Step.Basic
import PurchaseStatus.Text.Search
import PurchaseStatus.Unicode.Property

namespace PurchaseStatus.Accrual

variable {n : Nat}

/-- The status of rows that are to be accrued. -/
def completed : String := "已完成"

/-- An order is accrued when its status mentions the completion, a request when its status is
just that. -/
def isAccrued : RecordKind → String → Bool
  | .order, status => Text.contains status completed
  | .request, status => status == completed

/-- The rows to be accrued. -/
def rows (batch : Batch n) (kind : RecordKind) : Mask n :=
  (batch.textOrNulls kind.statusColumn).rowsWhere false (isAccrued kind)

def flags (accrued : Mask n) : Texts n := accrued.map fun hit => some (if hit then "Y" else "N")

/-- The values of one reference column by those of another. Rows in which either is null do not
count; of two rows with one key the later does. -/
def lookup {m : Nat} (reference : Batch m) (key value : String) : Named String :=
  match reference.text? key, reference.text? value with
  | some keys, some values =>
    .ofList ((keys.zipWith (fun key value => return (← key, ← value)) values).toList.filterMap id)
  | _, _ => ∅

/-- Writes the values into the accrued rows of a text column. -/
def setText (accrued : Mask n) (batch : Batch n) (column : String) (values : Texts n) : Batch n :=
  batch.putText column ((batch.textOrNulls column).blend accrued values)

def region : String := "TW"

def noDepartment : String := "000"

/-- Accounts kept by department take the first three characters of the department. -/
def departmentOf (departmentAccounts : List String) (account department : Option String) :
    Option String :=
  if account.any departmentAccounts.contains then
    department.map fun name => String.ofList (name.toList.take 3)
  else some noDepartment

/-- The accounts of an entity that are kept by department. -/
def departmentAccounts (config : ConfigTree) (entity : String) : List String :=
  (config.resolveList? s!"{Text.asciiLower entity}.dept_accounts").getD []

def notNumeric (column : String) : Failure := ⟨s!"Column '{column}' is not numeric", []⟩

def number (batch : Batch n) (column : String) : Except Failure (Numbers n) :=
  match batch.numbers? column with
  | some numbers => .ok numbers
  | none => .error (notNumeric column)

/-- The price of the quantity that is not billed yet. -/
def unbilledPrice (price entry billed : Option Float) : Option Float := do
  return (← price) * ((← entry) - (← billed))

/-- Orders accrue the price of the unbilled quantity, requests the entry amount. -/
def amounts (batch : Batch n) : RecordKind → Except Failure (Numbers n)
  | .order => do
    let price ← number batch Schema.unitPrice
    let entry ← number batch Schema.entryQuantity
    let billed ← number batch Schema.billedQuantity
    return (price.zipWith Prod.mk entry).zipWith (fun (price, entry) billed => unbilledPrice price entry billed)
      billed
  | .request => number batch Schema.entryAmount

/-- The text fields of the accrued rows. -/
def setTextFields (accrued : Mask n) (batch : Batch n) (departmentAccounts : List String)
    (accountNames : Named String) : Batch n :=
  let accounts := batch.textOrNulls Schema.glAccount
  let departments := batch.textOrNulls Schema.department
  let batch := setText accrued batch Schema.accountCode accounts
  let batch := setText accrued batch Schema.accountName (accounts.map (·.bind accountNames.get?))
  let batch := setText accrued batch Schema.bookedProductCode (batch.textOrNulls Schema.productCode)
  let batch := setText accrued batch Schema.region (.constant n (some region))
  let batch := setText accrued batch Schema.bookedDepartment
    (accounts.zipWith (departmentOf departmentAccounts) departments)
  setText accrued batch Schema.bookedCurrency (batch.textOrNulls Schema.currency)

/-- The accounting fields of the accrued rows. -/
def setFields {m : Nat} (config : ConfigTree) (entity : String) (kind : RecordKind)
    (accounts : Batch m) (accrued : Mask n) (batch : Batch n) : Except Failure (Batch n) := do
  let names := lookup accounts Schema.referenceAccount Schema.referenceDescription
  let batch := setTextFields accrued batch (departmentAccounts config entity) names
  let amounts ← (amounts batch kind).mapError (·.within "Failed to derive accounting fields")
  return batch.put Schema.accrualAmount
    (.float64 ((batch.numbersOrNulls Schema.accrualAmount).blend accrued amounts))

def prepaidLiability : String := "111112"

/-- The accrued rows of which something is paid in advance. -/
def prepaidRows (accrued : Mask n) (batch : Batch n) : Mask n :=
  accrued.and ((batch.numbersOrNulls Schema.entryPrepayAmount).rowsWhere false (· != 0))

/-- Prepaid rows are booked on the prepayment liability, the other accrued rows on the one that
belongs to their account. -/
def setLiability {m : Nat} (liabilities : Batch m) (accrued : Mask n) (batch : Batch n) : Batch n :=
  let byAccount := lookup liabilities Schema.referenceAccount Schema.referenceLiability
  let prepaid := prepaidRows accrued batch
  let accounts := batch.textOrNulls Schema.accountCode
  let booked := (accounts.map (·.bind byAccount.get?)).fill prepaid prepaidLiability
  let flags := (batch.textOrNulls Schema.prepaidFlag).fill prepaid "Y"
  let liability := (batch.textOrNulls Schema.liability).blend accrued booked
  (batch.putText Schema.prepaidFlag flags).putText Schema.liability liability

/-- The word with which a text begins; nothing where it begins with something else. -/
def firstWord (text : String) : String := String.ofList (text.toList.takeWhile Unicode.isWord)

def productCodeVerdict (project code : Option String) : Option String :=
  code.map fun code => if (project.map firstWord).getD "" == code then "good" else "bad"

/-- Compares the first word of the project with the booked product code. -/
def checkProductCode (batch : Batch n) : Batch n :=
  match batch.text? Schema.project with
  | some projects =>
    batch.putText Schema.productCodeCheck
      (projects.zipWith productCodeVerdict (batch.textOrNulls Schema.bookedProductCode))
  | none => batch

end PurchaseStatus.Accrual
