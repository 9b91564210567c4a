import PurchaseStatus.Batch
import PurchaseStatus.Decimal.Reading
import PurchaseStatus.Json.Basic
import PurchaseStatus.RecordKind
import PurchaseStatus.Step.Status
import PurchaseStatus.Text.Space

namespace PurchaseStatus

/-- What the steps of a processing run share. Entity, date and kind are fixed; the variables
start out with their values and may be set to others. -/
structure Context where
  entity : String
  /-- The processing month, `YYYYMM`. -/
  date : Int
  kind : RecordKind
  data : Dataset
  auxiliary : Named Dataset
  /-- The values of the variables. -/
  values : Named Json
  errors : List String
  warnings : List String
  /-- Each step that ran, with its status. -/
  history : List (String × StepStatus)

structure ContextSummary where
  entity : String
  date : Int
  kind : RecordKind
  rows : Nat
  columns : Nat
  auxiliary : List String
  variableNames : List String
  errors : Nat
  warnings : Nat
  stepsRun : Nat

namespace Context

def start (data : Dataset) (entity : String) (date : Int) (kind : RecordKind) : Context :=
  { entity, date, kind, data
    auxiliary := ∅
    values := .ofList [
      ("processing_date", .int date), ("entity_type", .string entity),
      ("processing_type", .string kind.code)]
    errors := []
    warnings := []
    history := [] }

variable (context : Context)

def statusColumn : String := context.kind.statusColumn

def idColumn : String := context.kind.idColumn

def withData (data : Dataset) : Context := { context with data }

def addAuxiliary (name : String) (data : Dataset) : Context :=
  { context with auxiliary := context.auxiliary.put name data }

def auxiliary? (name : String) : Option Dataset := context.auxiliary.get? name

def auxiliaryNames : List String := sortTexts context.auxiliary.names

def setVariable (name : String) (value : Json) : Context :=
  { context with values := context.values.put name value }

def valueOf? (name : String) : Option Json := context.values.get? name

/-- A variable as an integer; the text of one counts, a float does not. -/
def intVariable? (name : String) : Option Int :=
  match context.valueOf? name with
  | some (.int value) => if Decimal.IsInt64 value then some value else none
  | some (.string text) => Decimal.integer? (Text.trim text)
  | _ => none

def addError (message : String) : Context := { context with errors := context.errors ++ [message] }

def addWarning (message : String) : Context :=
  { context with warnings := context.warnings ++ [message] }

def hasErrors : Bool := !context.errors.isEmpty

def recordStep (step : String) (status : StepStatus) : Context :=
  { context with history := context.history ++ [(step, status)] }

def summary : ContextSummary :=
  { entity := context.entity
    date := context.date
    kind := context.kind
    rows := context.data.rows
    columns := context.data.columnCount
    auxiliary := context.auxiliaryNames
    variableNames := sortTexts context.values.names
    errors := context.errors.length
    warnings := context.warnings.length
    stepsRun := context.history.length }

end Context

end PurchaseStatus
