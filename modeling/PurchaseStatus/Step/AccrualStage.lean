import PurchaseStatus.Accrual.Fields
import PurchaseStatus.Step.Report

namespace PurchaseStatus

/-- The statuses that depend on the expected month, and from them the accounting fields of the rows
that are to be accrued. -/
structure AccrualStage where
  config : ConfigTree
  engine : Engine

namespace AccrualStage

def sectionPath : String := "erm_status_rules"

def ofConfig (config : ConfigTree) : AccrualStage := ⟨config, .ofSection config sectionPath⟩

def stepName : String := "ErmLogic"

/-- The auxiliary datasets with the names of the accounts and with their liabilities. -/
def accountsName : String := "reference_account"
def liabilitiesName : String := "reference_liability"

def dateVariable : String := "processing_date"

def requiredColumns (kind : RecordKind) : List String :=
  [ Schema.glAccount, Schema.expectedMonth, Schema.descriptionPeriod, Schema.entryQuantity,
    Schema.receivedQuantity, Schema.billedQuantity, Schema.entryAmount, Schema.entryBilledAmount,
    Schema.itemDescription, Schema.procurementRemark, Schema.financeRemark, Schema.currency,
    Schema.productCode ] ++
  match kind with
  | .order => [Schema.unitPrice]
  | .request => []

/-- The built-in checks that are evaluated once and shared by all rules. -/
def precomputed : List Builtin := [
  .noStatus, .ermLeDate, .ermGtDate, .ermInRange, .outOfRange, .formatError, .qtyMatched, .notBilled,
  .hasBilling, .fullyBilled, .hasUnpaid, .remarkCompleted, .prNotIncomplete, .notError, .isFa]

def formatErrorStatus : String := "格式錯誤，退單"
def otherStatus : String := "其他"

/-- Rows whose period could not be read are refused; other requests without a status get a
common one. -/
def fallbacks (kind : RecordKind) : List Fallback :=
  ⟨formatErrorStatus, "description period could not be parsed", some (.builtin .formatError)⟩ ::
  match kind with
  | .order => []
  | .request => [⟨otherStatus, "no rule matched", none⟩]

/-- A batch labelled by the rules and then by the fallbacks. -/
structure Labelled (n : Nat) where
  batch : Batch n
  stats : RuleStats
  runs : List RunReport

variable {n : Nat} (stage : AccrualStage)

def ruleContext (batch : Batch n) (kind : RecordKind) (date : Int) (entity : String) : RuleContext :=
  let input : CheckInput n :=
    { batch, statusColumn := kind.statusColumn, date := some date, entity := some entity,
      config := stage.config, masks := ∅ }
  { date := some date
    entity := some entity
    masks := (precompute input precomputed).foldl
      (fun masks (name, mask) => masks.register name mask) ∅ }

def label (batch : Batch n) (kind : RecordKind) (date : Int) (entity : String) : Labelled n :=
  let context := stage.ruleContext batch kind date entity
  let ruled := stage.engine.applyRules batch kind.statusColumn context kind true
  let final := stage.engine.applyFallbacks ruled.batch kind.statusColumn ruled.context kind (fallbacks kind)
  { batch := final.batch
    stats := Named.merge ruled.stats final.stats.entries
    runs := [ruled.report, final.report] }

def missingDataset (name : String) : Failure := ⟨s!"{name} dataset is missing", []⟩

def dataset (context : Context) (name : String) : Except Failure Dataset :=
  match context.auxiliary? name with
  | some data => .ok data
  | none => .error (missingDataset name)

/-- The batch with the date of the run and a status column. -/
def prepare (context : Context) (date : Int) : Batch context.data.rows :=
  (context.data.batch.put Schema.fileDate (.int64 (.constant _ (some date)))).ensureText
    context.statusColumn

/-- The labelled batch with the derived fields. Liabilities and the check of the product code are
for orders only. -/
def derive (context : Context) (batch : Batch n) : Except Failure (Batch n) := do
  let accrued := Accrual.rows batch context.kind
  let batch := batch.putText Schema.accrualFlag (Accrual.flags accrued)
  let accounts ← dataset context accountsName
  let batch ← Accrual.setFields stage.config context.entity context.kind accounts.batch accrued batch
  match context.kind with
  | .request => return batch
  | .order =>
    let liabilities ← dataset context liabilitiesName
    return Accrual.checkProductCode (Accrual.setLiability liabilities.batch accrued batch)

/-- The result of a labelled batch and of what was derived from it. -/
def result (context : Context) (labelled : Labelled n) (batch : Batch n) : StepResult :=
  let accrued := (Accrual.rows labelled.batch context.kind).count
  (((((StepResult.success stepName s!"ERM logic applied, {accrued} rows need accrual").withMetadata
    "total_count" (.int n)).withMetadata "accrual_count" (.int accrued)).withMetadata
    "status_distribution" (.ofCounts (batch.statusCounts context.statusColumn))).withMetadata
    "rule_hits" (.ofCounts labelled.stats)).withData ⟨n, batch⟩

def noDate : Failure := ⟨s!"{dateVariable} variable is missing or not an integer", []⟩

def execute (context : Context) : Execution :=
  match context.intVariable? dateVariable with
  | none => ⟨context, .failed noDate, []⟩
  | some date =>
    let labelled := stage.label (prepare context date) context.kind date context.entity
    match stage.derive context labelled.batch with
    | .error failure => ⟨context, .failed failure, labelled.runs⟩
    | .ok batch =>
      ⟨context.withData ⟨_, batch⟩, .returned (result context labelled batch), labelled.runs⟩

/-- Whether the data, the reference datasets and the date are there. -/
def accepts (context : Context) : Bool :=
  0 < context.data.rows &&
  (context.data.batch.missing (requiredColumns context.kind)).isEmpty &&
  (context.auxiliary? accountsName).isSome &&
  (context.kind != .order || (context.auxiliary? liabilitiesName).isSome) &&
  (context.intVariable? dateVariable).isSome

def toStep : Step :=
  { name := stepName
    description := "Apply ERM status rules and derive accrual fields"
    accepts := accepts
    execute := stage.execute }

end AccrualStage

end PurchaseStatus
