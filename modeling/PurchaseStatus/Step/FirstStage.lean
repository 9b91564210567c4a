import PurchaseStatus.ClosingList
import PurchaseStatus.FinanceRemark
import PurchaseStatus.Step.Report

namespace PurchaseStatus

/-- First statuses: from the closing list, from last month's fixed-asset remarks, and from the
rules of a section. -/
structure FirstStage where
  engine : Engine

namespace FirstStage

def sectionPath : String := "status_stage1_rules"

def ofConfig (config : ConfigTree) : FirstStage := ⟨.ofSection config sectionPath⟩

def stepName : String := "StatusStage1"

/-- The auxiliary dataset with the closing list. -/
def closingListName : String := "closing_list"

/-- The closing list, if it has rows. -/
def closingList? (context : Context) : Option Dataset :=
  (context.auxiliary? closingListName).filter fun list => 0 < list.rows

/-- The batch on which the closing list is matched and the remarks are read. -/
def prepare (context : Context) : Batch context.data.rows :=
  FinanceRemark.normalizeColumns (context.data.batch.ensureText context.statusColumn)

/-- The date and entity of the run, and the two masks of the closing list. -/
def ruleContext {n : Nat} (context : Context) (batch : Batch n) (list : ClosingList) : RuleContext :=
  { date := some context.date
    entity := some context.entity
    masks := (Registry.register ∅ "in_to_be_closed_list"
      (ClosingList.rowsIn batch context.kind list.toBeClosed)).register "in_closed_list"
      (ClosingList.rowsIn batch context.kind list.closed) }

def result {n : Nat} (context : Context) (batch : Batch n) (remarks : Nat) (stats : RuleStats) :
    StepResult :=
  ((((StepResult.success stepName "Status stage 1 evaluated").withMetadata "status_counts"
    (.ofCounts (batch.statusCounts context.statusColumn))).withMetadata "fa_remarks"
    (.int remarks)).withMetadata "rule_hits" (.ofCounts stats)).withData ⟨n, batch⟩

/-- Labels the data with the help of a closing list. -/
def label (stage : FirstStage) (context : Context) (list : ClosingList) : Execution :=
  let prepared := prepare context
  let ruleContext := ruleContext context prepared list
  let (labelled, remarks) := FinanceRemark.labelPostings prepared context.statusColumn
  let run := stage.engine.applyRules labelled context.statusColumn ruleContext context.kind true
  { context := context.withData ⟨_, run.batch⟩
    ending := .returned (result context run.batch remarks run.stats)
    runs := [run.report] }

/-- Without a closing list the step is skipped. -/
def execute (stage : FirstStage) (context : Context) : Execution :=
  match closingList? context with
  | none =>
    ⟨context, .returned ((StepResult.skipped stepName "No closing list data").withData context.data), []⟩
  | some list =>
    match ClosingList.read list.batch context.kind with
    | .error failure => ⟨context, .failed failure, []⟩
    | .ok list => stage.label context list

def toStep (stage : FirstStage) : Step :=
  { name := stepName
    description := "Evaluate status stage 1"
    accepts := fun context =>
      0 < context.data.rows && (context.data.batch.missing [context.idColumn]).isEmpty
    execute := stage.execute }

end FirstStage

end PurchaseStatus
