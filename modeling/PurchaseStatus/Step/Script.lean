import PurchaseStatus.Step.Basic

namespace PurchaseStatus

/-- A change to the context. -/
inductive ContextAction where
  /-- Puts a text column with one value in every row. -/
  | putText (column value : String)
  | setVariable (name : String) (value : Json)
  | addError (message : String)
  | addWarning (message : String)
  /-- Keeps the columns of the data and drops the rows. -/
  | dropData
  | addAuxiliary (name : String) (data : Dataset)

namespace ContextAction

def apply (context : Context) : ContextAction → Context
  | putText column value =>
    context.withData
      ⟨context.data.rows, context.data.batch.putText column (.constant _ (some value))⟩
  | setVariable name value => context.setVariable name value
  | addError message => context.addError message
  | addWarning message => context.addWarning message
  | dropData => context.withData context.data.dropRows
  | addAuxiliary name data => context.addAuxiliary name data

def applyAll (actions : List ContextAction) (context : Context) : Context :=
  actions.foldl apply context

end ContextAction

/-- When a scripted step accepts its input. -/
inductive ScriptCondition where
  | constant (value : Bool)
  | hasColumn (name : String)
  deriving DecidableEq, Repr

def ScriptCondition.holds (context : Context) : ScriptCondition → Bool
  | constant value => value
  | hasColumn name => context.data.batch.hasColumn name

/-- How a scripted step ends after its actions. -/
inductive ScriptEnding where
  | success
  | skip
  | fail (failure : Failure)
  | panic (text : Option String)

/-- A step that is given by its actions, its ending and the actions of its rollback. -/
structure Script where
  name : String
  required : Bool := true
  condition : ScriptCondition := .constant true
  actions : List ContextAction := []
  ending : ScriptEnding := .success
  message : String := "done"
  metadata : List (String × Json) := []
  /-- Whether a result that is no failure carries the data. -/
  withData : Bool := false
  rollback : List ContextAction := []

namespace Script

/-- The result that is no failure. -/
def result (script : Script) (status : StepStatus) (context : Context) : StepResult :=
  { step := script.name, status, message := script.message
    data := if script.withData then some context.data else none
    metadata := .ofList script.metadata }

def execute (script : Script) (context : Context) : Execution :=
  let context := ContextAction.applyAll script.actions context
  { context
    ending :=
      match script.ending with
      | .success => .returned (script.result .success context)
      | .skip => .returned (script.result .skipped context)
      | .fail failure => .failed failure
      | .panic text => .panicked text }

def toStep (script : Script) : Step :=
  { name := script.name
    required := script.required
    accepts := fun context => script.condition.holds context
    execute := script.execute
    rollback := fun context _ => ContextAction.applyAll script.rollback context }

end Script

end PurchaseStatus
