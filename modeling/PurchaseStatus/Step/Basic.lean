import PurchaseStatus.Context
import PurchaseStatus.Engine.Basic

namespace PurchaseStatus

/-- What went wrong, with the causes behind it. -/
structure Failure where
  message : String
  causes : List String := []
  deriving DecidableEq, Repr

namespace Failure

/-- The message and its causes, outermost first. -/
def chain (failure : Failure) : List String := failure.message :: failure.causes

def text (failure : Failure) : String := ": ".intercalate failure.chain

/-- The failure as the cause of another. -/
def within (failure : Failure) (message : String) : Failure := ⟨message, failure.chain⟩

end Failure

/-- What a step reports. -/
structure StepResult where
  step : String
  status : StepStatus
  message : String
  data : Option Dataset := none
  metadata : Named Json := ∅
  /-- The failure with all its causes, of a step that failed. -/
  error : Option String := none

namespace StepResult

def success (step message : String) : StepResult := { step, status := .success, message }

def skipped (step message : String) : StepResult := { step, status := .skipped, message }

/-- The message is the outermost part of the failure, the error all of it. -/
def failed (step : String) (failure : Failure) : StepResult :=
  { step, status := .failed, message := failure.message, error := some failure.text }

def withData (result : StepResult) (data : Dataset) : StepResult := { result with data := some data }

def withMetadata (result : StepResult) (key : String) (value : Json) : StepResult :=
  { result with metadata := result.metadata.put key value }

def isSuccess (result : StepResult) : Bool := result.status = .success

def isFailed (result : StepResult) : Bool := result.status = .failed

/-- Why a failed step failed: the error, or the message of a result without one. -/
def reason (result : StepResult) : String := result.error.getD result.message

end StepResult

/-- How the work of a step ended. -/
inductive Ending where
  | returned (result : StepResult)
  | failed (failure : Failure)
  /-- Broken off, with a text that says why if there is one. -/
  | panicked (text : Option String)

/-- What the work of a step left behind: the context, its ending, and the engine runs in it. -/
structure Execution where
  context : Context
  ending : Ending
  runs : List RunReport := []

/-- A unit of work on the context. -/
structure Step where
  name : String
  description : String := ""
  /-- Where the input is not accepted, a required step fails and an optional one is skipped. -/
  required : Bool := true
  accepts : Context → Bool
  execute : Context → Execution
  /-- Compensation after a failure, whose reason it is told. -/
  rollback : Context → String → Context := fun context _ => context

namespace Step

/-- The step with its engine runs kept from the counters. -/
def unmetered (step : Step) : Step :=
  { step with execute := fun context => { step.execute context with runs := [] } }

/-- Always accepted and does nothing. -/
def plain (name : String) : Step :=
  { name
    accepts := fun _ => true
    execute := fun context => ⟨context, .returned (.success name "plain"), []⟩ }

end Step

end PurchaseStatus
