import PurchaseStatus.Step.Basic

namespace PurchaseStatus

/-- Steps that run one after another on one context. -/
structure Pipeline where
  name : String
  description : String := ""
  /-- Whether the first failure ends the run and rolls the steps back. -/
  stopOnError : Bool := true
  steps : List Step
  steps_ne_nil : steps ≠ []

namespace Pipeline

inductive BuildError where
  | noSteps (pipeline : String)
  deriving DecidableEq, Repr

def BuildError.message : BuildError → String
  | noSteps pipeline => s!"Pipeline '{pipeline}' has no steps"

def build (name description : String) (stopOnError : Bool) (steps : List Step) :
    Except BuildError Pipeline :=
  if h : steps ≠ [] then .ok { name, description, stopOnError, steps, steps_ne_nil := h }
  else .error (.noSteps name)

def stepNames (pipeline : Pipeline) : List String := pipeline.steps.map (·.name)

end Pipeline

end PurchaseStatus
