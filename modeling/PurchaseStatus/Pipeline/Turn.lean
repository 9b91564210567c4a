import PurchaseStatus.Metrics
import PurchaseStatus.Step.Basic

namespace PurchaseStatus

/-- A step's turn in a run: the context after it, its result, and the engine runs in it. -/
structure Turn where
  context : Context
  result : StepResult
  runs : List RunReport

namespace Ending

def panicText (text : Option String) : String := text.getD "unknown panic"

/-- A step that was broken off has failed like any other. -/
def result (step : String) : Ending → StepResult
  | returned result => result
  | failed failure => .failed step failure
  | panicked text => .failed step ⟨s!"step panicked: {panicText text}", []⟩

end Ending

namespace Step

def refusal (step : Step) : String := s!"Input validation failed for step '{step.name}'"

/-- The turn of a step whose input is not accepted. Nothing is executed. -/
def refuse (step : Step) (context : Context) : Turn :=
  { context := context.addError step.refusal
    result :=
      if step.required then .failed step.name ⟨step.refusal, []⟩
      else .skipped step.name step.refusal
    runs := [] }

/-- Executes a step. After a failure the data is what it was before, and the trail of errors
has an entry for it. -/
def attempt (step : Step) (context : Context) : Turn :=
  let execution := step.execute context
  let result := execution.ending.result step.name
  { context :=
      if result.isFailed then
        (execution.context.withData context.data).addError
          s!"Step '{step.name}' failed: {result.message}"
      else execution.context
    result
    runs := execution.runs }

def turn (step : Step) (context : Context) : Turn :=
  if step.accepts context then step.attempt context else step.refuse context

end Step

end PurchaseStatus
