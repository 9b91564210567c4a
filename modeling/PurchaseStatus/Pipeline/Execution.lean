import PurchaseStatus.Pipeline.Basic
import PurchaseStatus.Pipeline.Turn

namespace PurchaseStatus

/-- A rollback that was asked of the step at a position, with the context that it found. -/
structure Rollback where
  position : Nat
  step : String
  reason : String
  context : Context

/-- A step and its position in the pipeline. -/
structure PlacedStep where
  position : Nat
  step : Step

/-- The outcome of a pipeline. -/
structure PipelineRun where
  pipeline : String
  context : Context
  metrics : Metrics
  success : Bool
  /-- One result for each step that ran. -/
  results : List StepResult
  rollbacks : List Rollback

namespace PipelineRun

def firstFailure? (run : PipelineRun) : Option StepResult := run.results.find? (·.isFailed)

/-- The first result of a step. -/
def result? (run : PipelineRun) (step : String) : Option StepResult :=
  run.results.find? (·.step == step)

def errors (run : PipelineRun) : List String := run.context.errors

end PipelineRun

/-- A run between two steps. -/
structure Progress where
  context : Context
  metrics : Metrics
  success : Bool := true
  results : List StepResult := []
  /-- The steps that succeeded, the latest first. -/
  completed : List PlacedStep := []

namespace Progress

/-- The duration that is recorded for what is not timed. -/
def untimed : Float := 0

def recordRuns (metrics : Metrics) (runs : List RunReport) : Metrics :=
  runs.foldl (fun metrics report => metrics.recordRun untimed report) metrics

/-- Enters a turn into the counters, the history and the results. -/
def record (progress : Progress) (placed : PlacedStep) (turn : Turn) : Progress :=
  let name := placed.step.name
  { context := turn.context.recordStep name turn.result.status
    metrics := (recordRuns progress.metrics turn.runs).recordStep name turn.result.status untimed
    success := progress.success && !turn.result.isFailed
    results := progress.results ++ [turn.result]
    completed := if turn.result.isSuccess then placed :: progress.completed else progress.completed }

def finish (progress : Progress) (pipeline : String) (context : Context) (rollbacks : List Rollback) :
    PipelineRun :=
  { pipeline, context, rollbacks
    metrics := progress.metrics
    success := progress.success
    results := progress.results }

end Progress

/-- Rolls steps back one after another for one reason. -/
def rollBack (reason : String) : List PlacedStep → Context → Context × List Rollback
  | [], context => (context, [])
  | placed :: rest, context =>
    let call : Rollback := ⟨placed.position, placed.step.name, reason, context⟩
    let (final, calls) := rollBack reason rest (placed.step.rollback context reason)
    (final, call :: calls)

/-- Gives every step its turn. Where a failure ends the run, the step that failed is rolled back
first and then those that succeeded, the latest first. -/
def runSteps (pipeline : String) (stopOnError : Bool) : List PlacedStep → Progress → PipelineRun
  | [], progress => progress.finish pipeline progress.context []
  | placed :: rest, progress =>
    let turn := placed.step.turn progress.context
    let after := progress.record placed turn
    if turn.result.isFailed && stopOnError then
      let (context, rollbacks) :=
        rollBack turn.result.reason (placed :: progress.completed) after.context
      after.finish pipeline context rollbacks
    else runSteps pipeline stopOnError rest after

namespace Pipeline

def placedFrom : Nat → List Step → List PlacedStep
  | _, [] => []
  | position, step :: rest => ⟨position, step⟩ :: placedFrom (position + 1) rest

def execute (pipeline : Pipeline) (context : Context) (metrics : Metrics) : PipelineRun :=
  runSteps pipeline.name pipeline.stopOnError (placedFrom 0 pipeline.steps) { context, metrics }

end Pipeline

end PurchaseStatus
