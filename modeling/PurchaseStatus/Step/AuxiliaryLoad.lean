import PurchaseStatus.Step.Basic

namespace PurchaseStatus

/-- How the load of a source ends: with its dataset, with a failure, or with the task that loads it broken
off, of which only a text is left. -/
inductive LoadOutcome where
  | ok (data : Dataset)
  | error (failure : Failure)
  | aborted (text : String)

def LoadOutcome.dataset? : LoadOutcome → Option Dataset
  | .ok data => some data
  | .error _ | .aborted _ => none

/-- A named source of a dataset. -/
structure AuxiliarySource where
  name : String
  outcome : LoadOutcome

/-- Loads auxiliary datasets: all of them or none. -/
structure AuxiliaryLoad where
  name : String
  sources : List AuxiliarySource
  required : Bool := true

namespace AuxiliaryLoad

/-- What is said of a source that failed. The name of the source is lost with its task. -/
def failureOf? (source : AuxiliarySource) : Option String :=
  match source.outcome with
  | .ok _ => none
  | .error failure => some s!"{source.name}: {failure.text}"
  | .aborted text => some s!"loader task aborted: {text}"

def datasetOf? (source : AuxiliarySource) : Option (String × Dataset) :=
  source.outcome.dataset?.map (source.name, ·)

/-- The failures in the order of their texts. -/
def failures (arrivals : List AuxiliarySource) : List String :=
  sortTexts (arrivals.filterMap failureOf?)

/-- The datasets in the order of their names. -/
def datasets (arrivals : List AuxiliarySource) : List (String × Dataset) :=
  sortBy (fun a b => decide (a.1 ≤ b.1)) (arrivals.filterMap datasetOf?)

def failure (total : Nat) (failures : List String) : Failure :=
  ⟨s!"{failures.length} of {total} auxiliary datasets failed to load: " ++ "; ".intercalate failures, []⟩

def store (context : Context) (datasets : List (String × Dataset)) : Context :=
  datasets.foldl (fun context (name, data) => context.addAuxiliary name data) context

def result (step : String) (datasets : List (String × Dataset)) : StepResult :=
  datasets.foldl (fun result (name, data) => result.withMetadata name (.int data.rows))
    (.success step s!"Loaded {datasets.length} auxiliary datasets")

/-- The outcome for the sources in the order in which they arrive. -/
def conclude (load : AuxiliaryLoad) (arrivals : List AuxiliarySource) (context : Context) :
    Execution :=
  match failures arrivals with
  | [] => ⟨store context (datasets arrivals), .returned (result load.name (datasets arrivals)), []⟩
  | failed => ⟨context, .failed (failure load.sources.length failed), []⟩

def toStep (load : AuxiliaryLoad) : Step :=
  { name := load.name
    description := "Load auxiliary datasets"
    required := load.required
    accepts := fun _ => !load.sources.isEmpty
    execute := load.conclude load.sources }

end AuxiliaryLoad

end PurchaseStatus
