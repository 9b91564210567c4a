import PurchaseStatus.Pipeline.Execution
import PurchaseStatus.Step.Script
import Mathlib.Data.List.Basic

namespace PurchaseStatus

namespace Step

variable {step : Step} {context : Context}

/-- A step that does not accept the context is refused. -/
theorem turn_of_refused (h : step.accepts context = false) :
    step.turn context = step.refuse context := by
  simp [turn, h]

/-- A step that accepts the context is attempted. -/
theorem turn_of_accepted (h : step.accepts context = true) :
    step.turn context = step.attempt context := by
  simp [turn, h]

variable (step context)

/-- What the work of a step left by itself; a step that is refused does none. -/
def worked : Context := if step.accepts context then (step.execute context).context else context

/-- The entry with which a step that failed or was refused stands in the trail of errors. -/
def complaint : String :=
  if step.accepts context then s!"Step '{step.name}' failed: {(step.turn context).result.message}"
  else step.refusal

/-- However the work of a step ended, a failure takes its data back and adds one error to those that
it has left. -/
theorem context_turn_of_failed (hfailed : (step.turn context).result.isFailed = true) :
    (step.turn context).context =
      ((step.worked context).withData context.data).addError (step.complaint context) := by
  unfold worked complaint
  cases haccepts : step.accepts context with
  | false =>
    rw [turn_of_refused haccepts]
    rfl
  | true =>
    rw [turn_of_accepted haccepts] at hfailed ⊢
    unfold attempt at hfailed ⊢
    dsimp only at hfailed ⊢
    rw [if_pos hfailed]
    rfl

end Step

/-- The turn of a step in a run, with the context that it found. -/
structure Visit where
  step : Step
  found : Context

namespace Visit

variable (visit : Visit)

/-- What becomes of the step in the context it finds. -/
def turn : Turn := visit.step.turn visit.found

/-- Whether the step fails. -/
def isFailed : Bool := visit.turn.result.isFailed

/-- The context right after the step, before anything is rolled back. -/
def left : Context := visit.turn.context.recordStep visit.step.name visit.turn.result.status

/-- What does not reach beyond a step: the data of one that failed, and all that one did whose
input was not accepted. Of these there is one entry more in the trail of errors. -/
structure Isolated : Prop where
  data : visit.isFailed = true → visit.left.data = visit.found.data
  errors : visit.isFailed = true →
    visit.left.errors = (visit.step.worked visit.found).errors ++ [visit.step.complaint visit.found]
  refused : visit.step.accepts visit.found = false →
    visit.left = { visit.found with
      errors := visit.found.errors ++ [visit.step.refusal]
      history := visit.found.history ++ [(visit.step.name, visit.turn.result.status)] }

/-- A visit is isolated, whatever the step does: its result says whether its data is taken over. -/
theorem isolated : visit.Isolated where
  data hfailed := by
    have hdata := congrArg Context.data (visit.step.context_turn_of_failed visit.found hfailed)
    exact hdata
  errors hfailed := by
    have herrors := congrArg Context.errors (visit.step.context_turn_of_failed visit.found hfailed)
    exact herrors
  refused hrefused := by
    have hturn := Step.turn_of_refused hrefused
    simp only [left, turn, hturn]
    rfl

end Visit

/-- The visits of steps one after another, up to the first failure if that ends the run. -/
def visitsFrom (stopOnError : Bool) : List Step → Context → List Visit
  | [], _ => []
  | step :: rest, found =>
    let visit : Visit := ⟨step, found⟩
    visit :: if visit.isFailed && stopOnError then [] else visitsFrom stopOnError rest visit.left

/-- The context that the last of some visits has left, or the one before them. -/
def contextAfter (initial : Context) (visits : List Visit) : Context :=
  (visits.getLast?.map (·.left)).getD initial

/-- The data that the last of some visits without a failure has left, or the data before them. -/
def dataAfter (initial : Dataset) (visits : List Visit) : Dataset :=
  ((visits.filter (!·.isFailed)).getLast?.map (·.left.data)).getD initial

/-- The first visit hands on the context that it leaves. -/
theorem contextAfter_cons (initial : Context) (visit : Visit) (rest : List Visit) :
    contextAfter initial (visit :: rest) = contextAfter visit.left rest := by
  unfold contextAfter
  rw [List.getLast?_cons]
  cases rest.getLast? <;> rfl

/-- After a failure the data is what it was before, so that it need not be told apart. -/
theorem dataAfter_cons (visit : Visit) (rest : List Visit) :
    dataAfter visit.found.data (visit :: rest) = dataAfter visit.left.data rest := by
  unfold dataAfter
  cases hfailed : visit.isFailed with
  | true => rw [List.filter_cons_of_neg (by simp [hfailed]), visit.isolated.data hfailed]
  | false =>
    rw [List.filter_cons_of_pos (by simp [hfailed]), List.getLast?_cons]
    cases (rest.filter (!·.isFailed)).getLast? <;> rfl

section Run

variable {stopOnError : Bool} {step : Step} {found : Context}

/-- A visit that does not stop the run is followed by the others. -/
theorem visitsFrom_cons_of_continue
    (h : ((Visit.mk step found).isFailed && stopOnError) = false) (rest : List Step) :
    visitsFrom stopOnError (step :: rest) found =
      ⟨step, found⟩ :: visitsFrom stopOnError rest (Visit.mk step found).left := by
  simp [visitsFrom, h]

/-- A visit that stops the run is the last. -/
theorem visitsFrom_cons_of_stop
    (h : ((Visit.mk step found).isFailed && stopOnError) = true) (rest : List Step) :
    visitsFrom stopOnError (step :: rest) found = [⟨step, found⟩] := by
  simp only [visitsFrom, if_pos h]

variable (stopOnError)

/-- The first steps are visited, in their order. -/
theorem steps_visitsFrom_prefix (steps : List Step) (found : Context) :
    (visitsFrom stopOnError steps found).map (·.step) <+: steps := by
  induction steps generalizing found with
  | nil => exact List.prefix_rfl
  | cons step rest ih =>
    cases hstop : (Visit.mk step found).isFailed && stopOnError with
    | true =>
      rw [visitsFrom_cons_of_stop hstop]
      exact ⟨rest, rfl⟩
    | false =>
      rw [visitsFrom_cons_of_continue hstop, List.map_cons, List.cons_prefix_cons]
      exact ⟨rfl, ih _⟩

/-- Where no failure ends a run, every step is visited. -/
theorem steps_visitsFrom_of_continue (steps : List Step) (found : Context) :
    (visitsFrom false steps found).map (·.step) = steps := by
  induction steps generalizing found with
  | nil => rfl
  | cons step rest ih =>
    rw [visitsFrom_cons_of_continue (Bool.and_false _), List.map_cons, ih]

/-- Every visit finds what the visits before it have left. -/
theorem found_visitsFrom {steps : List Step} {initial : Context} {earlier later : List Visit}
    {visit : Visit} (h : visitsFrom stopOnError steps initial = earlier ++ visit :: later) :
    visit.found = contextAfter initial earlier ∧
      visit.found.data = dataAfter initial.data earlier := by
  -- the visits before shrink from the front, as the steps do
  induction earlier generalizing steps initial with
  | nil =>
    cases steps with
    | nil => cases h
    | cons step rest =>
      obtain ⟨rfl, _⟩ := List.cons.inj h
      exact ⟨rfl, rfl⟩
  | cons first earlier ih =>
    cases steps with
    | nil => cases h
    | cons step rest =>
      cases hstop : (Visit.mk step initial).isFailed && stopOnError with
      | true =>
        rw [visitsFrom_cons_of_stop hstop] at h
        simp at h
      | false =>
        rw [visitsFrom_cons_of_continue hstop] at h
        obtain ⟨rfl, hrest⟩ := List.cons.inj h
        rw [contextAfter_cons, dataAfter_cons (Visit.mk step initial)]
        exact ih hrest

/-- The visits of a run that ends at the first failure: none failed and all steps were visited, or
the last one failed and none before it. -/
theorem visitsFrom_stop (steps : List Step) (found : Context) :
    let visits := visitsFrom true steps found
    ((∀ visit ∈ visits, visit.isFailed = false) ∧ visits.map (·.step) = steps) ∨
    ∃ earlier last, visits = earlier ++ [last] ∧ last.isFailed = true ∧
      ∀ visit ∈ earlier, visit.isFailed = false := by
  induction steps generalizing found with
  | nil => exact .inl ⟨by simp [visitsFrom], rfl⟩
  | cons step rest ih =>
    intro visits
    cases hfailed : (Visit.mk step found).isFailed with
    | true =>
      refine .inr ⟨[], ⟨step, found⟩, ?_, hfailed, by simp⟩
      exact visitsFrom_cons_of_stop (by rw [hfailed]; rfl) rest
    | false =>
      have hvisits : visits = ⟨step, found⟩ :: visitsFrom true rest (Visit.mk step found).left :=
        visitsFrom_cons_of_continue (by rw [hfailed]; rfl) rest
      rw [hvisits]
      rcases ih (Visit.mk step found).left with ⟨hnone, hall⟩ | ⟨earlier, last, heq, hlast, hearlier⟩
      · exact .inl ⟨List.forall_mem_cons.2 ⟨hfailed, hnone⟩, congrArg (step :: ·) hall⟩
      · rw [heq]
        refine .inr ⟨⟨step, found⟩ :: earlier, last, rfl, hlast, ?_⟩
        exact List.forall_mem_cons.2 ⟨hfailed, hearlier⟩

end Run

/-- The context of a run before any step was rolled back. -/
def PipelineRun.beforeRollbacks (run : PipelineRun) : Context :=
  (run.rollbacks.head?.map (·.context)).getD run.context

section Results

variable {pipeline : String} {stopOnError : Bool} {placed : PlacedStep} {progress : Progress}

/-- A step that does not stop the run is recorded, and the others follow. -/
theorem runSteps_cons_of_continue
    (h : ((Visit.mk placed.step progress.context).isFailed && stopOnError) = false)
    (rest : List PlacedStep) :
    runSteps pipeline stopOnError (placed :: rest) progress =
      runSteps pipeline stopOnError rest
        (progress.record placed (placed.step.turn progress.context)) := by
  unfold Visit.isFailed Visit.turn at h
  simp only [runSteps, h, Bool.false_eq_true, if_false]

/-- A step that stops the run is recorded, and those completed before it are undone. -/
theorem runSteps_cons_of_stop
    (h : ((Visit.mk placed.step progress.context).isFailed && stopOnError) = true)
    (rest : List PlacedStep) :
    runSteps pipeline stopOnError (placed :: rest) progress =
      let visit : Visit := ⟨placed.step, progress.context⟩
      let undone := rollBack visit.turn.result.reason (placed :: progress.completed) visit.left
      (progress.record placed visit.turn).finish pipeline undone.1 undone.2 := by
  unfold Visit.isFailed Visit.turn at h
  simp only [runSteps, h, if_true]
  rfl

variable (pipeline stopOnError)

/-- The results of a run are those of its visits. -/
theorem results_runSteps (steps : List PlacedStep) (progress : Progress) :
    (runSteps pipeline stopOnError steps progress).results = progress.results ++
      (visitsFrom stopOnError (steps.map (·.step)) progress.context).map (·.turn.result) := by
  induction steps generalizing progress with
  | nil => exact (List.append_nil _).symm
  | cons placed rest ih =>
    rw [List.map_cons]
    cases hstop : (Visit.mk placed.step progress.context).isFailed && stopOnError with
    | true =>
      rw [runSteps_cons_of_stop hstop, visitsFrom_cons_of_stop hstop]
      rfl
    | false =>
      rw [runSteps_cons_of_continue hstop, visitsFrom_cons_of_continue hstop, ih, List.map_cons,
        List.append_cons]
      rfl

/-- A run that goes on leaves what its last visit has left, and one that is ended rolls that back. -/
theorem beforeRollbacks_runSteps (steps : List PlacedStep) (progress : Progress) :
    (runSteps pipeline stopOnError steps progress).beforeRollbacks = contextAfter progress.context
      (visitsFrom stopOnError (steps.map (·.step)) progress.context) := by
  induction steps generalizing progress with
  | nil => rfl
  | cons placed rest ih =>
    rw [List.map_cons]
    cases hstop : (Visit.mk placed.step progress.context).isFailed && stopOnError with
    | true =>
      rw [runSteps_cons_of_stop hstop, visitsFrom_cons_of_stop hstop]
      rfl
    | false =>
      rw [runSteps_cons_of_continue hstop, visitsFrom_cons_of_continue hstop, ih, contextAfter_cons]
      rfl

end Results

namespace Pipeline

/-- Places are given to the steps in their order. -/
theorem map_step_placedFrom (position : Nat) (steps : List Step) :
    (placedFrom position steps).map (·.step) = steps := by
  induction steps generalizing position with
  | nil => rfl
  | cons step rest ih => rw [placedFrom, List.map_cons, ih]

/-- The visits of a pipeline's run. -/
def visits (pipeline : Pipeline) (context : Context) : List Visit :=
  visitsFrom pipeline.stopOnError pipeline.steps context

/-- A pipeline that stops on errors visits all its steps without a failure, or up to the first that
fails. -/
theorem visits_of_stop {pipeline : Pipeline} (hstop : pipeline.stopOnError = true) (context : Context) :
    ((∀ visit ∈ pipeline.visits context, visit.isFailed = false) ∧
      (pipeline.visits context).map (·.step) = pipeline.steps) ∨
    ∃ earlier last, pipeline.visits context = earlier ++ [last] ∧ last.isFailed = true ∧
      ∀ visit ∈ earlier, visit.isFailed = false := by
  unfold visits
  rw [hstop]
  exact visitsFrom_stop pipeline.steps context

/-- The results of a run are those of its visits, in order. -/
theorem results_execute (pipeline : Pipeline) (context : Context) (metrics : Metrics) :
    (pipeline.execute context metrics).results =
      (pipeline.visits context).map (·.turn.result) := by
  have hresults := results_runSteps pipeline.name pipeline.stopOnError
    (placedFrom 0 pipeline.steps) { context, metrics }
  rw [map_step_placedFrom] at hresults
  exact hresults

/-- Before any rollback the context is the one that the last visit leaves. -/
theorem beforeRollbacks_execute (pipeline : Pipeline) (context : Context) (metrics : Metrics) :
    (pipeline.execute context metrics).beforeRollbacks =
      contextAfter context (pipeline.visits context) := by
  have hcontext := beforeRollbacks_runSteps pipeline.name pipeline.stopOnError
    (placedFrom 0 pipeline.steps) { context, metrics }
  rw [map_step_placedFrom] at hcontext
  exact hcontext

/-- A run consists of visits of the first steps, or of all if no failure ends it. What a step
that failed or was refused did to the context does not reach the others: each of them finds the data
of the last one before it that did not fail. -/
theorem execute_isolates_failures (pipeline : Pipeline) (context : Context) (metrics : Metrics) :
    let run := pipeline.execute context metrics
    let visits := pipeline.visits context
    run.results = visits.map (·.turn.result) ∧
    run.beforeRollbacks = contextAfter context visits ∧
    visits.map (·.step) <+: pipeline.steps ∧
    (pipeline.stopOnError = false → visits.map (·.step) = pipeline.steps) ∧
    (∀ visit ∈ visits, visit.Isolated) ∧
    ∀ earlier visit later, visits = earlier ++ visit :: later →
      visit.found = contextAfter context earlier ∧
      visit.found.data = dataAfter context.data earlier := by
  intro run visits
  have hresults := results_runSteps pipeline.name pipeline.stopOnError
    (placedFrom 0 pipeline.steps) { context, metrics }
  have hcontext := beforeRollbacks_runSteps pipeline.name pipeline.stopOnError
    (placedFrom 0 pipeline.steps) { context, metrics }
  rw [map_step_placedFrom] at hresults hcontext
  refine ⟨hresults, hcontext, steps_visitsFrom_prefix _ _ _, fun hgoOn => ?_,
    fun visit _ => visit.isolated, fun _ _ _ => found_visitsFrom pipeline.stopOnError⟩
  simp only [visits, Pipeline.visits, hgoOn]
  exact steps_visitsFrom_of_continue pipeline.steps context

/-- Steps that are refused, broken off and failed between two that succeed. -/
def troubled : Pipeline :=
  { name := "troubled"
    stopOnError := false
    steps := [
      Script.toStep { name := "first", actions := [.putText "item" "a"] },
      Script.toStep { name := "optional", required := false, condition := .hasColumn "price" },
      Script.toStep
        { name := "broken"
          actions := [.putText "item" "b", .addError "half way"]
          ending := .panic none },
      Script.toStep { name := "failed", actions := [.dropData], ending := .fail ⟨"no price", []⟩ },
      Script.toStep { name := "last", ending := .skip }]
    steps_ne_nil := List.cons_ne_nil _ _ }

/-- A context with one row of data. -/
def oneRow : Context :=
  Context.start ⟨1, ⟨⟨[("item", .text ⟨[none], rfl⟩)]⟩⟩⟩ "spx" 202501 .order

/-- The last step finds the data that the first has left, and every complaint in between. -/
theorem execute_isolates_failures_troubled :
    (troubled.execute oneRow {}).results.map (·.status) =
      [.success, .skipped, .failed, .failed, .skipped] ∧
    ∀ visit ∈ (troubled.visits oneRow).getLast?,
      visit.found.data = ⟨1, ⟨⟨[("item", .text ⟨[some "a"], rfl⟩)]⟩⟩⟩ ∧
      visit.found.errors = ["Input validation failed for step 'optional'", "half way",
        "Step 'broken' failed: step panicked: unknown panic", "Step 'failed' failed: no price"] := by
  obtain ⟨hresults, _, _, _, _, hfound⟩ := execute_isolates_failures troubled oneRow {}
  rw [hresults]
  refine ⟨by decide, fun visit hlast => ?_⟩
  obtain ⟨hcontext, hdata⟩ := hfound (troubled.visits oneRow).dropLast visit []
    (List.dropLast_append_getLast? visit hlast).symm
  exact ⟨hdata, congrArg Context.errors hcontext⟩

end Pipeline

end PurchaseStatus
