import PurchaseStatus.Proofs.Labels.Pipeline
import PurchaseStatus.Proofs.Pipeline.Rollback
import Mathlib.Data.List.Infix

namespace PurchaseStatus

namespace Context

/-- The trail of errors goes on from where it was, and the history is the same. -/
structure Extends (before after : Context) : Prop where
  errors : before.errors <+: after.errors
  history : after.history = before.history

/-- The errors in a context beyond those of an earlier one. -/
def errorsSince (before after : Context) : List String := after.errors.drop before.errors.length

namespace Extends

variable {before middle after : Context}

theorem refl (context : Context) : context.Extends context := ⟨List.prefix_rfl, rfl⟩

theorem trans (h : before.Extends middle) (h' : middle.Extends after) : before.Extends after :=
  ⟨h.errors.trans h'.errors, h'.history.trans h.history⟩

/-- A context that is extended has the errors from before and those since. -/
theorem errors_eq (h : before.Extends after) :
    after.errors = before.errors ++ before.errorsSince after :=
  (List.prefix_iff_eq_append.1 h.errors).symm

end Extends

end Context

namespace Step

/-- The work of a step and its rollback may add errors, and leave the history to the run. -/
structure KeepsTrail (step : Step) : Prop where
  execute : ∀ context : Context, context.Extends (step.execute context).context
  rollback : ∀ (context : Context) reason, context.Extends (step.rollback context reason)

/-- A step that reports under its own name. -/
def SignsResults (step : Step) : Prop :=
  ∀ context result, (step.execute context).ending = .returned result → result.step = step.name

variable {step : Step}

/-- The work of a step adds to the errors and nothing to the history. -/
theorem KeepsTrail.worked (h : step.KeepsTrail) (context : Context) :
    context.Extends (step.worked context) := by
  unfold Step.worked
  split
  · exact h.execute context
  · exact .refl context

/-- Every result of a step has its name, those made in its place included. -/
theorem SignsResults.turn (h : step.SignsResults) (context : Context) :
    (step.turn context).result.step = step.name := by
  cases haccepts : step.accepts context with
  | true =>
    rw [turn_of_accepted haccepts]
    change ((step.execute context).ending.result step.name).step = step.name
    cases hending : (step.execute context).ending with
    | returned result => exact h context result hending
    | failed failure => rfl
    | panicked text => rfl
  | false =>
    rw [turn_of_refused haccepts]
    unfold refuse
    cases step.required <;> rfl

/-- A step that does not fail leaves the context as its work left it. -/
theorem context_turn_of_not_failed {context : Context} (haccepts : step.accepts context = true)
    (hfailed : (step.turn context).result.isFailed = false) :
    (step.turn context).context = step.worked context := by
  unfold Step.worked
  rw [turn_of_accepted haccepts] at hfailed ⊢
  unfold attempt at hfailed ⊢
  dsimp only at hfailed ⊢
  rw [if_neg (by simp [hfailed]), if_pos haccepts]

end Step

/-- No single action on a context takes back an error or an entry of the history. -/
theorem ContextAction.apply_extends (context : Context) (action : ContextAction) :
    context.Extends (action.apply context) := by
  cases action with
  | addError message => exact ⟨List.prefix_append _ _, rfl⟩
  | putText | setVariable | addWarning | dropData | addAuxiliary => exact ⟨List.prefix_rfl, rfl⟩

/-- No series of actions takes back an error or an entry of the history. -/
theorem ContextAction.applyAll_extends (actions : List ContextAction) (context : Context) :
    context.Extends (applyAll actions context) := by
  induction actions generalizing context with
  | nil => exact .refl context
  | cons action rest ih => exact (apply_extends context action).trans (ih (apply context action))

/-- Steps that are written as scripts keep the trail. -/
theorem Script.keepsTrail (script : Script) : script.toStep.KeepsTrail where
  execute context := ContextAction.applyAll_extends script.actions context
  rollback context _ := ContextAction.applyAll_extends script.rollback context

theorem Script.signsResults (script : Script) : script.toStep.SignsResults := by
  intro context result hreturned
  simp only [toStep, execute] at hreturned
  split at hreturned <;> cases hreturned <;> rfl

theorem AuxiliaryLoad.step_result (step : String) (datasets : List (String × Dataset)) :
    (result step datasets).step = step := by
  rw [result_eq]
  rfl

/-- The shipped steps keep the trail. -/
theorem Step.IsShipped.keepsTrail {step : Step} (h : step.IsShipped) : step.KeepsTrail where
  execute context := by
    obtain ⟨data, auxiliary, heq⟩ := h.context_execute context
    rw [heq]
    exact ⟨List.prefix_rfl, rfl⟩
  rollback context reason := by
    rw [h.rollback_eq]
    exact .refl context

theorem Step.IsShipped.signsResults {step : Step} (h : step.IsShipped) : step.SignsResults := by
  intro context result hreturned
  induction h with
  | auxiliaryLoad load _ =>
    simp only [AuxiliaryLoad.conclude] at hreturned
    split at hreturned <;> cases hreturned
    exact AuxiliaryLoad.step_result load.name _
  | firstStage stage =>
    simp only [FirstStage.toStep, FirstStage.execute] at hreturned
    split at hreturned
    · cases hreturned
      rfl
    · split at hreturned <;> cases hreturned
      rfl
  | accrualStage stage =>
    simp only [AccrualStage.toStep, AccrualStage.execute] at hreturned
    split at hreturned
    · cases hreturned
    · split at hreturned <;> cases hreturned
      rfl
  | unmetered _ ih => exact ih hreturned

namespace Visit

variable (visit : Visit)

/-- The errors that the step itself added. -/
def reports : List String := visit.found.errorsSince (visit.step.worked visit.found)

/-- An optional step whose input was not accepted. -/
def isPassedOver : Bool := !visit.step.required && !visit.step.accepts visit.found

/-- The errors that the run added: one for a step that failed or was refused. -/
def complaints : List String :=
  if visit.isFailed || visit.isPassedOver then [visit.step.complaint visit.found] else []

/-- The entry of the step in the history. -/
def entry : String × StepStatus := (visit.step.name, visit.turn.result.status)

variable {visit}

/-- A step that is refused fails if it is required. -/
theorem isFailed_of_refused (hrefused : visit.step.accepts visit.found = false) :
    visit.isFailed = visit.step.required := by
  unfold isFailed turn
  rw [Step.turn_of_refused hrefused]
  unfold Step.refuse
  cases visit.step.required <;> rfl

/-- A step that is accepted is not passed over. -/
theorem isPassedOver_of_accepted (haccepts : visit.step.accepts visit.found = true) :
    visit.isPassedOver = false := by
  simp [isPassedOver, haccepts]

variable (visit)

/-- There is at most one complaint of a visit, since no step both fails and is passed over. -/
theorem length_complaints :
    visit.complaints.length =
      (if visit.isFailed then 1 else 0) + (if visit.isPassedOver then 1 else 0) := by
  unfold complaints
  cases haccepts : visit.step.accepts visit.found with
  | true =>
    rw [isPassedOver_of_accepted haccepts]
    cases visit.isFailed <;> rfl
  | false =>
    have hpassed : visit.isPassedOver = !visit.step.required := by simp [isPassedOver, haccepts]
    rw [hpassed, isFailed_of_refused haccepts]
    cases visit.step.required <;> rfl

/-- The errors after a visit are those of the work and the complaint of the pipeline. -/
theorem errors_left :
    visit.left.errors = (visit.step.worked visit.found).errors ++ visit.complaints := by
  cases hfailed : visit.isFailed with
  | true =>
    rw [visit.isolated.errors hfailed, complaints, hfailed]
    rfl
  | false =>
    cases haccepts : visit.step.accepts visit.found with
    | true =>
      have hleft : visit.left.errors = visit.turn.context.errors := rfl
      rw [hleft, turn, Step.context_turn_of_not_failed haccepts hfailed, complaints, hfailed,
        isPassedOver_of_accepted haccepts]
      exact (List.append_nil _).symm
    | false =>
      have hrequired : visit.step.required = false :=
        (isFailed_of_refused haccepts).symm.trans hfailed
      rw [visit.isolated.refused haccepts]
      simp [complaints, isPassedOver, hrequired, haccepts, Step.worked, Step.complaint]

/-- A visit adds one entry to the history. -/
theorem history_left (h : visit.step.KeepsTrail) :
    visit.left.history = visit.found.history ++ [visit.entry] := by
  have hturn : visit.turn.context.history = visit.found.history := by
    unfold turn Step.turn
    split
    · have hexecute := (h.execute visit.found).history
      unfold Step.attempt
      dsimp only
      split <;> exact hexecute
    · rfl
  have hleft : visit.left.history = visit.turn.context.history ++ [visit.entry] := rfl
  rw [hleft, hturn]

end Visit

/-- Each visit adds to the trail of errors what its step reports, then what the run complains of. -/
theorem trail_contextAfter (stopOnError : Bool) {steps : List Step}
    (hsteps : ∀ step ∈ steps, step.KeepsTrail) (found : Context) :
    let visits := visitsFrom stopOnError steps found
    (contextAfter found visits).history = found.history ++ visits.map (·.entry) ∧
    (contextAfter found visits).errors =
      found.errors ++ visits.flatMap (fun visit => visit.reports ++ visit.complaints) := by
  -- each visit starts from what the one before has left, so the context varies in the induction
  induction steps generalizing found with
  | nil => exact ⟨(List.append_nil _).symm, (List.append_nil _).symm⟩
  | cons step rest ih =>
    have hstep := hsteps step List.mem_cons_self
    have hhistory := Visit.history_left ⟨step, found⟩ hstep
    have herrors := Visit.errors_left ⟨step, found⟩
    rw [(hstep.worked found).errors_eq, List.append_assoc] at herrors
    intro visits
    cases hstop : (Visit.mk step found).isFailed && stopOnError with
    | true =>
      simp only [visits, visitsFrom_cons_of_stop hstop, List.map_singleton, List.flatMap_singleton]
      exact ⟨hhistory, herrors⟩
    | false =>
      have hrest := fun other hother => hsteps other (List.mem_cons_of_mem step hother)
      obtain ⟨hlaterHistory, hlaterErrors⟩ := ih hrest (Visit.mk step found).left
      simp only [visits, visitsFrom_cons_of_continue hstop, contextAfter_cons, List.map_cons,
        List.flatMap_cons]
      rw [hlaterHistory, hlaterErrors, hhistory, herrors]
      exact ⟨(List.append_cons _ _ _).symm, List.append_assoc _ _ _⟩

/-- What the rollback of a step added to the trail of errors. -/
def Rollback.reports (steps : List Step) (call : Rollback) : List String :=
  match steps[call.position]? with
  | some step => call.context.errorsSince (step.rollback call.context call.reason)
  | none => []

/-- Rollbacks add what their steps report, and nothing of the run's own. -/
theorem Rollback.Chain.trail {steps : List Step} (hsteps : ∀ step ∈ steps, step.KeepsTrail)
    {before after : Context} {calls : List Rollback} (h : Chain steps before calls after) :
    after.history = before.history ∧
    after.errors = before.errors ++ calls.flatMap (·.reports steps) := by
  induction h with
  | nil context => exact ⟨rfl, (List.append_nil _).symm⟩
  | @cons call step rest final hstep hname hrest ih =>
    have hrollback := (hsteps step (List.mem_of_getElem? hstep)).rollback call.context call.reason
    have hreports : call.reports steps =
        call.context.errorsSince (step.rollback call.context call.reason) := by
      simp only [reports, hstep]
    obtain ⟨hhistory, herrors⟩ := ih
    refine ⟨hhistory.trans hrollback.history, ?_⟩
    rw [herrors, hrollback.errors_eq, List.flatMap_cons, hreports, List.append_assoc]

/-- The entries pair each step with the status of its result. -/
theorem map_entry_eq_zipWith {steps : List Step} {visits : List Visit}
    (h : visits.map (·.step) <+: steps) :
    visits.map (·.entry) = List.zipWith (fun step result => (step.name, result.status)) steps
      (visits.map (·.turn.result)) := by
  obtain ⟨rest, rfl⟩ := h
  induction visits with
  | nil => exact (List.zipWith_nil_right).symm
  | cons visit later ih => exact congrArg (visit.entry :: ·) ih

/-- Where results are signed, the entries are read off them alone. -/
theorem map_entry_eq_of_signs {visits : List Visit}
    (h : ∀ visit ∈ visits, visit.step.SignsResults) :
    visits.map (·.entry) =
      (visits.map (·.turn.result)).map fun result => (result.step, result.status) := by
  rw [List.map_map]
  refine List.map_congr_left fun visit hvisit => ?_
  exact congrArg (·, visit.turn.result.status) ((h visit hvisit).turn visit.found).symm

/-- The history and the errors that a run leaves: those from before, and then what its visits and
its rollbacks added. -/
structure PipelineRun.Trail (pipeline : Pipeline) (context : Context) (run : PipelineRun) : Prop where
  history : run.context.history = context.history ++
    List.zipWith (fun step result => (step.name, result.status)) pipeline.steps run.results
  signed : (∀ step ∈ pipeline.steps, step.SignsResults) → run.context.history =
    context.history ++ run.results.map fun result => (result.step, result.status)
  errors : run.context.errors = context.errors ++
    (pipeline.visits context).flatMap (fun visit => visit.reports ++ visit.complaints) ++
    run.rollbacks.flatMap (·.reports pipeline.steps)
  kept : context.errors <+: run.context.errors
  reported : run.errors = run.context.errors

namespace Pipeline

variable (pipeline : Pipeline) (context : Context) (metrics : Metrics)

/-- The errors and the history of a run are those of its visits, in order. -/
theorem trail_execute (hsteps : ∀ step ∈ pipeline.steps, step.KeepsTrail) :
    (pipeline.execute context metrics).Trail pipeline context := by
  have hvisited : (pipeline.visits context).map (·.step) <+: pipeline.steps :=
    steps_visitsFrom_prefix pipeline.stopOnError pipeline.steps context
  have hvisits := trail_contextAfter pipeline.stopOnError hsteps context
  have hrollbacks := (pipeline.chain_execute context metrics).trail hsteps
  rw [pipeline.beforeRollbacks_execute context metrics] at hrollbacks
  have hhistory := hrollbacks.1.trans hvisits.1
  have herrors := hrollbacks.2.trans (congrArg (· ++ _) hvisits.2)
  exact {
    history := by
      rw [results_execute, ← map_entry_eq_zipWith hvisited]
      exact hhistory
    signed := by
      intro hsigned
      rw [results_execute, ← map_entry_eq_of_signs]
      · exact hhistory
      · intro visit hvisit
        exact hsigned visit.step (hvisited.subset (List.mem_map_of_mem hvisit))
    errors := herrors
    kept := by
      rw [herrors, List.append_assoc]
      exact List.prefix_append _ _
    reported := rfl }

end Pipeline

end PurchaseStatus
