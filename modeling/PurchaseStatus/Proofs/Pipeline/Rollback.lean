import PurchaseStatus.Proofs.Pipeline.Isolation

namespace PurchaseStatus

/-- Rollbacks one after another: each finds what the one before it has left. Their steps are looked
up by their positions. -/
inductive Rollback.Chain (steps : List Step) : Context → List Rollback → Context → Prop where
  | nil (context : Context) : Chain steps context [] context
  | cons {call : Rollback} {step : Step} {rest : List Rollback} {final : Context}
      (hstep : steps[call.position]? = some step) (hname : call.step = step.name)
      (hrest : Chain steps (step.rollback call.context call.reason) rest final) :
      Chain steps call.context (call :: rest) final

/-- Each rollback is that of the step in its position and starts where the one before it ends. -/
theorem chain_rollBack (reason : String) {steps : List Step} {undone : List PlacedStep}
    (hundone : ∀ placed ∈ undone, steps[placed.position]? = some placed.step) (context : Context) :
    Rollback.Chain steps context (rollBack reason undone context).2
      (rollBack reason undone context).1 := by
  induction undone generalizing context with
  | nil => exact .nil context
  | cons placed rest ih =>
    obtain ⟨hplaced, hrest⟩ := List.forall_mem_cons.1 hundone
    let call : Rollback := ⟨placed.position, placed.step.name, reason, context⟩
    have hstep : steps[call.position]? = some placed.step := hplaced
    have hname : call.step = placed.step.name := rfl
    have hchain := ih hrest (placed.step.rollback context reason)
    exact .cons hstep hname hchain

/-- The steps are undone in the order in which they are given. -/
theorem map_position_rollBack (reason : String) (undone : List PlacedStep) (context : Context) :
    (rollBack reason undone context).2.map (·.position) = undone.map (·.position) := by
  induction undone generalizing context with
  | nil => rfl
  | cons placed rest ih =>
    exact congrArg (placed.position :: ·) (ih (placed.step.rollback context reason))

/-- Every rollback is told the same reason. -/
theorem reason_of_mem_rollBack {reason : String} {undone : List PlacedStep} {context : Context}
    {call : Rollback} (hcall : call ∈ (rollBack reason undone context).2) : call.reason = reason := by
  induction undone generalizing context with
  | nil => cases hcall
  | cons placed rest ih =>
    rcases List.mem_cons.1 hcall with rfl | hrest
    · rfl
    · exact ih hrest

namespace Visit

variable (visit : Visit)

/-- Whether the step succeeds. -/
def isSuccess : Bool := visit.turn.result.isSuccess

/-- Why a step failed, if not by a result of its own that says so. -/
def failure? : Option Failure :=
  if visit.step.accepts visit.found then
    match (visit.step.execute visit.found).ending with
    | .returned _ => none
    | .failed failure => some failure
    | .panicked text => some ⟨s!"step panicked: {Ending.panicText text}", []⟩
  else if visit.step.required then some ⟨visit.step.refusal, []⟩
  else none

variable {visit}

/-- Such a failure is rendered with all its causes. -/
theorem error_of_failure? {failure : Failure} (h : visit.failure? = some failure) :
    visit.turn.result.error = some (": ".intercalate (failure.message :: failure.causes)) := by
  unfold failure? at h
  unfold turn
  split at h
  · rename_i haccepts
    rw [Step.turn_of_accepted haccepts]
    change ((visit.step.execute visit.found).ending.result visit.step.name).error = _
    split at h
    · cases h
    · rename_i hending
      cases h
      rw [hending]
      rfl
    · rename_i hending
      cases h
      rw [hending]
      rfl
  · rename_i haccepts
    rw [Bool.not_eq_true] at haccepts
    rw [Step.turn_of_refused haccepts, Step.refuse]
    split at h
    · rename_i hrequired
      cases h
      rw [if_pos hrequired]
      rfl
    · cases h

/-- A visit that fails is no success. -/
theorem isSuccess_of_isFailed (hfailed : visit.isFailed = true) : visit.isSuccess = false := by
  have hstatus : visit.turn.result.status = .failed := by simpa [isFailed, StepResult.isFailed] using hfailed
  simp [isSuccess, StepResult.isSuccess, hstatus]

end Visit

/-- The steps of the visits that succeeded, with their positions in the run, the latest first. -/
def completedFrom : Nat → List Visit → List PlacedStep
  | _, [] => []
  | position, visit :: rest =>
    completedFrom (position + 1) rest ++ if visit.isSuccess then [⟨position, visit.step⟩] else []

/-- The completed steps are those of the successful visits, the latest first. -/
theorem map_position_completedFrom (position : Nat) (visits : List Visit) :
    (completedFrom position visits).map (·.position) =
      (visits.findIdxs (·.isSuccess) position).reverse := by
  induction visits generalizing position with
  | nil => rfl
  | cons visit rest ih =>
    rw [completedFrom, List.map_append, ih, List.findIdxs_cons]
    cases visit.isSuccess with
    | true => exact (List.reverse_cons).symm
    | false => exact List.append_nil _

namespace Pipeline

/-- A step stands in the place it is given. -/
theorem getElem?_of_mem_placedFrom {steps : List Step} {position : Nat} {placed : PlacedStep}
    (h : placed ∈ placedFrom position steps) :
    position ≤ placed.position ∧ steps[placed.position - position]? = some placed.step := by
  induction steps generalizing position with
  | nil => cases h
  | cons step rest ih =>
    rcases List.mem_cons.1 h with rfl | hrest
    · exact ⟨Nat.le_refl position, by simp⟩
    · obtain ⟨hle, hget⟩ := ih hrest
      refine ⟨Nat.le_of_succ_le hle, ?_⟩
      have hsub : placed.position - position = placed.position - (position + 1) + 1 := by omega
      rw [hsub, List.getElem?_cons_succ, hget]

/-- A completed step is one of the steps that were visited. -/
theorem mem_placedFrom_of_mem_completedFrom {position : Nat} {visits : List Visit}
    {placed : PlacedStep} (hplaced : placed ∈ completedFrom position visits) :
    placed ∈ placedFrom position (visits.map (·.step)) := by
  induction visits generalizing position with
  | nil => cases hplaced
  | cons visit rest ih =>
    rcases List.mem_append.1 hplaced with hrest | hfirst
    · exact List.mem_cons_of_mem _ (ih hrest)
    · split at hfirst
      · rw [List.mem_singleton.1 hfirst]
        exact List.mem_cons_self
      · cases hfirst

/-- What completed is found among the steps where it was placed. -/
theorem getElem?_of_mem_completedFrom {steps : List Step} {earlier later : List Visit}
    {placed : PlacedStep} (hsteps : (earlier ++ later).map (·.step) <+: steps)
    (hplaced : placed ∈ completedFrom 0 earlier) : steps[placed.position]? = some placed.step := by
  obtain ⟨rest, hrest⟩ := hsteps
  obtain ⟨_, hget⟩ := getElem?_of_mem_placedFrom (mem_placedFrom_of_mem_completedFrom hplaced)
  rw [Nat.sub_zero] at hget
  obtain ⟨hlt, _⟩ := List.getElem?_eq_some_iff.1 hget
  rw [← hrest, List.map_append, List.append_assoc, List.getElem?_append_left hlt]
  exact hget

end Pipeline

/-- The last of some visits, which has failed, is not among the successes. -/
theorem findIdxs_isSuccess_concat (earlier : List Visit) {failing : Visit}
    (hfailed : failing.isFailed = true) :
    ((earlier ++ [failing]).map (·.turn.result)).findIdxs (·.isSuccess) =
      earlier.findIdxs (·.isSuccess) := by
  have hlast : [failing].findIdxs (·.isSuccess) (0 + earlier.length) = [] := by
    rw [List.findIdxs_singleton, Visit.isSuccess_of_isFailed hfailed]
    rfl
  have happend : (earlier ++ [failing]).findIdxs (·.isSuccess) =
      earlier.findIdxs (·.isSuccess) ++ [failing].findIdxs (·.isSuccess) (0 + earlier.length) :=
    List.findIdxs_append ..
  rw [hlast, List.append_nil] at happend
  rw [List.findIdxs_map]
  exact happend

/-- The failing step and the completed ones are undone once each. -/
theorem nodup_length_findIdxs (earlier : List Visit) :
    (earlier.length :: (earlier.findIdxs (·.isSuccess)).reverse).Nodup := by
  refine List.nodup_cons.2 ⟨fun hmem => ?_, (List.reverse_perm _).nodup_iff.2 List.nodup_findIdxs⟩
  have hlt := List.lt_add_of_mem_findIdxs _ (List.mem_reverse.1 hmem)
  omega

/-- A run that no failure ends rolls nothing back. -/
theorem rollbacks_runSteps_of_continue (pipeline : String) (stopOnError : Bool)
    {steps : List PlacedStep} {progress : Progress}
    (hgoOn : ∀ visit ∈ visitsFrom stopOnError (steps.map (·.step)) progress.context,
      (visit.isFailed && stopOnError) = false) :
    (runSteps pipeline stopOnError steps progress).rollbacks = [] := by
  induction steps generalizing progress with
  | nil => rfl
  | cons placed rest ih =>
    have hfirst : ((Visit.mk placed.step progress.context).isFailed && stopOnError) = false :=
      hgoOn _ List.mem_cons_self
    rw [List.map_cons, visitsFrom_cons_of_continue hfirst] at hgoOn
    rw [runSteps_cons_of_continue hfirst]
    exact ih (List.forall_mem_cons.1 hgoOn).2

/-- Where the last visit has failed, its step is rolled back, and then what completed. -/
theorem rollBack_runSteps_of_stop (pipeline : String) {steps : List Step} (progress : Progress)
    {earlier : List Visit} {last : Visit}
    (hvisits : visitsFrom true steps progress.context = earlier ++ [last])
    (hlast : last.isFailed = true) (position : Nat) :
    let run := runSteps pipeline true (Pipeline.placedFrom position steps) progress
    rollBack last.turn.result.reason
      (⟨position + earlier.length, last.step⟩ :: (completedFrom position earlier ++ progress.completed))
      last.left = (run.context, run.rollbacks) := by
  -- the visits shrink from the front, as the steps do, and what completed moves to the progress
  induction earlier generalizing steps progress position with
  | nil =>
    cases steps with
    | nil => cases hvisits
    | cons step rest =>
      obtain ⟨rfl, _⟩ := List.cons.inj hvisits
      have hstop : ((Visit.mk step progress.context).isFailed && true) = true := by rw [hlast]; rfl
      rw [Pipeline.placedFrom, runSteps_cons_of_stop hstop]
      rfl
  | cons first earlier ih =>
    cases steps with
    | nil => cases hvisits
    | cons step rest =>
      cases hstop : (Visit.mk step progress.context).isFailed && true with
      | true =>
        rw [visitsFrom_cons_of_stop hstop] at hvisits
        simp at hvisits
      | false =>
        rw [visitsFrom_cons_of_continue hstop] at hvisits
        obtain ⟨rfl, hrest⟩ := List.cons.inj hvisits
        let visit : Visit := ⟨step, progress.context⟩
        have hcompleted : (progress.record ⟨position, step⟩ visit.turn).completed =
            (if visit.isSuccess then [⟨position, step⟩] else []) ++ progress.completed := by
          unfold Progress.record Visit.isSuccess
          dsimp only
          split <;> rfl
        have hrun := ih (progress.record ⟨position, step⟩ visit.turn) hrest (position + 1)
        have hposition : position + (earlier.length + 1) = position + 1 + earlier.length := by omega
        rw [Pipeline.placedFrom, runSteps_cons_of_continue hstop, completedFrom, List.append_assoc,
          ← hcompleted, List.length_cons, hposition]
        exact hrun

/-- What a run does after the failure that ends it. The step that failed is rolled back first and
then those that had succeeded, the latest first, all for the reason of the failure. They find what
the failure has left, and after them nothing is executed. -/
structure PipelineRun.RolledBack (pipeline : Pipeline) (context : Context) (run : PipelineRun)
    (earlier : List Visit) (failing : Visit) : Prop where
  visits : pipeline.visits context = earlier ++ [failing]
  failed : failing.isFailed = true
  first : ∀ visit ∈ earlier, visit.isFailed = false
  results : run.results = (earlier ++ [failing]).map (·.turn.result)
  positions : run.rollbacks.map (·.position) =
    earlier.length :: (run.results.findIdxs (·.isSuccess)).reverse
  once : (run.rollbacks.map (·.position)).Nodup
  reason : ∀ call ∈ run.rollbacks,
    call.reason = failing.turn.result.error.getD failing.turn.result.message
  rendered : ∀ failure, failing.failure? = some failure →
    failing.turn.result.error = some (": ".intercalate (failure.message :: failure.causes))
  calls : Rollback.Chain pipeline.steps failing.left run.rollbacks run.context
  data : failing.left.data = failing.found.data
  errors : failing.left.errors =
    (failing.step.worked failing.found).errors ++ [failing.step.complaint failing.found]

namespace Pipeline

section Execute

variable (pipeline : Pipeline) (context : Context) (metrics : Metrics)

/-- A run that is never stopped undoes nothing. -/
theorem rollbacks_execute_of_continue
    (hgoOn : ∀ visit ∈ pipeline.visits context, (visit.isFailed && pipeline.stopOnError) = false) :
    (pipeline.execute context metrics).rollbacks = [] := by
  refine rollbacks_runSteps_of_continue pipeline.name pipeline.stopOnError ?_
  rw [map_step_placedFrom]
  exact hgoOn

/-- The rollbacks of a run that stops are those of the failing step and of all completed ones, from the
context that the failing step has left. -/
theorem rollBack_execute_of_stop {earlier : List Visit} {failing : Visit}
    (hstop : pipeline.stopOnError = true) (hvisits : pipeline.visits context = earlier ++ [failing])
    (hfailed : failing.isFailed = true) :
    rollBack failing.turn.result.reason (⟨earlier.length, failing.step⟩ :: completedFrom 0 earlier)
      failing.left =
        ((pipeline.execute context metrics).context, (pipeline.execute context metrics).rollbacks) := by
  have hstopped : visitsFrom true pipeline.steps context = earlier ++ [failing] := by
    rw [← hstop]
    exact hvisits
  have hexecute : pipeline.execute context metrics =
      runSteps pipeline.name true (placedFrom 0 pipeline.steps) { context, metrics } := by
    simp only [execute, hstop]
  have hrun := rollBack_runSteps_of_stop pipeline.name { context, metrics } hstopped hfailed 0
  rw [Nat.zero_add, List.append_nil, ← hexecute] at hrun
  exact hrun

/-- A run that stops undoes the failing step first and then all completed ones, for one reason. -/
theorem rolledBack_execute_of_stop {earlier : List Visit} {failing : Visit}
    (hstop : pipeline.stopOnError = true) (hvisits : pipeline.visits context = earlier ++ [failing])
    (hfailed : failing.isFailed = true) (hfirst : ∀ visit ∈ earlier, visit.isFailed = false) :
    (pipeline.execute context metrics).RolledBack pipeline context earlier failing := by
  let run := pipeline.execute context metrics
  let undone : List PlacedStep := ⟨earlier.length, failing.step⟩ :: completedFrom 0 earlier
  have hresults : run.results = (earlier ++ [failing]).map (·.turn.result) := by
    rw [← hvisits]
    exact pipeline.results_execute context metrics
  have hrollBack : rollBack failing.turn.result.reason undone failing.left = (run.context, run.rollbacks) :=
    pipeline.rollBack_execute_of_stop context metrics hstop hvisits hfailed
  have hsteps : (earlier ++ [failing]).map (·.step) <+: pipeline.steps := by
    rw [← hvisits]
    exact steps_visitsFrom_prefix pipeline.stopOnError pipeline.steps context
  -- the steps to undo stand in the places of the pipeline that their positions name
  have hundone : ∀ placed ∈ undone, pipeline.steps[placed.position]? = some placed.step := by
    refine List.forall_mem_cons.2 ⟨?_, fun placed => getElem?_of_mem_completedFrom hsteps⟩
    obtain ⟨rest, hrest⟩ := hsteps
    rw [← hrest]
    simp
  have hchain := chain_rollBack failing.turn.result.reason hundone failing.left
  have hpositions := map_position_rollBack failing.turn.result.reason undone failing.left
  rw [hrollBack] at hchain hpositions
  rw [List.map_cons, map_position_completedFrom] at hpositions
  exact {
    visits := hvisits
    failed := hfailed
    first := hfirst
    results := hresults
    positions := by
      rw [hresults, findIdxs_isSuccess_concat earlier hfailed]
      exact hpositions
    once := by
      rw [hpositions]
      exact nodup_length_findIdxs earlier
    reason := by
      intro call hcall
      have hmem : call ∈ (rollBack failing.turn.result.reason undone failing.left).2 := by
        rw [hrollBack]
        exact hcall
      exact reason_of_mem_rollBack hmem
    rendered := fun failure => Visit.error_of_failure?
    calls := hchain
    data := failing.isolated.data hfailed
    errors := failing.isolated.errors hfailed }

/-- Whether or not a failure ends a run, its rollbacks lead from the context before them to the one
that the run leaves. -/
theorem chain_execute :
    let run := pipeline.execute context metrics
    Rollback.Chain pipeline.steps run.beforeRollbacks run.rollbacks run.context := by
  intro run
  have hnone (hgoOn : ∀ visit ∈ pipeline.visits context,
      (visit.isFailed && pipeline.stopOnError) = false) :
      Rollback.Chain pipeline.steps run.beforeRollbacks run.rollbacks run.context := by
    have hrollbacks : run.rollbacks = [] :=
      pipeline.rollbacks_execute_of_continue context metrics hgoOn
    simp only [PipelineRun.beforeRollbacks, hrollbacks]
    exact .nil run.context
  cases hstop : pipeline.stopOnError with
  | false => exact hnone fun visit _ => by rw [hstop, Bool.and_false]
  | true =>
    rcases visits_of_stop hstop context with ⟨hfirst, _⟩ | ⟨earlier, failing, hvisits, hfailed, hfirst⟩
    · exact hnone fun visit hvisit => by rw [hfirst visit hvisit, Bool.false_and]
    · have hrolledBack :=
        pipeline.rolledBack_execute_of_stop context metrics hstop hvisits hfailed hfirst
      have hbefore := pipeline.beforeRollbacks_execute context metrics
      have hlast : contextAfter context (pipeline.visits context) = failing.left := by
        rw [hrolledBack.visits, contextAfter, List.getLast?_concat]
        rfl
      rw [hbefore, hlast]
      exact hrolledBack.calls

end Execute

/-- Nothing is rolled back unless a failure ends the run, and then just the step that failed and those
that had succeeded are, the latest first. -/
theorem execute_rolls_back (pipeline : Pipeline) (context : Context) (metrics : Metrics) :
    let run := pipeline.execute context metrics
    (pipeline.stopOnError = false ∨ (∀ result ∈ run.results, result.isFailed = false) →
      run.rollbacks = []) ∧
    (pipeline.stopOnError = true → (∃ result ∈ run.results, result.isFailed = true) →
      ∃ earlier failing, run.RolledBack pipeline context earlier failing) := by
  intro run
  have hresults : run.results = (pipeline.visits context).map (·.turn.result) :=
    pipeline.results_execute context metrics
  constructor
  · intro hgoOn
    refine pipeline.rollbacks_execute_of_continue context metrics fun visit hvisit => ?_
    rcases hgoOn with hgoOn | hnone
    · rw [hgoOn, Bool.and_false]
    · have hvisit : visit.isFailed = false := by
        refine hnone visit.turn.result ?_
        rw [hresults]
        exact List.mem_map_of_mem hvisit
      rw [hvisit, Bool.false_and]
  · rintro hstop ⟨result, hresult, hfailed⟩
    rw [hresults] at hresult
    obtain ⟨visit, hvisit, rfl⟩ := List.mem_map.1 hresult
    rcases visits_of_stop hstop context with ⟨hnone, _⟩ | ⟨earlier, failing, hvisits, hlast, hfirst⟩
    · have hnot : visit.isFailed = false := hnone visit hvisit
      cases hnot.symm.trans hfailed
    · exact ⟨earlier, failing,
        pipeline.rolledBack_execute_of_stop context metrics hstop hvisits hlast hfirst⟩

/-- Two steps that succeed, one between them that is passed over, a failure and a step that is not
reached. -/
def compensated : Pipeline :=
  { name := "compensated"
    steps := [
      Script.toStep { name := "reserve", rollback := [.addError "released"] },
      Script.toStep { name := "optional", required := false, condition := .hasColumn "price" },
      Script.toStep { name := "pay", rollback := [.addError "refunded"] },
      Script.toStep
        { name := "ship"
          actions := [.dropData]
          ending := .fail ⟨"no carrier", ["strike"]⟩
          rollback := [.addError "called off"] },
      Script.toStep { name := "last", rollback := [.dropData] }]
    steps_ne_nil := List.cons_ne_nil _ _ }

/-- Each rollback finds the row that the failure had dropped, and the errors before it. -/
theorem execute_rolls_back_compensated :
    let run := compensated.execute oneRow {}
    (compensated.stopOnError = true ∧ ∃ result ∈ run.results, result.isFailed = true) ∧
    run.rollbacks.map (·.position) = [3, 2, 0] ∧
    (∀ call ∈ run.rollbacks, call.reason = "no carrier: strike") ∧
    run.rollbacks.map (·.context.data.rows) = [1, 1, 1] ∧
    run.errors = ["Input validation failed for step 'optional'", "Step 'ship' failed: no carrier",
      "called off", "refunded", "released"] := by
  intro run
  have hfailed : ∃ result ∈ run.results, result.isFailed = true := by decide
  obtain ⟨earlier, failing, hrun⟩ := (execute_rolls_back compensated oneRow {}).2 rfl hfailed
  have hlength : earlier.length = 3 := by
    have hresults := congrArg List.length hrun.results
    rw [List.length_map, List.length_append, List.length_singleton] at hresults
    exact (Nat.succ.inj hresults).symm
  have hreason : failing.turn.result.error.getD failing.turn.result.message =
      "no carrier: strike" := by
    have hlast : run.results.getLast? = some failing.turn.result := by
      rw [hrun.results, List.map_append, List.map_singleton, List.getLast?_concat]
    have hshipped : run.results.getLast?.map (·.reason) = some "no carrier: strike" := by decide
    rw [hlast] at hshipped
    exact Option.some.inj hshipped
  refine ⟨⟨rfl, hfailed⟩, ?_, fun call hcall => (hrun.reason call hcall).trans hreason, ?_, ?_⟩
  · rw [hrun.positions, hlength]
    decide
  · decide
  · decide

end Pipeline

end PurchaseStatus
