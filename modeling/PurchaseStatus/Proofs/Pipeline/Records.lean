import PurchaseStatus.Proofs.Pipeline.Trail

namespace PurchaseStatus

/-- A counter of the steps that ended with a status. Engine runs do not touch it. -/
structure Metrics.Counts (counter : Metrics → UInt64) (status : StepStatus) : Prop where
  ruleHits : ∀ metrics id count, counter (metrics.recordRuleHits id count) = counter metrics
  engineRun : ∀ metrics seconds unlabeled,
    counter (metrics.recordEngineRun seconds unlabeled) = counter metrics
  step : ∀ metrics name ended seconds, counter (metrics.recordStep name ended seconds) =
    counter metrics + .ofNat (if ended = status then 1 else 0)

namespace Metrics.Counts

/-- The steps that succeeded are counted one by one. -/
theorem succeeded : Counts stepsSucceeded .success where
  ruleHits _ _ _ := rfl
  engineRun _ _ _ := rfl
  step metrics name ended seconds := by cases ended <;> simp [recordStep, recordDuration]

/-- The steps that failed are counted one by one. -/
theorem failed : Counts stepsFailed .failed where
  ruleHits _ _ _ := rfl
  engineRun _ _ _ := rfl
  step metrics name ended seconds := by cases ended <;> simp [recordStep, recordDuration]

/-- The steps that were skipped are counted one by one. -/
theorem skipped : Counts stepsSkipped .skipped where
  ruleHits _ _ _ := rfl
  engineRun _ _ _ := rfl
  step metrics name ended seconds := by cases ended <;> simp [recordStep, recordDuration]

variable {counter : Metrics → UInt64} {status : StepStatus} (h : Counts counter status)

include h

theorem recordRun (metrics : Metrics) (seconds : Float) (report : RunReport) :
    counter (metrics.recordRun seconds report) = counter metrics := by
  unfold Metrics.recordRun
  rw [h.engineRun]
  exact List.foldlRecOn report.hits _ (motive := (counter · = counter metrics)) rfl
    fun _ hcounter _ _ => (h.ruleHits _ _ _).trans hcounter

/-- The engine runs of a step leave the counter of steps alone. -/
theorem recordRuns (metrics : Metrics) (runs : List RunReport) :
    counter (Progress.recordRuns metrics runs) = counter metrics :=
  List.foldlRecOn runs _ (motive := (counter · = counter metrics)) rfl
    fun _ hcounter _ _ => (h.recordRun _ _ _).trans hcounter

/-- A step that is recorded adds one to the counter of its status. -/
theorem record (progress : Progress) (placed : PlacedStep) (turn : Turn) :
    counter (progress.record placed turn).metrics =
      counter progress.metrics + .ofNat (if turn.result.status = status then 1 else 0) := by
  unfold Progress.record
  rw [h.step, h.recordRuns]

end Metrics.Counts

section Run

variable (pipeline : String) (stopOnError : Bool) (steps : List PlacedStep) (progress : Progress)

/-- A run succeeds if no visit fails. -/
theorem success_runSteps :
    (runSteps pipeline stopOnError steps progress).success = (progress.success &&
      (visitsFrom stopOnError (steps.map (·.step)) progress.context).all (!·.isFailed)) := by
  induction steps generalizing progress with
  | nil => exact (Bool.and_true _).symm
  | cons placed rest ih =>
    rw [List.map_cons]
    cases hstop : (Visit.mk placed.step progress.context).isFailed && stopOnError with
    | true =>
      rw [runSteps_cons_of_stop hstop, visitsFrom_cons_of_stop hstop, List.all_cons, List.all_nil,
        Bool.and_true]
      rfl
    | false =>
      rw [runSteps_cons_of_continue hstop, visitsFrom_cons_of_continue hstop, ih, List.all_cons,
        ← Bool.and_assoc]
      rfl

/-- A run adds to a counter the number of its visits that ended with the status it counts. -/
theorem Metrics.Counts.runSteps {counter : Metrics → UInt64} {status : StepStatus}
    (h : Counts counter status) :
    counter (PurchaseStatus.runSteps pipeline stopOnError steps progress).metrics =
      counter progress.metrics +
        .ofNat ((visitsFrom stopOnError (steps.map (·.step)) progress.context).countP
          (·.turn.result.status = status)) := by
  induction steps generalizing progress with
  | nil => exact (UInt64.add_zero _).symm
  | cons placed rest ih =>
    have hrecord := h.record progress placed (placed.step.turn progress.context)
    rw [List.map_cons]
    cases hstop : (Visit.mk placed.step progress.context).isFailed && stopOnError with
    | true =>
      rw [runSteps_cons_of_stop hstop, visitsFrom_cons_of_stop hstop, List.countP_singleton]
      simp only [decide_eq_true_eq]
      exact hrecord
    | false =>
      rw [runSteps_cons_of_continue hstop, visitsFrom_cons_of_continue hstop, ih, hrecord,
        List.countP_cons, Nat.add_comm, UInt64.ofNat_add, UInt64.add_assoc]
      simp only [decide_eq_true_eq]
      rfl

end Run

/-- There is one complaint for each step that failed or was passed over. -/
theorem length_flatMap_complaints (visits : List Visit) :
    (visits.flatMap (·.complaints)).length =
      visits.countP (·.isFailed) + visits.countP (·.isPassedOver) := by
  induction visits with
  | nil => rfl
  | cons visit later ih =>
    rw [List.flatMap_cons, List.length_append, ih, visit.length_complaints, List.countP_cons,
      List.countP_cons]
    omega

/-- What a run says of itself besides the trail: its results, its success, the counters, and how
many errors it added of its own. -/
structure PipelineRun.Accounts (pipeline : Pipeline) (context : Context) (metrics : Metrics)
    (run : PipelineRun) : Prop where
  success : run.success = false ↔ ∃ result ∈ run.results, result.isFailed = true
  results : run.results = (pipeline.visits context).map (·.turn.result)
  steps : (pipeline.visits context).map (·.step) = pipeline.steps.take run.results.length
  complete : pipeline.stopOnError = false ∨ run.success = true →
    run.results.length = pipeline.steps.length
  stopped : pipeline.stopOnError = true → run.success = false →
    ∃ earlier last, run.results = earlier ++ [last] ∧ last.isFailed = true ∧
      ∀ result ∈ earlier, result.isFailed = false
  succeeded : run.metrics.stepsSucceeded =
    metrics.stepsSucceeded + .ofNat (run.results.countP (·.isSuccess))
  failed : run.metrics.stepsFailed = metrics.stepsFailed + .ofNat (run.results.countP (·.isFailed))
  skipped : run.metrics.stepsSkipped =
    metrics.stepsSkipped + .ofNat (run.results.countP (·.status = .skipped))
  complaints : ((pipeline.visits context).flatMap (·.complaints)).length =
    run.results.countP (·.isFailed) + (pipeline.visits context).countP (·.isPassedOver)

namespace Pipeline

section Records

variable (pipeline : Pipeline) (context : Context) (metrics : Metrics)

/-- Results are counted visit by visit. -/
theorem countP_results_execute (p : StepResult → Bool) :
    (pipeline.execute context metrics).results.countP p =
      (pipeline.visits context).countP fun visit => p visit.turn.result := by
  rw [results_execute, List.countP_map]
  rfl

/-- A run adds to a counter the number of its results with that status. -/
theorem counts_execute {counter : Metrics → UInt64} {status : StepStatus}
    (h : Metrics.Counts counter status) :
    counter (pipeline.execute context metrics).metrics = counter metrics +
      .ofNat ((pipeline.execute context metrics).results.countP (·.status = status)) := by
  have hcounter := h.runSteps pipeline.name pipeline.stopOnError (placedFrom 0 pipeline.steps)
    { context, metrics }
  rw [map_step_placedFrom] at hcounter
  rw [countP_results_execute]
  exact hcounter

/-- A run is a success if none of its visits fails. -/
theorem success_execute :
    (pipeline.execute context metrics).success =
      (pipeline.visits context).all (!·.isFailed) := by
  have hsuccess := success_runSteps pipeline.name pipeline.stopOnError
    (placedFrom 0 pipeline.steps) { context, metrics }
  rw [map_step_placedFrom] at hsuccess
  exact hsuccess.trans (Bool.true_and _)

/-- A run that goes on to the end has a result for every step. -/
theorem length_results_execute
    (hgoOn : pipeline.stopOnError = false ∨ (pipeline.execute context metrics).success = true) :
    (pipeline.execute context metrics).results.length = pipeline.steps.length := by
  have hall : (pipeline.visits context).map (·.step) = pipeline.steps := by
    rw [success_execute] at hgoOn
    cases hstop : pipeline.stopOnError with
    | false =>
      unfold visits
      rw [hstop]
      exact steps_visitsFrom_of_continue pipeline.steps context
    | true =>
      rcases visits_of_stop hstop context with ⟨_, hall⟩ | ⟨earlier, last, heq, hlast, _⟩
      · exact hall
      · simp [hstop, heq, hlast] at hgoOn
  rw [results_execute, List.length_map, ← hall, List.length_map]

/-- A run that stops has results up to the first that failed, and that is the last. -/
theorem results_execute_of_stop (hstop : pipeline.stopOnError = true)
    (hfailed : (pipeline.execute context metrics).success = false) :
    ∃ earlier last, (pipeline.execute context metrics).results = earlier ++ [last] ∧
      last.isFailed = true ∧ ∀ result ∈ earlier, result.isFailed = false := by
  rw [success_execute] at hfailed
  rw [results_execute]
  rcases visits_of_stop hstop context with ⟨hnone, _⟩ | ⟨earlier, last, heq, hlast, hearlier⟩
  · obtain ⟨visit, hvisit, hnot⟩ := List.all_eq_false.1 hfailed
    simp [hnone visit hvisit] at hnot
  · refine ⟨earlier.map (·.turn.result), last.turn.result, ?_, hlast, ?_⟩
    · rw [heq, List.map_append, List.map_singleton]
    · exact List.forall_mem_map.2 fun visit hvisit => hearlier visit hvisit

/-- The report, the metrics and the context of a run tell the same of its visits. -/
theorem accounts_execute :
    (pipeline.execute context metrics).Accounts pipeline context metrics where
  success := by
    rw [success_execute, results_execute]
    simp [Visit.isFailed]
  results := pipeline.results_execute context metrics
  steps := by
    have hvisited := steps_visitsFrom_prefix pipeline.stopOnError pipeline.steps context
    rw [results_execute, List.length_map, ← List.length_map (f := Visit.step)]
    exact List.prefix_iff_eq_take.1 hvisited
  complete := pipeline.length_results_execute context metrics
  stopped := pipeline.results_execute_of_stop context metrics
  succeeded := pipeline.counts_execute context metrics .succeeded
  failed := pipeline.counts_execute context metrics .failed
  skipped := pipeline.counts_execute context metrics .skipped
  complaints := by
    rw [length_flatMap_complaints, countP_results_execute]
    rfl

end Records

/-- The results of a run, its success, the counters, the history and the trail of errors agree,
whatever its steps do. Of the steps only as much is asked as that they leave the history to the run
and take no error back. -/
theorem execute_records_agree (pipeline : Pipeline) (context : Context) (metrics : Metrics) :
    let run := pipeline.execute context metrics
    run.Accounts pipeline context metrics ∧
    ((∀ step ∈ pipeline.steps, step.KeepsTrail) → run.Trail pipeline context) :=
  ⟨pipeline.accounts_execute context metrics, pipeline.trail_execute context metrics⟩

/-- A step that succeeds, one that is passed over and one that breaks off, before one that is not
reached. -/
def halted : Pipeline :=
  { name := "halted"
    steps := [
      Script.toStep
        { name := "first", actions := [.addError "odd price"], rollback := [.addError "taken back"] },
      Script.toStep { name := "optional", required := false, condition := .hasColumn "price" },
      Script.toStep { name := "broken", actions := [.addError "half way"], ending := .panic none },
      Script.toStep { name := "last" }]
    steps_ne_nil := List.cons_ne_nil _ _ }

/-- Of the five errors after the earlier one, the second and the fourth are the run's own. -/
theorem execute_records_agree_halted :
    let run := halted.execute (oneRow.addError "earlier") {}
    (∀ step ∈ halted.steps, step.KeepsTrail ∧ step.SignsResults) ∧
    run.success = false ∧
    run.metrics.stepsSucceeded = 1 ∧ run.metrics.stepsFailed = 1 ∧ run.metrics.stepsSkipped = 1 ∧
    run.context.history = [("first", .success), ("optional", .skipped), ("broken", .failed)] ∧
    run.errors = ["earlier", "odd price", "Input validation failed for step 'optional'", "half way",
      "Step 'broken' failed: step panicked: unknown panic", "taken back"] := by
  intro run
  have hscript (script : Script) : script.toStep.KeepsTrail ∧ script.toStep.SignsResults :=
    ⟨script.keepsTrail, script.signsResults⟩
  have hsteps : ∀ step ∈ halted.steps, step.KeepsTrail ∧ step.SignsResults := by
    simp only [halted, List.forall_mem_cons]
    exact ⟨hscript _, hscript _, hscript _, hscript _, by simp⟩
  obtain ⟨haccounts, htrail⟩ := execute_records_agree halted (oneRow.addError "earlier") {}
  have htrail := htrail fun step hstep => (hsteps step hstep).1
  have hhistory := htrail.signed fun step hstep => (hsteps step hstep).2
  refine ⟨hsteps, haccounts.success.2 ?_, haccounts.succeeded.trans ?_, haccounts.failed.trans ?_,
    haccounts.skipped.trans ?_, hhistory.trans ?_, htrail.errors.trans ?_⟩
  all_goals decide

end Pipeline

end PurchaseStatus
