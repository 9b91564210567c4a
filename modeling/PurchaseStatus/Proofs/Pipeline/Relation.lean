import PurchaseStatus.Pipeline.Execution

namespace PurchaseStatus

/-- A relation between the contexts at the two ends of a stretch of a run. The history does not
count. -/
structure RunRelation (R : Context → Context → Prop) : Prop where
  refl : ∀ context, R context context
  trans : ∀ {before middle after}, R before middle → R middle after → R before after
  record : ∀ context step status, R context (context.recordStep step status)

/-- A step whose turns and rollbacks stay within a relation. -/
structure Step.Respects (step : Step) (R : Context → Context → Prop) : Prop where
  turn : ∀ context, R context (step.turn context).context
  rollback : ∀ context reason, R context (step.rollback context reason)

variable {R : Context → Context → Prop}

namespace RunRelation

variable (h : RunRelation R)

include h

/-- What the rollback of every step stays within, undoing them all does. -/
theorem rollBack (reason : String) {steps : List PlacedStep}
    (hsteps : ∀ placed ∈ steps, placed.step.Respects R) (context : Context) :
    R context (PurchaseStatus.rollBack reason steps context).1 := by
  induction steps generalizing context with
  | nil => exact h.refl context
  | cons placed rest ih =>
    have hfirst := (hsteps placed List.mem_cons_self).rollback context reason
    exact h.trans hfirst (ih (fun other hother => hsteps other (List.mem_cons_of_mem _ hother)) _)

/-- From the context of a run to the one it leaves the relation holds, whether or not a failure
ends it. The steps that may be rolled back are those that have completed. -/
theorem runSteps (pipeline : String) (stopOnError : Bool) {steps : List PlacedStep}
    (progress : Progress) (hsteps : ∀ placed ∈ steps, placed.step.Respects R)
    (hcompleted : ∀ placed ∈ progress.completed, placed.step.Respects R) :
    R progress.context (PurchaseStatus.runSteps pipeline stopOnError steps progress).context := by
  induction steps generalizing progress with
  | nil => exact h.refl progress.context
  | cons placed rest ih =>
    have hplaced := hsteps placed List.mem_cons_self
    have hturn : R progress.context
        (progress.record placed (placed.step.turn progress.context)).context :=
      h.trans (hplaced.turn progress.context) (h.record _ _ _)
    simp only [PurchaseStatus.runSteps]
    split
    · refine h.trans hturn (h.rollBack _ ?_ _)
      exact List.forall_mem_cons.2 ⟨hplaced, hcompleted⟩
    · refine h.trans hturn (ih _ (fun other hother => hsteps other (List.mem_cons_of_mem _ hother)) ?_)
      intro other hother
      simp only [Progress.record] at hother
      split at hother
      · rcases List.mem_cons.1 hother with rfl | hother
        · exact hplaced
        · exact hcompleted other hother
      · exact hcompleted other hother

end RunRelation

/-- A step in its place is one of the steps. -/
theorem Pipeline.step_mem_of_mem_placedFrom {steps : List Step} {position : Nat} {placed : PlacedStep}
    (hplaced : placed ∈ placedFrom position steps) : placed.step ∈ steps := by
  induction steps generalizing position with
  | nil => cases hplaced
  | cons step rest ih =>
    rcases List.mem_cons.1 hplaced with rfl | hrest
    · exact List.mem_cons_self
    · exact List.mem_cons_of_mem _ (ih hrest)

/-- What every step stays within, the run of a pipeline does. -/
theorem Pipeline.rel_execute (h : RunRelation R) (pipeline : Pipeline)
    (hsteps : ∀ step ∈ pipeline.steps, step.Respects R) (context : Context) (metrics : Metrics) :
    R context (pipeline.execute context metrics).context := by
  have hplaced : ∀ placed ∈ placedFrom 0 pipeline.steps, placed.step.Respects R :=
    fun placed hmem => hsteps placed.step (step_mem_of_mem_placedFrom hmem)
  refine h.runSteps pipeline.name pipeline.stopOnError { context, metrics } hplaced ?_
  intro placed hmem
  cases hmem

end PurchaseStatus
