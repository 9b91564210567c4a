import PurchaseStatus.Proofs.Step.Loading
import PurchaseStatus.Step.AccrualStage
import PurchaseStatus.Step.FirstStage

namespace PurchaseStatus

/-- An execution that comes to a result: one that is no success leaves the context as it was, and a
success has its whole effect. -/
structure Execution.Atomic (step : String) (before : Context) (effect : Context → StepResult → Prop)
    (execution : Execution) : Prop where
  ended : ∀ text, execution.ending ≠ .panicked text
  unchanged : (execution.ending.result step).isSuccess = false → execution.context = before
  changed : (execution.ending.result step).isSuccess = true →
    effect execution.context (execution.ending.result step)

namespace Execution

variable {step : String} {before after : Context} {effect : Context → StepResult → Prop}
  {runs : List RunReport}

/-- A failure that leaves the context alone is atomic. -/
theorem atomic_of_failed (failure : Failure) :
    Atomic step before effect ⟨before, .failed failure, runs⟩ where
  ended _ := Ending.noConfusion
  unchanged _ := rfl
  changed hsuccess := by cases hsuccess

/-- A step that is skipped leaves the context alone. -/
theorem atomic_of_skipped {result : StepResult} (hskipped : result.isSuccess = false) :
    Atomic step before effect ⟨before, .returned result, runs⟩ where
  ended _ := Ending.noConfusion
  unchanged _ := rfl
  changed hsuccess := by cases hskipped.symm.trans hsuccess

/-- A success has its effect. -/
theorem atomic_of_success {result : StepResult} (hsuccess : result.isSuccess = true)
    (heffect : effect after result) : Atomic step before effect ⟨after, .returned result, runs⟩ where
  ended _ := Ending.noConfusion
  unchanged hfailed := by cases hsuccess.symm.trans hfailed
  changed _ := heffect

/-- There is nothing between no effect and the whole of it. -/
theorem Atomic.unchanged_or_changed {execution : Execution}
    (h : execution.Atomic step before effect) : execution.context = before ∨
      effect execution.context (execution.ending.result step) := by
  cases hsuccess : (execution.ending.result step).isSuccess with
  | false => exact .inl (h.unchanged hsuccess)
  | true => exact .inr (h.changed hsuccess)

end Execution

/-- The data is replaced by that of a result, and nothing else in the context changes, neither the
auxiliary datasets nor the variables. -/
structure Context.TakesData (before after : Context) (result : StepResult) : Prop where
  data : result.data = some after.data
  rest : after = before.withData after.data

/-- The first stage takes its data over as a whole or leaves the context alone. -/
theorem FirstStage.execute_atomic (stage : FirstStage) (context : Context) :
    (stage.execute context).Atomic FirstStage.stepName context context.TakesData := by
  unfold execute
  split
  · exact Execution.atomic_of_skipped rfl
  · split
    · exact Execution.atomic_of_failed _
    · exact Execution.atomic_of_success rfl ⟨rfl, rfl⟩

/-- The accrual stage takes its data over as a whole or leaves the context alone. -/
theorem AccrualStage.execute_atomic (stage : AccrualStage) (context : Context) :
    (stage.execute context).Atomic AccrualStage.stepName context context.TakesData := by
  unfold execute
  split
  · exact Execution.atomic_of_failed _
  · dsimp only
    split
    · exact Execution.atomic_of_failed _
    · exact Execution.atomic_of_success rfl ⟨rfl, rfl⟩

namespace AuxiliaryLoad

variable (load : AuxiliaryLoad) {arrivals : List AuxiliarySource} (context : Context)

/-- The sources of reference data are all stored or none is, in whichever order they arrive. -/
theorem conclude_atomic (harrivals : arrivals.Perm load.sources) :
    (load.conclude arrivals context).Atomic load.name context
      fun after _ => load.Stores arrivals context after := by
  by_cases hok : ∀ source ∈ arrivals, ∃ data, source.outcome = .ok data
  · rw [load.conclude_of_ok context hok]
    have hsuccess : (result load.name (datasets arrivals)).isSuccess = true := by
      rw [result_eq]
      rfl
    exact Execution.atomic_of_success hsuccess (load.stores_store context harrivals hok)
  · have hfailures : failures arrivals ≠ [] := mt failures_eq_nil_iff.1 hok
    rw [load.conclude_of_failures context hfailures]
    exact Execution.atomic_of_failed _

end AuxiliaryLoad

/-- Each step of the library does all of its work or none, whatever context it is given and in whatever
order auxiliary datasets arrive. -/
theorem shipped_steps_atomic (context : Context) :
    (∀ stage : FirstStage,
      (stage.execute context).Atomic FirstStage.stepName context context.TakesData) ∧
    (∀ stage : AccrualStage,
      (stage.execute context).Atomic AccrualStage.stepName context context.TakesData) ∧
    ∀ (load : AuxiliaryLoad) (arrivals : List AuxiliarySource), arrivals.Perm load.sources →
      (load.conclude arrivals context).Atomic load.name context
        fun after _ => load.Stores arrivals context after :=
  ⟨fun stage => stage.execute_atomic context, fun stage => stage.execute_atomic context,
    fun load _ => load.conclude_atomic context⟩

/-- Two sources of one name. -/
def AuxiliaryLoad.sameNamed : AuxiliaryLoad :=
  { name := "same named"
    sources := [⟨"closing_list", .ok ⟨0, ⟨⟨[]⟩⟩⟩⟩, ⟨"closing_list", .ok ⟨3, ⟨⟨[]⟩⟩⟩⟩] }

/-- Of the two the first arrives last and is stored. As it is empty, the first stage is passed over,
and without accounts the second stage fails. -/
theorem shipped_steps_atomic_same_named :
    let load := AuxiliaryLoad.sameNamed
    let start := Context.start ⟨0, ⟨⟨[]⟩⟩⟩ "spx" 202501 .order
    let context := (load.conclude load.sources.reverse start).context
    load.sources.reverse.Perm load.sources ∧
    (context.auxiliary? "closing_list").map (·.rows) = some 0 ∧
    ((FirstStage.ofConfig .empty).execute context).context = context ∧
    ((AccrualStage.ofConfig .empty).execute context).context = context := by
  intro load start context
  have hreverse := List.reverse_perm load.sources
  obtain ⟨_, _, hload⟩ := shipped_steps_atomic start
  obtain ⟨hfirst, haccrual, _⟩ := shipped_steps_atomic context
  have hstores := (hload load _ hreverse).changed (by decide)
  obtain ⟨last, _, hlast, _, hstored⟩ :=
    hstores.stored ⟨"closing_list", .ok ⟨0, ⟨⟨[]⟩⟩⟩⟩ List.mem_cons_self
  cases hlast
  refine ⟨hreverse, congrArg (Option.map (·.rows)) hstored, ?_, ?_⟩
  · exact (hfirst (.ofConfig .empty)).unchanged (by decide)
  · exact (haccrual (.ofConfig .empty)).unchanged (by decide)

/-- The steps of the library. Auxiliary datasets arrive in any order. -/
inductive Step.IsShipped : Step → Prop where
  | auxiliaryLoad (load : AuxiliaryLoad) {arrivals : List AuxiliarySource}
      (harrivals : arrivals.Perm load.sources) :
      IsShipped { load.toStep with execute := load.conclude arrivals }
  | firstStage (stage : FirstStage) : IsShipped stage.toStep
  | accrualStage (stage : AccrualStage) : IsShipped stage.toStep
  | unmetered {step : Step} (hstep : IsShipped step) : IsShipped step.unmetered

theorem AuxiliaryLoad.isShipped_toStep (load : AuxiliaryLoad) : load.toStep.IsShipped :=
  .auxiliaryLoad load (.refl load.sources)

namespace Step.IsShipped

variable {step : Step}

/-- The shipped steps have nothing to undo. -/
theorem rollback_eq (h : step.IsShipped) (context : Context) (reason : String) :
    step.rollback context reason = context := by
  induction h with
  | auxiliaryLoad | firstStage | accrualStage => rfl
  | unmetered _ ih => exact ih

/-- Of the context, no more than the data and the auxiliary data are another. -/
theorem context_execute (h : step.IsShipped) (context : Context) :
    ∃ data auxiliary, (step.execute context).context = { context with data, auxiliary } := by
  induction h with
  | auxiliaryLoad load harrivals =>
    rcases (load.conclude_atomic context harrivals).unchanged_or_changed with hsame | hstored
    · exact ⟨context.data, context.auxiliary, hsame⟩
    · exact ⟨context.data, _, hstored.rest⟩
  | firstStage stage =>
    rcases (stage.execute_atomic context).unchanged_or_changed with hsame | htaken
    · exact ⟨context.data, context.auxiliary, hsame⟩
    · exact ⟨_, context.auxiliary, htaken.rest⟩
  | accrualStage stage =>
    rcases (stage.execute_atomic context).unchanged_or_changed with hsame | htaken
    · exact ⟨context.data, context.auxiliary, hsame⟩
    · exact ⟨_, context.auxiliary, htaken.rest⟩
  | unmetered _ ih => exact ih

end Step.IsShipped

end PurchaseStatus
