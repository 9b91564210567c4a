import PurchaseStatus.Proofs.Pipeline.Isolation
import Mathlib.Data.List.Forall2

namespace PurchaseStatus

/-- Steps that no run can tell apart. Both have one name, and whatever context they find their turns
are the same and so are their rollbacks. -/
structure Step.Alike (step other : Step) : Prop where
  name : other.name = step.name
  turn : ∀ context, other.turn context = step.turn context
  rollback : ∀ context reason, other.rollback context reason = step.rollback context reason

theorem Step.Alike.refl (step : Step) : step.Alike step := ⟨rfl, fun _ => rfl, fun _ _ => rfl⟩

/-- The same of steps in their positions. -/
structure PlacedStep.Alike (placed other : PlacedStep) : Prop where
  position : other.position = placed.position
  step : placed.step.Alike other.step

section Interchange

variable {undone others : List PlacedStep}

/-- Steps that behave alike are undone alike. -/
theorem rollBack_congr (reason : String) (h : List.Forall₂ PlacedStep.Alike undone others)
    (context : Context) : rollBack reason others context = rollBack reason undone context := by
  induction h generalizing context with
  | nil => rfl
  | cons hplaced _ ih =>
    simp only [rollBack, hplaced.position, hplaced.step.name, hplaced.step.rollback, ih]

/-- Two states of a run that differ in nothing but what completed, and there the steps are alike. -/
structure Progress.Alike (progress other : Progress) : Prop where
  same : other = { progress with completed := other.completed }
  completed : List.Forall₂ PlacedStep.Alike progress.completed other.completed

variable {progress other : Progress} {placed placed' : PlacedStep}

/-- Steps that behave alike are recorded alike. -/
theorem Progress.Alike.record (h : progress.Alike other) (hplaced : placed.Alike placed') (turn : Turn) :
    (progress.record placed turn).Alike (other.record placed' turn) where
  same := by
    rw [h.same]
    simp only [Progress.record, hplaced.step.name]
  completed := by
    unfold Progress.record
    dsimp only
    split
    · exact .cons hplaced h.completed
    · exact h.completed

/-- Steps that behave alike make the same run. -/
theorem runSteps_congr (pipeline : String) (stopOnError : Bool)
    {steps others : List PlacedStep} (hsteps : List.Forall₂ PlacedStep.Alike steps others)
    (h : progress.Alike other) :
    runSteps pipeline stopOnError others other = runSteps pipeline stopOnError steps progress := by
  -- both runs keep the same progress but for the steps that wait to be undone
  induction hsteps generalizing progress other with
  | nil =>
    rw [h.same]
    rfl
  | @cons placed placed' rest rest' hplaced _ ih =>
    have hcontext : other.context = progress.context := by rw [h.same]
    have hturn : placed'.step.turn other.context = placed.step.turn progress.context := by
      rw [hcontext, hplaced.step.turn]
    have hafter := h.record hplaced (placed.step.turn progress.context)
    simp only [runSteps, hturn]
    split
    · have hcompleted := List.Forall₂.cons hplaced h.completed
      rw [rollBack_congr _ hcompleted, hafter.same]
      rfl
    · exact ih hafter

end Interchange

namespace Pipeline

/-- Steps that behave alike do so in their places. -/
theorem forall₂_placedFrom {steps others : List Step} (h : List.Forall₂ Step.Alike steps others)
    (position : Nat) :
    List.Forall₂ PlacedStep.Alike (placedFrom position steps) (placedFrom position others) := by
  induction h generalizing position with
  | nil => exact .nil
  | cons hstep _ ih => exact .cons ⟨rfl, hstep⟩ (ih (position + 1))

/-- Of two pipelines of one name and kind whose steps are alike, the runs are the same. -/
theorem execute_congr (pipeline other : Pipeline) (hname : other.name = pipeline.name)
    (hstop : other.stopOnError = pipeline.stopOnError)
    (hsteps : List.Forall₂ Step.Alike pipeline.steps other.steps) (context : Context) (metrics : Metrics) :
    other.execute context metrics = pipeline.execute context metrics := by
  rw [execute, execute, hname, hstop]
  exact runSteps_congr _ _ (forall₂_placedFrom hsteps 0) ⟨rfl, .nil⟩

/-- The pipeline with another step at a position. -/
def modifyStep (pipeline : Pipeline) (position : Nat) (f : Step → Step) : Pipeline :=
  { pipeline with
    steps := pipeline.steps.modify position f
    steps_ne_nil := by
      rw [← List.length_pos_iff, List.length_modify, List.length_pos_iff]
      exact pipeline.steps_ne_nil }

/-- Changing one step into one that behaves alike changes the behaviour of none. -/
theorem forall₂_modify {f : Step → Step} (hf : ∀ step : Step, step.Alike (f step)) (steps : List Step)
    (position : Nat) : List.Forall₂ Step.Alike steps (steps.modify position f) := by
  induction steps generalizing position with
  | nil =>
    rw [List.modify_nil]
    exact .nil
  | cons step rest ih =>
    cases position with
    | zero =>
      rw [List.modify_zero_cons]
      exact .cons (hf step) (List.forall₂_same.2 fun other _ => .refl other)
    | succ position =>
      rw [List.modify_succ_cons]
      exact .cons (.refl step) (ih position)

end Pipeline

/-- What a panic says as an error. A payload that is no text has a text of its own. -/
def panicMessage (text : Option String) : String := "step panicked: " ++ text.getD "unknown panic"

/-- An error in the place of a panic. -/
def Ending.returningPanic : Ending → Ending
  | .panicked text => .failed ⟨panicMessage text, []⟩
  | .returned result => .returned result
  | .failed failure => .failed failure

/-- A panic has the result of the error that takes its place. -/
theorem Ending.result_returningPanic (ending : Ending) (step : String) :
    ending.returningPanic.result step = ending.result step := by
  cases ending <;> rfl

/-- The step that makes the same changes, but returns an error where this one panics. -/
def Step.returningPanics (step : Step) : Step :=
  { step with
    execute := fun context =>
      { step.execute context with ending := (step.execute context).ending.returningPanic } }

theorem Step.alike_returningPanics (step : Step) : step.Alike step.returningPanics where
  name := rfl
  turn context := by
    have hattempt : step.returningPanics.attempt context = step.attempt context := by
      simp only [attempt, returningPanics, Ending.result_returningPanic]
    unfold turn
    rw [hattempt]
    rfl
  rollback _ _ := rfl

namespace Visit

/-- The step is executed and panics, with a text or without one. -/
structure PanicsWith (visit : Visit) (text : Option String) : Prop where
  accepted : visit.step.accepts visit.found = true
  ending : (visit.step.execute visit.found).ending = .panicked text

/-- The step has failed with a message. Of its changes those to the data are taken back, and the message
stands in the trail of errors. -/
structure FailsWith (visit : Visit) (message : String) : Prop where
  result : visit.turn.result =
    { step := visit.step.name, status := .failed, message, error := some message }
  left :
    let worked := (visit.step.execute visit.found).context
    visit.left = { worked with
      data := visit.found.data
      errors := worked.errors ++ [s!"Step '{visit.step.name}' failed: {message}"]
      history := worked.history ++ [(visit.step.name, .failed)] }

/-- A step that panics fails with the message for the panic. -/
theorem PanicsWith.failsWith {visit : Visit} {text : Option String} (h : visit.PanicsWith text) :
    visit.FailsWith (panicMessage text) := by
  have hresult : (visit.step.turn visit.found).result =
      .failed visit.step.name ⟨panicMessage text, []⟩ := by
    rw [Step.turn_of_accepted h.accepted, Step.attempt, h.ending]
    rfl
  have hfailed : (visit.step.turn visit.found).result.isFailed = true := by
    rw [hresult]
    rfl
  have hcontext := visit.step.context_turn_of_failed visit.found hfailed
  rw [Step.worked, Step.complaint, if_pos h.accepted, if_pos h.accepted, hresult] at hcontext
  refine ⟨hresult, ?_⟩
  rw [left, turn, hcontext, hresult]
  rfl

end Visit

/-- A panic is handled like a returned error: with the one in the place of the other at any position, a
run has the same context, results, rollbacks and counters. The error is the text of the panic. -/
theorem Pipeline.execute_returningPanics (pipeline : Pipeline) (position : Nat) (context : Context)
    (metrics : Metrics) :
    (pipeline.modifyStep position Step.returningPanics).execute context metrics =
      pipeline.execute context metrics ∧
    ∀ visit ∈ pipeline.visits context, ∀ text, visit.PanicsWith text →
      visit.FailsWith (panicMessage text) := by
  have hsteps := forall₂_modify Step.alike_returningPanics pipeline.steps position
  have hrun := execute_congr pipeline (pipeline.modifyStep position Step.returningPanics) rfl rfl hsteps
  exact ⟨hrun context metrics, fun _ _ _ => Visit.PanicsWith.failsWith⟩

/-- Between a step that is rolled back after it and one that is not reached, a step panics when it has
made changes. -/
def Pipeline.interrupted : Pipeline :=
  { name := "interrupted"
    steps := [
      Script.toStep { name := "reserve", rollback := [.addError "released"] },
      Script.toStep
        { name := "print"
          actions := [.dropData, .setVariable "pages" (.int 3), .addError "half way"]
          ending := .panic (some "out of paper")
          rollback := [.addWarning "cleared"] },
      Script.toStep { name := "send" }]
    steps_ne_nil := List.cons_ne_nil _ _ }

/-- The second of three steps panics with a text, in a pipeline that stops there and undoes the first. -/
theorem Pipeline.execute_returningPanics_interrupted :
    let run := interrupted.execute oneRow {}
    (∃ visit ∈ interrupted.visits oneRow,
      visit.PanicsWith (some "out of paper") ∧ visit.FailsWith "step panicked: out of paper") ∧
    (interrupted.modifyStep 1 Step.returningPanics).execute oneRow {} = run ∧
    run.errors = ["half way", "Step 'print' failed: step panicked: out of paper", "released"] ∧
    run.rollbacks.map (·.reason) = List.replicate 2 "step panicked: out of paper" ∧
    run.context.data.rows = 1 := by
  intro run
  obtain ⟨hrun, hfails⟩ := execute_returningPanics interrupted 1 oneRow {}
  let reserve : Visit := ⟨interrupted.steps.get ⟨0, by decide⟩, oneRow⟩
  let print : Visit := ⟨interrupted.steps.get ⟨1, by decide⟩, reserve.left⟩
  have hvisits : interrupted.visits oneRow = [reserve, print] := rfl
  have hprint : print ∈ interrupted.visits oneRow := by simp [hvisits]
  have hpanics : print.PanicsWith (some "out of paper") := ⟨rfl, rfl⟩
  refine ⟨⟨print, hprint, hpanics, hfails print hprint _ hpanics⟩, hrun, ?_, ?_, ?_⟩
  · decide
  · decide
  · decide

end PurchaseStatus
