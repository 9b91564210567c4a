import PurchaseStatus.Proofs.Engine.SharedContext
import PurchaseStatus.Proofs.Engine.Turns

namespace PurchaseStatus

variable {n : Nat}

namespace Labeling

variable {task : LabelingTask}

/-- Without refreshing, a rule registers no mask. -/
theorem masks_apply_of_not_refresh (hrefresh : task.refresh = false) (state : Labeling n) (rule : Rule) :
    (state.apply task rule).masks = state.masks := by
  rcases apply_cases task state rule with hsame | ⟨status, matched, _, _, heq⟩
  · rw [hsame]
  · rw [heq]
    simp [record, hrefresh]

/-- Without refreshing, rules register no masks. -/
theorem masks_applyAll_of_not_refresh (hrefresh : task.refresh = false) (state : Labeling n)
    (rules : List Rule) : (state.applyAll task rules).masks = state.masks := by
  induction rules generalizing state with
  | nil => rfl
  | cons rule rest ih =>
    rw [applyAll_cons, ih, masks_apply_of_not_refresh hrefresh]

end Labeling

/-- What calls in one context leave there: where they have marked the unset rows, the mask `no_status`
has one bit for each row, true where the status is blank; otherwise no mask has changed. Nothing else
changes either way. -/
structure RuleContext.Leaves (before after : RuleContext) (status : Texts n) (marked : Prop) : Prop where
  right : marked → after.masks.get? Builtin.noStatus.name = some (status.unset.toList.map some)
  kept : ¬marked → after.masks = before.masks
  others : ∀ name, name ≠ Builtin.noStatus.name → after.masks.get? name = before.masks.get? name
  date : after.date = before.date
  entity : after.entity = before.entity

/-- Two calls, one after another. What the first has marked must still be right where the second marks
nothing. -/
theorem RuleContext.Leaves.andThen {before middle after : RuleContext} {status status' : Texts n}
    {marked marked' : Prop} (hfirst : before.Leaves middle status marked)
    (hsecond : middle.Leaves after status' marked') (hstill : ¬marked' → status' = status) :
    before.Leaves after status' (marked ∨ marked') where
  right := by
    intro hmarked
    by_cases hlast : marked'
    · exact hsecond.right hlast
    · rw [hsecond.kept hlast, hstill hlast]
      exact hfirst.right (hmarked.resolve_right hlast)
  kept := by
    intro hnone
    obtain ⟨hnot, hnot'⟩ := not_or.1 hnone
    rw [hsecond.kept hnot', hfirst.kept hnot]
  others name hname := (hsecond.others name hname).trans (hfirst.others name hname)
  date := hsecond.date.trans hfirst.date
  entity := hsecond.entity.trans hfirst.entity

namespace EngineCall

open Engine (ofRules firstPart overlappingBatch)

variable (engine : Engine) (call : EngineCall)

/-- Some rule is evaluated at its turn. -/
def Evaluates : Prop := ∃ turn ∈ call.turns engine, turn.isEvaluated (call.task engine) = true

instance : Decidable (call.Evaluates engine) :=
  inferInstanceAs (Decidable (∃ turn ∈ call.turns engine, turn.isEvaluated (call.task engine) = true))

variable {engine call}

/-- A call in which no rule is evaluated changes nothing. -/
theorem stateAfter_of_not_evaluates (hnone : ¬call.Evaluates engine) :
    call.stateAfter engine (call.rulesOf engine) = call.start engine := by
  refine Labeling.applyAll_of_none_evaluated (call.task engine) (call.start engine) fun turn hturn => ?_
  exact Bool.eq_false_iff.2 fun hevaluated => hnone ⟨turn, hturn, hevaluated⟩

/-- A call that evaluates no rule may add the status column, but the statuses stay what they were. -/
theorem statusAfter_of_not_evaluates (hnone : ¬call.Evaluates engine) :
    call.statusAfter engine = call.statusBefore := by
  have hrun := call.run_eq engine
  rw [stateAfter_of_not_evaluates hnone] at hrun
  rw [statusAfter, hrun]
  exact Batch.textOrNulls_ensureText call.data.batch call.statusColumn call.statusColumn

/-- A rule that is evaluated is recorded. -/
theorem hits_ne_nil_of_evaluates (hevaluates : call.Evaluates engine) :
    (call.stateAfter engine (call.rulesOf engine)).hits ≠ [] := by
  obtain ⟨turn, hturn, hevaluated⟩ := hevaluates
  have hmem : turn ∈ call.evaluatedTurns engine := List.mem_filter.2 ⟨hturn, hevaluated⟩
  have hhits : (call.stateAfter engine (call.rulesOf engine)).hits = [] ++
      (call.evaluatedTurns engine).map fun turn => (turn.rule.id, (turn.rows (call.task engine)).count) :=
    Labeling.hits_applyAll (call.task engine) (call.start engine) (call.rulesOf engine)
  rw [hhits, List.nil_append]
  exact fun hnil => List.ne_nil_of_mem hmem (List.map_eq_nil_iff.1 hnil)

/-- A call that evaluates a rule and keeps the mask up to date leaves one that is true in the rows
without a status. -/
theorem get?_noStatus_of_evaluates (hrefresh : call.refresh = true) (hevaluates : call.Evaluates engine) :
    (call.stateAfter engine (call.rulesOf engine)).Tracked := by
  have htask : (call.task engine).refresh = true := hrefresh
  rcases Labeling.applyAll_eq_or_tracked htask (call.start engine) (call.rulesOf engine) with
    hsame | ⟨_, htracked⟩
  · -- the state of the start holds no record, and an evaluated rule leaves one
    have hnil : (call.stateAfter engine (call.rulesOf engine)).hits = [] := by
      rw [stateAfter, hsame]
      rfl
    exact absurd hnil (hits_ne_nil_of_evaluates hevaluates)
  · exact htracked

/-- A call that does not refresh the masks, or evaluates no rule, leaves them as they are. -/
theorem masks_run_of_not_marked (hnone : ¬(call.refresh = true ∧ call.Evaluates engine)) :
    (call.run engine).context.masks = call.context.masks := by
  rw [call.run_eq engine]
  by_cases hevaluates : call.Evaluates engine
  · have hrefresh : (call.task engine).refresh = false :=
      Bool.eq_false_iff.2 fun hrefresh => hnone ⟨hrefresh, hevaluates⟩
    exact Labeling.masks_applyAll_of_not_refresh hrefresh (call.start engine) (call.rulesOf engine)
  · rw [stateAfter_of_not_evaluates hevaluates]
    rfl

/-- A call leaves in the mask for a missing status the rows that are without a status after it, and in
the context nothing else that is new; it leaves no mask at all where it does not refresh or evaluates no
rule. -/
theorem leaves_run (hne : call.statusColumn ≠ Schema.matchedNote)
    (hlasting : ∀ rule ∈ call.rulesOf engine, rule.Lasting) :
    call.context.Leaves (call.run engine).context (call.statusAfter engine)
      (call.refresh = true ∧ call.Evaluates engine) where
  right := by
    rintro ⟨hrefresh, hevaluates⟩
    have htracked := get?_noStatus_of_evaluates hrefresh hevaluates
    rw [(call.leavesUnset_stateAfter engine).status hne hlasting, call.run_eq engine]
    exact htracked
  kept := masks_run_of_not_marked
  others := by
    intro name hname
    have hframe := Labeling.frame_applyAll (call.rulesOf engine) (call.task engine) (call.start engine)
    rw [call.run_eq engine]
    exact hframe.masks name hname
  date := by rw [call.run_eq engine]
  entity := by rw [call.run_eq engine]

variable (engine call)

/-- Fallbacks that are applied to what a call has returned, in the context that it has left. -/
def thenFallbacks (labels : List Fallback) : EngineCall :=
  { call with
    request := .fallbacks labels
    data := ⟨call.data.rows, (call.run engine).batch⟩
    context := (call.run engine).context }

/-- A call, and so fallbacks after it, leave the mask `no_status` right, if they have evaluated a rule
that refreshes it, and the context otherwise as it was. -/
theorem leaves_marks (hne : call.statusColumn ≠ Schema.matchedNote)
    (hlasting : ∀ rule ∈ call.rulesOf engine, rule.Lasting) (labels : List Fallback)
    (hlabels : ∀ label ∈ labels, isBlank (some label.status) = false) :
    call.context.Leaves (call.run engine).context (call.statusAfter engine)
      (call.refresh = true ∧ call.Evaluates engine) ∧
    let next := call.thenFallbacks engine labels
    call.context.Leaves (next.run engine).context (next.statusAfter engine)
      (call.refresh = true ∧ call.Evaluates engine ∨ next.Evaluates engine) := by
  have hfirst : call.context.Leaves (call.run engine).context (call.statusAfter engine)
    (call.refresh = true ∧ call.Evaluates engine) := leaves_run hne hlasting
  refine ⟨hfirst, ?_⟩
  intro next
  have hnext : ∀ rule ∈ next.rulesOf engine, rule.Lasting := by
    intro rule hrule status hstatus
    obtain ⟨label, hlabel, rfl⟩ := List.mem_map.1 hrule
    cases hstatus
    exact hlabels label hlabel
  have hsecond : next.context.Leaves (next.run engine).context (next.statusAfter engine)
    (next.refresh = true ∧ next.Evaluates engine) := leaves_run hne hnext
  have hrefresh : (next.refresh = true ∧ next.Evaluates engine) ↔ next.Evaluates engine :=
    and_iff_right rfl
  rw [hrefresh] at hsecond
  exact hfirst.andThen hsecond statusAfter_of_not_evaluates

/-- A call in a context that holds the mask of another batch, and one that has nothing to do with it. -/
def staleCall : EngineCall :=
  { request := .rules true, data := ⟨4, overlappingBatch⟩, statusColumn := "status",
    context := { date := some 202503,
                 masks := ⟨[(Builtin.noStatus.name, [some true]), ("flagged", [none])]⟩ },
    kind := .order, seconds := 0 }

def labelForItemB : Fallback :=
  { status := "rest", note := "", check := some (.equals (some "item") (some (.text "b")) false) }

/-- Two rows are left by the rules, and one of them by the label after them. -/
theorem leaves_marks_staleCall :
    let engine := ofRules .empty "rules" firstPart
    let next := staleCall.thenFallbacks engine [labelForItemB]
    staleCall.statusColumn ≠ Schema.matchedNote ∧
    (∀ rule ∈ staleCall.rulesOf engine, rule.Lasting) ∧
    (∀ label ∈ [labelForItemB], isBlank (some label.status) = false) ∧
    (staleCall.run engine).context.masks.get? Builtin.noStatus.name =
      some [some false, some false, some true, some true] ∧
    (next.run engine).context.masks.get? Builtin.noStatus.name =
      some [some false, some false, some false, some true] ∧
    (next.run engine).context.masks.get? "flagged" = some [none] ∧
    (next.run engine).context.date = some 202503 := by
  intro engine next
  have hne : staleCall.statusColumn ≠ Schema.matchedNote := by decide
  have hlasting : ∀ rule ∈ staleCall.rulesOf engine, rule.Lasting := by decide
  have hlabels : ∀ label ∈ [labelForItemB], isBlank (some label.status) = false := by decide
  obtain ⟨hfirst, hboth⟩ := leaves_marks engine staleCall hne hlasting [labelForItemB] hlabels
  refine ⟨hne, hlasting, hlabels, ?_, ?_, ?_, ?_⟩
  · exact (hfirst.right ⟨rfl, by decide⟩).trans (by decide)
  · exact (hboth.right (.inl ⟨rfl, by decide⟩)).trans (by decide)
  · exact hboth.others "flagged" (by decide)
  · exact hboth.date

end EngineCall

end PurchaseStatus
