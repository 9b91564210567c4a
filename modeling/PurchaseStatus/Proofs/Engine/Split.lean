import PurchaseStatus.Proofs.Engine.FirstMatch
import PurchaseStatus.Proofs.Engine.Statistics

namespace PurchaseStatus

variable {n : Nat} {task : LabelingTask}

/-- The status of the rule, if it has one, is not blank, so that a row it labels is no longer unset. -/
def Rule.Lasting (rule : Rule) : Prop := ∀ status ∈ rule.status, isBlank (some status) = false

instance (rule : Rule) : Decidable rule.Lasting :=
  inferInstanceAs (Decidable (∀ status ∈ rule.status, isBlank (some status) = false))

namespace Labeling

/-- What a run carries along is what it could read again from its batch: the status column is there,
it holds the status, and the unset rows are those whose status is blank. -/
structure Exact (task : LabelingTask) (state : Labeling n) : Prop where
  column : state.batch.hasColumn task.statusColumn = true
  status : state.batch.textOrNulls task.statusColumn = state.status
  unset : state.unset = state.status.unset

/-- The state with further hits in front. -/
def after (earlier : List (String × Nat)) (state : Labeling n) : Labeling n :=
  { state with hits := earlier ++ state.hits }

namespace Exact

variable {state : Labeling n}

/-- An exact state is a coherent one. -/
theorem coherent (h : state.Exact task) : state.Coherent task where
  status := h.status
  blank row hrow := by
    rw [h.unset, Texts.get_unset] at hrow
    exact hrow

/-- A run that begins with the batch of a state begins with the state, but for the masks it is given
and the hits so far. -/
theorem start_eq (h : state.Exact task) (refresh : Bool) (masks : Registry) :
    start { task with refresh } state.batch masks = { state with masks, hits := [] } := by
  have hbatch : state.batch.ensureText task.statusColumn = state.batch :=
    Batch.ensureText_of_hasColumn h.column
  simp only [start, hbatch, h.status, ← h.unset]

/-- An exact state is where a run on its own batch would begin. -/
theorem after_start (h : state.Exact task) :
    (start task state.batch state.masks).after state.hits = state := by
  have hstart : start task state.batch state.masks = { state with hits := [] } :=
    h.start_eq task.refresh state.masks
  rw [hstart, after, List.append_nil]

/-- Claiming rows for a status that is not blank keeps the state exact. -/
theorem claim (hne : task.statusColumn ≠ Schema.matchedNote) (h : state.Exact task) (rows : Mask n)
    {status : String} (hlabel : isBlank (some status) = false) (note : String) :
    (state.claim task rows status note).Exact task where
  column := by
    unfold Labeling.claim
    split
    · simp only [label, Batch.hasColumn]
      rw [Batch.cells?_putText_of_ne _ hne, Batch.cells?_putText_self]
      rfl
    · exact h.column
  status := (h.coherent.claim hne rows status note).status
  unset := by
    apply Series.ext_get
    intro row
    rw [get_unset_claim, Texts.get_unset, get_status_claim, h.unset, Texts.get_unset]
    cases rows.get row with
    | false => simp
    | true => simp [hlabel]

/-- A rule with a lasting status keeps the state exact. -/
theorem apply (hne : task.statusColumn ≠ Schema.matchedNote) (h : state.Exact task) {rule : Rule}
    (hlasting : rule.Lasting) : (state.apply task rule).Exact task := by
  rcases apply_cases task state rule with hsame | ⟨status, matched, hstatus, _, heq⟩
  · rw [hsame]
    exact h
  · have hsome := (Rule.labelFor?_eq_some_iff.1 hstatus).2.2
    have hclaim := h.claim hne (matched.and state.unset) (hlasting status hsome) rule.note
    rw [heq]
    exact ⟨hclaim.column, hclaim.status, hclaim.unset⟩

/-- Rules with lasting statuses keep the state exact. -/
theorem applyAll (hne : task.statusColumn ≠ Schema.matchedNote) (h : state.Exact task)
    {rules : List Rule} (hlasting : ∀ rule ∈ rules, rule.Lasting) :
    (state.applyAll task rules).Exact task := by
  induction rules generalizing state with
  | nil => exact h
  | cons rule rest ih =>
    obtain ⟨hrule, hrest⟩ := List.forall_mem_cons.1 hlasting
    exact ih (h.apply hne hrule) hrest

end Exact

/-- A run begins in an exact state. -/
theorem exact_start (task : LabelingTask) (batch : Batch n) (masks : Registry) :
    (start task batch masks).Exact task where
  column := Batch.hasColumn_ensureText batch task.statusColumn
  status := rfl
  unset := rfl

/-- What was recorded before plays no part in claiming rows. -/
theorem after_claim (earlier : List (String × Nat)) (state : Labeling n) (rows : Mask n)
    (status note : String) : (state.after earlier).claim task rows status note =
      (state.claim task rows status note).after earlier := by
  unfold claim
  split <;> rfl

/-- What was recorded before stays in front. -/
theorem after_record (earlier : List (String × Nat)) (state : Labeling n) (id : String) (count : Nat) :
    (state.after earlier).record task id count = (state.record task id count).after earlier := by
  simp only [after, record, List.append_assoc]

/-- What a rule does to a state does not depend on the hits so far. -/
theorem after_apply (earlier : List (String × Nat)) (state : Labeling n) (rule : Rule) :
    (state.after earlier).apply task rule = (state.apply task rule).after earlier := by
  cases hstatus : rule.labelFor? task.kind with
  | none => rw [apply_of_no_status hstatus, apply_of_no_status hstatus]
  | some status =>
    have hinput : (state.after earlier).input task = state.input task := rfl
    cases hmatched : rule.mask? (state.input task) with
    | none => rw [apply_of_no_mask hmatched, apply_of_no_mask (hinput ▸ hmatched)]
    | some matched =>
      rw [apply_of_evaluated hstatus hmatched, apply_of_evaluated hstatus (hinput ▸ hmatched),
        ← after_record, ← after_claim]
      rfl

/-- Rules do the same behind whatever was recorded before. -/
theorem after_applyAll (earlier : List (String × Nat)) (state : Labeling n) (rules : List Rule) :
    (state.after earlier).applyAll task rules = (state.applyAll task rules).after earlier := by
  induction rules generalizing state with
  | nil => rfl
  | cons rule rest ih =>
    have hrest := ih (state.apply task rule)
    rw [← after_apply] at hrest
    exact hrest

/-- Rules can be applied by two runs, the second on what the first has left. -/
theorem applyAll_append_eq_after (task : LabelingTask) (hne : task.statusColumn ≠ Schema.matchedNote)
    (batch : Batch n) (masks : Registry) {first : List Rule} (second : List Rule)
    (hlasting : ∀ rule ∈ first, rule.Lasting) :
    let middle := (start task batch masks).applyAll task first
    (start task batch masks).applyAll task (first ++ second) =
      ((start task middle.batch middle.masks).applyAll task second).after middle.hits := by
  intro middle
  have hexact : middle.Exact task := (exact_start task batch masks).applyAll hne hlasting
  rw [← after_applyAll, hexact.after_start]
  exact List.foldl_append

end Labeling

namespace Engine

/-- A section can be split where no priority before the cut exceeds one behind it. The second part,
run on what the first has left, ends with the batch and the masks of the whole section, and the
statistics of the whole are those of the parts, merged. -/
theorem applyRules_append (config : ConfigTree) (sectionPath : String)
    (first second : List RuleConfig)
    (hpriority : ∀ a ∈ first, ∀ b ∈ second, a.priority ≤ b.priority)
    (hlasting : ∀ written ∈ first, (Rule.compile written config).Lasting)
    (batch : Batch n) (statusColumn : String) (hne : statusColumn ≠ Schema.matchedNote)
    (context : RuleContext) (kind : RecordKind) (refresh : Bool) :
    let whole := (ofRules config sectionPath (first ++ second)).applyRules batch statusColumn context
      kind refresh
    let earlier := (ofRules config sectionPath first).applyRules batch statusColumn context kind refresh
    let later := (ofRules config sectionPath second).applyRules earlier.batch statusColumn
      earlier.context kind refresh
    whole.batch = later.batch ∧ whole.context.masks = later.context.masks ∧
    whole.stats = earlier.stats.merge later.stats := by
  intro whole earlier later
  let task := (ofRules config sectionPath first).task statusColumn context kind refresh
  have hrules : (ofRules config sectionPath (first ++ second)).rules =
      (ofRules config sectionPath first).rules ++ (ofRules config sectionPath second).rules := by
    simp only [ofRules, List.map_append]
    refine byPriority_append fun a ha b hb => ?_
    obtain ⟨written, hwritten, rfl⟩ := List.mem_map.1 ha
    obtain ⟨written', hwritten', rfl⟩ := List.mem_map.1 hb
    exact hpriority written hwritten written' hwritten'
  have hfirst : ∀ rule ∈ (ofRules config sectionPath first).rules, rule.Lasting := by
    intro rule hrule
    obtain ⟨written, hwritten, rfl⟩ := mem_rules_ofRules.1 hrule
    exact hlasting written hwritten
  -- after the first part the state is where a run of the second part on its own would begin
  have hsplit := Labeling.applyAll_append_eq_after task hne batch context.masks
    (ofRules config sectionPath second).rules hfirst
  rw [← hrules] at hsplit
  have hbatch := congrArg Labeling.batch hsplit
  have hmasks := congrArg Labeling.masks hsplit
  refine ⟨hbatch, hmasks, ?_⟩
  have hhits : whole.report.hits = earlier.report.hits ++ later.report.hits :=
    congrArg Labeling.hits hsplit
  have hstats := RuleStats.addAll_append earlier.report.hits later.report.hits
  rw [← hhits] at hstats
  exact hstats

def firstPart : List RuleConfig := [
  { priority := 2, statusValue := some "seen", note := "item a",
    checks := [{ type := "equals", field := some "item", value := some (.string "a") }] },
  { priority := 1, statusValue := some "kept", checks := [{ type := "unknown" }] }]

/-- The first rule goes by the id of one in the first part, the second reads what that part has left. -/
def secondPart : List RuleConfig := [
  { priority := 2, statusValue := some "seen", note := "item b",
    checks := [{ type := "equals", field := some "item", value := some (.string "b") }] },
  { priority := 7, statusValue := some "open",
    checks := [{ type := "not_equals", field := some "status", value := some (.string "seen") }] }]

/-- The rows of the two rules that share an id are added under the place of the first. -/
theorem applyRules_append_shared_id :
    (∀ a ∈ firstPart, ∀ b ∈ secondPart, a.priority ≤ b.priority) ∧
    (∀ written ∈ firstPart, (Rule.compile written .empty).Lasting) ∧
    "status" ≠ Schema.matchedNote ∧
    ((ofRules .empty "rules" (firstPart ++ secondPart)).applyRules overlappingBatch "status" {} .order
      true).stats = ⟨[("priority_2_seen", 2), ("priority_7_open", 1)]⟩ := by
  refine ⟨by decide, by decide, by decide, ?_⟩
  rw [(applyRules_append .empty "rules" firstPart secondPart (by decide) (by decide) overlappingBatch
    "status" (by decide) {} .order true).2.2]
  decide

end Engine

end PurchaseStatus
