import PurchaseStatus.Proofs.Engine.Frame
import PurchaseStatus.Proofs.Engine.Priority

namespace PurchaseStatus

variable {n : Nat} {task : LabelingTask}

/-- Whether a rule that is evaluated on one input claims a row: it is for records of the kind, has
a status and a check, and its combined mask exists and is true in the row. -/
def Rule.claims (rule : Rule) (kind : RecordKind) (input : CheckInput n) (row : Fin n) : Bool :=
  rule.appliesTo kind && rule.status.isSome && !rule.checks.isEmpty &&
    (rule.mask? input).any (·.get row)

/-- A rule has a label to give if it is for records of the kind, has checks and has a status. -/
theorem Rule.labelFor?_eq_some_iff {rule : Rule} {kind : RecordKind} {status : String} :
    rule.labelFor? kind = some status ↔
      rule.appliesTo kind = true ∧ rule.checks.isEmpty = false ∧ rule.status = some status := by
  unfold labelFor?
  cases rule.appliesTo kind <;> cases rule.checks.isEmpty <;> simp

/-- A rule claims a row if it has a label to give and its mask includes the row. -/
theorem Rule.claims_iff {rule : Rule} {kind : RecordKind} {input : CheckInput n} {row : Fin n} :
    rule.claims kind input row = true ↔ ∃ status matched, rule.labelFor? kind = some status ∧
      rule.mask? input = some matched ∧ matched.get row = true := by
  simp only [claims, Bool.and_eq_true, Bool.not_eq_true', Option.isSome_iff_exists,
    Option.any_eq_true, labelFor?_eq_some_iff]
  constructor
  · rintro ⟨⟨⟨hkind, status, hstatus⟩, hchecks⟩, matched, hmatched, hrow⟩
    exact ⟨status, matched, ⟨hkind, hchecks, hstatus⟩, hmatched, hrow⟩
  · rintro ⟨status, matched, ⟨hkind, hchecks, hstatus⟩, hmatched, hrow⟩
    exact ⟨⟨⟨hkind, status, hstatus⟩, hchecks⟩, matched, hmatched, hrow⟩

/-- The status and the note of a row. -/
structure RowLabel where
  status : Option String
  note : Option String
  deriving DecidableEq

/-- The label of a row as it can be read in the batch. -/
def Batch.labelAt (batch : Batch n) (statusColumn : String) (row : Fin n) : RowLabel :=
  ⟨(batch.textOrNulls statusColumn).get row, (batch.textOrNulls Schema.matchedNote).get row⟩

/-- The label of a row by one look at the input. A row with a status keeps its label. Any other
takes that of the rule with the least priority, declared first among equals, that claims it. -/
def firstMatch (rules : List Rule) (kind : RecordKind) (input : CheckInput n) (row : Fin n) :
    RowLabel :=
  let present := input.batch.labelAt input.statusColumn row
  if isBlank present.status then
    match (rules.filter (·.claims kind input row)).minOn? (·.priority) with
    | some rule => ⟨rule.status, some rule.note⟩
    | none => present
  else present

namespace Labeling

/-- The label of a row as a run carries it along. -/
def labelAt (state : Labeling n) (row : Fin n) : RowLabel := ⟨state.status.get row, state.notes.get row⟩

/-- A run begins with the labels of its batch. -/
theorem labelAt_start (task : LabelingTask) (batch : Batch n) (masks : Registry) (row : Fin n) :
    (start task batch masks).labelAt row = batch.labelAt task.statusColumn row := by
  simp only [labelAt, notes, start, Batch.textOrNulls_ensureText, Batch.labelAt]

/-- The label in the batch and that of the run are the same while the status column holds what the run
carries along. -/
theorem Coherent.labelAt_batch {state : Labeling n} (h : state.Coherent task) (row : Fin n) :
    state.batch.labelAt task.statusColumn row = state.labelAt row := by
  rw [Batch.labelAt, h.status]
  rfl

/-- A row that is not set in between keeps its label. -/
theorem Frame.labelAt {before after : Labeling n} (h : Frame task before after) {row : Fin n}
    (hrow : before.unset.get row = after.unset.get row) : after.labelAt row = before.labelAt row := by
  rw [Labeling.labelAt, h.status row hrow, h.notes row hrow]
  rfl

/-- A row that is set stays as it is. -/
theorem labelAt_applyAll_of_set (rules : List Rule) {state : Labeling n} {row : Fin n}
    (hset : state.unset.get row = false) :
    (state.applyAll task rules).labelAt row = state.labelAt row := by
  have hframe := frame_applyAll rules task state
  refine hframe.labelAt ?_
  cases hafter : (state.applyAll task rules).unset.get row with
  | false => exact hset
  | true => simp [hframe.unset row hafter] at hset

/-- A rule gives its label to the unset rows that it claims. -/
theorem apply_of_claims {state : Labeling n} {rule : Rule} {row : Fin n}
    (hunset : state.unset.get row = true)
    (hclaims : rule.claims task.kind (state.input task) row = true) :
    (state.apply task rule).unset.get row = false ∧
    (state.apply task rule).labelAt row = ⟨rule.status, some rule.note⟩ := by
  obtain ⟨status, matched, hstatus, hmatched, hrow⟩ := Rule.claims_iff.1 hclaims
  have hrows : (matched.and state.unset).get row = true := by rw [Mask.get_and, hrow, hunset]; rfl
  rw [apply_of_evaluated hstatus hmatched]
  constructor
  · rw [record_unset, get_unset_claim, hrows]
    simp
  · rw [labelAt, record_status, record_notes, get_status_claim, get_notes_claim, if_pos hrows,
      if_pos hrows, (Rule.labelFor?_eq_some_iff.1 hstatus).2.2]

/-- A rule leaves the rows that it does not claim unset. -/
theorem apply_of_not_claims {state : Labeling n} {rule : Rule} {row : Fin n}
    (hunset : state.unset.get row = true)
    (hclaims : rule.claims task.kind (state.input task) row = false) :
    (state.apply task rule).unset.get row = true := by
  rcases apply_cases task state rule with hsame | ⟨status, matched, hstatus, hmatched, heq⟩
  · rw [hsame]
    exact hunset
  · have hrow : matched.get row = false := by
      cases hm : matched.get row with
      | false => rfl
      | true => simp [Rule.claims_iff.2 ⟨status, matched, hstatus, hmatched, hm⟩] at hclaims
    rw [heq, record_unset, get_unset_claim, Mask.get_and, hrow, hunset]
    rfl

section Untouched

variable {before after : Labeling n}

variable (h : Frame task before after) (hbefore : before.Coherent task)
  (hafter : after.Coherent task) (hfresh : before.Fresh) (hfresh' : after.Fresh)
  (hstatus : ∃ values, before.batch.cells? task.statusColumn = some (.text values))

include h hbefore hafter hfresh hfresh' hstatus

/-- A built-in check is, in the rows that are still unset, what it was before the run. -/
theorem Frame.builtin_agree (builtin : Builtin) :
    Option.Rel (Series.AgreeOn (Series.within fun row => after.unset.get row = true))
      (builtin.evaluate? (after.input task)) (builtin.evaluate? (before.input task)) := by
  by_cases hne : builtin = .noStatus
  · subst hne
    obtain ⟨new, hnew, hnewRows⟩ := exists_noStatus_mask hafter hfresh'
    obtain ⟨old, hold, holdRows⟩ := exists_noStatus_mask hbefore hfresh
    rw [hnew, hold]
    refine .some ?_
    rintro row _ ⟨rfl, hrow⟩
    rw [hnewRows row hrow, holdRows row (h.unset row hrow)]
  · refine Builtin.evaluate?_agree hne ⟨rfl, rfl, rfl, rfl⟩ ?_ ?_
    · intro column hcolumn
      refine h.agreeOn hbefore hafter ?_
      rintro (rfl | rfl)
      · exact hstatus
      · exact absurd hcolumn (Builtin.matchedNote_not_mem_fixedColumns builtin)
    · exact fun base hbase => Series.rel_agreeOn_of_eq _ (h.registered?_builtin hbase)

variable {rule : Rule} (hnamed : ∀ check ∈ rule.checks, check.WellNamed)
  (hnote : ∀ check ∈ rule.checks, check.field? = some Schema.matchedNote →
    ∃ values, before.batch.cells? Schema.matchedNote = some (.text values))

include hnamed hnote

/-- The combined mask of a rule is, in the rows that are still unset, what it was before the run,
although the batch and the mask `no_status` have changed. -/
theorem Frame.mask?_agree :
    Option.Rel (Series.AgreeOn (Series.within fun row => after.unset.get row = true))
      (rule.mask? (after.input task)) (rule.mask? (before.input task)) := by
  refine Rule.mask?_agree fun check hcheck => ?_
  refine Check.evaluate?_agree (hnamed check hcheck) ⟨rfl, rfl, rfl, rfl⟩ ?_ ?_ ?_
  · intro column hcolumn
    refine h.agreeOn hbefore hafter ?_
    rintro (rfl | rfl)
    · exact hstatus
    · exact hnote check hcheck hcolumn
  · exact fun builtin _ => h.builtin_agree hbefore hafter hfresh hfresh' hstatus builtin
  · intro name hname
    exact Series.rel_agreeOn_of_eq _ (h.registered?_of_other hname)

/-- Whether a rule claims an unset row does not depend on what the rules before it have done to others.
-/
theorem Frame.claims_eq {row : Fin n} (hunset : after.unset.get row = true) :
    rule.claims task.kind (after.input task) row = rule.claims task.kind (before.input task) row := by
  have hmask := h.mask?_agree hbefore hafter hfresh hfresh' hstatus hnamed hnote
  unfold Rule.claims
  rw [Mask.any_get_eq hmask ⟨rfl, hunset⟩]

end Untouched

/-- Where a rule claims a row or does not claim it at every point of a run alike, an unset row ends
with the label of the first of the remaining rules that claims it. -/
theorem labelAt_applyAll_of_invariant {P : Labeling n → Prop} {claimed : Rule → Bool} {row : Fin n}
    {rules : List Rule} (hstep : ∀ rule ∈ rules, ∀ state, P state → P (state.apply task rule))
    (hclaims : ∀ rule ∈ rules, ∀ state, P state → state.unset.get row = true →
      rule.claims task.kind (state.input task) row = claimed rule)
    {state : Labeling n} (hstate : P state) (hunset : state.unset.get row = true) :
    (state.applyAll task rules).labelAt row =
      match rules.find? claimed with
      | some rule => ⟨rule.status, some rule.note⟩
      | none => state.labelAt row := by
  induction rules generalizing state with
  | nil => rfl
  | cons rule rest ih =>
    obtain ⟨hclaimsRule, hclaimsRest⟩ := List.forall_mem_cons.1 hclaims
    obtain ⟨hstepRule, hstepRest⟩ := List.forall_mem_cons.1 hstep
    have hrule := hclaimsRule state hstate hunset
    cases hclaim : claimed rule with
    | true =>
      rw [hclaim] at hrule
      obtain ⟨hset, hlabel⟩ := apply_of_claims hunset hrule
      simp only [List.find?_cons, hclaim]
      exact (labelAt_applyAll_of_set rest hset).trans hlabel
    | false =>
      rw [hclaim] at hrule
      have hstill := apply_of_not_claims hunset hrule
      have hrest := ih hstepRest hclaimsRest (hstepRule state hstate) hstill
      rw [(frame_apply task state rule).labelAt (hunset.trans hstill.symm)] at hrest
      simp only [List.find?_cons, hclaim]
      exact hrest

/-- A row that is unset at some point of a run ends with the label of the first of the remaining
rules that claims it on the input with which the run began. -/
theorem labelAt_applyAll_of_unset (hne : task.statusColumn ≠ Schema.matchedNote)
    {first : Labeling n} (hfirst : first.Coherent task) (hfirstFresh : first.Fresh)
    (hstatus : ∃ values, first.batch.cells? task.statusColumn = some (.text values))
    {rules : List Rule} (hnamed : ∀ rule ∈ rules, ∀ check ∈ rule.checks, check.WellNamed)
    (hnote : ∀ rule ∈ rules, ∀ check ∈ rule.checks, check.field? = some Schema.matchedNote →
      ∃ values, first.batch.cells? Schema.matchedNote = some (.text values))
    {state : Labeling n} (hframe : Frame task first state) (hcoherent : state.Coherent task)
    (hfresh : state.Fresh) {row : Fin n} (hunset : state.unset.get row = true) :
    (state.applyAll task rules).labelAt row =
      match rules.find? (·.claims task.kind (first.input task) row) with
      | some rule => ⟨rule.status, some rule.note⟩
      | none => state.labelAt row := by
  -- the state after some rules may differ from the first one everywhere but in unset rows
  let P (state : Labeling n) : Prop := Frame task first state ∧ state.Coherent task ∧ state.Fresh
  have hstep : ∀ rule ∈ rules, ∀ state, P state → P (state.apply task rule) := by
    rintro rule _ state ⟨hframe, hcoherent, hfresh⟩
    exact ⟨hframe.trans (frame_apply task state rule), hcoherent.apply hne rule, hfresh.apply rule⟩
  refine labelAt_applyAll_of_invariant hstep ?_ ⟨hframe, hcoherent, hfresh⟩ hunset
  rintro rule hrule state ⟨hframe, hcoherent, hfresh⟩ hunset
  exact hframe.claims_eq hfirst hcoherent hfirstFresh hfresh hstatus (hnamed rule hrule)
    (hnote rule hrule) hunset

/-- A run from its start gives every row the label that one look at its start gives it. -/
theorem labelAt_applyAll_start (task : LabelingTask) (hne : task.statusColumn ≠ Schema.matchedNote)
    (batch : Batch n) {masks : Registry} (hfresh : (start task batch masks).Fresh)
    (hstatus : ∃ values, (batch.ensureText task.statusColumn).cells? task.statusColumn =
      some (.text values))
    {rules : List Rule} (hnamed : ∀ rule ∈ rules, ∀ check ∈ rule.checks, check.WellNamed)
    (hnote : ∀ rule ∈ rules, ∀ check ∈ rule.checks, check.field? = some Schema.matchedNote →
      ∃ values, (batch.ensureText task.statusColumn).cells? Schema.matchedNote = some (.text values))
    (row : Fin n) :
    ((start task batch masks).applyAll task rules).labelAt row =
      if isBlank ((start task batch masks).labelAt row).status then
        match rules.find? (·.claims task.kind ((start task batch masks).input task) row) with
        | some rule => ⟨rule.status, some rule.note⟩
        | none => (start task batch masks).labelAt row
      else (start task batch masks).labelAt row := by
  have hcoherent := coherent_start task batch masks
  have hbit : (start task batch masks).unset.get row =
      isBlank ((start task batch masks).labelAt row).status := Texts.get_unset _ row
  rw [← hbit]
  cases hunset : (start task batch masks).unset.get row with
  | false => exact labelAt_applyAll_of_set rules hunset
  | true =>
    exact labelAt_applyAll_of_unset hne hcoherent hfresh hstatus hnamed hnote (.refl task _)
      hcoherent hfresh hunset

/-- A row that no rule claims at the start of a run keeps its label. -/
theorem labelAt_applyAll_start_of_unclaimed (task : LabelingTask)
    (hne : task.statusColumn ≠ Schema.matchedNote) (batch : Batch n) {masks : Registry}
    (hfresh : (start task batch masks).Fresh)
    (hstatus : ∃ values, (batch.ensureText task.statusColumn).cells? task.statusColumn =
      some (.text values))
    {rules : List Rule} (hnamed : ∀ rule ∈ rules, ∀ check ∈ rule.checks, check.WellNamed)
    (hnote : ∀ rule ∈ rules, ∀ check ∈ rule.checks, check.field? = some Schema.matchedNote →
      ∃ values, (batch.ensureText task.statusColumn).cells? Schema.matchedNote = some (.text values))
    {row : Fin n} (hunclaimed : ∀ rule ∈ rules,
      rule.claims task.kind ((start task batch masks).input task) row = false) :
    ((start task batch masks).applyAll task rules).labelAt row =
      (start task batch masks).labelAt row := by
  have hnone : rules.find? (·.claims task.kind ((start task batch masks).input task) row) = none := by
    refine List.find?_eq_none.2 fun rule hrule => ?_
    rw [hunclaimed rule hrule]
    exact Bool.false_ne_true
  rw [labelAt_applyAll_start task hne batch hfresh hstatus hnamed hnote row, hnone]
  exact ite_self _

end Labeling

namespace Engine

/-- The rules of an engine are the declared ones, compiled. -/
theorem mem_rules_ofRules {config : ConfigTree} {sectionPath : String} {rules : List RuleConfig}
    {rule : Rule} : rule ∈ (ofRules config sectionPath rules).rules ↔
      ∃ written ∈ rules, Rule.compile written config = rule := by
  simp only [ofRules, byPriority, mem_sortBy, List.mem_map]

/-- Every check of an engine is the compiled form of one that was written. -/
theorem exists_written_check {config : ConfigTree} {sectionPath : String} {rules : List RuleConfig}
    {rule : Rule} (hrule : rule ∈ (ofRules config sectionPath rules).rules) {check : Check}
    (hcheck : check ∈ rule.checks) :
    ∃ written ∈ rules, ∃ check' ∈ written.checks, check'.compile config = check := by
  obtain ⟨written, hwritten, rfl⟩ := mem_rules_ofRules.1 hrule
  obtain ⟨check', hcheck', rfl⟩ := List.mem_map.1 hcheck
  exact ⟨written, hwritten, check', hcheck', rfl⟩

/-- In a compiled rule no check takes a mask under the name of a built-in one. -/
theorem wellNamed_of_mem_ofRules {config : ConfigTree} {sectionPath : String}
    {rules : List RuleConfig} {rule : Rule} (hrule : rule ∈ (ofRules config sectionPath rules).rules)
    {check : Check} (hcheck : check ∈ rule.checks) : check.WellNamed := by
  obtain ⟨_, _, check', _, rfl⟩ := exists_written_check hrule hcheck
  exact CheckConfig.wellNamed_compile check' config

/-- Applying rules one after another, each on the batch that the rules before it have rewritten,
gives every row the label that one look at the batch gives it, once its status column is there. -/
theorem labelAt_applyRules (config : ConfigTree) (sectionPath : String) (rules : List RuleConfig)
    (batch : Batch n) (statusColumn : String) (context : RuleContext) (kind : RecordKind)
    (refresh : Bool) (hne : statusColumn ≠ Schema.matchedNote)
    (hmasks : context.masks.get? Builtin.noStatus.name = none)
    (hstatus : batch.cells? statusColumn = none ∨
      ∃ values, batch.cells? statusColumn = some (.text values))
    (hnote : (∀ written ∈ rules, ∀ check ∈ written.checks,
        (check.compile config).field? ≠ some Schema.matchedNote) ∨
      ∃ values, batch.cells? Schema.matchedNote = some (.text values))
    (row : Fin n) :
    ((ofRules config sectionPath rules).applyRules batch statusColumn context kind
      refresh).batch.labelAt statusColumn row =
    firstMatch (rules.map (Rule.compile · config)) kind
      { batch := batch.ensureText statusColumn, statusColumn, date := context.date,
        entity := context.entity, config, masks := context.masks } row := by
  let engine := ofRules config sectionPath rules
  let task := engine.task statusColumn context kind refresh
  let first := Labeling.start task batch context.masks
  have hcoherent : first.Coherent task := Labeling.coherent_start task batch context.masks
  have htext : ∃ values, (batch.ensureText statusColumn).cells? statusColumn = some (.text values) := by
    rcases hstatus with habsent | ⟨values, hvalues⟩
    · exact ⟨.constant n none, Batch.cells?_ensureText_of_absent habsent⟩
    · exact ⟨values, (Batch.cells?_ensureText_of_present hvalues).trans hvalues⟩
  have hnoteText : ∀ rule ∈ engine.rules, ∀ check ∈ rule.checks,
      check.field? = some Schema.matchedNote →
      ∃ values, (batch.ensureText statusColumn).cells? Schema.matchedNote = some (.text values) := by
    intro rule hrule check hcheck hfield
    rcases hnote with hunread | ⟨values, hvalues⟩
    · obtain ⟨written, hwritten, rfl⟩ := mem_rules_ofRules.1 hrule
      obtain ⟨check', hcheck', rfl⟩ := List.mem_map.1 hcheck
      exact absurd hfield (hunread written hwritten check' hcheck')
    · exact ⟨values, (Batch.cells?_ensureText_of_ne batch (Ne.symm hne)).trans hvalues⟩
  -- with the masks of the caller, only those of a missing status might be out of date
  have hrun := Labeling.labelAt_applyAll_start task hne batch
    (Labeling.fresh_start_of_none task batch context.masks hmasks) htext
    (fun rule hrule check => wellNamed_of_mem_ofRules hrule) hnoteText row
  change (first.applyAll task engine.rules).batch.labelAt task.statusColumn row =
    firstMatch (rules.map (Rule.compile · config)) kind (first.input task) row
  rw [(hcoherent.applyAll engine.rules hne).labelAt_batch, hrun, ← hcoherent.labelAt_batch, firstMatch,
    ← find?_byPriority]
  rfl

/-- Four rules that overlap: two of one priority, one with a blank label, one that reads what the
others have left. -/
def overlappingRules : List RuleConfig := [
  { priority := 5, statusValue := some "open", note := "left over",
    checks := [{ type := "no_status" }] },
  { priority := 1, statusValue := some "",
    checks := [{ type := "equals", field := some "item", value := some (.string "b") }] },
  { priority := 1, statusValue := some "tie",
    checks := [{ type := "equals", field := some "item", value := some (.string "b") }] },
  { priority := 2, statusValue := some "seen", note := "item a", combine := .or,
    checks := [{ type := "equals", field := some "item", value := some (.string "a") },
      { type := "unknown" }] }]

def overlappingBatch : Batch 4 :=
  ⟨⟨[("item", .text ⟨[some "a", some "a", some "b", none], rfl⟩),
    ("status", .text ⟨[some "done", none, some "NaN", some ""], rfl⟩)]⟩⟩

def overlappingLabels : Series RowLabel 4 :=
  ⟨[⟨some "done", none⟩, ⟨some "seen", some "item a"⟩, ⟨some "", some ""⟩,
    ⟨some "open", some "left over"⟩], rfl⟩

/-- The label before, the lesser priority, the earlier declaration and the last resort each win in one
row, and the blank label stays. -/
theorem labelAt_applyRules_overlapping :
    "status" ≠ Schema.matchedNote ∧
    (∅ : Registry).get? Builtin.noStatus.name = none ∧
    (∃ values, overlappingBatch.cells? "status" = some (.text values)) ∧
    (∀ written ∈ overlappingRules, ∀ check ∈ written.checks,
      (check.compile .empty).field? ≠ some Schema.matchedNote) ∧
    ∀ row, ((ofRules .empty "rules" overlappingRules).applyRules overlappingBatch "status" {} .order
      true).batch.labelAt "status" row = overlappingLabels.get row := by
  have hnote : ∀ written ∈ overlappingRules, ∀ check ∈ written.checks,
      (check.compile .empty).field? ≠ some Schema.matchedNote := by decide
  refine ⟨by decide, rfl, ⟨_, rfl⟩, hnote, fun row => ?_⟩
  rw [labelAt_applyRules .empty "rules" overlappingRules overlappingBatch "status" {} .order true
    (by decide) rfl (.inr ⟨_, rfl⟩) (.inl hnote) row]
  revert row
  decide

end Engine

end PurchaseStatus
