import PurchaseStatus.Proofs.Engine.Split

namespace PurchaseStatus

variable {n : Nat} {task : LabelingTask} {rules : List Rule}

namespace Labeling

/-- A state from which some rules can be applied so that no check of theirs ever changes in a row that
is still unset: the columns that are rewritten on the way were text to begin with, if a check reads
them. -/
structure Stable (task : LabelingTask) (rules : List Rule) (first : Labeling n) : Prop where
  coherent : first.Coherent task
  fresh : first.Fresh
  status : ∃ values, first.batch.cells? task.statusColumn = some (.text values)
  named : ∀ rule ∈ rules, ∀ check ∈ rule.checks, check.WellNamed
  note : ∀ rule ∈ rules, ∀ check ∈ rule.checks, check.field? = some Schema.matchedNote →
    ∃ values, first.batch.cells? Schema.matchedNote = some (.text values)

/-- A state that has kept apart from the first one only what a run may change. -/
structure Reached (task : LabelingTask) (first state : Labeling n) : Prop where
  frame : Frame task first state
  coherent : state.Coherent task
  fresh : state.Fresh

theorem Stable.tail {rule : Rule} {first : Labeling n} (h : first.Stable task (rule :: rules)) :
    first.Stable task rules :=
  { h with
    named := fun other hother => h.named other (List.mem_cons_of_mem _ hother)
    note := fun other hother => h.note other (List.mem_cons_of_mem _ hother) }

/-- A run has reached its own beginning. -/
theorem Stable.reached {first : Labeling n} (h : first.Stable task rules) : Reached task first first :=
  ⟨.refl task first, h.coherent, h.fresh⟩

namespace Reached

variable {first state : Labeling n}

/-- A rule takes a run on from where it began. -/
theorem apply (hne : task.statusColumn ≠ Schema.matchedNote) (h : Reached task first state)
    (rule : Rule) : Reached task first (state.apply task rule) :=
  ⟨h.frame.trans (frame_apply task state rule), h.coherent.apply hne rule, h.fresh.apply rule⟩

/-- Any number of rules take a run on from where it began. -/
theorem applyAll (hne : task.statusColumn ≠ Schema.matchedNote) (h : Reached task first state)
    (rules : List Rule) : Reached task first (state.applyAll task rules) := by
  induction rules generalizing state with
  | nil => exact h
  | cons rule rest ih => exact ih (h.apply hne rule)

/-- Other masks do as well, if only `no_status` is another and covers the unset rows. -/
theorem withMasks (h : Reached task first state) {masks : Registry} (hits : List (String × Nat))
    (hmasks : ∀ name, name ≠ Builtin.noStatus.name → masks.get? name = first.masks.get? name)
    (hfresh : ({ state with masks, hits } : Labeling n).Fresh) :
    Reached task first { state with masks, hits } where
  frame := ⟨h.frame.unset, h.frame.status, h.frame.notes, h.frame.cells, h.frame.written, hmasks⟩
  coherent := ⟨h.coherent.status, h.coherent.blank⟩
  fresh := hfresh

theorem record (h : Reached task first state) (refresh : Bool) (id : String) (count : Nat) :
    Reached task first (state.record { task with refresh } id count) :=
  have hrecord := frame_record { task with refresh } state id count
  h.withMasks _ (fun name hname => (hrecord.masks name hname).trans (h.frame.masks name hname))
    (h.fresh.record id count)

/-- In the rows that are still unset a rule finds what it would have found at the beginning. -/
theorem mask?_agree (h : Reached task first state) (hfirst : first.Stable task rules) {rule : Rule}
    (hrule : rule ∈ rules) :
    Option.Rel (Series.AgreeOn (Series.within fun row => state.unset.get row = true))
      (rule.mask? (state.input task)) (rule.mask? (first.input task)) :=
  h.frame.mask?_agree hfirst.coherent h.coherent hfirst.fresh h.fresh hfirst.status
    (hfirst.named rule hrule) (hfirst.note rule hrule)

/-- No rule that has been applied claims a row that is unset at the end. -/
theorem not_claims_of_unset (hne : task.statusColumn ≠ Schema.matchedNote)
    (h : Reached task first state) (hfirst : first.Stable task rules) {row : Fin n}
    (hunset : (state.applyAll task rules).unset.get row = true) :
    ∀ rule ∈ rules, rule.claims task.kind (first.input task) row = false := by
  induction rules generalizing state with
  | nil => simp
  | cons rule rest ih =>
    have hstep : (state.apply task rule).unset.get row = true :=
      (frame_applyAll rest task (state.apply task rule)).unset row hunset
    refine List.forall_mem_cons.2 ⟨?_, ih (h.apply hne rule) hfirst.tail hunset⟩
    have hbefore := (frame_apply task state rule).unset row hstep
    have hclaims := h.frame.claims_eq hfirst.coherent h.coherent hfirst.fresh h.fresh hfirst.status
      (hfirst.named rule List.mem_cons_self) (hfirst.note rule List.mem_cons_self) hbefore
    rw [← hclaims]
    cases hclaim : rule.claims task.kind (state.input task) row with
    | false => rfl
    | true =>
      rw [(apply_of_claims hbefore hclaim).1] at hstep
      cases hstep

/-- A rule is evaluated by two runs or by neither, and one that claims none of the rows that are unset
only leaves a record of that. -/
theorem apply_again {rerun : Labeling n} (h : Reached task first state)
    (hrerun : Reached task first rerun) (hfirst : first.Stable task rules) {rule : Rule}
    (hrule : rule ∈ rules) (refresh : Bool)
    (hfree : ∀ row, rerun.unset.get row = true →
      rule.claims task.kind (first.input task) row = false) :
    state.apply task rule = state ∧ rerun.apply { task with refresh } rule = rerun ∨
    ∃ count, (state.apply task rule).hits = state.hits ++ [(rule.id, count)] ∧
      rerun.apply { task with refresh } rule = rerun.record { task with refresh } rule.id 0 := by
  have hagree := h.mask?_agree hfirst hrule
  have hagain := hrerun.mask?_agree hfirst hrule
  let again : LabelingTask := { task with refresh }
  cases hstatus : rule.labelFor? task.kind with
  | none =>
    have hstatus' : rule.labelFor? again.kind = none := hstatus
    exact .inl ⟨apply_of_no_status hstatus, apply_of_no_status hstatus'⟩
  | some status =>
    have hstatus' : rule.labelFor? again.kind = some status := hstatus
    rcases hagree.none_or_some with ⟨hmask, hmask₀⟩ | ⟨matched, _, hmask, hmask₀, _⟩
    · rcases hagain.none_or_some with ⟨hmask', _⟩ | ⟨_, _, _, hsome, _⟩
      · exact .inl ⟨apply_of_no_mask hmask, apply_of_no_mask hmask'⟩
      · cases hmask₀.symm.trans hsome
    · rcases hagain.none_or_some with ⟨_, hnone⟩ | ⟨matched', matched₀, hmask', hmask₀', hbits⟩
      · cases hmask₀.symm.trans hnone
      -- what the rule would claim in the second run, it would have claimed from the first state
      · have hnone : ¬ 0 < (Mask.and matched' rerun.unset).count := by
          rw [Mask.count_pos_iff]
          rintro ⟨row, hrow⟩
          rw [Mask.get_and, Bool.and_eq_true] at hrow
          have hclaims := Rule.claims_iff.2 ⟨status, matched₀, hstatus, hmask₀',
            (hbits row row ⟨rfl, hrow.2⟩).symm.trans hrow.1⟩
          rw [hfree row hrow.2] at hclaims
          cases hclaims
        have hmask' : rule.mask? (rerun.input again) = some matched' := hmask'
        refine .inr ⟨(Mask.and matched state.unset).count, ?_, ?_⟩
        · rw [apply_of_evaluated hstatus hmask]
          simp only [Labeling.record, claim]
          split <;> rfl
        · rw [apply_of_evaluated hstatus' hmask', claim, if_neg hnone, Nat.eq_zero_of_not_pos hnone]

/-- A run over the same rules that begins where no rule claims an unset row changes no column, and
records no row for each rule that the other run evaluates. -/
theorem applyAll_again {rerun : Labeling n} (hne : task.statusColumn ≠ Schema.matchedNote)
    (h : Reached task first state) (hrerun : Reached task first rerun)
    (hfirst : first.Stable task rules) (refresh : Bool)
    (hfree : ∀ row, rerun.unset.get row = true →
      ∀ rule ∈ rules, rule.claims task.kind (first.input task) row = false)
    (hhits : RuleStats.Sums state.hits state.hits rerun.hits) :
    (rerun.applyAll { task with refresh } rules).batch = rerun.batch ∧
    RuleStats.Sums (state.applyAll task rules).hits (state.applyAll task rules).hits
      (rerun.applyAll { task with refresh } rules).hits := by
  induction rules generalizing state rerun with
  | nil => exact ⟨rfl, hhits⟩
  | cons rule rest ih =>
    have hrest : ∀ row, rerun.unset.get row = true →
        ∀ rule ∈ rest, rule.claims task.kind (first.input task) row = false :=
      fun row hrow other hother => hfree row hrow other (List.mem_cons_of_mem _ hother)
    rcases h.apply_again hrerun hfirst List.mem_cons_self refresh
        (fun row hrow => hfree row hrow rule List.mem_cons_self) with
      ⟨hsame, hsame'⟩ | ⟨count, hcount, hrecord⟩
    · have hdone := ih h hrerun hfirst.tail hrest hhits
      simp only [Labeling.applyAll, List.foldl_cons, hsame, hsame'] at hdone ⊢
      exact hdone
    · have hone := hhits.append_one rule.id count 0
      rw [Nat.add_zero, ← hcount] at hone
      have hdone := ih (h.apply hne rule) (hrerun.record refresh rule.id 0) hfirst.tail hrest hone
      simp only [Labeling.applyAll, List.foldl_cons, hrecord] at hdone ⊢
      exact hdone

end Reached

end Labeling

namespace Engine

/-- Every run begins with such a state, if it has no mask `no_status` yet and the two columns that it
writes are text or, where no check names them, absent. -/
theorem stable_start (config : ConfigTree) (sectionPath : String) (rules : List RuleConfig)
    (batch : Batch n) (statusColumn : String) (context : RuleContext) (kind : RecordKind)
    (refresh : Bool) (hne : statusColumn ≠ Schema.matchedNote)
    (hmasks : context.masks.get? Builtin.noStatus.name = none)
    (hstatus : batch.cells? statusColumn = none ∨
      ∃ values, batch.cells? statusColumn = some (.text values))
    (hnote : (∀ written ∈ rules, ∀ check ∈ written.checks,
        (check.compile config).field? ≠ some Schema.matchedNote) ∨
      ∃ values, batch.cells? Schema.matchedNote = some (.text values)) :
    let engine := ofRules config sectionPath rules
    let task := engine.task statusColumn context kind refresh
    (Labeling.start task batch context.masks).Stable task engine.rules := by
  intro engine task
  refine ⟨Labeling.coherent_start task batch context.masks,
    Labeling.fresh_start_of_none task batch context.masks hmasks,
    Batch.exists_text_ensureText hstatus, fun rule hrule check => wellNamed_of_mem_ofRules hrule, ?_⟩
  intro rule hrule check hcheck hfield
  rcases hnote with hunread | ⟨values, hvalues⟩
  · obtain ⟨written, hwritten, check', hcheck', rfl⟩ := exists_written_check hrule hcheck
    exact absurd hfield (hunread written hwritten check' hcheck')
  · exact ⟨values, (Batch.cells?_ensureText_of_ne batch (Ne.symm hne)).trans hvalues⟩

/-- Applying the rules once more to what they have made changes nothing and labels no row, whether
the run goes on with the context of the first or begins with a copy of the original one. -/
theorem applyRules_rerun (config : ConfigTree) (sectionPath : String) (rules : List RuleConfig)
    (hlasting : ∀ written ∈ rules, (Rule.compile written config).Lasting) (batch : Batch n)
    (statusColumn : String) (context : RuleContext) (kind : RecordKind) (refresh refresh' : Bool)
    (hne : statusColumn ≠ Schema.matchedNote)
    (hmasks : context.masks.get? Builtin.noStatus.name = none)
    (hstatus : batch.cells? statusColumn = none ∨
      ∃ values, batch.cells? statusColumn = some (.text values))
    (hnote : (∀ written ∈ rules, ∀ check ∈ written.checks,
        (check.compile config).field? ≠ some Schema.matchedNote) ∨
      ∃ values, batch.cells? Schema.matchedNote = some (.text values)) :
    let engine := ofRules config sectionPath rules
    let run := engine.applyRules batch statusColumn context kind refresh
    ∀ again ∈ [run.context, context],
      let rerun := engine.applyRules run.batch statusColumn again kind refresh'
      rerun.batch = run.batch ∧ rerun.stats.names = run.stats.names ∧
      ∀ entry ∈ rerun.stats.entries, entry.2 = 0 := by
  intro engine run again hagain rerun
  let task := engine.task statusColumn context kind refresh
  let first := Labeling.start task batch context.masks
  let final := first.applyAll task engine.rules
  have hstable : first.Stable task engine.rules := stable_start config sectionPath rules batch
    statusColumn context kind refresh hne hmasks hstatus hnote
  have hfinal : Labeling.Reached task first final := hstable.reached.applyAll hne engine.rules
  have hexact : final.Exact task := by
    refine (Labeling.exact_start task batch context.masks).applyAll hne fun rule hrule => ?_
    obtain ⟨written, hwritten, rfl⟩ := mem_rules_ofRules.1 hrule
    exact hlasting written hwritten
  -- the second run begins where the first has ended, with one of two sets of masks
  have hsecond : Labeling.Reached task first { final with masks := again.masks, hits := [] } := by
    rcases List.mem_pair.1 hagain with rfl | rfl
    · exact hfinal.withMasks [] hfinal.frame.masks hfinal.fresh
    · refine hfinal.withMasks [] (fun _ _ => rfl) fun mask hmask => ?_
      simp [Registry.maskFor?, hmasks] at hmask
  have hfree : ∀ row, final.unset.get row = true →
      ∀ rule ∈ engine.rules, rule.claims task.kind (first.input task) row = false :=
    fun row hunset => hstable.reached.not_claims_of_unset hne hstable hunset
  obtain ⟨hbatch, hhits⟩ := hstable.reached.applyAll_again hne hsecond hstable refresh' hfree .nil
  have hrerun : engine.task statusColumn again kind refresh' = { task with refresh := refresh' } := by
    rcases List.mem_pair.1 hagain with rfl | rfl <;> rfl
  have hstart : Labeling.start (engine.task statusColumn again kind refresh') run.batch again.masks =
      { final with masks := again.masks, hits := [] } := by
    rw [hrerun]
    exact hexact.start_eq refresh' again.masks
  rw [← hrerun, ← hstart] at hbatch hhits
  have hsums : RuleStats.Sums run.stats.entries run.stats.entries rerun.stats.entries :=
    RunReport.sums_stats hhits
  have hstartBatch := congrArg Labeling.batch hstart
  exact ⟨hbatch.trans hstartBatch, hsums.names_right.symm, hsums.eq_zero_of_eq_left rfl⟩

/-- One of the rules reads the status column, which all of them write. -/
theorem applyRules_rerun_status_read :
    (∀ written ∈ firstPart ++ secondPart, (Rule.compile written .empty).Lasting) ∧
    "status" ≠ Schema.matchedNote ∧
    (∅ : Registry).get? Builtin.noStatus.name = none ∧
    (∃ values, overlappingBatch.cells? "status" = some (.text values)) ∧
    (∀ written ∈ firstPart ++ secondPart, ∀ check ∈ written.checks,
      (check.compile .empty).field? ≠ some Schema.matchedNote) ∧
    let engine := ofRules .empty "rules" (firstPart ++ secondPart)
    let run := engine.applyRules overlappingBatch "status" {} .order true
    run.stats = ⟨[("priority_2_seen", 2), ("priority_7_open", 1)]⟩ ∧
    ∀ again ∈ [run.context, {}],
      let rerun := engine.applyRules run.batch "status" again .order false
      rerun.batch = run.batch ∧ rerun.stats.names = ["priority_2_seen", "priority_7_open"] := by
  have hlasting : ∀ written ∈ firstPart ++ secondPart, (Rule.compile written .empty).Lasting := by
    decide
  have hnote : ∀ written ∈ firstPart ++ secondPart, ∀ check ∈ written.checks,
      (check.compile .empty).field? ≠ some Schema.matchedNote := by decide
  refine ⟨hlasting, by decide, rfl, ⟨_, rfl⟩, hnote, by decide, fun again hagain => ?_⟩
  obtain ⟨hbatch, hnames, _⟩ := applyRules_rerun .empty "rules" (firstPart ++ secondPart) hlasting
    overlappingBatch "status" {} .order true false (by decide) rfl (.inr ⟨_, rfl⟩) (.inl hnote) again
    hagain
  exact ⟨hbatch, hnames.trans (by decide)⟩

end Engine

end PurchaseStatus
