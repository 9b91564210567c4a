import PurchaseStatus.Proofs.Engine.FirstMatch
import PurchaseStatus.Step.AccrualStage

namespace PurchaseStatus

variable {n : Nat} {task : LabelingTask}

namespace Registry

/-- Registers masks one after another. -/
def registerAll (masks : Registry) (entries : List (String × Mask n)) : Registry :=
  entries.foldl (fun masks (name, mask) => masks.register name mask) masks

/-- Under a name stands one of the masks that were registered for it, or what stood there before. -/
theorem maskFor?_registerAll (masks : Registry) (entries : List (String × Mask n)) (name : String) :
    (∃ mask, (name, mask) ∈ entries ∧ (masks.registerAll entries).maskFor? n name = some mask) ∨
    ((∀ mask, (name, mask) ∉ entries) ∧
      (masks.registerAll entries).maskFor? n name = masks.maskFor? n name) := by
  induction entries generalizing masks with
  | nil => exact .inr ⟨by simp, rfl⟩
  | cons entry rest ih =>
    obtain ⟨other, first⟩ := entry
    change (∃ mask, _ ∧ ((masks.register other first).registerAll rest).maskFor? n name = _) ∨
      (_ ∧ ((masks.register other first).registerAll rest).maskFor? n name = _)
    rcases ih (masks.register other first) with ⟨mask, hmem, hmask⟩ | ⟨hnone, hsame⟩
    · exact .inl ⟨mask, List.mem_cons_of_mem _ hmem, hmask⟩
    · by_cases hname : name = other
      · subst hname
        rw [maskFor?_register_self] at hsame
        exact .inl ⟨first, List.mem_cons_self, hsame⟩
      · rw [maskFor?_register_of_ne masks hname] at hsame
        refine .inr ⟨fun mask hmem => ?_, hsame⟩
        rcases List.mem_cons.1 hmem with heq | hmem
        · exact hname (congrArg Prod.fst heq)
        · exact hnone mask hmem

end Registry

/-- What is precomputed are the masks of the built-in checks that can be evaluated. -/
theorem mem_precompute {input : CheckInput n} {builtins : List Builtin} {name : String} {mask : Mask n} :
    (name, mask) ∈ precompute input builtins ↔
      ∃ builtin ∈ builtins, builtin.name = name ∧ builtin.evaluate? input = some mask := by
  simp only [precompute, List.mem_filterMap, Option.map_eq_some_iff, Prod.mk.injEq]
  constructor
  · rintro ⟨builtin, hmem, found, hfound, rfl, rfl⟩
    exact ⟨builtin, hmem, rfl, hfound⟩
  · rintro ⟨builtin, hmem, rfl, hfound⟩
    exact ⟨builtin, hmem, mask, hfound, rfl, rfl⟩

/-- The input with some built-in checks evaluated on it and registered. -/
def CheckInput.precomputed (input : CheckInput n) (builtins : List Builtin) : CheckInput n :=
  { input with masks := input.masks.registerAll (precompute input builtins) }

namespace CheckInput

variable (input : CheckInput n) (builtins : List Builtin)

/-- For a built-in check there is what it evaluates to, or what was registered before. -/
theorem registered?_precomputed (builtin : Builtin) :
    (builtin.evaluate? input).isSome = true ∧
      (input.precomputed builtins).registered? builtin.name = builtin.evaluate? input ∨
    (input.precomputed builtins).registered? builtin.name = input.registered? builtin.name := by
  rcases input.masks.maskFor?_registerAll (precompute input builtins) builtin.name with
    ⟨mask, hmem, hmask⟩ | ⟨_, hsame⟩
  · obtain ⟨other, _, hname, hother⟩ := mem_precompute.1 hmem
    cases Builtin.name_injective hname
    exact .inl ⟨by rw [hother]; rfl, hmask.trans hother.symm⟩
  · exact .inr hsame

/-- Masks under other names are not touched. -/
theorem registered?_precomputed_of_other {name : String} (hname : Builtin.ofName? name = none) :
    (input.precomputed builtins).registered? name = input.registered? name := by
  rcases input.masks.maskFor?_registerAll (precompute input builtins) name with
    ⟨mask, hmem, _⟩ | ⟨_, hsame⟩
  · obtain ⟨builtin, _, rfl, _⟩ := mem_precompute.1 hmem
    rw [Builtin.ofName?_name] at hname
    cases hname
  · exact hsame

end CheckInput

namespace Builtin

variable (input : CheckInput n) (builtins : List Builtin)

/-- A check whose own logic finds the same with precomputed masks comes to the same with them. -/
theorem evaluate?_precomputed_of_compute? (builtin : Builtin)
    (hcompute : builtin.compute? (input.precomputed builtins) = builtin.compute? input) :
    builtin.evaluate? (input.precomputed builtins) = builtin.evaluate? input := by
  unfold evaluate?
  rcases input.registered?_precomputed builtins builtin with ⟨hsome, heq⟩ | hsame
  · rw [heq, Option.or_of_isSome hsome]
    rfl
  · rw [hsame, hcompute]

/-- A built-in check evaluates to the same whether or not checks have been evaluated before on the
same input. A derived check sees the same base mask. -/
theorem evaluate?_precomputed (builtin : Builtin) :
    builtin.evaluate? (input.precomputed builtins) = builtin.evaluate? input := by
  refine evaluate?_precomputed_of_compute? input builtins builtin ?_
  cases builtin with
  | qtyNotMatched =>
    have hbase := evaluate?_precomputed_of_compute? input builtins qtyMatched rfl
    exact congrArg (Option.map Mask.not) hbase
  | notFa =>
    have hbase := evaluate?_precomputed_of_compute? input builtins isFa rfl
    exact congrArg (Option.map Mask.not) hbase
  | _ => rfl

end Builtin

namespace Labeling

/-- A run leaves the built-in checks alone that read neither the status nor the note column. -/
theorem Frame.builtin_eq {before after : Labeling n} (h : Frame task before after) {builtin : Builtin}
    (hne : builtin ≠ .noStatus) (hfixed : task.statusColumn ∉ builtin.fixedColumns) :
    builtin.evaluate? (after.input task) = builtin.evaluate? (before.input task) := by
  refine Series.eq_of_rel_agreeOn (Builtin.evaluate?_agree hne ⟨rfl, rfl, rfl, rfl⟩ ?_ ?_)
  · intro column hcolumn
    refine Batch.agreeOn_of_cells?_eq _ (h.cells column ?_ ?_)
    · rintro rfl
      exact hfixed hcolumn
    · rintro rfl
      exact Builtin.matchedNote_not_mem_fixedColumns builtin hcolumn
  · exact fun base hbase => Series.rel_agreeOn_of_eq _ (h.registered?_builtin hbase)

/-- Two runs that differ in their registered masks only, and in these so that no unset row is told
apart: built-in checks other than `no_status` evaluate to the same, masks under other names are the
same, and where the masks `no_status` differ both cover all unset rows. -/
structure Twin (task : LabelingTask) (plain fast : Labeling n) : Prop where
  same : ∃ masks, fast = { plain with masks }
  builtins : ∀ builtin : Builtin, builtin ≠ .noStatus →
    builtin.evaluate? (fast.input task) = builtin.evaluate? (plain.input task)
  others : ∀ name, Builtin.ofName? name = none →
    (fast.input task).registered? name = (plain.input task).registered? name
  noStatus : (fast.input task).registered? Builtin.noStatus.name =
      (plain.input task).registered? Builtin.noStatus.name ∨ fast.Fresh ∧ plain.Fresh

/-- Masks play no part in claiming rows. -/
theorem claim_with_masks (state : Labeling n) (masks : Registry) (rows : Mask n)
    (status note : String) : ({ state with masks } : Labeling n).claim task rows status note =
      { state.claim task rows status note with masks } := by
  unfold claim
  split <;> rfl

/-- After a rule the mask for a missing status is that of the unset rows, or the one before it. -/
theorem registered?_record_claim_noStatus (state : Labeling n) (rows : Mask n)
    (status note id : String) (count : Nat) :
    (((state.claim task rows status note).record task id count).input task).registered?
      Builtin.noStatus.name =
    if task.refresh then some (state.claim task rows status note).unset
    else (state.input task).registered? Builtin.noStatus.name := by
  simp only [CheckInput.registered?, input, record, claim_masks]
  split
  · exact Registry.maskFor?_register_self _ _ _
  · rfl

namespace Twin

variable {plain fast : Labeling n}

theorem batch_eq (h : Twin task plain fast) : fast.batch = plain.batch := by
  obtain ⟨masks, rfl⟩ := h.same
  rfl

theorem unset_eq (h : Twin task plain fast) : fast.unset = plain.unset := by
  obtain ⟨masks, rfl⟩ := h.same
  rfl

theorem hits_eq (h : Twin task plain fast) : fast.hits = plain.hits := by
  obtain ⟨masks, rfl⟩ := h.same
  rfl

/-- A run beside a coherent one is coherent. -/
theorem coherent (h : Twin task plain fast) (hcoherent : plain.Coherent task) :
    fast.Coherent task := by
  obtain ⟨masks, rfl⟩ := h.same
  exact ⟨hcoherent.status, hcoherent.blank⟩

/-- The check for a missing status may go by a mask in one run and by the column in the other, and says
the same of every row that is unset. -/
theorem noStatus_agree (h : Twin task plain fast) (hcoherent : plain.Coherent task) :
    Option.Rel (Series.AgreeOn (Series.within fun row => plain.unset.get row = true))
      (Builtin.noStatus.evaluate? (fast.input task)) (Builtin.noStatus.evaluate? (plain.input task)) := by
  have hfastCoherent := h.coherent hcoherent
  have hnoStatus := h.noStatus
  obtain ⟨masks, rfl⟩ := h.same
  rcases hnoStatus with heq | ⟨hfast, hplain⟩
  · refine Series.rel_agreeOn_of_eq _ ?_
    rw [Builtin.evaluate?, heq]
    rfl
  · obtain ⟨mask, hmask, hrows⟩ := exists_noStatus_mask hfastCoherent hfast
    obtain ⟨mask', hmask', hrows'⟩ := exists_noStatus_mask hcoherent hplain
    rw [hmask, hmask']
    refine .some ?_
    rintro row _ ⟨rfl, hrow⟩
    rw [hrows row hrow, hrows' row hrow]

/-- In the rows that are still unset both runs see the same combined mask of a rule. -/
theorem mask?_agree (h : Twin task plain fast) (hcoherent : plain.Coherent task) {rule : Rule}
    (hnamed : ∀ check ∈ rule.checks, check.WellNamed) :
    Option.Rel (Series.AgreeOn (Series.within fun row => plain.unset.get row = true))
      (rule.mask? (fast.input task)) (rule.mask? (plain.input task)) := by
  refine Rule.mask?_agree fun check hcheck => ?_
  refine Check.evaluate?_agree (hnamed check hcheck) ⟨rfl, rfl, rfl, rfl⟩ ?_ ?_ ?_
  · intro column _
    exact Batch.agreeOn_of_cells?_eq _ (congrArg (Batch.cells? · column) h.batch_eq)
  · intro builtin _
    by_cases hne : builtin = .noStatus
    · subst hne
      exact h.noStatus_agree hcoherent
    · exact Series.rel_agreeOn_of_eq _ (h.builtins builtin hne)
  · intro name hname
    exact Series.rel_agreeOn_of_eq _ (h.others name hname)

/-- A rule does the same in both runs: nothing, or claim the same rows. -/
theorem apply_cases (h : Twin task plain fast) (hcoherent : plain.Coherent task) {rule : Rule}
    (hnamed : ∀ check ∈ rule.checks, check.WellNamed) :
    fast.apply task rule = fast ∧ plain.apply task rule = plain ∨
    ∃ status rows,
      fast.apply task rule = (fast.claim task rows status rule.note).record task rule.id rows.count ∧
      plain.apply task rule =
        (plain.claim task rows status rule.note).record task rule.id rows.count := by
  have hagree := h.mask?_agree hcoherent hnamed
  cases hstatus : rule.labelFor? task.kind with
  | none => exact .inl ⟨apply_of_no_status hstatus, apply_of_no_status hstatus⟩
  | some status =>
    rcases hagree.none_or_some with ⟨hfast, hplain⟩ | ⟨matched, matched', hfast, hplain, hbits⟩
    · exact .inl ⟨apply_of_no_mask hfast, apply_of_no_mask hplain⟩
    · have hrows : Mask.and matched fast.unset = Mask.and matched' plain.unset := by
        apply Series.ext_get
        intro row
        rw [Mask.get_and, Mask.get_and, h.unset_eq]
        cases hrow : plain.unset.get row with
        | false => simp
        | true => rw [hbits row row ⟨rfl, hrow⟩]
      refine .inr ⟨status, Mask.and matched' plain.unset, ?_, apply_of_evaluated hstatus hplain⟩
      rw [apply_of_evaluated hstatus hfast, hrows]

/-- One rule keeps two runs alike. The stale mask `no_status` of the one differs from that of the
other only in rows that are set. -/
theorem apply (h : Twin task plain fast) (hcoherent : plain.Coherent task)
    (hfixed : ∀ builtin : Builtin, task.statusColumn ∉ builtin.fixedColumns) {rule : Rule}
    (hnamed : ∀ check ∈ rule.checks, check.WellNamed) :
    Twin task (plain.apply task rule) (fast.apply task rule) where
  same := by
    have hcases := h.apply_cases hcoherent hnamed
    obtain ⟨masks, rfl⟩ := h.same
    rcases hcases with ⟨hfast, hplain⟩ | ⟨status, rows, hfast, hplain⟩
    · rw [hfast, hplain]
      exact ⟨masks, rfl⟩
    · rw [hfast, hplain, claim_with_masks]
      exact ⟨_, rfl⟩
  builtins builtin hne := by
    rw [(frame_apply task fast rule).builtin_eq hne (hfixed builtin), h.builtins builtin hne,
      (frame_apply task plain rule).builtin_eq hne (hfixed builtin)]
  others name hname := by
    rw [(frame_apply task fast rule).registered?_of_other hname, h.others name hname,
      (frame_apply task plain rule).registered?_of_other hname]
  noStatus := by
    have hcases := h.apply_cases hcoherent hnamed
    rcases h.noStatus with heq | ⟨hfresh, hfresh'⟩
    · refine .inl ?_
      rcases hcases with ⟨hfast, hplain⟩ | ⟨status, rows, hfast, hplain⟩
      · rw [hfast, hplain, heq]
      · rw [hfast, hplain, registered?_record_claim_noStatus, registered?_record_claim_noStatus, heq]
        obtain ⟨masks, rfl⟩ := h.same
        rw [claim_with_masks]
    · exact .inr ⟨hfresh.apply rule, hfresh'.apply rule⟩

/-- With precomputed masks and without, all rules do the same. -/
theorem applyAll (h : Twin task plain fast) (hcoherent : plain.Coherent task)
    (hne : task.statusColumn ≠ Schema.matchedNote)
    (hfixed : ∀ builtin : Builtin, task.statusColumn ∉ builtin.fixedColumns) {rules : List Rule}
    (hnamed : ∀ rule ∈ rules, ∀ check ∈ rule.checks, check.WellNamed) :
    Twin task (plain.applyAll task rules) (fast.applyAll task rules) := by
  induction rules generalizing plain fast with
  | nil => exact h
  | cons rule rest ih =>
    have hrule := h.apply hcoherent hfixed (hnamed rule List.mem_cons_self)
    refine ih hrule (hcoherent.apply hne rule) ?_
    exact fun other hother => hnamed other (List.mem_cons_of_mem _ hother)

/-- Checks that are evaluated before a run begins leave it alike. -/
theorem start_precomputed (task : LabelingTask) (batch : Batch n) (masks : Registry) (builtins : List Builtin) :
    Twin task (start task batch masks) (start task batch
      (((start task batch masks).input task).precomputed builtins).masks) where
  same := ⟨_, rfl⟩
  builtins builtin _ := Builtin.evaluate?_precomputed _ builtins builtin
  others _ hname := CheckInput.registered?_precomputed_of_other _ builtins hname
  noStatus := by
    let input := (start task batch masks).input task
    cases hmask : input.registered? Builtin.noStatus.name with
    | some mask =>
      -- a mask that is there counts, so that it is registered again
      refine .inl ?_
      rcases input.registered?_precomputed builtins .noStatus with ⟨_, hnew⟩ | hsame
      · refine hnew.trans ?_
        rw [Builtin.evaluate?, hmask]
        rfl
      · exact hsame.trans hmask
    | none =>
      rcases input.registered?_precomputed builtins .noStatus with ⟨_, hnew⟩ | hsame
      · refine .inr ⟨fun mask hregistered row hrow => ?_, fun mask hregistered => ?_⟩
        · rw [Builtin.evaluate?, hmask] at hnew
          cases Option.some.inj (hregistered.symm.trans hnew)
          exact hrow
        · cases hregistered.symm.trans hmask
      · exact .inl (hsame.trans hmask)

end Twin

end Labeling

/-- The context of a run with some built-in checks evaluated on its starting batch and registered. -/
def RuleContext.precomputed (context : RuleContext) (config : ConfigTree) (batch : Batch n)
    (statusColumn : String) (builtins : List Builtin) : RuleContext :=
  let input : CheckInput n :=
    { batch, statusColumn, date := context.date, entity := context.entity, config,
      masks := context.masks }
  { context with masks := context.masks.registerAll (precompute input builtins) }

namespace Engine

/-- Evaluating built-in checks once, before the rules change the batch, makes no difference to
any label or count. -/
theorem applyRules_precomputed (config : ConfigTree) (sectionPath : String)
    (rules : List RuleConfig) (batch : Batch n) (statusColumn : String) (context : RuleContext)
    (kind : RecordKind) (refresh : Bool) (builtins : List Builtin)
    (hcolumn : batch.hasColumn statusColumn = true) (hne : statusColumn ≠ Schema.matchedNote)
    (hfixed : ∀ builtin : Builtin, statusColumn ∉ builtin.fixedColumns) :
    let engine := ofRules config sectionPath rules
    let plain := engine.applyRules batch statusColumn context kind refresh
    let fast := engine.applyRules batch statusColumn
      (context.precomputed config batch statusColumn builtins) kind refresh
    fast.batch = plain.batch ∧ fast.stats = plain.stats ∧ fast.report = plain.report := by
  intro engine plain fast
  let task := engine.task statusColumn context kind refresh
  have hstart : (Labeling.start task batch context.masks).batch = batch :=
    Batch.ensureText_of_hasColumn hcolumn
  have hmasks : (((Labeling.start task batch context.masks).input task).precomputed builtins).masks =
      (context.precomputed config batch statusColumn builtins).masks := by
    simp only [CheckInput.precomputed, Labeling.input, hstart]
    rfl
  have hnamed : ∀ rule ∈ engine.rules, ∀ check ∈ rule.checks, check.WellNamed :=
    fun _ hrule _ => wellNamed_of_mem_ofRules hrule
  have hstartTwin := Labeling.Twin.start_precomputed task batch context.masks builtins
  have htwin := hstartTwin.applyAll (Labeling.coherent_start task batch context.masks) hne hfixed hnamed
  rw [hmasks] at htwin
  have hreport : fast.report = plain.report :=
    congrArg₂ RunReport.mk htwin.hits_eq (congrArg Mask.count htwin.unset_eq)
  exact ⟨htwin.batch_eq, congrArg RunReport.stats hreport, hreport⟩

/-- The last rule claims the one row that is left, although the mask of its check is that of the start
and has three. -/
theorem applyRules_precomputed_overlapping :
    overlappingBatch.hasColumn "status" = true ∧ "status" ≠ Schema.matchedNote ∧
    (∀ builtin : Builtin, "status" ∉ builtin.fixedColumns) ∧
    ((ofRules .empty "rules" overlappingRules).applyRules overlappingBatch "status"
      (({} : RuleContext).precomputed .empty overlappingBatch "status" [.noStatus, .notError])
      .order false).report =
      ⟨[("priority_1_", 1), ("priority_1_tie", 0), ("priority_2_seen", 1), ("priority_5_open", 1)], 0⟩ := by
  have hfixed : ∀ builtin : Builtin, "status" ∉ builtin.fixedColumns := by
    intro builtin
    cases builtin <;> decide
  refine ⟨by decide, by decide, hfixed, ?_⟩
  rw [(applyRules_precomputed .empty "rules" overlappingRules overlappingBatch "status" {} .order false
    [.noStatus, .notError] (by decide) (by decide) hfixed).2.2]
  decide

end Engine

end PurchaseStatus
