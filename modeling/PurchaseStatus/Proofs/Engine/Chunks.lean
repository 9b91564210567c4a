import PurchaseStatus.Proofs.Concatenation
import PurchaseStatus.Proofs.Engine.FirstMatch
import PurchaseStatus.Proofs.Engine.Statistics

namespace PurchaseStatus

variable {n m : Nat} {pairs : Fin n → Fin m → Prop} {task : LabelingTask} {applied : Check → Prop}

namespace Labeling

/-- One of the checks that are applied reads the column. -/
def Reads (applied : Check → Prop) (column : String) : Prop :=
  ∃ check, applied check ∧ column ∈ check.columns

/-- The columns that a run writes hold what the state carries, the note column if it is read. -/
structure Textual (task : LabelingTask) (applied : Check → Prop) (state : Labeling n) : Prop where
  status : state.batch.cells? task.statusColumn = some (.text state.status)
  note : Reads applied Schema.matchedNote →
    state.batch.cells? Schema.matchedNote = some (.text state.notes)

namespace Textual

variable {state : Labeling n}

/-- Claiming rows writes text into both columns. -/
theorem claim (hne : task.statusColumn ≠ Schema.matchedNote) (h : state.Textual task applied)
    (rows : Mask n) (status note : String) : (state.claim task rows status note).Textual task applied where
  status := by
    unfold Labeling.claim
    split
    · simp only [label]
      rw [Batch.cells?_putText_of_ne _ hne, Batch.cells?_putText_self]
    · exact h.status
  note hread := by
    unfold Labeling.claim
    split
    · simp only [label, notes, Batch.cells?_putText_self, Batch.textOrNulls_putText_self]
    · exact h.note hread

/-- A rule leaves text in both columns, whether it is evaluated or not. -/
theorem apply (hne : task.statusColumn ≠ Schema.matchedNote) (h : state.Textual task applied)
    (rule : Rule) : (state.apply task rule).Textual task applied := by
  rcases apply_cases task state rule with hsame | ⟨status, matched, _, _, heq⟩
  · rw [hsame]
    exact h
  · have hclaim := h.claim hne (matched.and state.unset) status rule.note
    rw [heq]
    exact ⟨hclaim.status, hclaim.note⟩

/-- The status that a run carries along is that of its column. -/
theorem coherent_status (h : state.Textual task applied) :
    state.batch.textOrNulls task.statusColumn = state.status :=
  Batch.textOrNulls_of_cells? h.status

/-- Whether an applied check can be evaluated does not change when a rule is applied: the columns that are
written are text before and after, and the one mask that is refreshed is that of a check which can always be
evaluated. -/
theorem isSome_evaluate?_apply (h : state.Textual task applied) {check : Check} (hcheck : applied check)
    (hnamed : check.WellNamed) (rule : Rule) :
    (check.evaluate? ((state.apply task rule).input task)).isSome =
      (check.evaluate? (state.input task)).isSome := by
  have hframe := frame_apply task state rule
  -- no rows are paired, as only the presence of the columns matters
  have hcolumns : ∀ column ∈ check.columns, Batch.AgreeOn (Series.within fun _ => False) column
      (state.apply task rule).batch state.batch := by
    intro column hcolumn
    rcases hframe.written column with hsame | ⟨values, hvalues⟩
    · exact Batch.agreeOn_of_cells?_eq _ hsame
    · by_cases hstatus : column = task.statusColumn
      · subst hstatus
        exact Batch.agreeOn_of_text hvalues h.status fun _ _ hnone => hnone.2.elim
      · by_cases hnote : column = Schema.matchedNote
        · subst hnote
          exact Batch.agreeOn_of_text hvalues (h.note ⟨check, hcheck, hcolumn⟩) fun _ _ hnone => hnone.2.elim
        · exact Batch.agreeOn_of_cells?_eq _ (hframe.cells column hstatus hnote)
  refine Option.Rel.isSome_eq (r := Series.AgreeOn (Series.within fun _ => False)) ?_
  refine Check.evaluate?_agree hnamed ⟨rfl, rfl, rfl, rfl⟩ (fun column hfield => ?_)
    (fun builtin hbuiltin => ?_) fun name hname => ?_
  · exact hcolumns column (Check.mem_columns_of_field? hfield)
  · by_cases hne : builtin = .noStatus
    · subst hne
      refine Option.WhenBoth.rel (fun _ _ _ _ _ _ hnone => hnone.2.elim) ?_
      simp [Builtin.isSome_evaluate?, Builtin.requirements]
    · subst hbuiltin
      exact Builtin.evaluate?_agree hne ⟨rfl, rfl, rfl, rfl⟩ hcolumns fun base hbase =>
        Series.rel_agreeOn_of_eq _ (hframe.registered?_builtin hbase)
  · exact Series.rel_agreeOn_of_eq _ (hframe.registered?_of_other hname)

end Textual

/-- A run on some rows beside a run on others: paired rows have the same status, are unset alike, and
look the same to every applied check that can be evaluated in both runs. -/
structure Beside (pairs : Fin n → Fin m → Prop) (task : LabelingTask) (applied : Check → Prop)
    (a : Labeling n) (b : Labeling m) : Prop where
  status : a.status.AgreeOn pairs b.status
  unset : Series.AgreeOn pairs a.unset b.unset
  columns : ∀ column, Reads applied column → Batch.ReadAlike pairs column a.batch b.batch
  masks : ∀ name, Option.Rel (Series.AgreeOn pairs) ((a.input task).registered? name)
    ((b.input task).registered? name)

/-- The applied checks can be evaluated in both states or in neither. -/
def EvaluatedAlike (task : LabelingTask) (applied : Check → Prop) (a : Labeling n) (b : Labeling m) : Prop :=
  ∀ check, applied check →
    (check.evaluate? (a.input task)).isSome = (check.evaluate? (b.input task)).isSome

/-- No rule makes a check evaluable on one side alone. -/
theorem EvaluatedAlike.apply {a : Labeling n} {b : Labeling m} (h : EvaluatedAlike task applied a b)
    (ha : a.Textual task applied) (hb : b.Textual task applied)
    (hnamed : ∀ check, applied check → check.WellNamed) (rule : Rule) :
    EvaluatedAlike task applied (a.apply task rule) (b.apply task rule) := by
  intro check hcheck
  rw [ha.isSome_evaluate?_apply hcheck (hnamed check hcheck) rule,
    hb.isSome_evaluate?_apply hcheck (hnamed check hcheck) rule]
  exact h check hcheck

/-- In paired rows two runs have come to the same note, or the label of neither row has changed since
they began. -/
def NotesSince (pairs : Fin n → Fin m → Prop) (a₀ : Labeling n) (b₀ : Labeling m) (a : Labeling n)
    (b : Labeling m) : Prop :=
  ∀ i j, pairs i j → a.notes.get i = b.notes.get j ∨ a.labelAt i = a₀.labelAt i ∧ b.labelAt j = b₀.labelAt j

/-- A row that is not claimed keeps its label. -/
theorem labelAt_claim_of_not_mem (task : LabelingTask) (state : Labeling n) {rows : Mask n} {row : Fin n}
    (hrow : rows.get row = false) (status note : String) :
    (state.claim task rows status note).labelAt row = state.labelAt row := by
  rw [labelAt, get_status_claim, get_notes_claim, hrow]
  rfl

namespace NotesSince

variable {a₀ a : Labeling n} {b₀ b : Labeling m}

/-- A row that is claimed gets the same note in both runs, and any other is left as it is. -/
theorem claim (h : NotesSince pairs a₀ b₀ a b) {rows : Mask n} {rows' : Mask m}
    (hrows : Series.AgreeOn pairs rows rows') (status note : String) :
    NotesSince pairs a₀ b₀ (a.claim task rows status note) (b.claim task rows' status note) := by
  intro i j hij
  have hrow' : rows.get i = rows'.get j := hrows i j hij
  cases hrow : rows.get i with
  | true =>
    refine .inl ?_
    rw [get_notes_claim, get_notes_claim, ← hrow', hrow]
    rfl
  | false =>
    have hkept := labelAt_claim_of_not_mem task a hrow status note
    have hkept' := labelAt_claim_of_not_mem task b (hrow'.symm.trans hrow) status note
    rcases h i j hij with hnotes | ⟨hlabel, hlabel'⟩
    · exact .inl ((congrArg RowLabel.note hkept).trans
        (hnotes.trans (congrArg RowLabel.note hkept').symm))
    · exact .inr ⟨hkept.trans hlabel, hkept'.trans hlabel'⟩

theorem record (h : NotesSince pairs a₀ b₀ a b) (id : String) (count count' : Nat) :
    NotesSince pairs a₀ b₀ (a.record task id count) (b.record task id count') := h

/-- The notes are the same in the end if those of the rows with an unchanged label were so before. -/
theorem agree (h : NotesSince pairs a₀ b₀ a b)
    (hbefore : ∀ i j, pairs i j → b.labelAt j = b₀.labelAt j → a₀.notes.get i = b₀.notes.get j) :
    a.notes.AgreeOn pairs b.notes := by
  intro i j hij
  rcases h i j hij with hnotes | ⟨hlabel, hlabel'⟩
  · exact hnotes
  · calc a.notes.get i = a₀.notes.get i := congrArg RowLabel.note hlabel
      _ = b₀.notes.get j := hbefore i j hij hlabel'
      _ = b.notes.get j := (congrArg RowLabel.note hlabel').symm

end NotesSince

namespace Beside

variable {a : Labeling n} {b : Labeling m}

/-- Notes that a check reads as text in both runs are the same. -/
theorem notes_agree (h : Beside pairs task applied a b) (ha : a.Textual task applied)
    (hb : b.Textual task applied) (hread : Reads applied Schema.matchedNote) :
    a.notes.AgreeOn pairs b.notes :=
  (h.columns _ hread).texts _ (Batch.text?_of_cells? (ha.note hread)) _ (Batch.text?_of_cells? (hb.note hread))

/-- A built-in check that is evaluated in both runs gives paired rows the same answer. The one for a
missing status may go by a mask or by the column itself. -/
theorem builtin_whenBoth (h : Beside pairs task applied a b) (ha : a.Textual task applied)
    (hb : b.Textual task applied) {builtin : Builtin} (happlied : applied (.builtin builtin)) :
    Option.WhenBoth (Series.AgreeOn pairs) (builtin.evaluate? (a.input task))
      (builtin.evaluate? (b.input task)) := by
  by_cases hne : builtin = .noStatus
  · subst hne
    refine .of_rel ((h.masks _).or (.some ?_))
    have hstatus := h.status
    rw [← ha.coherent_status, ← hb.coherent_status] at hstatus
    exact hstatus.map isBlank
  · exact Builtin.evaluate?_whenBoth hne ⟨rfl, rfl, rfl, rfl⟩
      (fun column hcolumn => h.columns column ⟨_, happlied, hcolumn⟩) fun base _ => h.masks base.name

/-- A rule has a mask in both runs or in neither, and the masks are the same in paired rows. -/
theorem mask?_agree (h : Beside pairs task applied a b) (ha : a.Textual task applied)
    (hb : b.Textual task applied) (hevaluated : EvaluatedAlike task applied a b)
    (hnamed : ∀ check, applied check → check.WellNamed) {rule : Rule}
    (happlied : ∀ check ∈ rule.checks, applied check) :
    Option.Rel (Series.AgreeOn pairs) (rule.mask? (a.input task)) (rule.mask? (b.input task)) := by
  refine Rule.mask?_agree fun check hcheck => ?_
  have hcheck := happlied check hcheck
  refine (Check.evaluate?_whenBoth (hnamed check hcheck) (fun column hfield => ?_) ?_ ?_).rel
    (hevaluated check hcheck)
  · exact h.columns column ⟨check, hcheck, Check.mem_columns_of_field? hfield⟩
  · rintro builtin rfl
    exact h.builtin_whenBoth ha hb hcheck
  · exact fun name _ => h.masks name

/-- Claiming the same rows keeps two runs alike, although only one of them may write at all. -/
theorem claim (hne : task.statusColumn ≠ Schema.matchedNote) (h : Beside pairs task applied a b)
    (ha : a.Textual task applied) (hb : b.Textual task applied) {rows : Mask n} {rows' : Mask m}
    (hrows : Series.AgreeOn pairs rows rows') (status note : String) :
    Beside pairs task applied (a.claim task rows status note) (b.claim task rows' status note) := by
  have hstatus : (a.claim task rows status note).status.AgreeOn pairs
      (b.claim task rows' status note).status := by
    intro i j hij
    rw [get_status_claim, get_status_claim, hrows i j hij, h.status i j hij]
  refine ⟨hstatus, ?_, ?_, ?_⟩
  · intro i j hij
    rw [get_unset_claim, get_unset_claim, hrows i j hij, h.unset i j hij]
  · intro column hread
    have hatext := ha.claim hne rows status note
    have hbtext := hb.claim hne rows' status note
    by_cases hcolumn : column = task.statusColumn
    · subst hcolumn
      exact (Batch.agreeOn_of_text hatext.status hbtext.status hstatus).readAlike
    · by_cases hnote : column = Schema.matchedNote
      · subst hnote
        refine (Batch.agreeOn_of_text (hatext.note hread) (hbtext.note hread) ?_).readAlike
        intro i j hij
        rw [get_notes_claim, get_notes_claim, hrows i j hij, h.notes_agree ha hb hread i j hij]
      · exact (h.columns column hread).congr (cells?_claim_of_ne a rows status note hcolumn hnote)
          (cells?_claim_of_ne b rows' status note hcolumn hnote)
  · intro name
    simp only [CheckInput.registered?, input, claim_masks]
    exact h.masks name

/-- What is recorded of a rule is the unset rows, which are paired alike. -/
theorem record (h : Beside pairs task applied a b) (id : String) (count count' : Nat) :
    Beside pairs task applied (a.record task id count) (b.record task id count') where
  status := h.status
  unset := h.unset
  columns := h.columns
  masks name := by
    simp only [CheckInput.registered?, input, Labeling.record]
    split
    · by_cases hname : name = Builtin.noStatus.name
      · subst hname
        rw [Registry.maskFor?_register_self, Registry.maskFor?_register_self]
        exact .some h.unset
      · rw [Registry.maskFor?_register_of_ne _ hname, Registry.maskFor?_register_of_ne _ hname]
        exact h.masks name
    · exact h.masks name

end Beside

/-- The runs on two batches and the run on both as one, since the states in which they began. -/
structure Joined (task : LabelingTask) (applied : Check → Prop) (first₀ : Labeling n) (rest₀ : Labeling m)
    (whole₀ : Labeling (n + m)) (first : Labeling n) (rest : Labeling m) (whole : Labeling (n + m)) :
    Prop where
  firstRows : Beside inFirst task applied first whole
  restRows : Beside inRest task applied rest whole
  firstNotes : NotesSince inFirst first₀ whole₀ first whole
  restNotes : NotesSince inRest rest₀ whole₀ rest whole
  firstText : first.Textual task applied
  restText : rest.Textual task applied
  wholeText : whole.Textual task applied
  firstEvaluated : EvaluatedAlike task applied first whole
  restEvaluated : EvaluatedAlike task applied rest whole
  hits : RuleStats.Sums whole.hits first.hits rest.hits

namespace Joined

variable {first₀ first : Labeling n} {rest₀ rest : Labeling m} {whole₀ whole : Labeling (n + m)}

section Rule

variable (h : Joined task applied first₀ rest₀ whole₀ first rest whole) (hnamed : ∀ check, applied check → check.WellNamed)
  {rule : Rule} (happlied : rule.labelFor? task.kind ≠ none → ∀ check ∈ rule.checks, applied check)

include h hnamed happlied

/-- A rule does the same in all three runs: nothing, or claim in the whole what it claims in the
parts. -/
theorem apply_cases :
    first.apply task rule = first ∧ rest.apply task rule = rest ∧ whole.apply task rule = whole ∨
    ∃ (status : String) (rows : Mask n) (rows' : Mask m),
      first.apply task rule = (first.claim task rows status rule.note).record task rule.id rows.count ∧
      rest.apply task rule = (rest.claim task rows' status rule.note).record task rule.id rows'.count ∧
      whole.apply task rule = (whole.claim task (rows ++ rows') status rule.note).record task rule.id
        (Mask.count (rows ++ rows')) := by
  cases hstatus : rule.labelFor? task.kind with
  | none =>
    exact .inl ⟨apply_of_no_status hstatus, apply_of_no_status hstatus, apply_of_no_status hstatus⟩
  | some status =>
    have hchecks := happlied (by simp [hstatus])
    have hfirst := h.firstRows.mask?_agree h.firstText h.wholeText h.firstEvaluated hnamed hchecks
    have hrest := h.restRows.mask?_agree h.restText h.wholeText h.restEvaluated hnamed hchecks
    rcases hfirst.none_or_some with ⟨hmask, hmask₀⟩ | ⟨matched, matched₀, hmask, hmask₀, hbits⟩
    · rcases hrest.none_or_some with ⟨hmask', _⟩ | ⟨_, _, _, hsome, _⟩
      · exact .inl ⟨apply_of_no_mask hmask, apply_of_no_mask hmask', apply_of_no_mask hmask₀⟩
      · cases hmask₀.symm.trans hsome
    · rcases hrest.none_or_some with ⟨_, hnone⟩ | ⟨matched', _, hmask', hsome, hbits'⟩
      · cases hmask₀.symm.trans hnone
      · cases hmask₀.symm.trans hsome
        have hrows : Mask.and matched₀ whole.unset =
            Mask.and matched first.unset ++ Mask.and matched' rest.unset :=
          Series.eq_append (Mask.agreeOn_and hbits h.firstRows.unset)
            (Mask.agreeOn_and hbits' h.restRows.unset)
        refine .inr ⟨status, _, _, apply_of_evaluated hstatus hmask,
          apply_of_evaluated hstatus hmask', ?_⟩
        rw [← hrows]
        exact apply_of_evaluated hstatus hmask₀

/-- One rule keeps the three runs together. -/
theorem apply (hne : task.statusColumn ≠ Schema.matchedNote) :
    Joined task applied first₀ rest₀ whole₀ (first.apply task rule) (rest.apply task rule)
      (whole.apply task rule) := by
  refine ⟨?_, ?_, ?_, ?_, h.firstText.apply hne rule, h.restText.apply hne rule, h.wholeText.apply hne rule,
    h.firstEvaluated.apply h.firstText h.wholeText hnamed rule,
    h.restEvaluated.apply h.restText h.wholeText hnamed rule, ?_⟩
  all_goals rcases h.apply_cases hnamed happlied with
    ⟨hfirst, hrest, hwhole⟩ | ⟨status, rows, rows', hfirst, hrest, hwhole⟩
  · rw [hfirst, hwhole]
    exact h.firstRows
  · rw [hfirst, hwhole]
    exact (h.firstRows.claim hne h.firstText h.wholeText (Series.agreeOn_inFirst_append rows rows')
      status rule.note).record rule.id _ _
  · rw [hrest, hwhole]
    exact h.restRows
  · rw [hrest, hwhole]
    exact (h.restRows.claim hne h.restText h.wholeText (Series.agreeOn_inRest_append rows rows')
      status rule.note).record rule.id _ _
  · rw [hfirst, hwhole]
    exact h.firstNotes
  · rw [hfirst, hwhole]
    exact (h.firstNotes.claim (Series.agreeOn_inFirst_append rows rows') status rule.note).record rule.id _ _
  · rw [hrest, hwhole]
    exact h.restNotes
  · rw [hrest, hwhole]
    exact (h.restNotes.claim (Series.agreeOn_inRest_append rows rows') status rule.note).record rule.id _ _
  · rw [hfirst, hrest, hwhole]
    exact h.hits
  · have hone := h.hits.append_one rule.id rows.count rows'.count
    have hcount : Mask.count (rows ++ rows') = rows.count + rows'.count := Series.count_append id rows rows'
    rw [hfirst, hrest, hwhole, hcount]
    simp only [record, claim_hits]
    exact hone

end Rule

/-- All rules keep the three runs together, by induction on the rules. -/
theorem applyAll (hne : task.statusColumn ≠ Schema.matchedNote)
    (h : Joined task applied first₀ rest₀ whole₀ first rest whole)
    (hnamed : ∀ check, applied check → check.WellNamed) {rules : List Rule}
    (happlied : ∀ rule ∈ rules, rule.labelFor? task.kind ≠ none → ∀ check ∈ rule.checks, applied check) :
    Joined task applied first₀ rest₀ whole₀ (first.applyAll task rules) (rest.applyAll task rules)
      (whole.applyAll task rules) := by
  induction rules generalizing first rest whole with
  | nil => exact h
  | cons rule rules ih =>
    obtain ⟨hrule, hrules⟩ := List.forall_mem_cons.1 happlied
    exact ih (h.apply hnamed hrule hne) hrules

/-- The status column of the whole is made of those of the parts. -/
theorem status_eq_append (h : Joined task applied first₀ rest₀ whole₀ first rest whole) :
    whole.batch.textOrNulls task.statusColumn =
      first.batch.textOrNulls task.statusColumn ++ rest.batch.textOrNulls task.statusColumn := by
  rw [h.wholeText.coherent_status, h.firstText.coherent_status, h.restText.coherent_status]
  exact Series.eq_append h.firstRows.status h.restRows.status

/-- The notes of the whole are made of those of the parts, if those of the rows with an unchanged label
were so when the runs began. -/
theorem notes_eq_append (h : Joined task applied first₀ rest₀ whole₀ first rest whole)
    (hbefore : ∀ row, whole.labelAt row = whole₀.labelAt row →
      whole₀.notes.get row = (first₀.notes ++ rest₀.notes).get row) :
    whole.notes = first.notes ++ rest.notes := by
  refine Series.eq_append (h.firstNotes.agree fun i j hij hlabel => ?_)
    (h.restNotes.agree fun i j hij hlabel => ?_)
  · exact (Series.agreeOn_inFirst_append first₀.notes rest₀.notes i j hij).trans (hbefore j hlabel).symm
  · exact (Series.agreeOn_inRest_append first₀.notes rest₀.notes i j hij).trans (hbefore j hlabel).symm

end Joined

section Start

/-- A run begins with the notes of its batch. -/
theorem notes_start (task : LabelingTask) (batch : Batch n) (masks : Registry) :
    (start task batch masks).notes = batch.textOrNulls Schema.matchedNote := by
  simp only [notes, start, Batch.textOrNulls_ensureText]

/-- A run begins with text in its columns, if the batch has no other type of cells there. -/
theorem textual_start (task : LabelingTask) (hne : task.statusColumn ≠ Schema.matchedNote)
    {batch : Batch n} (masks : Registry)
    (hstatus : batch.cells? task.statusColumn = none ∨
      ∃ values, batch.cells? task.statusColumn = some (.text values))
    (hnote : Reads applied Schema.matchedNote →
      ∃ values, batch.cells? Schema.matchedNote = some (.text values)) :
    (start task batch masks).Textual task applied where
  status := by
    obtain ⟨values, hvalues⟩ := Batch.exists_text_ensureText hstatus
    exact Batch.cells?_eq_textOrNulls hvalues
  note hread := by
    obtain ⟨values, hvalues⟩ := hnote hread
    exact Batch.cells?_eq_textOrNulls ((Batch.cells?_ensureText_of_ne batch hne.symm).trans hvalues)

/-- What reads alike in two batches does at the start of runs on them. -/
theorem beside_start {a : Batch n} {b : Batch m} {masks masks' : Registry}
    (hstatus : (a.textOrNulls task.statusColumn).AgreeOn pairs (b.textOrNulls task.statusColumn))
    (hcolumns : ∀ column, Reads applied column → Batch.ReadAlike pairs column (a.ensureText task.statusColumn)
      (b.ensureText task.statusColumn))
    (hmasks : ∀ name, Option.Rel (Series.AgreeOn pairs) (masks.maskFor? n name) (masks'.maskFor? m name)) :
    Beside pairs task applied (start task a masks) (start task b masks') := by
  have hstatusTexts : (start task a masks).status.AgreeOn pairs (start task b masks').status := by
    simp only [start, Batch.textOrNulls_ensureText]
    exact hstatus
  exact ⟨hstatusTexts, hstatusTexts.map isBlank, hcolumns, hmasks⟩

/-- The states in which runs begin have the batches with a status column of one schema. -/
theorem joins_start (task : LabelingTask) {first : Batch n} {rest : Batch m} {whole : Batch (n + m)}
    (hwhole : first.append? rest = some whole) {masks : Registry}
    (hslots : ∀ entry ∈ masks.entries, entry.2.length = n + m) :
    ((start task first (masks.takeRows n)).input task).Joins ((start task rest (masks.dropRows n)).input task)
      ((start task whole masks).input task) where
  batch := Batch.append?_ensureText hwhole task.statusColumn
  firstRun := ⟨rfl, rfl, rfl, rfl⟩
  restRun := ⟨rfl, rfl, rfl, rfl⟩
  firstMasks name := (Registry.rel_maskFor?_cut hslots name).1.isSome_eq
  restMasks name := (Registry.rel_maskFor?_cut hslots name).2.isSome_eq

/-- Two batches of one schema and both as one begin alike, if the applied checks can be evaluated in both
parts or in neither. -/
theorem joined_start (hne : task.statusColumn ≠ Schema.matchedNote) {first : Batch n} {rest : Batch m}
    {whole : Batch (n + m)} (hwhole : first.append? rest = some whole) {masks : Registry}
    (hslots : ∀ entry ∈ masks.entries, entry.2.length = n + m)
    (hstatus : first.cells? task.statusColumn = none ∨
      ∃ values, first.cells? task.statusColumn = some (.text values))
    (hnote : Reads applied Schema.matchedNote →
      ∃ values, first.cells? Schema.matchedNote = some (.text values))
    (hevaluated : EvaluatedAlike task applied (start task first (masks.takeRows n))
      (start task rest (masks.dropRows n))) :
    Joined task applied (start task first (masks.takeRows n)) (start task rest (masks.dropRows n))
      (start task whole masks) (start task first (masks.takeRows n)) (start task rest (masks.dropRows n))
      (start task whole masks) := by
  obtain ⟨hrestStatus, hwholeStatus, hstatusReadable⟩ := Batch.absent_or_text_of_append? hwhole hstatus
  have hfirstText := textual_start task hne (masks.takeRows n) hstatus hnote
  have hrestText := textual_start task hne (masks.dropRows n) hrestStatus fun hread =>
    (Batch.text_of_append? hwhole (hnote hread)).1
  have hwholeText := textual_start task hne masks hwholeStatus fun hread =>
    (Batch.text_of_append? hwhole (hnote hread)).2
  have hjoins := joins_start task hwhole hslots
  have hmasks := Registry.rel_maskFor?_cut hslots
  have halike := Batch.readAlike_of_append? hjoins.batch
  obtain ⟨hstatusFirst, hstatusRest⟩ := Batch.agreeOn_of_append? hwhole hstatusReadable
  have hevaluatedFirst : EvaluatedAlike task applied (start task first (masks.takeRows n))
      (start task whole masks) :=
    fun check hcheck => (hjoins.isSome_evaluate?_eq (hevaluated check hcheck)).symm
  refine ⟨?_, ?_, fun _ _ _ => .inr ⟨rfl, rfl⟩, fun _ _ _ => .inr ⟨rfl, rfl⟩, hfirstText, hrestText,
    hwholeText, hevaluatedFirst, fun check hcheck => ?_, .nil⟩
  · exact beside_start hstatusFirst.textOrNulls (fun column _ => (halike column).1) fun name => (hmasks name).1
  · exact beside_start hstatusRest.textOrNulls (fun column _ => (halike column).2) fun name => (hmasks name).2
  · rw [← hevaluated check hcheck]
    exact hevaluatedFirst check hcheck

end Start

end Labeling

namespace Engine

/-- What the checks of a run read when it begins. -/
def inputAt (engine : Engine) (batch : Batch n) (statusColumn : String) (context : RuleContext) :
    CheckInput n :=
  { batch := batch.ensureText statusColumn
    statusColumn
    date := context.date
    entity := context.entity
    config := engine.config
    masks := context.masks }

/-- Rows are labelled one by one: a batch that is cut in two gets, part by part, the status and the
notes that it gets as a whole, and every rule labels as many rows in both parts together. The parts have to
be of one schema. A day outside the calendar takes a column of dates away from all rows; so each check of a
rule that gives labels has to be evaluated in both parts or in neither, which fails only for one that reads
such a column as text. For the notes, a row whose label stays as it was has to show the same note in the
whole as in its part before. -/
theorem applyRules_rowwise (config : ConfigTree) (sectionPath : String) (rules : List RuleConfig)
    {first : Batch n} {rest : Batch m} {whole : Batch (n + m)} (hwhole : first.append? rest = some whole)
    (statusColumn : String) (context : RuleContext) (kind : RecordKind) (refresh : Bool)
    (hne : statusColumn ≠ Schema.matchedNote)
    (hslots : ∀ entry ∈ context.masks.entries, entry.2.length = n + m)
    (hstatus : first.cells? statusColumn = none ∨
      ∃ values, first.cells? statusColumn = some (.text values))
    (hnote : (∀ written ∈ rules, ∀ check ∈ written.checks,
        (check.compile config).field? ≠ some Schema.matchedNote) ∨
      ∃ values, first.cells? Schema.matchedNote = some (.text values)) :
    let engine := ofRules config sectionPath rules
    let contextFirst : RuleContext := { context with masks := context.masks.takeRows n }
    let contextRest : RuleContext := { context with masks := context.masks.dropRows n }
    let inputFirst := engine.inputAt first statusColumn contextFirst
    let inputRest := engine.inputAt rest statusColumn contextRest
    let run := engine.applyRules whole statusColumn context kind refresh
    let runFirst := engine.applyRules first statusColumn contextFirst kind refresh
    let runRest := engine.applyRules rest statusColumn contextRest kind refresh
    (∀ check : Check, (check.evaluate? inputFirst).isSome ≠ (check.evaluate? inputRest).isSome →
      ∃ column ∈ check.columns, (∃ days, first.cells? column = some (.date32 days)) ∧
        (∃ days, rest.cells? column = some (.date32 days)) ∧
        (first.text? column).isSome ≠ (rest.text? column).isSome) ∧
    ((∀ rule ∈ engine.rules, rule.labelFor? kind ≠ none → ∀ check ∈ rule.checks,
        (check.evaluate? inputFirst).isSome = (check.evaluate? inputRest).isSome) →
      run.batch.textOrNulls statusColumn =
        runFirst.batch.textOrNulls statusColumn ++ runRest.batch.textOrNulls statusColumn ∧
      ((∀ row, run.batch.labelAt statusColumn row = whole.labelAt statusColumn row →
          (whole.textOrNulls Schema.matchedNote).get row =
            (first.textOrNulls Schema.matchedNote ++ rest.textOrNulls Schema.matchedNote).get row) →
        run.batch.textOrNulls Schema.matchedNote =
          runFirst.batch.textOrNulls Schema.matchedNote ++ runRest.batch.textOrNulls Schema.matchedNote) ∧
      run.stats.names = runFirst.stats.names ∧ run.stats.names = runRest.stats.names ∧
      ∀ id, (run.stats.get? id).getD 0 =
        (runFirst.stats.get? id).getD 0 + (runRest.stats.get? id).getD 0) := by
  intro engine contextFirst contextRest inputFirst inputRest run runFirst runRest
  let task := engine.task statusColumn context kind refresh
  let startFirst := Labeling.start task first contextFirst.masks
  let startRest := Labeling.start task rest contextRest.masks
  let start := Labeling.start task whole context.masks
  have hjoins : inputFirst.Joins inputRest (engine.inputAt whole statusColumn context) :=
    Labeling.joins_start task hwhole hslots
  refine ⟨fun check hunlike => ?_, fun hevaluated => ?_⟩
  · obtain ⟨column, hcolumn, ⟨days, hdays⟩, ⟨days', hdays'⟩, htext⟩ := hjoins.exists_dates_of_isSome_ne hunlike
    have hfirst := Batch.cells?_of_ensureText_dates hdays
    have hrest := Batch.cells?_of_ensureText_dates hdays'
    refine ⟨column, hcolumn, ⟨days, hfirst⟩, ⟨days', hrest⟩, ?_⟩
    rwa [Batch.text?, Batch.text?, hdays, hdays', ← hfirst, ← hrest] at htext
  · let applied : Check → Prop := fun check =>
      ∃ rule ∈ engine.rules, rule.labelFor? kind ≠ none ∧ check ∈ rule.checks
    have hnamed : ∀ check, applied check → check.WellNamed := by
      rintro check ⟨rule, hrule, _, hcheck⟩
      exact wellNamed_of_mem_ofRules hrule hcheck
    have hnoteText : Labeling.Reads applied Schema.matchedNote →
        ∃ values, first.cells? Schema.matchedNote = some (.text values) := by
      rintro ⟨check, ⟨rule, hrule, _, hcheck⟩, hcolumn⟩
      obtain ⟨written, hwritten, check', hcheck', rfl⟩ := exists_written_check hrule hcheck
      refine hnote.resolve_left fun hunread => hunread written hwritten check' hcheck' ?_
      exact Check.field?_of_matchedNote_mem_columns hcolumn
    have hstart : Labeling.Joined task applied startFirst startRest start startFirst startRest start := by
      refine Labeling.joined_start hne hwhole hslots hstatus hnoteText ?_
      rintro check ⟨rule, hrule, hlabel, hcheck⟩
      exact hevaluated rule hrule hlabel check hcheck
    have hfinal := hstart.applyAll hne hnamed
      fun rule hrule hlabel check hcheck => ⟨rule, hrule, hlabel, hcheck⟩
    have hsums : RuleStats.Sums run.stats.entries runFirst.stats.entries runRest.stats.entries :=
      RunReport.sums_stats hfinal.hits
    refine ⟨hfinal.status_eq_append, fun hnotes => hfinal.notes_eq_append fun row hlabel => ?_,
      hsums.names_left, hsums.names_right, hsums.find?⟩
    -- a label that the run leaves as it was is one of the batch, where the notes are known to be the same
    have hcoherent : (start.applyAll task engine.rules).Coherent task :=
      (Labeling.coherent_start task whole context.masks).applyAll engine.rules hne
    rw [← hcoherent.labelAt_batch row, Labeling.labelAt_start] at hlabel
    simp only [startFirst, startRest, start, Labeling.notes_start]
    exact hnotes row hlabel

/-- The first rule has a registered mask, the second waits for what the first leaves. -/
def urgentRules : List RuleConfig := [
  { priority := 1, statusValue := some "urgent", note := "asked for", checks := [{ type := "urgent" }] },
  { priority := 2, statusValue := some "open", note := "dated",
    checks := [{ type := "no_status" }, { type := "is_not_null", field := some "due" },
      { type := "equals", field := some "paid", value := some (.int 0), cast := some .int }] }]

/-- A mask for three rows, one slot of which is null. -/
def urgentContext : RuleContext := { masks := ⟨[("urgent", [some true, none, some true])]⟩ }

/-- A day of payment lies outside the calendar, and so does a day in the last row of the note column. -/
def twoDays : Batch 2 :=
  ⟨⟨[("due", .date32 ⟨[some 0, some 1], rfl⟩), ("paid", .date32 ⟨[some 100000000, some 0], rfl⟩),
    ("status", .text ⟨[some "done", some ""], rfl⟩), (Schema.matchedNote, .date32 ⟨[none, some 1], rfl⟩)]⟩⟩

def oneDay : Batch 1 :=
  ⟨⟨[("due", .date32 ⟨[some 2], rfl⟩), ("paid", .date32 ⟨[some 0], rfl⟩),
    ("status", .text ⟨[some ""], rfl⟩), (Schema.matchedNote, .date32 ⟨[some 100000000], rfl⟩)]⟩⟩

def threeDays : Batch (2 + 1) :=
  ⟨⟨[("due", .date32 ⟨[some 0, some 1, some 2], rfl⟩),
    ("paid", .date32 ⟨[some 100000000, some 0, some 0], rfl⟩),
    ("status", .text ⟨[some "done", some "", some ""], rfl⟩),
    (Schema.matchedNote, .date32 ⟨[none, some 1, some 100000000], rfl⟩)]⟩⟩

/-- Each rule labels a row of one part only. The days of payment cannot be read as text in the first part,
but they are compared as integers. The old notes cannot be read in the whole, but only a row that gets a label
has one. -/
theorem applyRules_rowwise_urgent :
    let engine := ofRules .empty "rules" urgentRules
    let inputFirst := engine.inputAt twoDays "status"
      { urgentContext with masks := urgentContext.masks.takeRows 2 }
    let inputRest := engine.inputAt oneDay "status"
      { urgentContext with masks := urgentContext.masks.dropRows 2 }
    let run := engine.applyRules threeDays "status" urgentContext .order true
    twoDays.append? oneDay = some threeDays ∧ "status" ≠ Schema.matchedNote ∧
    (∀ entry ∈ urgentContext.masks.entries, entry.2.length = 2 + 1) ∧
    (∃ values, twoDays.cells? "status" = some (.text values)) ∧
    (∀ written ∈ urgentRules, ∀ check ∈ written.checks,
      (check.compile .empty).field? ≠ some Schema.matchedNote) ∧
    (twoDays.text? "paid").isSome = false ∧ (oneDay.text? "paid").isSome = true ∧
    threeDays.textOrNulls Schema.matchedNote ≠
      twoDays.textOrNulls Schema.matchedNote ++ oneDay.textOrNulls Schema.matchedNote ∧
    (∀ rule ∈ engine.rules, rule.labelFor? .order ≠ none → ∀ check ∈ rule.checks,
      (check.evaluate? inputFirst).isSome = (check.evaluate? inputRest).isSome) ∧
    (∀ row, run.batch.labelAt "status" row = threeDays.labelAt "status" row →
      (threeDays.textOrNulls Schema.matchedNote).get row =
        (twoDays.textOrNulls Schema.matchedNote ++ oneDay.textOrNulls Schema.matchedNote).get row) ∧
    run.batch.textOrNulls "status" = ⟨[some "done", some "open", some "urgent"], rfl⟩ ∧
    run.batch.textOrNulls Schema.matchedNote = ⟨[none, some "dated", some "asked for"], rfl⟩ ∧
    run.stats.names = ["priority_1_urgent", "priority_2_open"] := by
  intro engine inputFirst inputRest run
  have hwhole : twoDays.append? oneDay = some threeDays := by decide
  have hnote : ∀ written ∈ urgentRules, ∀ check ∈ written.checks,
      (check.compile .empty).field? ≠ some Schema.matchedNote := by decide
  have hevaluated : ∀ rule ∈ engine.rules, rule.labelFor? .order ≠ none → ∀ check ∈ rule.checks,
      (check.evaluate? inputFirst).isSome = (check.evaluate? inputRest).isSome := by decide
  have hkept : ∀ row, run.batch.labelAt "status" row = threeDays.labelAt "status" row →
      (threeDays.textOrNulls Schema.matchedNote).get row =
        (twoDays.textOrNulls Schema.matchedNote ++ oneDay.textOrNulls Schema.matchedNote).get row := by decide
  obtain ⟨-, hrowwise⟩ := applyRules_rowwise .empty "rules" urgentRules hwhole "status" urgentContext .order
    true (by decide) (by decide) (.inr ⟨_, rfl⟩) (.inl hnote)
  obtain ⟨hstatus, hnotes, hnames, _⟩ := hrowwise hevaluated
  exact ⟨hwhole, by decide, by decide, ⟨_, rfl⟩, hnote, by decide, by decide, by decide, hevaluated, hkept,
    hstatus.trans (by decide), (hnotes hkept).trans (by decide), hnames.trans (by decide)⟩

def datedRules : List RuleConfig := [
  { priority := 1, statusValue := some "dated", note := "has a day",
    checks := [{ type := "is_not_null", field := some "due" }] }]

def dayBeyondCalendar (column : String) : Batch 1 := ⟨⟨[(column, .date32 ⟨[some 100000000], rfl⟩)]⟩⟩

def dayOfCalendar (column : String) : Batch 1 := ⟨⟨[(column, .date32 ⟨[some 0], rfl⟩)]⟩⟩

def bothDays (column : String) : Batch (1 + 1) :=
  ⟨⟨[(column, .date32 ⟨[some 100000000, some 0], rfl⟩)]⟩⟩

/-- A day outside the calendar in one part keeps a rule from labelling the other part, which it labels
when that is alone. In the note column it takes the notes of the other part away. -/
theorem not_rowwise_beyond_calendar :
    let engine := ofRules .empty "rules" datedRules
    let runWhole := fun column => engine.applyRules (bothDays column) "status" {} .order true
    let runFirst := fun column => engine.applyRules (dayBeyondCalendar column) "status" {} .order true
    let runRest := fun column => engine.applyRules (dayOfCalendar column) "status" {} .order true
    "status" ≠ Schema.matchedNote ∧
    (∀ written ∈ datedRules, ∀ check ∈ written.checks,
      (check.compile .empty).field? ≠ some Schema.matchedNote) ∧
    ((dayBeyondCalendar "due").append? (dayOfCalendar "due") = some (bothDays "due") ∧
      (dayBeyondCalendar "due").cells? "status" = none ∧
      (runRest "due").batch.textOrNulls "status" = ⟨[some "dated"], rfl⟩ ∧
      (runWhole "due").batch.textOrNulls "status" ≠
        (runFirst "due").batch.textOrNulls "status" ++ (runRest "due").batch.textOrNulls "status" ∧
      (runWhole "due").stats.names ≠ (runRest "due").stats.names) ∧
    (dayBeyondCalendar Schema.matchedNote).append? (dayOfCalendar Schema.matchedNote) =
      some (bothDays Schema.matchedNote) ∧
    (dayBeyondCalendar Schema.matchedNote).cells? "status" = none ∧
    (runWhole Schema.matchedNote).batch.textOrNulls Schema.matchedNote ≠
      (runFirst Schema.matchedNote).batch.textOrNulls Schema.matchedNote ++
        (runRest Schema.matchedNote).batch.textOrNulls Schema.matchedNote := by
  decide

end Engine

end PurchaseStatus
