import PurchaseStatus.Engine.Basic
import PurchaseStatus.Proofs.Check.Locality

namespace PurchaseStatus

variable {n : Nat} {task : LabelingTask}

namespace Labeling

/-- The notes of the rows. -/
def notes (state : Labeling n) : Texts n := state.batch.textOrNulls Schema.matchedNote

/-- The state after a rule has claimed rows; where it claims none, nothing is written. -/
def claim (task : LabelingTask) (state : Labeling n) (rows : Mask n) (status note : String) :
    Labeling n :=
  if 0 < rows.count then state.label task rows status note else state

/-- A rule with a label and a mask claims the rows of the mask that are unset, and is recorded with their
number. -/
theorem apply_of_evaluated {state : Labeling n} {rule : Rule} {status : String} {matched : Mask n}
    (hstatus : rule.labelFor? task.kind = some status)
    (hmatched : rule.mask? (state.input task) = some matched) :
    state.apply task rule =
      (state.claim task (matched.and state.unset) status rule.note).record task rule.id
        (matched.and state.unset).count := by
  simp only [apply, hstatus, hmatched, claim]

/-- A rule without a label does nothing. -/
theorem apply_of_no_status {state : Labeling n} {rule : Rule}
    (hstatus : rule.labelFor? task.kind = none) : state.apply task rule = state := by
  simp only [apply, hstatus]

/-- A rule none of whose checks can be evaluated does nothing. -/
theorem apply_of_no_mask {state : Labeling n} {rule : Rule}
    (hmatched : rule.mask? (state.input task) = none) : state.apply task rule = state := by
  unfold apply
  cases rule.labelFor? task.kind with
  | none => rfl
  | some status => simp only [hmatched]

/-- All that one rule can do: nothing, or claim unset rows of its mask and have that recorded. -/
theorem apply_cases (task : LabelingTask) (state : Labeling n) (rule : Rule) :
    state.apply task rule = state ∨
    ∃ status matched, rule.labelFor? task.kind = some status ∧
      rule.mask? (state.input task) = some matched ∧
      state.apply task rule =
        (state.claim task (matched.and state.unset) status rule.note).record task rule.id
          (matched.and state.unset).count := by
  cases hstatus : rule.labelFor? task.kind with
  | none => exact .inl (apply_of_no_status hstatus)
  | some status =>
    cases hmatched : rule.mask? (state.input task) with
    | none => exact .inl (apply_of_no_mask hmatched)
    | some matched => exact .inr ⟨status, matched, rfl, rfl, apply_of_evaluated hstatus hmatched⟩

@[simp] theorem record_status (state : Labeling n) (id : String) (count : Nat) :
    (state.record task id count).status = state.status := rfl

@[simp] theorem record_unset (state : Labeling n) (id : String) (count : Nat) :
    (state.record task id count).unset = state.unset := rfl

@[simp] theorem record_notes (state : Labeling n) (id : String) (count : Nat) :
    (state.record task id count).notes = state.notes := rfl

@[simp] theorem claim_masks (state : Labeling n) (rows : Mask n) (status note : String) :
    (state.claim task rows status note).masks = state.masks := by
  unfold claim
  split <;> rfl

@[simp] theorem claim_hits (state : Labeling n) (rows : Mask n) (status note : String) :
    (state.claim task rows status note).hits = state.hits := by
  unfold claim
  split <;> rfl

section Rows

variable (state : Labeling n) (rows : Mask n) (status note : String) (row : Fin n)

/-- A row that is claimed gets the status. -/
theorem get_status_claim : (state.claim task rows status note).status.get row =
    if rows.get row then some status else state.status.get row := by
  unfold claim
  split
  · exact Series.get_fill _ _ _ _
  · rename_i hnone
    rw [Mask.get_eq_false_of_count hnone]
    rfl

/-- A row that is claimed gets the note. -/
theorem get_notes_claim : (state.claim task rows status note).notes.get row =
    if rows.get row then some note else state.notes.get row := by
  unfold claim
  split
  · simp only [label, notes, Batch.textOrNulls_putText_self, Series.get_fill]
  · rename_i hnone
    rw [Mask.get_eq_false_of_count hnone]
    rfl

/-- A row that is claimed is set from then on. -/
theorem get_unset_claim : (state.claim task rows status note).unset.get row =
    (state.unset.get row && !rows.get row) := by
  unfold claim
  split
  · exact Mask.get_andNot _ _ _
  · rename_i hnone
    rw [Mask.get_eq_false_of_count hnone]
    simp

end Rows

/-- Claiming rows leaves all other columns as they are. -/
theorem cells?_claim_of_ne (state : Labeling n) (rows : Mask n) (status note : String)
    {column : String} (hstatus : column ≠ task.statusColumn) (hnote : column ≠ Schema.matchedNote) :
    (state.claim task rows status note).batch.cells? column = state.batch.cells? column := by
  unfold claim
  split
  · simp only [label]
    rw [Batch.cells?_putText_of_ne _ hnote, Batch.cells?_putText_of_ne _ hstatus]
  · rfl

/-- A column is left as it is or written as text. -/
theorem cells?_claim_cases (task : LabelingTask) (state : Labeling n) (rows : Mask n)
    (status note column : String) :
    (state.claim task rows status note).batch.cells? column = state.batch.cells? column ∨
    ∃ values, (state.claim task rows status note).batch.cells? column = some (.text values) := by
  by_cases hnote : column = Schema.matchedNote
  · subst hnote
    unfold claim
    split
    · exact .inr ⟨_, Batch.cells?_putText_self _ _ _⟩
    · exact .inl rfl
  · by_cases hstatus : column = task.statusColumn
    · subst hstatus
      unfold claim
      split
      · refine .inr ⟨state.status.fill rows status, ?_⟩
        simp only [label]
        rw [Batch.cells?_putText_of_ne _ hnote, Batch.cells?_putText_self]
      · exact .inl rfl
    · exact .inl (cells?_claim_of_ne state rows status note hstatus hnote)

/-- The status of a state is what its batch holds, and rows are unset only where that is blank. A
row with a blank label of a rule is no longer unset. -/
structure Coherent (task : LabelingTask) (state : Labeling n) : Prop where
  status : state.batch.textOrNulls task.statusColumn = state.status
  blank : ∀ row, state.unset.get row = true → isBlank (state.status.get row) = true

/-- What a run leaves alone: rows that are unset before and after it, rows that are set before it,
all columns but two, the types of these two unless they become text, and all masks but one. -/
structure Frame (task : LabelingTask) (before after : Labeling n) : Prop where
  unset : ∀ row, after.unset.get row = true → before.unset.get row = true
  status : ∀ row, before.unset.get row = after.unset.get row →
    after.status.get row = before.status.get row
  notes : ∀ row, before.unset.get row = after.unset.get row →
    after.notes.get row = before.notes.get row
  cells : ∀ column, column ≠ task.statusColumn → column ≠ Schema.matchedNote →
    after.batch.cells? column = before.batch.cells? column
  written : ∀ column, after.batch.cells? column = before.batch.cells? column ∨
    ∃ values, after.batch.cells? column = some (.text values)
  masks : ∀ name, name ≠ Builtin.noStatus.name → after.masks.get? name = before.masks.get? name

namespace Frame

variable {before middle after : Labeling n}

theorem refl (task : LabelingTask) (state : Labeling n) : Frame task state state :=
  ⟨fun _ h => h, fun _ _ => rfl, fun _ _ => rfl, fun _ _ _ => rfl, fun _ => .inl rfl, fun _ _ => rfl⟩

/-- A row whose bit is the same at both ends of two runs has it in between as well. -/
theorem unset_middle (h : Frame task before middle) (h' : Frame task middle after) {row : Fin n}
    (hrow : before.unset.get row = after.unset.get row) :
    before.unset.get row = middle.unset.get row ∧ middle.unset.get row = after.unset.get row := by
  cases hmiddle : middle.unset.get row with
  | true =>
    have hbefore := h.unset row hmiddle
    exact ⟨hbefore, by rw [← hrow, hbefore]⟩
  | false =>
    cases hafter : after.unset.get row with
    | true => simp [h'.unset row hafter] at hmiddle
    | false => exact ⟨hrow.trans hafter, rfl⟩

/-- What two runs in a row leave alone, both leave alone together. -/
theorem trans (h : Frame task before middle) (h' : Frame task middle after) :
    Frame task before after where
  unset row hrow := h.unset row (h'.unset row hrow)
  status row hrow := by
    obtain ⟨hfirst, hsecond⟩ := unset_middle h h' hrow
    rw [h'.status row hsecond, h.status row hfirst]
  notes row hrow := by
    obtain ⟨hfirst, hsecond⟩ := unset_middle h h' hrow
    rw [h'.notes row hsecond, h.notes row hfirst]
  cells column hstatus hnote := by
    rw [h'.cells column hstatus hnote, h.cells column hstatus hnote]
  written column := by
    rcases h'.written column with hsame | htext
    · rw [hsame]
      exact h.written column
    · exact .inr htext
  masks name hname := by rw [h'.masks name hname, h.masks name hname]

end Frame

/-- The mask `no_status` covers the unset rows, where one is registered. -/
def Fresh (state : Labeling n) : Prop :=
  ∀ mask, state.masks.maskFor? n Builtin.noStatus.name = some mask →
    ∀ row, state.unset.get row = true → mask.get row = true

section Step

variable {state : Labeling n}

/-- Claiming rows sets them and touches no other row. -/
theorem frame_claim (state : Labeling n) (matched : Mask n) (status note : String) :
    Frame task state (state.claim task (matched.and state.unset) status note) where
  unset row hrow := by
    rw [get_unset_claim, Bool.and_eq_true] at hrow
    exact hrow.1
  status row hrow := by
    rw [get_unset_claim, Mask.get_and] at hrow
    rw [get_status_claim, Mask.get_and]
    cases hm : matched.get row <;> cases hu : state.unset.get row <;> simp_all
  notes row hrow := by
    rw [get_unset_claim, Mask.get_and] at hrow
    rw [get_notes_claim, Mask.get_and]
    cases hm : matched.get row <;> cases hu : state.unset.get row <;> simp_all
  cells column hstatus hnote := cells?_claim_of_ne state _ status note hstatus hnote
  written column := cells?_claim_cases task state _ status note column
  masks name _ := by rw [claim_masks]

/-- Recording a rule touches no row and one mask at most. -/
theorem frame_record (task : LabelingTask) (state : Labeling n) (id : String) (count : Nat) :
    Frame task state (state.record task id count) where
  unset _ hrow := hrow
  status _ _ := rfl
  notes _ _ := rfl
  cells _ _ _ := rfl
  written _ := .inl rfl
  masks name hname := by
    unfold record
    dsimp only
    split
    · exact Named.get?_put_of_ne _ hname _
    · rfl

/-- A rule touches unset rows only. -/
theorem frame_apply (task : LabelingTask) (state : Labeling n) (rule : Rule) :
    Frame task state (state.apply task rule) := by
  rcases apply_cases task state rule with hsame | ⟨status, matched, _, _, heq⟩
  · rw [hsame]
    exact .refl task state
  · rw [heq]
    exact (frame_claim state matched status rule.note).trans (frame_record task _ rule.id _)

/-- The status is written into the column as it is carried along, unless notes are written over it. -/
theorem Coherent.claim (hne : task.statusColumn ≠ Schema.matchedNote) (h : state.Coherent task)
    (rows : Mask n) (status note : String) : (state.claim task rows status note).Coherent task where
  status := by
    unfold Labeling.claim
    split
    · simp only [label]
      rw [Batch.textOrNulls_congr (Batch.cells?_putText_of_ne _ hne _), Batch.textOrNulls_putText_self]
    · exact h.status
  blank row hrow := by
    rw [get_unset_claim, Bool.and_eq_true, Bool.not_eq_true'] at hrow
    rw [get_status_claim, hrow.2]
    exact h.blank row hrow.1

/-- A rule keeps the status column and the run together. -/
theorem Coherent.apply (hne : task.statusColumn ≠ Schema.matchedNote) (h : state.Coherent task)
    (rule : Rule) : (state.apply task rule).Coherent task := by
  rcases apply_cases task state rule with hsame | ⟨status, matched, _, _, heq⟩
  · rw [hsame]
    exact h
  · have hclaim := h.claim hne (matched.and state.unset) status rule.note
    rw [heq]
    exact ⟨hclaim.status, hclaim.blank⟩

/-- The mask of unset rows is up to date when a rule is recorded. -/
theorem Fresh.record (h : state.Fresh) (id : String) (count : Nat) :
    (state.record task id count).Fresh := by
  intro mask hmask row hrow
  unfold Labeling.record at hmask
  dsimp only at hmask
  split at hmask
  · rw [Registry.maskFor?_register_self, Option.some_inj] at hmask
    rw [← hmask]
    exact hrow
  · exact h mask hmask row hrow

/-- A mask for a missing status that includes all unset rows still does after a rule. -/
theorem Fresh.apply (h : state.Fresh) (rule : Rule) : (state.apply task rule).Fresh := by
  rcases apply_cases task state rule with hsame | ⟨status, matched, _, _, heq⟩
  · rw [hsame]
    exact h
  · rw [heq]
    refine Fresh.record (fun mask hmask row hrow => ?_) _ _
    rw [claim_masks] at hmask
    exact h mask hmask row ((frame_claim state matched status rule.note).unset row hrow)

end Step

section Run

variable {state : Labeling n} (rules : List Rule)

/-- Any number of rules touch unset rows only. -/
theorem frame_applyAll (task : LabelingTask) (state : Labeling n) :
    Frame task state (state.applyAll task rules) := by
  induction rules generalizing state with
  | nil => exact .refl task state
  | cons rule rest ih => exact (frame_apply task state rule).trans (ih (state.apply task rule))

/-- Any number of rules keep the status column and the run together. -/
theorem Coherent.applyAll (hne : task.statusColumn ≠ Schema.matchedNote) (h : state.Coherent task) :
    (state.applyAll task rules).Coherent task := by
  induction rules generalizing state with
  | nil => exact h
  | cons rule rest ih => exact ih (h.apply hne rule)

end Run

section Start

variable (task : LabelingTask) (batch : Batch n) (masks : Registry)

/-- A run begins with the status that its column holds. -/
theorem coherent_start : (start task batch masks).Coherent task where
  status := rfl
  blank row hrow := by
    simp only [start, Texts.get_unset] at hrow
    exact hrow

/-- A mask that is not there is not out of date. -/
theorem fresh_start_of_none (hnone : masks.get? Builtin.noStatus.name = none) :
    (start task batch masks).Fresh := by
  intro mask hmask
  simp [start, Registry.maskFor?, hnone] at hmask

@[simp] theorem get_unset_start (row : Fin n) : (start task batch masks).unset.get row =
    isBlank ((batch.textOrNulls task.statusColumn).get row) := by
  simp [start]

end Start

/-- In a coherent state with a fresh mask the check `no_status` is true in every unset row. -/
theorem exists_noStatus_mask {state : Labeling n} (hcoherent : state.Coherent task)
    (hfresh : state.Fresh) : ∃ mask, Builtin.noStatus.evaluate? (state.input task) = some mask ∧
      ∀ row, state.unset.get row = true → mask.get row = true := by
  cases hmask : (state.input task).registered? Builtin.noStatus.name with
  | some mask => exact ⟨mask, by rw [Builtin.evaluate?, hmask]; rfl, hfresh mask hmask⟩
  | none =>
    refine ⟨Builtin.noStatusMask (state.input task), by rw [Builtin.evaluate?, hmask]; rfl, ?_⟩
    intro row hrow
    have hstatus : (state.input task).batch.textOrNulls (state.input task).statusColumn =
      state.status := hcoherent.status
    rw [Builtin.noStatusMask, Texts.get_unset, hstatus]
    exact hcoherent.blank row hrow

/-- Where a run leaves the status and the note column text, as it found them, every column reads
alike before and after it in the rows that are still unset. -/
theorem Frame.agreeOn {before after : Labeling n} (h : Frame task before after)
    (hbefore : before.Coherent task) (hafter : after.Coherent task) {column : String}
    (htext : column = task.statusColumn ∨ column = Schema.matchedNote →
      ∃ values, before.batch.cells? column = some (.text values)) :
    Batch.AgreeOn (Series.within fun row => after.unset.get row = true) column after.batch
      before.batch := by
  have hbits : ∀ row, after.unset.get row = true → before.unset.get row = after.unset.get row :=
    fun row hrow => by rw [hrow, h.unset row hrow]
  rcases h.written column with hsame | ⟨new, hnew⟩
  · exact Batch.agreeOn_of_cells?_eq _ hsame
  · by_cases hstatus : column = task.statusColumn
    · subst hstatus
      obtain ⟨old, hold⟩ := htext (.inl rfl)
      refine Batch.agreeOn_of_text hnew hold ?_
      rintro row _ ⟨rfl, hrow⟩
      have hkept := h.status row (hbits row hrow)
      rwa [← hafter.status, ← hbefore.status, Batch.textOrNulls_of_cells? hnew,
        Batch.textOrNulls_of_cells? hold] at hkept
    · by_cases hnote : column = Schema.matchedNote
      · subst hnote
        obtain ⟨old, hold⟩ := htext (.inr rfl)
        refine Batch.agreeOn_of_text hnew hold ?_
        rintro row _ ⟨rfl, hrow⟩
        have hkept := h.notes row (hbits row hrow)
        rwa [Labeling.notes, Labeling.notes, Batch.textOrNulls_of_cells? hnew,
          Batch.textOrNulls_of_cells? hold] at hkept
      · exact Batch.agreeOn_of_cells?_eq _ (h.cells column hstatus hnote)

section Registered

variable {before after : Labeling n}

/-- No mask but that for a missing status is registered while rules are applied. -/
theorem Frame.registered? (h : Frame task before after) {name : String}
    (hname : name ≠ Builtin.noStatus.name) :
    (after.input task).registered? name = (before.input task).registered? name := by
  simp only [CheckInput.registered?, input, Registry.maskFor?, h.masks name hname]

/-- The masks of the built-in checks are kept. -/
theorem Frame.registered?_builtin (h : Frame task before after) {builtin : Builtin}
    (hne : builtin ≠ .noStatus) :
    (after.input task).registered? builtin.name = (before.input task).registered? builtin.name :=
  h.registered? fun hname => hne (Builtin.name_injective hname)

/-- The masks under names of no built-in check are kept. -/
theorem Frame.registered?_of_other (h : Frame task before after) {name : String}
    (hname : Builtin.ofName? name = none) :
    (after.input task).registered? name = (before.input task).registered? name := by
  refine h.registered? ?_
  rintro rfl
  cases hname

end Registered

end Labeling

end PurchaseStatus
