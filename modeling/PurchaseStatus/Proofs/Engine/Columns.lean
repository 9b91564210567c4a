import PurchaseStatus.Proofs.Engine.Conservation

namespace PurchaseStatus

variable {n : Nat} {task : LabelingTask}

namespace Named

variable {α : Type u}

/-- A name is found if it is the name of an entry. -/
theorem isSome_find?_iff {name : String} {entries : List (String × α)} :
    (find? name entries).isSome = true ↔ name ∈ entries.map (·.1) := by
  induction entries with
  | nil => simp [find?]
  | cons e rest ih =>
    rw [find?, List.map_cons, List.mem_cons]
    split
    · rename_i heq
      exact ⟨fun _ => .inl heq.symm, fun _ => rfl⟩
    · rename_i hne
      exact ih.trans (or_iff_right fun heq => hne heq.symm).symm

/-- Only the first place of a name is written. -/
theorem getElem?_putEntry_of_ne {name : String} {entries : List (String × α)} {place : Nat} (a : α)
    (hplace : place ≠ (entries.map (·.1)).idxOf name) :
    (putEntry name a entries)[place]? = entries[place]? := by
  induction entries generalizing place with
  | nil =>
    obtain ⟨before, rfl⟩ := Nat.exists_eq_succ_of_ne_zero hplace
    rfl
  | cons e rest ih =>
    rw [List.map_cons, List.idxOf_cons] at hplace
    rw [putEntry]
    by_cases heq : e.1 = name
    · rw [if_pos heq]
      rw [beq_iff_eq.2 heq] at hplace
      obtain ⟨before, rfl⟩ := Nat.exists_eq_succ_of_ne_zero hplace
      rfl
    · rw [if_neg heq]
      rw [beq_eq_false_iff_ne.2 heq] at hplace
      cases place with
      | zero => rfl
      | succ before =>
        have hbefore : before ≠ (rest.map (·.1)).idxOf name := fun h => hplace (congrArg (· + 1) h)
        exact ih hbefore

end Named

namespace Batch

/-- The place of the first column of a name; behind the last one when there is none. -/
def placeOf (b : Batch n) (name : String) : Nat := b.names.idxOf name

/-- The column at a place, its name included. -/
def column? (b : Batch n) (place : Nat) : Option (String × Cells n) := b.columns.entries[place]?

/-- The names of columns once one of a name is among them. -/
def withName (names : List String) (name : String) : List String :=
  if name ∈ names then names else names ++ [name]

theorem hasColumn_iff {b : Batch n} {name : String} : b.hasColumn name = true ↔ name ∈ b.names :=
  Named.isSome_find?_iff

/-- A column that is put keeps its place, and a new one goes to the end. -/
theorem names_put (b : Batch n) (name : String) (cells : Cells n) :
    (b.put name cells).names = withName b.names name :=
  Named.names_put b.columns name cells

@[simp] theorem names_putText (b : Batch n) (name : String) (values : Texts n) :
    (b.putText name values).names = withName b.names name :=
  b.names_put name (.text values)

@[simp] theorem names_ensureText (b : Batch n) (name : String) :
    (b.ensureText name).names = withName b.names name := by
  by_cases hname : name ∈ b.names
  · rw [ensureText_of_hasColumn (hasColumn_iff.2 hname), withName, if_pos hname]
  · rw [ensureText, if_neg (mt hasColumn_iff.1 hname), names_putText]

theorem withName_of_mem {names : List String} {name : String} (hname : name ∈ names) :
    withName names name = names := if_pos hname

/-- A name that is added is there. -/
theorem mem_withName_self (names : List String) (name : String) : name ∈ withName names name := by
  unfold withName
  split
  · assumption
  · exact List.mem_append_right names (List.mem_singleton_self name)

/-- A name is added behind all others, or not at all. -/
theorem prefix_withName (names : List String) (name : String) : names <+: withName names name := by
  unfold withName
  split
  · exact List.prefix_refl names
  · exact List.prefix_append names [name]

/-- The columns of a batch are the first ones of another batch, in their order and with their names
and cells, but for the cells in the first columns of two names. -/
structure KeepsOthers (first second : String) (before after : Batch n) : Prop where
  names : before.names <+: after.names
  columns : ∀ place < before.names.length, place ≠ before.placeOf first → place ≠ before.placeOf second →
    after.column? place = before.column? place

namespace KeepsOthers

variable {first second : String} {before middle after : Batch n}

theorem refl (b : Batch n) : KeepsOthers first second b b := ⟨List.prefix_refl b.names, fun _ _ _ _ => rfl⟩

/-- Columns that are appended come behind all places there were. -/
theorem placeOf_ne (h : KeepsOthers first second before after) {name : String} {place : Nat}
    (hplace : place < before.names.length) (hne : place ≠ before.placeOf name) :
    place ≠ after.placeOf name := by
  obtain ⟨more, hnames⟩ := h.names
  unfold placeOf at hne ⊢
  rw [← hnames]
  by_cases hmem : name ∈ before.names
  · rwa [List.idxOf_append_of_mem hmem]
  · rw [List.idxOf_append_of_notMem hmem]
    omega

/-- Columns are kept step by step. -/
theorem trans (h : KeepsOthers first second before middle)
    (h' : KeepsOthers first second middle after) : KeepsOthers first second before after where
  names := h.names.trans h'.names
  columns place hplace hfirst hsecond := by
    have hmiddle : place < middle.names.length := Nat.lt_of_lt_of_le hplace h.names.length_le
    rw [h'.columns place hmiddle (h.placeOf_ne hplace hfirst) (h.placeOf_ne hplace hsecond)]
    exact h.columns place hplace hfirst hsecond

/-- Putting one of the two columns keeps all others. -/
theorem put {name : String} (b : Batch n) (cells : Cells n) (hname : name = first ∨ name = second) :
    KeepsOthers first second b (b.put name cells) where
  names := by
    rw [names_put]
    exact prefix_withName b.names name
  columns place _ hfirst hsecond := by
    have hplace : place ≠ b.placeOf name := by
      rcases hname with rfl | rfl <;> assumption
    exact Named.getElem?_putEntry_of_ne cells hplace

/-- Adding the first column keeps all others. -/
theorem ensureText (b : Batch n) : KeepsOthers first second b (b.ensureText first) := by
  unfold Batch.ensureText
  split
  · exact .refl b
  · exact .put b _ (.inl rfl)

end KeepsOthers

end Batch

namespace Labeling

/-- A run that labelled no row has left the batch as it is; one that labelled some has added the note
column where there was none. -/
def LaidOut (base : Batch n) (state : Labeling n) : Prop :=
  if rowsOf state.hits = 0 then state.batch = base
  else state.batch.names = Batch.withName base.names Schema.matchedNote

/-- The rows that are recorded for a rule are added to those before. -/
theorem rowsOf_hits_record (state : Labeling n) (id : String) (count : Nat) :
    rowsOf (state.record task id count).hits = rowsOf state.hits + count := by
  have hone : rowsOf [(id, count)] = count := rfl
  rw [record, rowsOf_append, hone]

@[simp] theorem record_batch (state : Labeling n) (id : String) (count : Nat) :
    (state.record task id count).batch = state.batch := rfl

section Step

variable {state : Labeling n} {base : Batch n}

/-- Claiming rows writes the status column and the note column only. -/
theorem keepsOthers_claim (state : Labeling n) (rows : Mask n) (status note : String) :
    Batch.KeepsOthers task.statusColumn Schema.matchedNote state.batch
      (state.claim task rows status note).batch := by
  unfold claim
  split
  · exact (Batch.KeepsOthers.put state.batch _ (.inl rfl)).trans (.put _ _ (.inr rfl))
  · exact .refl state.batch

/-- A rule writes the status column and the note column only. -/
theorem keepsOthers_apply (task : LabelingTask) (state : Labeling n) (rule : Rule) :
    Batch.KeepsOthers task.statusColumn Schema.matchedNote state.batch (state.apply task rule).batch := by
  rcases apply_cases task state rule with hsame | ⟨status, matched, _, _, heq⟩
  · rw [hsame]
    exact .refl state.batch
  · rw [heq, record_batch]
    exact keepsOthers_claim state _ status rule.note

/-- A run begins with the columns of its batch and the status column. -/
theorem laidOut_start (task : LabelingTask) (batch : Batch n) (masks : Registry) :
    (start task batch masks).LaidOut (batch.ensureText task.statusColumn) := by
  have hnone : rowsOf (start task batch masks).hits = 0 := rfl
  rw [LaidOut, if_pos hnone]
  rfl

/-- The status column stays where it is. -/
theorem LaidOut.mem_names (h : state.LaidOut base) (hcolumn : task.statusColumn ∈ base.names) :
    task.statusColumn ∈ state.batch.names := by
  unfold LaidOut at h
  split at h
  · rwa [h]
  · rw [h]
    exact (Batch.prefix_withName base.names Schema.matchedNote).subset hcolumn

/-- The note column comes to stand in one place, whenever it is written first. -/
theorem LaidOut.withName_names (h : state.LaidOut base) :
    Batch.withName state.batch.names Schema.matchedNote = Batch.withName base.names Schema.matchedNote := by
  unfold LaidOut at h
  split at h
  · rw [h]
  · rw [h, Batch.withName_of_mem (Batch.mem_withName_self base.names Schema.matchedNote)]

/-- A rule adds the note column once it has labelled a row, and no other column. -/
theorem LaidOut.apply (h : state.LaidOut base) (hcolumn : task.statusColumn ∈ base.names) (rule : Rule) :
    (state.apply task rule).LaidOut base := by
  rcases apply_cases task state rule with hsame | ⟨status, matched, _, _, heq⟩
  · rwa [hsame]
  · have hrows : rowsOf (state.apply task rule).hits =
        rowsOf state.hits + (matched.and state.unset).count := by
      rw [heq, rowsOf_hits_record, claim_hits]
    rw [LaidOut, hrows, heq, record_batch, claim]
    by_cases hsome : 0 < (matched.and state.unset).count
    · have hnames : (state.label task (matched.and state.unset) status rule.note).batch.names =
          Batch.withName state.batch.names Schema.matchedNote := by
        simp only [label, Batch.names_putText, Batch.withName_of_mem (h.mem_names hcolumn)]
      rw [if_pos hsome, if_neg (by omega), hnames]
      exact h.withName_names
    · rw [if_neg hsome, Nat.eq_zero_of_not_pos hsome]
      exact h

end Step

section Run

variable {state : Labeling n} {base : Batch n} (rules : List Rule)

/-- Any number of rules write the status column and the note column only. -/
theorem keepsOthers_applyAll (task : LabelingTask) (state : Labeling n) :
    Batch.KeepsOthers task.statusColumn Schema.matchedNote state.batch
      (state.applyAll task rules).batch := by
  induction rules generalizing state with
  | nil => exact .refl state.batch
  | cons rule rest ih => exact (keepsOthers_apply task state rule).trans (ih (state.apply task rule))

/-- After any number of rules the note column is there exactly if a row has been labelled. -/
theorem LaidOut.applyAll (h : state.LaidOut base) (hcolumn : task.statusColumn ∈ base.names) :
    (state.applyAll task rules).LaidOut base := by
  induction rules generalizing state with
  | nil => exact h
  | cons rule rest ih => exact ih (h.apply hcolumn rule)

end Run

end Labeling

end PurchaseStatus
