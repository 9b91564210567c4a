import PurchaseStatus.Proofs.Engine.Conservation
import PurchaseStatus.Proofs.Step.ReferenceData
import PurchaseStatus.Step.Report

namespace PurchaseStatus

variable {n : Nat}

/-- The order of some hits makes no difference to their number of rows. -/
theorem rowsOf_of_perm {hits other : List (String × Nat)} (h : hits.Perm other) :
    rowsOf hits = rowsOf other :=
  (h.map Prod.snd).sum_nat

namespace Named

variable {α : Type u}

/-- A new name is written at the end. -/
theorem putEntry_of_not_mem {name : String} (a : α) {entries : List (String × α)}
    (hnew : name ∉ entries.map (·.1)) : putEntry name a entries = entries ++ [(name, a)] := by
  induction entries with
  | nil => rfl
  | cons entry rest ih =>
    obtain ⟨hne, hrest⟩ := not_or.1 (mt List.mem_cons.2 hnew)
    rw [putEntry, if_neg (Ne.symm hne), ih hrest, List.cons_append]

/-- Entries of new names all go behind those that are there. -/
theorem entries_merge_of_disjoint {m : Named α} {more : List (String × α)}
    (hdisjoint : ∀ name ∈ more.map (·.1), name ∉ m.names) (hnodup : (more.map (·.1)).Nodup) :
    (m.merge more).entries = m.entries ++ more := by
  induction more generalizing m with
  | nil => exact (List.append_nil _).symm
  | cons entry rest ih =>
    obtain ⟨hentry, hrest⟩ := List.forall_mem_cons.1 hdisjoint
    obtain ⟨hnew, hnodup⟩ := List.nodup_cons.1 hnodup
    have hput : (m.put entry.1 entry.2).entries = m.entries ++ [entry] := putEntry_of_not_mem entry.2 hentry
    have hnext : ∀ name ∈ rest.map (·.1), name ∉ (m.put entry.1 entry.2).names := by
      intro name hname hmem
      rw [names, hput, List.map_append, List.mem_append] at hmem
      rcases hmem with hmem | hmem
      · exact hrest name hname hmem
      · cases List.mem_singleton.1 hmem
        exact hnew hname
    have hmerge : m.merge (entry :: rest) = (m.put entry.1 entry.2).merge rest := rfl
    rw [hmerge, ih hnext hnodup, hput, List.append_assoc, List.singleton_append]

end Named

namespace Json

/-- A count as a field of an object. -/
def countField (entry : String × Nat) : String × Json := (entry.1, .int entry.2)

/-- A field that is inserted among others in the order of their names makes a table of counts with one
more entry. -/
theorem exists_insertField {name : String} {counts : List (String × Nat)} (count : Nat)
    (hnew : name ∉ counts.map (·.1)) :
    ∃ more : List (String × Nat),
      insertField name (.int count) (counts.map countField) = more.map countField ∧
      more.Perm ((name, count) :: counts) := by
  induction counts with
  | nil => exact ⟨[(name, count)], rfl, .refl _⟩
  | cons entry rest ih =>
    obtain ⟨other, old⟩ := entry
    obtain ⟨hne, hrest⟩ := not_or.1 (mt List.mem_cons.2 hnew)
    rw [List.map_cons, countField, insertField, if_neg hne]
    split
    · exact ⟨(name, count) :: (other, old) :: rest, rfl, .refl _⟩
    · obtain ⟨more, hmore, hperm⟩ := ih hrest
      exact ⟨(other, old) :: more, by rw [hmore]; rfl, (hperm.cons _).trans (.swap _ _ _)⟩

/-- Counts under different names all become fields of the object, sorted by name. -/
theorem exists_ofCounts {counts : Named Nat} (hnodup : counts.names.Nodup) :
    ∃ sorted : List (String × Nat),
      ofCounts counts = .object (sorted.map countField) ∧ sorted.Perm counts.entries := by
  obtain ⟨entries⟩ := counts
  have hfold : ∃ sorted : List (String × Nat), (entries.map countField).foldl
      (fun sorted field => insertField field.1 field.2 sorted) [] = sorted.map countField ∧
      sorted.Perm entries := by
    change (entries.map (·.1)).Nodup at hnodup
    induction entries using List.reverseRecOn with
    | nil => exact ⟨[], rfl, .refl _⟩
    | append_singleton entries entry ih =>
      rw [List.map_append, List.nodup_append] at hnodup
      obtain ⟨hearlier, _, hlast⟩ := hnodup
      obtain ⟨sorted, hsorted, hperm⟩ := ih hearlier
      have hnew : entry.1 ∉ sorted.map (·.1) := fun hmem =>
        hlast entry.1 ((hperm.map _).mem_iff.1 hmem) entry.1 List.mem_cons_self rfl
      obtain ⟨more, hmore, hperm'⟩ := exists_insertField entry.2 hnew
      have hlast' := (List.perm_append_singleton entry entries).symm
      refine ⟨more, ?_, hperm'.trans ((hperm.cons entry).trans hlast')⟩
      rw [List.map_append, List.foldl_append, hsorted]
      exact hmore
  obtain ⟨sorted, hsorted, hperm⟩ := hfold
  exact ⟨sorted, congrArg Json.object hsorted, hperm⟩

end Json

namespace Texts

variable (texts : Texts n)

/-- The values that count, those that are not blank. -/
def filled : List String := texts.toList.filterMap fun value => if isBlank value then none else value

/-- The texts that are counted are those of the rows that are not blank. -/
theorem filled_eq : texts.filled =
    (List.finRange n).filterMap fun row => if isBlank (texts.get row) then none else texts.get row := by
  rw [filled, Series.toList_eq_map_get, List.filterMap_map]
  rfl

theorem isBlank_of_mem_filled {value : String} (h : value ∈ texts.filled) : isBlank (some value) = false := by
  rw [filled_eq, List.mem_filterMap] at h
  obtain ⟨row, _, hrow⟩ := h
  rw [Option.ite_none_left_eq_some, Bool.not_eq_true] at hrow
  rw [← hrow.2, hrow.1]

theorem length_filled : texts.filled.length = (List.finRange n).countP fun row => !isBlank (texts.get row) := by
  rw [filled_eq, List.length_filterMap_eq_countP]
  refine List.countP_congr fun row _ => ?_
  cases hvalue : texts.get row with
  | none => simp [isBlank]
  | some value => cases hblank : isBlank (some value) <;> simp

/-- A text is counted as often as it stands in a row. -/
theorem count_filled {value : String} (hvalue : isBlank (some value) = false) :
    texts.filled.count value = (List.finRange n).countP fun row => texts.get row == some value := by
  rw [List.count, filled_eq, List.countP_filterMap]
  refine List.countP_congr fun row _ => ?_
  by_cases hrow : texts.get row = some value
  · simp [hrow, hvalue]
  · cases hother : texts.get row with
    | none => simp [isBlank]
    | some other =>
      have hne : other ≠ value := fun h => hrow (hother.trans (congrArg some h))
      cases isBlank (some other) <;> simp [hne]

/-- Texts are counted as the rows of a run are: one by one under their own names. -/
theorem counts_eq : texts.counts = RuleStats.addAll ∅ (texts.filled.map fun value => (value, 1)) := by
  rw [RuleStats.addAll, List.foldl_map]
  rfl

/-- Each text is listed once. -/
theorem nodup_names_counts : texts.counts.names.Nodup := by
  have hempty : (Named.names (∅ : RuleStats)).Nodup := List.nodup_nil
  rw [counts_eq]
  exact RuleStats.nodup_names_addAll hempty _

/-- A value is counted if it occurs and is not blank, and then with the rows in which it stands. -/
theorem mem_counts_iff {value : String} {count : Nat} : (value, count) ∈ texts.counts.entries ↔
    isBlank (some value) = false ∧ 0 < count ∧
      count = (List.finRange n).countP fun row => texts.get row == some value := by
  -- each text is counted as a hit of its own name with one row
  have hcount : ∀ value, RuleStats.countOf texts.counts value = texts.filled.count value := by
    intro value
    have hrows : rowsOf ((texts.filled.map fun value => (value, 1)).filter (·.1 = value)) =
        texts.filled.count value := by
      induction texts.filled with
      | nil => rfl
      | cons other rest ih =>
        rw [List.map_cons, List.filter_cons, List.count_cons, ← ih]
        by_cases hother : other = value <;> simp [hother, rowsOf_cons, Nat.add_comm]
    rw [counts_eq, RuleStats.countOf_addAll, hrows]
    exact Nat.zero_add _
  have hnames : ∀ value, value ∈ texts.counts.names ↔ value ∈ texts.filled := by
    intro value
    rw [counts_eq, RuleStats.mem_names_addAll, List.map_map]
    exact (or_iff_right List.not_mem_nil).trans (by simp)
  rw [RuleStats.entries_eq_map texts.nodup_names_counts, List.mem_map]
  constructor
  · rintro ⟨_, hmem, heq⟩
    cases heq
    rw [hnames] at hmem
    have hvalue := texts.isBlank_of_mem_filled hmem
    rw [hcount, ← texts.count_filled hvalue]
    exact ⟨hvalue, List.count_pos_iff.2 hmem, rfl⟩
  · rintro ⟨hvalue, hpos, hrows⟩
    rw [← texts.count_filled hvalue] at hrows
    rw [hrows] at hpos
    exact ⟨value, (hnames value).2 (List.count_pos_iff.1 hpos), Prod.ext rfl ((hcount value).trans hrows.symm)⟩

/-- All counts together are the rows that are not blank. -/
theorem rowsOf_counts : rowsOf texts.counts.entries =
    (List.finRange n).countP fun row => !isBlank (texts.get row) := by
  have htotal := RuleStats.total_addAll ∅ (texts.filled.map fun value => (value, 1))
  have hones : rowsOf (texts.filled.map fun value => (value, 1)) = texts.filled.length := by
    induction texts.filled with
    | nil => rfl
    | cons value rest ih => rw [List.map_cons, rowsOf_cons, ih, List.length_cons, Nat.add_comm]
  rw [← counts_eq, hones, length_filled] at htotal
  exact htotal.trans (Nat.zero_add _)

end Texts

theorem Batch.count_unset_textOrNulls (batch : Batch n) (column : String) :
    (batch.textOrNulls column).unset.count =
      (List.finRange n).countP fun row => isBlank (batch.textAt? column row) := by
  rw [Mask.count_eq_countP]
  refine List.countP_congr fun row _ => ?_
  rw [Texts.get_unset, get_textOrNulls]

/-- The distribution of a column, as it is reported: each text that is not blank with its rows. -/
theorem Batch.exists_statusCounts (batch : Batch n) (column : String) :
    ∃ counts : List (String × Nat),
      Json.ofCounts (batch.statusCounts column) = .object (counts.map Json.countField) ∧
      (counts.map (·.1)).Nodup ∧
      (∀ status count, (status, count) ∈ counts ↔ isBlank (some status) = false ∧ 0 < count ∧
        count = (List.finRange n).countP fun row => batch.textAt? column row == some status) ∧
      rowsOf counts = (List.finRange n).countP fun row => !isBlank (batch.textAt? column row) := by
  let statuses := batch.textOrNulls column
  obtain ⟨sorted, hsorted, hperm⟩ := Json.exists_ofCounts statuses.nodup_names_counts
  refine ⟨sorted, hsorted, (hperm.map Prod.fst).nodup_iff.2 statuses.nodup_names_counts,
    fun status count => ?_, ?_⟩
  · rw [hperm.mem_iff, statuses.mem_counts_iff]
    simp only [statuses, get_textOrNulls]
  · have htotal := statuses.rowsOf_counts
    simp only [statuses, get_textOrNulls] at htotal
    exact (rowsOf_of_perm hperm).trans htotal

end PurchaseStatus
