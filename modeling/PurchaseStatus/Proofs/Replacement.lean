import PurchaseStatus.Proofs.Engine.Columns

namespace PurchaseStatus

variable {n : Nat}

namespace Named

variable {α : Type u} {name other : String} {entries : List (String × α)}

/-- What is written stands at the first place of the name, or behind all entries. -/
theorem getElem?_putEntry_self (name : String) (a : α) (entries : List (String × α)) :
    (putEntry name a entries)[(entries.map (·.1)).idxOf name]? = some (name, a) := by
  induction entries with
  | nil => rfl
  | cons e rest ih =>
    rw [putEntry, List.map_cons, List.idxOf_cons]
    by_cases heq : e.1 = name
    · rw [if_pos heq, beq_iff_eq.2 heq]
      rfl
    · rw [if_neg heq, beq_eq_false_iff_ne.2 heq]
      exact ih

/-- Writes under two names, both of which are there, can change places. -/
theorem putEntry_comm (hne : name ≠ other) (hname : name ∈ entries.map (·.1))
    (hother : other ∈ entries.map (·.1)) (a b : α) :
    putEntry other b (putEntry name a entries) = putEntry name a (putEntry other b entries) := by
  induction entries with
  | nil => cases hname
  | cons e rest ih =>
    by_cases hfirst : e.1 = name
    · have hsecond : e.1 ≠ other := fun h => hne (hfirst.symm.trans h)
      rw [putEntry, if_pos hfirst, putEntry, if_neg hne, putEntry, if_neg hsecond, putEntry, if_pos hfirst]
    · by_cases hsecond : e.1 = other
      · rw [putEntry, if_neg hfirst, putEntry, if_pos hsecond, putEntry, if_pos hsecond, putEntry,
          if_neg (Ne.symm hne)]
      · have hrest : name ∈ rest.map (·.1) := List.mem_of_ne_of_mem (Ne.symm hfirst) hname
        have hrest' : other ∈ rest.map (·.1) := List.mem_of_ne_of_mem (Ne.symm hsecond) hother
        rw [putEntry, if_neg hfirst, putEntry, if_neg hsecond, putEntry, if_neg hsecond, putEntry,
          if_neg hfirst, ih hrest hrest']

end Named

namespace Batch

/-- There is a column besides the first one of a name. -/
def HasOther (b : Batch n) (name : String) : Prop := ∃ place < b.names.length, place ≠ b.placeOf name

/-- Another name is another column. -/
theorem hasOther_of_mem {b : Batch n} {name other : String} (hne : name ≠ other) (hother : other ∈ b.names) :
    b.HasOther name := by
  refine ⟨b.placeOf other, List.idxOf_lt_length_iff.2 hother, fun hplace => ?_⟩
  exact hne ((List.idxOf_inj hother).1 hplace).symm

/-- A column that is written alters nothing in which columns there are besides it. -/
theorem hasOther_put_iff (b : Batch n) (name : String) (cells : Cells n) :
    (b.put name cells).HasOther name ↔ b.HasOther name := by
  unfold HasOther placeOf
  rw [names_put, withName]
  split
  · rfl
  · rename_i habsent
    rw [List.idxOf_append_of_notMem habsent, List.idxOf_eq_length habsent, List.length_append]
    constructor
    · rintro ⟨place, hplace, hne⟩
      have hlast : (name :: []).idxOf name = 0 := List.idxOf_cons_self
      rw [List.length_singleton] at hplace
      exact ⟨place, by omega, by omega⟩
    · rintro ⟨place, hplace, hne⟩
      exact ⟨place, by omega, by omega⟩

/-- The check for a batch without another column is made on names and on the number of columns, since a
name may be repeated. -/
theorem alone_iff (b : Batch n) (name : String) :
    (b.names.all (· == name) && b.columns.size ≤ 1) = true ↔ ¬b.HasOther name := by
  have hsize : b.columns.size = b.names.length := (List.length_map _).symm
  rw [Bool.and_eq_true, decide_eq_true_eq, hsize]
  unfold HasOther placeOf
  match b.names with
  | [] => simp
  | [only] => by_cases h : only = name <;> simp [h]
  | first :: second :: rest =>
    refine iff_of_false (fun h => by simp at h) fun hnone => hnone ?_
    by_cases h : (first :: second :: rest).idxOf name = 0
    · exact ⟨1, by simp, by omega⟩
    · exact ⟨0, by simp, Ne.symm h⟩

section Put

variable {m k : Nat} (b : Batch n) (name : String)

/-- Cells of another length can be put just where nothing else has the length of the batch. -/
theorem put?_of_ne (hlength : m ≠ n) (cells : Cells m) : b.put? name cells =
    if b.names.all (· == name) && b.columns.size ≤ 1 then some ⟨m, (Batch.empty m).put name cells⟩
    else none :=
  dif_neg hlength

/-- Cells of another number of rows do not fit beside another column. -/
theorem put?_eq_none {name : String} (hother : b.HasOther name) (hlength : m ≠ n) (cells : Cells m) :
    b.put? name cells = none := by
  rw [put?_of_ne b name hlength, if_neg (fun halone => (alone_iff b name).1 halone hother)]

/-- A column can be put exactly if it has as many rows as the batch, or nothing stands beside it. -/
theorem isSome_put?_iff (cells : Cells m) :
    (b.put? name cells).isSome = true ↔ m = n ∨ ¬b.HasOther name := by
  by_cases hlength : m = n
  · subst hlength
    simp [put?_self]
  · by_cases hother : b.HasOther name
    · simp [put?_eq_none b hother hlength, hlength, hother]
    · rw [put?_of_ne b name hlength, if_pos ((alone_iff b name).2 hother)]
      simp [hother]

/-- A column that is put twice might as well be put once. -/
theorem put?_put (first : Cells n) (second : Cells m) :
    (b.put name first).put? name second = b.put? name second := by
  by_cases hlength : m = n
  · subst hlength
    rw [put?_self, put?_self, put, put, put, Named.put_put]
  · by_cases hother : b.HasOther name
    · rw [put?_eq_none b hother hlength,
        put?_eq_none _ ((hasOther_put_iff b name first).2 hother) hlength]
    · rw [put?_of_ne _ _ hlength, put?_of_ne _ _ hlength, if_pos ((alone_iff b name).2 hother),
        if_pos ((alone_iff _ _).2 (mt (hasOther_put_iff b name first).1 hother))]

/-- Columns of two names, both of which are there, can be put in either order. -/
theorem put?_comm {name other : String} (hne : name ≠ other) (hname : name ∈ b.names)
    (hother : other ∈ b.names) (first : Cells m) (second : Cells k) :
    (b.put? name first).bind (·.batch.put? other second) =
      (b.put? other second).bind (·.batch.put? name first) := by
  have hkeeps : ∀ (written : String) (cells : Cells n), b.names <+: (b.put written cells).names :=
    fun written cells => names_put b written cells ▸ prefix_withName b.names written
  by_cases hfirst : m = n
  · subst hfirst
    by_cases hsecond : k = m
    · subst hsecond
      simp only [put?_self, Option.bind_some]
      rw [put, put, put, put, Named.put, Named.put, Named.put, Named.put, Named.putEntry_comm hne hname hother]
    · rw [put?_self, Option.bind_some, put?_eq_none b (hasOther_of_mem (Ne.symm hne) hname) hsecond]
      exact put?_eq_none _ (hasOther_of_mem (Ne.symm hne) ((hkeeps name first).subset hname)) hsecond second
  · rw [put?_eq_none b (hasOther_of_mem hne hother) hfirst, Option.bind_none]
    by_cases hsecond : k = n
    · subst hsecond
      rw [put?_self, Option.bind_some]
      exact (put?_eq_none _ (hasOther_of_mem hne ((hkeeps other second).subset hother)) hfirst first).symm
    · rw [put?_eq_none b (hasOther_of_mem (Ne.symm hne) hname) hsecond, Option.bind_none]

end Put

/-- A batch after the first column of a name was replaced, or one was appended: the new cells are read
under the name, and every other place has the column that it had. -/
structure Replaced (b : Batch n) (name : String) (cells : Cells n) (after : Batch n) : Prop where
  read : after.cells? name = some cells
  names : after.names = withName b.names name
  column : after.column? (b.placeOf name) = some (name, cells)
  others : ∀ place, place ≠ b.placeOf name → after.column? place = b.column? place

/-- After a put the new cells are read under their name, at the place of the old ones or behind all
columns, and every other column is where it was. -/
theorem replaced_put (b : Batch n) (name : String) (cells : Cells n) :
    Replaced b name cells (b.put name cells) where
  read := cells?_put_self b name cells
  names := names_put b name cells
  column := Named.getElem?_putEntry_self name cells b.columns.entries
  others _ hplace := Named.getElem?_putEntry_of_ne cells hplace

/-- Reading and putting columns of a name belong together as getting and setting a field do. A put fails
where the length does not fit, and the laws say so on both sides. -/
structure ObeysLensLaws (b : Batch n) (name : String) : Prop where
  succeeds : ∀ {m : Nat} (cells : Cells m),
    (b.put? name cells).isSome = true ↔ m = n ∨ ¬b.HasOther name
  replaced : ∀ cells : Cells n, ∃ after, b.put? name cells = some ⟨n, after⟩ ∧ Replaced b name cells after
  put_read : ∀ cells : Cells n, b.cells? name = some cells → b.put? name cells = some ⟨n, b⟩
  put_put : ∀ (first : Cells n) {m : Nat} (second : Cells m),
    (b.put? name first).bind (·.batch.put? name second) = b.put? name second
  put_comm : ∀ other, name ≠ other → name ∈ b.names → other ∈ b.names →
    ∀ {m k : Nat} (first : Cells m) (second : Cells k),
      (b.put? name first).bind (·.batch.put? other second) =
        (b.put? other second).bind (·.batch.put? name first)

/-- Putting a column is lawful as a lens is: it succeeds exactly where the length fits, what was put is
read back, nothing else changes, and the puts of one name absorb and those of two names commute with each
other. Names may be repeated in the batch. -/
theorem obeysLensLaws (b : Batch n) (name : String) : b.ObeysLensLaws name where
  succeeds cells := isSome_put?_iff b name cells
  replaced cells := ⟨b.put name cells, put?_self b name cells, replaced_put b name cells⟩
  put_read cells hread := by rw [put?_self, put_of_cells? hread]
  put_put first _ second := by rw [put?_self, Option.bind_some, put?_put]
  put_comm _ hne hname hother _ _ first second := put?_comm b hne hname hother first second

end Batch

end PurchaseStatus
