import Mathlib.Logic.Function.Basic
import PurchaseStatus.Proofs.Check.Reading

namespace PurchaseStatus

variable {n m : Nat}

namespace Series

variable {α : Type u} {β : Type v}

/-- The values of a series are those of its rows. -/
theorem mem_toList_iff {s : Series α n} {a : α} : a ∈ s.toList ↔ ∃ row, s.get row = a := by
  rw [List.mem_iff_get]
  constructor
  · rintro ⟨i, rfl⟩
    exact ⟨⟨i.val, by simpa using i.isLt⟩, rfl⟩
  · rintro ⟨row, rfl⟩
    exact ⟨⟨row.val, by simp⟩, rfl⟩

/-- The rows that `rows` picks, in the order in which it picks them. -/
def select (s : Series α n) (rows : Fin m → Fin n) : Series α m :=
  ⟨List.ofFn fun row => s.get (rows row), by simp⟩

@[simp] theorem get_select (s : Series α n) (rows : Fin m → Fin n) (row : Fin m) :
    (s.select rows).get row = s.get (rows row) := by
  simp [get, select]

theorem map_select (f : α → β) (s : Series α n) (rows : Fin m → Fin n) :
    (s.select rows).map f = (s.map f).select rows :=
  ext_get (by simp)

theorem constant_select (a : α) (rows : Fin m → Fin n) : (constant n a).select rows = constant m a :=
  ext_get (by simp)

/-- Whether all values can be read does not depend on their order, nor on how often each occurs. -/
theorem readAll?_select (f : α → Option β) (s : Series (Option α) n) {rows : Fin m → Fin n}
    (hrows : rows.Surjective) : (s.select rows).readAll? f = (s.readAll? f).map (·.select rows) := by
  have hmem : ∀ a, a ∈ (s.select rows).toList.filterMap id ↔ a ∈ s.toList.filterMap id := by
    intro a
    simp only [List.mem_filterMap, id_eq, exists_eq_right, mem_toList_iff, get_select, hrows.exists]
  simp only [readAll?, hmem, map_select]
  split <;> rfl

end Series

namespace Cells

/-- The rows of a column that `rows` picks. -/
def select (cells : Cells n) (rows : Fin m → Fin n) : Cells m :=
  match cells with
  | .text values => .text (values.select rows)
  | .int64 values => .int64 (values.select rows)
  | .int32 values => .int32 (values.select rows)
  | .float64 values => .float64 (values.select rows)
  | .boolean values => .boolean (values.select rows)
  | .date32 values => .date32 (values.select rows)
  | .null => .null

/-- Whether a column can be read as text does not change when every row is selected at least once. -/
theorem text?_select (cells : Cells n) {rows : Fin m → Fin n} (hrows : rows.Surjective) :
    (cells.select rows).text? = cells.text?.map (·.select rows) := by
  cases cells with
  | date32 values => exact Series.readAll?_select _ values hrows
  | text values | int64 values | int32 values | float64 values | boolean values | null =>
    simp [select, text?, Series.map_select, Series.constant_select]

end Cells

namespace Batch

/-- The rows of a batch that `rows` picks: reordered, repeated or left out. -/
def select (b : Batch n) (rows : Fin m → Fin n) : Batch m :=
  ⟨⟨b.columns.entries.map fun (name, cells) => (name, cells.select rows)⟩⟩

/-- Rows are selected column by column. -/
theorem cells?_select (b : Batch n) (rows : Fin m → Fin n) (name : String) :
    (b.select rows).cells? name = (b.cells? name).map (·.select rows) :=
  Named.find?_map (Cells.select · rows) name b.columns.entries

@[simp] theorem hasColumn_select (b : Batch n) (rows : Fin m → Fin n) (name : String) :
    (b.select rows).hasColumn name = b.hasColumn name := by
  rw [hasColumn, cells?_select, Option.isSome_map, hasColumn]

/-- Where no row is left out each is read as before. -/
theorem textAt?_select (b : Batch n) {rows : Fin m → Fin n} (hrows : rows.Surjective) (column : String)
    (row : Fin m) : (b.select rows).textAt? column row = b.textAt? column (rows row) := by
  unfold textAt? text?
  rw [cells?_select]
  cases b.cells? column with
  | none => rfl
  | some cells =>
    rw [Option.map_some, Option.bind_some, Option.bind_some, Cells.text?_select cells hrows]
    cases cells.text? <;> simp

end Batch

end PurchaseStatus
