import PurchaseStatus.Proofs.Check.Requirements

namespace PurchaseStatus

variable {n : Nat}

namespace Cells

/-- Whether the cell of a row is null. -/
def isNullAt (cells : Cells n) (row : Fin n) : Bool :=
  match cells with
  | .text values => (values.get row).isNone
  | .int64 values | .int32 values | .date32 values => (values.get row).isNone
  | .float64 values => (values.get row).isNone
  | .boolean values => (values.get row).isNone
  | .null => true

variable {cells : Cells n} {row : Fin n}

/-- A cell that is read as text is null where it was. -/
theorem isNone_get_text? {texts : Texts n} (htexts : cells.text? = some texts) (row : Fin n) :
    (texts.get row).isNone = cells.isNullAt row := by
  cases cells with
  | date32 values =>
    simp only [text?, Series.readAll?, Option.ite_none_right_eq_some, Option.some_inj] at htexts
    obtain ⟨hread, rfl⟩ := htexts
    rw [Series.get_map, isNullAt]
    cases hvalue : values.get row with
    | none => rfl
    | some value =>
      have hmem : value ∈ values.toList.filterMap id :=
        List.mem_filterMap.2 ⟨some value, hvalue ▸ List.get_mem _ _, rfl⟩
      have hsome : (Calendar.dayText? value).isSome = true := hread value hmem
      simpa using hsome
  | text values | int64 values | int32 values | float64 values | boolean values | null =>
    cases htexts
    simp [isNullAt]

/-- A null cell has no text. -/
theorem get_text?_of_null {texts : Texts n} (htexts : cells.text? = some texts)
    (hnull : cells.isNullAt row = true) : texts.get row = none := by
  rw [← Option.isNone_iff_eq_none, isNone_get_text? htexts, hnull]

/-- A null cell holds no number. -/
theorem get_numbers?_of_null {numbers : Numbers n} (hnumbers : cells.numbers? = some numbers)
    (hnull : cells.isNullAt row = true) : numbers.get row = none := by
  cases cells with
  | date32 values => cases hnumbers
  | text values | int64 values | int32 values | float64 values | boolean values | null =>
    cases hnumbers
    simp_all [isNullAt]

/-- A null cell holds no integer. -/
theorem get_integers_of_null (hnull : cells.isNullAt row = true) : cells.integers.get row = none := by
  cases cells <;> simp_all [isNullAt, integers]

end Cells

namespace Batch

variable (b : Batch n) (column : String) (row : Fin n)

/-- Whether the column is there and its cell in a row is null. -/
def isNullAt : Bool := (b.cells? column).any (·.isNullAt row)

/-- What stands in a row of a column, as text; nothing where it cannot be read. -/
def textAt? : Option String := (b.text? column).bind (·.get row)

/-- The same as a float. -/
def numberAt? : Option Float := (b.numbers? column).bind (·.get row)

/-- The same as an integer. -/
def integerAt? : Option Int := (b.integers? column).bind (·.get row)

variable {b column row}

@[simp] theorem get_textOrNulls : (b.textOrNulls column).get row = b.textAt? column row := by
  unfold textOrNulls textAt?
  cases b.text? column <;> simp

@[simp] theorem get_numbersOrNulls : (b.numbersOrNulls column).get row = b.numberAt? column row := by
  unfold numbersOrNulls numberAt?
  cases b.numbers? column <;> simp

/-- The text of a row depends on the cells of its column alone. -/
theorem textAt?_congr {a : Batch n} (h : a.cells? column = b.cells? column) :
    a.textAt? column row = b.textAt? column row := by
  rw [textAt?, textAt?, text?_congr h]

/-- The number of a row depends on the cells of its column alone. -/
theorem numberAt?_congr {a : Batch n} (h : a.cells? column = b.cells? column) :
    a.numberAt? column row = b.numberAt? column row := by
  simp only [numberAt?, numbers?, h]

@[simp] theorem textAt?_putText_self (values : Texts n) :
    (b.putText column values).textAt? column row = values.get row := by
  simp [textAt?]

@[simp] theorem numberAt?_put_self (values : Numbers n) :
    (b.put column (.float64 values)).numberAt? column row = values.get row := by
  simp [numberAt?, numbers?, Cells.numbers?]

/-- Texts that are put into a column are read nowhere else. -/
theorem textAt?_putText_of_ne {other : String} (hne : other ≠ column) (values : Texts n) :
    (b.putText column values).textAt? other row = b.textAt? other row :=
  textAt?_congr (cells?_putText_of_ne b hne values)

/-- A cell can be null only in a column that is there. -/
theorem exists_cells_of_null (hnull : b.isNullAt column row = true) :
    ∃ cells, b.cells? column = some cells ∧ cells.isNullAt row = true :=
  (Option.any_eq_true _ _).1 hnull

theorem get_text?_of_null {texts : Texts n} (htexts : b.text? column = some texts)
    (hnull : b.isNullAt column row = true) : texts.get row = none := by
  obtain ⟨cells, hcells, hcell⟩ := exists_cells_of_null hnull
  rw [text?, hcells, Option.bind_some] at htexts
  exact Cells.get_text?_of_null htexts hcell

theorem get_numbers?_of_null {numbers : Numbers n} (hnumbers : b.numbers? column = some numbers)
    (hnull : b.isNullAt column row = true) : numbers.get row = none := by
  obtain ⟨cells, hcells, hcell⟩ := exists_cells_of_null hnull
  rw [numbers?, hcells, Option.bind_some] at hnumbers
  exact Cells.get_numbers?_of_null hnumbers hcell

theorem get_integers?_of_null {integers : Integers n} (hintegers : b.integers? column = some integers)
    (hnull : b.isNullAt column row = true) : integers.get row = none := by
  obtain ⟨cells, hcells, hcell⟩ := exists_cells_of_null hnull
  rw [integers?, hcells, Option.map_some, Option.some_inj] at hintegers
  rw [← hintegers]
  exact Cells.get_integers_of_null hcell

end Batch

namespace CheckInput

variable {input : CheckInput n} {name : String}

/-- No mask of as many rows as the batch has is registered under the name. -/
def Unregistered (input : CheckInput n) (name : String) : Prop :=
  ∀ bits, input.masks.get? name = some bits → bits.length ≠ n

/-- A mask of another length is no mask. -/
theorem Unregistered.registered? (hfree : input.Unregistered name) : input.registered? name = none :=
  (Check.registered?_eq_none_iff input name).2 hfree

end CheckInput

/-- Without a mask under its name a check is evaluated by its own logic. -/
theorem Check.evaluate?_of_unregistered {check : Check} {input : CheckInput n}
    (hfree : input.Unregistered check.name) : check.evaluate? input = check.compute? input := by
  rw [evaluate?, hfree.registered?, Option.none_or]

/-- Without a mask of its name, a built-in check is left to its own logic. -/
theorem Builtin.evaluate?_of_unregistered {b : Builtin} {input : CheckInput n}
    (hfree : input.Unregistered b.name) : b.evaluate? input = b.compute? input := by
  rw [evaluate?, hfree.registered?, Option.none_or]

end PurchaseStatus
