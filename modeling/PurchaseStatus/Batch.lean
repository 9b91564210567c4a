import PurchaseStatus.Cells
import PurchaseStatus.Mask
import PurchaseStatus.Named
import PurchaseStatus.Sorting
import PurchaseStatus.Text.AsciiCase

namespace PurchaseStatus

/-- The columns of `n` rows. Two columns may share a name: reading and replacing take the
first. -/
structure Batch (n : Nat) where
  columns : Named (Cells n)
  deriving DecidableEq

/-- A batch of some number of rows. -/
structure Dataset where
  rows : Nat
  batch : Batch rows

/-- Null, the empty text and `nan` in any case all stand for no value. -/
def isBlank : Option String → Bool
  | none => true
  | some value => value == "" || Text.eqIgnoreCase value "nan"

namespace Series

variable {n : Nat}

/-- The first series, with the rows of the mask taken from the second. -/
def blend (base : Series α n) (mask : Mask n) (new : Series α n) : Series α n :=
  mask.zipWith (fun hit (old, new) => if hit then new else old) (base.zipWith Prod.mk new)

@[simp] theorem get_blend (base : Series α n) (mask : Mask n) (new : Series α n) (row : Fin n) :
    (base.blend mask new).get row = if mask.get row then new.get row else base.get row := by
  simp [blend]

/-- The rows of the mask get one value. -/
def fill (base : Series (Option α) n) (mask : Mask n) (value : α) : Series (Option α) n :=
  base.blend mask (.constant n (some value))

@[simp] theorem get_fill (base : Series (Option α) n) (mask : Mask n) (value : α) (row : Fin n) :
    (base.fill mask value).get row = if mask.get row then some value else base.get row := by
  simp [fill]

/-- The rows whose value satisfies `p`; null counts as `onNull`. -/
def rowsWhere (values : Series (Option α) n) (onNull : Bool) (p : α → Bool) : Mask n :=
  values.map fun value => value.elim onNull p

@[simp] theorem get_rowsWhere (values : Series (Option α) n) (onNull : Bool) (p : α → Bool)
    (row : Fin n) : (values.rowsWhere onNull p).get row = (values.get row).elim onNull p := by
  simp [rowsWhere]

end Series

/-- The rows of a status column that carry no status yet. -/
def Texts.unset (status : Texts n) : Mask n := status.map isBlank

@[simp] theorem Texts.get_unset (status : Texts n) (row : Fin n) :
    status.unset.get row = isBlank (status.get row) := by
  simp [Texts.unset]

/-- The distinct values that are not blank, sorted. -/
def Texts.distinct (texts : Texts n) : List String :=
  distinctTexts (texts.toList.filterMap fun value => if isBlank value then none else value)

namespace Batch

variable {n : Nat}

def empty (n : Nat) : Batch n := ⟨∅⟩

def rows (_ : Batch n) : Nat := n

def names (b : Batch n) : List String := b.columns.names

def cells? (b : Batch n) (name : String) : Option (Cells n) := b.columns.get? name

def hasColumn (b : Batch n) (name : String) : Bool := (b.cells? name).isSome

/-- The required names that no column has. -/
def missing (b : Batch n) (required : List String) : List String :=
  required.filter fun name => !b.hasColumn name

/-- The column as text; nothing when it is absent. -/
def text? (b : Batch n) (name : String) : Option (Texts n) := (b.cells? name).bind Cells.text?

/-- The column as text, all null when it is absent. -/
def textOrNulls (b : Batch n) (name : String) : Texts n := (b.text? name).getD (.constant n none)

/-- The column as floats; nothing when it is absent or holds dates. -/
def numbers? (b : Batch n) (name : String) : Option (Numbers n) :=
  (b.cells? name).bind Cells.numbers?

def numbersOrNulls (b : Batch n) (name : String) : Numbers n :=
  (b.numbers? name).getD (.constant n none)

/-- The column as integers; nothing when it is absent. -/
def integers? (b : Batch n) (name : String) : Option (Integers n) := (b.cells? name).map Cells.integers

/-- Replaces the first column of the name, or appends one. -/
def put (b : Batch n) (name : String) (cells : Cells n) : Batch n := ⟨b.columns.put name cells⟩

def putText (b : Batch n) (name : String) (values : Texts n) : Batch n := b.put name (.text values)

/-- Appends a text column of nulls when the name is absent. -/
def ensureText (b : Batch n) (name : String) : Batch n :=
  if b.hasColumn name then b else b.putText name (.constant n none)

/-- Puts a column of any length. All columns must agree in length, so another length than the
batch's is right only for a column that ends up alone. -/
def put? (b : Batch n) (name : String) {m : Nat} (cells : Cells m) : Option Dataset :=
  if h : m = n then some ⟨n, b.put name (h ▸ cells)⟩
  else if b.names.all (· == name) && b.columns.size ≤ 1 then
    some ⟨m, (Batch.empty m).put name cells⟩
  else none

/-- Cells of as many rows as the batch has can always be put. -/
theorem put?_self (b : Batch n) (name : String) (cells : Cells n) :
    b.put? name cells = some ⟨n, b.put name cells⟩ := by
  rw [put?, dif_pos rfl]

@[simp] theorem cells?_put_self (b : Batch n) (name : String) (cells : Cells n) :
    (b.put name cells).cells? name = some cells := by
  simp [put, cells?]

theorem cells?_put_of_ne (b : Batch n) {name other : String} (hne : other ≠ name)
    (cells : Cells n) : (b.put name cells).cells? other = b.cells? other := by
  simp [put, cells?, Named.get?_put_of_ne _ hne]

@[simp] theorem text?_putText_self (b : Batch n) (name : String) (values : Texts n) :
    (b.putText name values).text? name = some values := by
  simp [text?, putText, Cells.text?]

@[simp] theorem cells?_putText_self (b : Batch n) (name : String) (values : Texts n) :
    (b.putText name values).cells? name = some (.text values) := cells?_put_self b name _

theorem cells?_putText_of_ne (b : Batch n) {name other : String} (hne : other ≠ name)
    (values : Texts n) : (b.putText name values).cells? other = b.cells? other :=
  cells?_put_of_ne b hne _

@[simp] theorem textOrNulls_putText_self (b : Batch n) (name : String) (values : Texts n) :
    (b.putText name values).textOrNulls name = values := by
  simp [textOrNulls]

theorem text?_of_cells? {b : Batch n} {name : String} {values : Texts n}
    (h : b.cells? name = some (.text values)) : b.text? name = some values := by
  simp [text?, h, Cells.text?]

theorem textOrNulls_of_cells? {b : Batch n} {name : String} {values : Texts n}
    (h : b.cells? name = some (.text values)) : b.textOrNulls name = values := by
  rw [textOrNulls, text?_of_cells? h, Option.getD_some]

theorem cells?_eq_textOrNulls {b : Batch n} {name : String} {values : Texts n}
    (h : b.cells? name = some (.text values)) : b.cells? name = some (.text (b.textOrNulls name)) := by
  rw [textOrNulls_of_cells? h, h]

/-- What is read of a column depends on its cells alone. -/
theorem text?_congr {a b : Batch n} {name : String} (h : a.cells? name = b.cells? name) :
    a.text? name = b.text? name := by
  rw [text?, text?, h]

theorem textOrNulls_congr {a b : Batch n} {name : String} (h : a.cells? name = b.cells? name) :
    a.textOrNulls name = b.textOrNulls name := by
  rw [textOrNulls, textOrNulls, text?_congr h]

/-- Writing the cells that are there changes nothing. -/
theorem put_of_cells? {b : Batch n} {name : String} {cells : Cells n} (h : b.cells? name = some cells) :
    b.put name cells = b :=
  congrArg Batch.mk (Named.put_of_get? h)

theorem putText_of_cells? {b : Batch n} {name : String} {values : Texts n}
    (h : b.cells? name = some (.text values)) : b.putText name values = b :=
  put_of_cells? h

theorem ensureText_of_hasColumn {b : Batch n} {name : String} (h : b.hasColumn name = true) :
    b.ensureText name = b := if_pos h

theorem cells?_ensureText_of_absent {b : Batch n} {name : String} (h : b.cells? name = none) :
    (b.ensureText name).cells? name = some (.text (.constant n none)) := by
  simp [ensureText, hasColumn, h]

theorem cells?_ensureText_of_present {b : Batch n} {name other : String} {cells : Cells n}
    (h : b.cells? name = some cells) : (b.ensureText name).cells? other = b.cells? other := by
  rw [ensureText_of_hasColumn (by simp [hasColumn, h])]

theorem cells?_ensureText_of_ne (b : Batch n) {name other : String} (hne : other ≠ name) :
    (b.ensureText name).cells? other = b.cells? other := by
  unfold ensureText
  split
  · rfl
  · exact cells?_putText_of_ne b hne _

theorem hasColumn_ensureText (b : Batch n) (name : String) :
    (b.ensureText name).hasColumn name = true := by
  cases hcells : b.cells? name with
  | none => simp [hasColumn, cells?_ensureText_of_absent hcells]
  | some cells => simp [hasColumn, cells?_ensureText_of_present hcells, hcells]

/-- A column that is absent or text is text once it is made sure of. -/
theorem exists_text_ensureText {b : Batch n} {name : String}
    (h : b.cells? name = none ∨ ∃ values, b.cells? name = some (.text values)) :
    ∃ values, (b.ensureText name).cells? name = some (.text values) := by
  rcases h with habsent | ⟨values, hvalues⟩
  · exact ⟨.constant n none, cells?_ensureText_of_absent habsent⟩
  · exact ⟨values, (cells?_ensureText_of_present hvalues).trans hvalues⟩

/-- A column that is made sure of reads as it did before, when it was absent and so all null. -/
@[simp] theorem textOrNulls_ensureText (b : Batch n) (name other : String) :
    (b.ensureText name).textOrNulls other = b.textOrNulls other := by
  by_cases hne : other = name
  · subst hne
    unfold ensureText
    split
    · rfl
    · rename_i habsent
      rw [textOrNulls_putText_self]
      simp [textOrNulls, text?, Option.not_isSome_iff_eq_none.1 habsent]
  · exact textOrNulls_congr (cells?_ensureText_of_ne b hne)

end Batch

namespace Dataset

def empty : Dataset := ⟨0, .empty 0⟩

def columnCount (d : Dataset) : Nat := d.batch.columns.size

/-- The columns without the rows. -/
def dropRows (d : Dataset) : Dataset :=
  ⟨0, ⟨⟨d.batch.columns.entries.map fun (name, cells) => (name, cells.withoutRows)⟩⟩⟩

end Dataset

end PurchaseStatus
