namespace PurchaseStatus

/-- One value for each of `n` rows. -/
structure Series (α : Type u) (n : Nat) where
  toList : List α
  length_toList : toList.length = n := by simp
  deriving DecidableEq

namespace Series

variable {α : Type u} {β : Type v} {γ : Type w} {n m : Nat}

attribute [simp] length_toList

@[ext] theorem ext_toList {s t : Series α n} (h : s.toList = t.toList) : s = t := by
  cases s; cases t; cases h; rfl

def ofList (values : List α) : Series α values.length := ⟨values, rfl⟩

/-- The list as a series of `n` rows, if it has that many values. -/
def ofList? (n : Nat) (values : List α) : Option (Series α n) :=
  if h : values.length = n then some ⟨values, h⟩ else none

/-- The same value in every row. -/
def constant (n : Nat) (a : α) : Series α n := ⟨List.replicate n a, by simp⟩

def map (f : α → β) (s : Series α n) : Series β n := ⟨s.toList.map f, by simp⟩

def zipWith (f : α → β → γ) (s : Series α n) (t : Series β n) : Series γ n :=
  ⟨List.zipWith f s.toList t.toList, by simp⟩

def append (s : Series α n) (t : Series α m) : Series α (n + m) := ⟨s.toList ++ t.toList, by simp⟩

instance : HAppend (Series α n) (Series α m) (Series α (n + m)) := ⟨append⟩

def get (s : Series α n) (row : Fin n) : α := s.toList.get ⟨row.val, by simp⟩

/-- The number of rows whose value satisfies `p`. -/
def count (p : α → Bool) (s : Series α n) : Nat := s.toList.countP p

@[simp] theorem toList_constant (n : Nat) (a : α) : (constant n a).toList = List.replicate n a := rfl

@[simp] theorem toList_map (f : α → β) (s : Series α n) : (s.map f).toList = s.toList.map f := rfl

@[simp] theorem toList_zipWith (f : α → β → γ) (s : Series α n) (t : Series β n) :
    (s.zipWith f t).toList = List.zipWith f s.toList t.toList := rfl

@[simp] theorem toList_append (s : Series α n) (t : Series α m) :
    (s ++ t).toList = s.toList ++ t.toList := rfl

@[simp] theorem get_constant (a : α) (row : Fin n) : (constant n a).get row = a := by
  simp [get]

@[simp] theorem get_map (f : α → β) (s : Series α n) (row : Fin n) :
    (s.map f).get row = f (s.get row) := by
  simp [get]

@[simp] theorem get_zipWith (f : α → β → γ) (s : Series α n) (t : Series β n) (row : Fin n) :
    (s.zipWith f t).get row = f (s.get row) (t.get row) := by
  simp [get]

/-- Series that agree in every row are equal. -/
theorem ext_get {s t : Series α n} (h : ∀ row, s.get row = t.get row) : s = t := by
  apply ext_toList
  apply List.ext_getElem (by simp)
  intro i hi _
  exact h ⟨i, by simpa using hi⟩

@[simp] theorem map_map (g : β → γ) (f : α → β) (s : Series α n) :
    (s.map f).map g = s.map (g ∘ f) := by
  ext1; simp

@[simp] theorem map_append (f : α → β) (s : Series α n) (t : Series α m) :
    (s ++ t).map f = s.map f ++ t.map f := by
  ext1; simp

@[simp] theorem count_append (p : α → Bool) (s : Series α n) (t : Series α m) :
    (s ++ t).count p = s.count p + t.count p := by
  simp [count]

end Series

end PurchaseStatus
