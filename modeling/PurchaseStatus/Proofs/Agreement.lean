import PurchaseStatus.Batch
import Mathlib.Data.List.Forall2

namespace Option.Rel

variable {α β γ δ : Type*} {r : α → β → Prop} {s : γ → δ → Prop}

/-- Related values stay related when each side is changed in its own way. -/
theorem map {x : Option α} {y : Option β} {f : α → γ} {g : β → δ} (h : Option.Rel r x y)
    (hfg : ∀ a b, r a b → s (f a) (g b)) : Option.Rel s (x.map f) (y.map g) := by
  cases h with
  | none => exact .none
  | some hab => exact .some (hfg _ _ hab)

theorem imp {r' : α → β → Prop} {x : Option α} {y : Option β} (h : Option.Rel r x y)
    (hr : ∀ a b, r a b → r' a b) : Option.Rel r' x y := by
  cases h with
  | none => exact .none
  | some hab => exact .some (hr _ _ hab)

/-- Two partial computations on related values are related if their continuations are. -/
theorem bind {x : Option α} {y : Option β} {f : α → Option γ} {g : β → Option δ}
    (h : Option.Rel r x y) (hfg : ∀ a b, r a b → Option.Rel s (f a) (g b)) :
    Option.Rel s (x.bind f) (y.bind g) := by
  cases h with
  | none => exact .none
  | some hab => exact hfg _ _ hab

/-- Related preferences with related alternatives give related choices. -/
theorem or {x x' : Option α} {y y' : Option β} (h : Option.Rel r x y) (h' : Option.Rel r x' y') :
    Option.Rel r (x.or x') (y.or y') := by
  cases h with
  | none => simpa using h'
  | some hab => exact .some hab

theorem getD {x : Option α} {y : Option β} {a : α} {b : β} (h : Option.Rel r x y) (hab : r a b) :
    r (x.getD a) (y.getD b) := by
  cases h with
  | none => exact hab
  | some h => exact h

/-- The two sides are absent together or present together. -/
theorem none_or_some {x : Option α} {y : Option β} (h : Option.Rel r x y) :
    x = .none ∧ y = .none ∨ ∃ a b, x = .some a ∧ y = .some b ∧ r a b := by
  cases h with
  | none => exact .inl ⟨rfl, rfl⟩
  | some hab => exact .inr ⟨_, _, rfl, rfl, hab⟩

theorem refl {r : α → α → Prop} (h : ∀ a, r a a) (x : Option α) : Option.Rel r x x := by
  cases x with
  | none => exact .none
  | some a => exact .some (h a)

theorem of_eq {r : α → α → Prop} (h : ∀ a, r a a) {x y : Option α} (hxy : x = y) : Option.Rel r x y :=
  hxy ▸ refl h x

theorem isSome_eq {x : Option α} {y : Option β} (h : Option.Rel r x y) : x.isSome = y.isSome := by
  cases h <;> rfl

end Option.Rel

/-- Two optional values are related where both are there. Unlike `Option.Rel` this does not say that they
are missing together, so it holds of what can be read on one side only. -/
def Option.WhenBoth {α β : Type*} (r : α → β → Prop) (x : Option α) (y : Option β) : Prop :=
  ∀ a ∈ x, ∀ b ∈ y, r a b

namespace Option.WhenBoth

variable {α β γ δ : Type*} {r : α → β → Prop} {s : γ → δ → Prop} {x : Option α} {y : Option β}

theorem of_rel (h : Option.Rel r x y) : WhenBoth r x y := by
  rintro a ha b hb
  cases h with
  | none => cases ha
  | some hab =>
    cases ha
    cases hb
    exact hab

theorem none_left : WhenBoth r none y := fun _ ha => by cases ha

theorem none_right : WhenBoth r x none := fun _ _ _ hb => by cases hb

theorem map {f : α → γ} {g : β → δ} (h : WhenBoth r x y) (hfg : ∀ a b, r a b → s (f a) (g b)) :
    WhenBoth s (x.map f) (y.map g) := by
  intro c hc d hd
  obtain ⟨a, ha, rfl⟩ := Option.map_eq_some_iff.1 hc
  obtain ⟨b, hb, rfl⟩ := Option.map_eq_some_iff.1 hd
  exact hfg a b (h a ha b hb)

theorem bind {f : α → Option γ} {g : β → Option δ} (h : WhenBoth r x y)
    (hfg : ∀ a b, r a b → WhenBoth s (f a) (g b)) : WhenBoth s (x.bind f) (y.bind g) := by
  intro c hc d hd
  obtain ⟨a, ha, hfa⟩ := Option.bind_eq_some_iff.1 hc
  obtain ⟨b, hb, hgb⟩ := Option.bind_eq_some_iff.1 hd
  exact hfg a b (h a ha b hb) c hfa d hgb

/-- What is preferred has to be there on both sides or on neither. -/
theorem or {x' : Option α} {y' : Option β} (h : Option.Rel r x y) (h' : WhenBoth r x' y') :
    WhenBoth r (x.or x') (y.or y') := by
  cases h with
  | none => simpa using h'
  | some hab => exact of_rel (.some hab)

/-- Two sides that are present together, and related when they are, are related outright. -/
theorem rel (h : WhenBoth r x y) (hsome : x.isSome = y.isSome) : Option.Rel r x y := by
  cases x with
  | none =>
    cases y with
    | none => exact .none
    | some b => cases hsome
  | some a =>
    cases y with
    | none => cases hsome
    | some b => exact .some (h a rfl b rfl)

end Option.WhenBoth

namespace PurchaseStatus

/-- A sequence of two steps succeeds exactly if the first does and the second does on its value. -/
theorem Except.bind_eq_ok_iff {ε α β : Type} {x : Except ε α} {f : α → Except ε β} {b : β} :
    (x >>= f) = .ok b ↔ ∃ a, x = .ok a ∧ f a = .ok b := by
  cases x <;> simp [bind, Except.bind]

@[simp] theorem Except.ok_bind {ε α β : Type} (a : α) (f : α → Except ε β) :
    Except.ok a >>= f = f a := rfl

@[simp] theorem Except.error_bind {ε α β : Type} (e : ε) (f : α → Except ε β) :
    Except.error e >>= f = .error e := rfl

variable {n m : Nat} {pairs : Fin n → Fin m → Prop}

namespace Series

variable {α : Type u} {β : Type v} {γ : Type w}

/-- Two series have equal values in paired rows. With no pairs at all this says nothing about
values, so an optional series then only has to be there on both sides. -/
def AgreeOn (pairs : Fin n → Fin m → Prop) (s : Series α n) (t : Series α m) : Prop :=
  ∀ i j, pairs i j → s.get i = t.get j

/-- The pairs of equal rows in a set of rows. -/
def within (rows : Fin n → Prop) (i j : Fin n) : Prop := i = j ∧ rows i

theorem AgreeOn.map {s : Series α n} {t : Series α m} (h : s.AgreeOn pairs t) (f : α → β) :
    (s.map f).AgreeOn pairs (t.map f) := by
  intro i j hij
  rw [get_map, get_map, h i j hij]

theorem AgreeOn.zipWith {s : Series α n} {t : Series α m} {s' : Series β n} {t' : Series β m}
    (h : s.AgreeOn pairs t) (h' : s'.AgreeOn pairs t') (f : α → β → γ) :
    (s.zipWith f s').AgreeOn pairs (t.zipWith f t') := by
  intro i j hij
  rw [get_zipWith, get_zipWith, h i j hij, h' i j hij]

/-- A test of single cells does not tell paired rows apart, and neither does its answer for null. -/
theorem AgreeOn.rowsWhere {s : Series (Option α) n} {t : Series (Option α) m}
    (h : s.AgreeOn pairs t) (onNull : Bool) (p : α → Bool) :
    Series.AgreeOn pairs (s.rowsWhere onNull p) (t.rowsWhere onNull p) :=
  h.map _

theorem agreeOn_constant (a : α) : (constant n a).AgreeOn pairs (constant m a) := by
  intro i j _
  rw [get_constant, get_constant]

/-- Equal rows have equal values. -/
theorem agreeOn_within_refl (rows : Fin n → Prop) (s : Series α n) : s.AgreeOn (within rows) s := by
  rintro i j ⟨rfl, _⟩
  rfl

theorem rel_agreeOn_of_eq (rows : Fin n → Prop) {x y : Option (Series α n)} (h : x = y) :
    Option.Rel (AgreeOn (within rows)) x y :=
  .of_eq (agreeOn_within_refl rows) h

/-- Series that agree in all rows, where they are there, are equal. -/
theorem eq_of_rel_agreeOn {x y : Option (Series α n)}
    (h : Option.Rel (AgreeOn (within fun _ => True)) x y) : x = y := by
  cases h with
  | none => rfl
  | some hvalues => rw [ext_get fun row => hvalues row row ⟨rfl, trivial⟩]

end Series

namespace Mask

theorem agreeOn_and {a b : Mask n} {a' b' : Mask m} (h : Series.AgreeOn pairs a a')
    (h' : Series.AgreeOn pairs b b') : Series.AgreeOn pairs (a.and b) (a'.and b') :=
  h.zipWith h' _

theorem agreeOn_or {a b : Mask n} {a' b' : Mask m} (h : Series.AgreeOn pairs a a')
    (h' : Series.AgreeOn pairs b b') : Series.AgreeOn pairs (a.or b) (a'.or b') :=
  h.zipWith h' _

theorem agreeOn_not {a : Mask n} {a' : Mask m} (h : Series.AgreeOn pairs a a') :
    Series.AgreeOn pairs a.not a'.not :=
  h.map _

theorem agreeOn_andNot {a b : Mask n} {a' b' : Mask m} (h : Series.AgreeOn pairs a a')
    (h' : Series.AgreeOn pairs b b') : Series.AgreeOn pairs (a.andNot b) (a'.andNot b') :=
  agreeOn_and h (agreeOn_not h')

/-- Asking two related masks for paired rows gives one answer, and no if there is no mask. -/
theorem any_get_eq {x : Option (Mask n)} {y : Option (Mask m)}
    (h : Option.Rel (Series.AgreeOn pairs) x y) {i : Fin n} {j : Fin m} (hij : pairs i j) :
    x.any (·.get i) = y.any (·.get j) := by
  cases h with
  | none => rfl
  | some hbits => simp only [Option.any_some, hbits i j hij]

/-- Masks that agree one by one agree when they are folded. -/
theorem agreeOn_foldl {f : Mask n → Mask n → Mask n} {g : Mask m → Mask m → Mask m}
    (hfg : ∀ {a b a' b'}, Series.AgreeOn pairs a a' → Series.AgreeOn pairs b b' →
      Series.AgreeOn pairs (f a b) (g a' b'))
    {masks : List (Mask n)} {masks' : List (Mask m)}
    (hmasks : List.Forall₂ (Series.AgreeOn pairs) masks masks') {first : Mask n} {first' : Mask m}
    (hfirst : Series.AgreeOn pairs first first') :
    Series.AgreeOn pairs (masks.foldl f first) (masks'.foldl g first') := by
  induction hmasks generalizing first first' with
  | nil => exact hfirst
  | cons hmask _ ih => exact ih (hfg hfirst hmask)

/-- The conjunction of masks looks at one row at a time. -/
theorem agreeOn_allOf {masks : List (Mask n)} {masks' : List (Mask m)}
    (h : List.Forall₂ (Series.AgreeOn pairs) masks masks') :
    Option.Rel (Series.AgreeOn pairs) (allOf masks) (allOf masks') := by
  cases h with
  | nil => exact .none
  | cons hfirst hrest => exact .some (agreeOn_foldl agreeOn_and hrest hfirst)

/-- The disjunction of masks looks at one row at a time. -/
theorem agreeOn_anyOf {masks : List (Mask n)} {masks' : List (Mask m)}
    (h : List.Forall₂ (Series.AgreeOn pairs) masks masks') :
    Option.Rel (Series.AgreeOn pairs) (anyOf masks) (anyOf masks') := by
  cases h with
  | nil => exact .none
  | cons hfirst hrest => exact .some (agreeOn_foldl agreeOn_or hrest hfirst)

end Mask

namespace Batch

/-- A column is read alike in two batches: as text, as floats and as integers it is there in both
or in neither, and has equal values in paired rows. -/
structure AgreeOn (pairs : Fin n → Fin m → Prop) (column : String) (a : Batch n) (b : Batch m) :
    Prop where
  texts : Option.Rel (Series.AgreeOn pairs) (a.text? column) (b.text? column)
  numbers : Option.Rel (Series.AgreeOn pairs) (a.numbers? column) (b.numbers? column)
  integers : Option.Rel (Series.AgreeOn pairs) (a.integers? column) (b.integers? column)

variable {column : String}

theorem AgreeOn.textOrNulls {a : Batch n} {b : Batch m} (h : AgreeOn pairs column a b) :
    (a.textOrNulls column).AgreeOn pairs (b.textOrNulls column) :=
  h.texts.getD (Series.agreeOn_constant none)

/-- Columns with the same cells read the same in every set of rows. -/
theorem agreeOn_of_cells?_eq {a b : Batch n} (rows : Fin n → Prop)
    (h : a.cells? column = b.cells? column) : AgreeOn (Series.within rows) column a b := by
  constructor
  · exact Series.rel_agreeOn_of_eq rows (by rw [text?, text?, h])
  · exact Series.rel_agreeOn_of_eq rows (by rw [numbers?, numbers?, h])
  · exact Series.rel_agreeOn_of_eq rows (by rw [integers?, integers?, h])

/-- Texts are read row by row. For dates the same does not hold: one date outside the calendar
makes the column unreadable as text. -/
theorem agreeOn_of_text {a : Batch n} {b : Batch m} {s : Texts n} {t : Texts m}
    (ha : a.cells? column = some (.text s)) (hb : b.cells? column = some (.text t))
    (hst : s.AgreeOn pairs t) : AgreeOn pairs column a b := by
  constructor
  · rw [text?, text?, ha, hb]
    exact .some hst
  · rw [numbers?, numbers?, ha, hb]
    exact .some (hst.map _)
  · rw [integers?, integers?, ha, hb]
    exact .some (hst.map _)

end Batch

end PurchaseStatus
