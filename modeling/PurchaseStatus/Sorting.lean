namespace PurchaseStatus

variable {α : Type u}

/-- Puts an item before the first one that `le` allows it to precede. -/
def insertBy (le : α → α → Bool) (a : α) : List α → List α
  | [] => [a]
  | b :: rest => if le a b then a :: b :: rest else b :: insertBy le a rest

/-- Sorts by insertion from the back, so items that `le` does not tell apart keep their order. -/
def sortBy (le : α → α → Bool) (items : List α) : List α := items.foldr (insertBy le) []

@[simp] theorem sortBy_nil (le : α → α → Bool) : sortBy le [] = [] := rfl

@[simp] theorem sortBy_cons (le : α → α → Bool) (a : α) (items : List α) :
    sortBy le (a :: items) = insertBy le a (sortBy le items) := rfl

theorem insertBy_perm (le : α → α → Bool) (a : α) (items : List α) :
    (insertBy le a items).Perm (a :: items) := by
  induction items with
  | nil => exact .refl _
  | cons b rest ih =>
    unfold insertBy
    split
    · exact .refl _
    · exact (ih.cons b).trans (.swap a b rest)

theorem sortBy_perm (le : α → α → Bool) (items : List α) : (sortBy le items).Perm items := by
  induction items with
  | nil => exact .refl _
  | cons a items ih => exact (insertBy_perm le a _).trans (ih.cons a)

@[simp] theorem mem_sortBy {le : α → α → Bool} {a : α} {items : List α} :
    a ∈ sortBy le items ↔ a ∈ items := (sortBy_perm le items).mem_iff

@[simp] theorem length_sortBy (le : α → α → Bool) (items : List α) :
    (sortBy le items).length = items.length := (sortBy_perm le items).length_eq

/-- Texts in the order of their code points. -/
def sortTexts (texts : List String) : List String := sortBy (fun s t => decide (s ≤ t)) texts

/-- The distinct texts, in the order of their code points. -/
def distinctTexts (texts : List String) : List String := (sortTexts texts).eraseReps

end PurchaseStatus
