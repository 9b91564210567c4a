import PurchaseStatus.Series

namespace PurchaseStatus

/-- One bit for each of `n` rows. -/
abbrev Mask (n : Nat) := Series Bool n

namespace Mask

variable {n : Nat}

protected def and (a b : Mask n) : Mask n := a.zipWith (· && ·) b

protected def or (a b : Mask n) : Mask n := a.zipWith (· || ·) b

protected def not (a : Mask n) : Mask n := a.map (! ·)

/-- The rows of the first that are not in the second. -/
def andNot (a b : Mask n) : Mask n := a.and b.not

/-- The conjunction of the masks; nothing when there is none. -/
def allOf : List (Mask n) → Option (Mask n)
  | [] => none
  | first :: rest => some (rest.foldl Mask.and first)

/-- The disjunction of the masks; nothing when there is none. -/
def anyOf : List (Mask n) → Option (Mask n)
  | [] => none
  | first :: rest => some (rest.foldl Mask.or first)

/-- The number of rows in the mask. -/
def count (a : Mask n) : Nat := Series.count id a

/-- The rows whose number is divisible by `step`. -/
def everyNth (n step : Nat) : Mask n := ⟨(List.range n).map (· % step == 0), by simp⟩

@[simp] theorem get_and (a b : Mask n) (row : Fin n) : (a.and b).get row = (a.get row && b.get row) := by
  simp [Mask.and]

@[simp] theorem get_or (a b : Mask n) (row : Fin n) : (a.or b).get row = (a.get row || b.get row) := by
  simp [Mask.or]

@[simp] theorem get_not (a : Mask n) (row : Fin n) : a.not.get row = !a.get row := by
  simp [Mask.not]

@[simp] theorem get_andNot (a b : Mask n) (row : Fin n) :
    (a.andNot b).get row = (a.get row && !b.get row) := by
  simp [andNot]

theorem count_pos_iff {a : Mask n} : 0 < a.count ↔ ∃ row, a.get row = true := by
  rw [count, Series.count, List.countP_pos_iff]
  constructor
  · rintro ⟨bit, hmem, hbit⟩
    obtain ⟨i, hi, rfl⟩ := List.getElem_of_mem hmem
    exact ⟨⟨i, by simpa using hi⟩, hbit⟩
  · rintro ⟨row, hrow⟩
    exact ⟨a.get row, List.get_mem _ _, hrow⟩

/-- A mask without rows has no bit set. -/
theorem get_eq_false_of_count {a : Mask n} (h : ¬ 0 < a.count) (row : Fin n) : a.get row = false := by
  cases hrow : a.get row with
  | false => rfl
  | true => exact absurd (count_pos_iff.2 ⟨row, hrow⟩) h

end Mask

end PurchaseStatus
