import PurchaseStatus.Engine.Labeling

namespace PurchaseStatus

variable {n : Nat}

namespace Mask

/-- Every row of the first mask is one of the second. -/
def Within (a b : Mask n) : Prop := ∀ row, a.get row = true → b.get row = true

/-- Masks that are joined by and include a row if all do. -/
theorem get_foldl_and (first : Mask n) (rest : List (Mask n)) (row : Fin n) :
    (rest.foldl Mask.and first).get row = (first :: rest).all (·.get row) := by
  induction rest generalizing first with
  | nil => simp
  | cons mask rest ih => simp [ih, Bool.and_assoc]

/-- Masks that are joined by or include a row if one does. -/
theorem get_foldl_or (first : Mask n) (rest : List (Mask n)) (row : Fin n) :
    (rest.foldl Mask.or first).get row = (first :: rest).any (·.get row) := by
  induction rest generalizing first with
  | nil => simp
  | cons mask rest ih => simp [ih, Bool.or_assoc]

end Mask

namespace Combine

variable {combine : Combine} {masks others : List (Mask n)}

/-- Several masks as one; nothing when there is none. -/
def fold? : Combine → List (Mask n) → Option (Mask n)
  | .and => Mask.allOf
  | .or => Mask.anyOf

/-- Two masks as one. -/
def join : Combine → Mask n → Mask n → Mask n
  | .and => Mask.and
  | .or => Mask.or

/-- Whether a row is in all of the masks, or in one of them. -/
def Claims (combine : Combine) (masks : List (Mask n)) (row : Fin n) : Prop :=
  match combine with
  | .and => ∀ mask ∈ masks, mask.get row = true
  | .or => ∃ mask ∈ masks, mask.get row = true

/-- Order and repetition of masks play no part. -/
theorem claims_congr (hmem : ∀ mask, mask ∈ masks ↔ mask ∈ others) (row : Fin n) :
    combine.Claims masks row ↔ combine.Claims others row := by
  cases combine <;> simp only [Claims, hmem]

/-- One mask or more can be combined, and the result is as they claim together. -/
theorem exists_fold?_cons (combine : Combine) (first : Mask n) (rest : List (Mask n)) :
    ∃ mask, combine.fold? (first :: rest) = some mask ∧
      ∀ row, mask.get row = true ↔ combine.Claims (first :: rest) row := by
  cases combine with
  | and =>
    refine ⟨_, rfl, fun row => ?_⟩
    rw [Mask.get_foldl_and, List.all_eq_true]
    rfl
  | or =>
    refine ⟨_, rfl, fun row => ?_⟩
    rw [Mask.get_foldl_or, List.any_eq_true]
    rfl

/-- The fold starts from the first mask and not from a neutral one, so there is a result exactly when
there is a mask. -/
theorem fold?_eq_some_iff {mask : Mask n} : combine.fold? masks = some mask ↔
    (∃ one, one ∈ masks) ∧ ∀ row, mask.get row = true ↔ combine.Claims masks row := by
  cases masks with
  | nil => cases combine <;> simp [fold?, Mask.allOf, Mask.anyOf]
  | cons first rest =>
    obtain ⟨folded, hfolded, hrows⟩ := exists_fold?_cons combine first rest
    rw [hfolded]
    constructor
    · rintro ⟨⟩
      exact ⟨⟨first, List.mem_cons_self⟩, hrows⟩
    · rintro ⟨_, hmask⟩
      refine congrArg some (Series.ext_get fun row => ?_)
      rw [Bool.eq_iff_iff, hrows, hmask]

/-- Only of no masks there is no combination. -/
theorem fold?_eq_none_iff : combine.fold? masks = none ↔ masks = [] := by
  cases combine <;> cases masks <;> simp [fold?, Mask.allOf, Mask.anyOf]

/-- Neither the order of the masks nor their number counts. -/
theorem fold?_congr (hmem : ∀ mask, mask ∈ masks ↔ mask ∈ others) :
    combine.fold? masks = combine.fold? others := by
  ext mask
  rw [fold?_eq_some_iff, fold?_eq_some_iff]
  simp only [hmem, claims_congr hmem]

/-- A further mask is joined to what the others make. -/
theorem fold?_cons {mask : Mask n} (hmask : combine.fold? masks = some mask) (bits : Mask n) :
    combine.fold? (bits :: masks) = some (combine.join mask bits) := by
  have hrows := (fold?_eq_some_iff.1 hmask).2
  refine fold?_eq_some_iff.2 ⟨⟨bits, List.mem_cons_self⟩, fun row => ?_⟩
  cases combine with
  | and =>
    rw [join, Mask.get_and, Bool.and_eq_true, hrows]
    simp only [Claims, List.forall_mem_cons, and_comm]
  | or =>
    rw [join, Mask.get_or, Bool.or_eq_true, hrows]
    simp only [Claims, List.mem_cons, exists_eq_or_imp, or_comm]

end Combine

namespace Rule

/-- The rule with other checks. -/
def withChecks (rule : Rule) (checks : List Check) : Rule := { rule with checks }

/-- Whether a row satisfies all checks of the rule that can be evaluated, or one of them. -/
def HoldsAt (rule : Rule) (input : CheckInput n) (row : Fin n) : Prop :=
  match rule.combine with
  | .and => ∀ check ∈ rule.checks, ∀ bits, check.evaluate? input = some bits → bits.get row = true
  | .or => ∃ check ∈ rule.checks, ∃ bits, check.evaluate? input = some bits ∧ bits.get row = true

section Folding

variable (rule : Rule) (input : CheckInput n)

/-- The mask of a rule combines those of its checks that can be evaluated. -/
theorem mask?_eq_fold? :
    rule.mask? input = rule.combine.fold? (rule.checks.filterMap (·.evaluate? input)) := by
  unfold mask? Combine.fold?
  cases rule.combine <;> rfl

/-- A rule has no mask exactly if none of its checks can be evaluated. -/
theorem mask?_eq_none_iff :
    rule.mask? input = none ↔ ∀ check ∈ rule.checks, check.evaluate? input = none := by
  rw [mask?_eq_fold?, Combine.fold?_eq_none_iff, List.filterMap_eq_nil_iff]

/-- The mask of a rule includes the rows where it holds. -/
theorem get_of_mask? {mask : Mask n} (hmask : rule.mask? input = some mask) (row : Fin n) :
    mask.get row = true ↔ rule.HoldsAt input row := by
  rw [mask?_eq_fold?, Combine.fold?_eq_some_iff] at hmask
  rw [hmask.2 row]
  unfold HoldsAt Combine.Claims
  cases rule.combine with
  | and =>
    constructor
    · intro hall check hcheck bits hbits
      exact hall bits (List.mem_filterMap.2 ⟨check, hcheck, hbits⟩)
    · intro hall bits hmem
      obtain ⟨check, hcheck, hbits⟩ := List.mem_filterMap.1 hmem
      exact hall check hcheck bits hbits
  | or =>
    constructor
    · rintro ⟨bits, hmem, hrow⟩
      obtain ⟨check, hcheck, hbits⟩ := List.mem_filterMap.1 hmem
      exact ⟨check, hcheck, bits, hbits, hrow⟩
    · rintro ⟨check, hcheck, bits, hbits, hrow⟩
      exact ⟨bits, List.mem_filterMap.2 ⟨check, hcheck, hbits⟩, hrow⟩

/-- Two lists of checks of which the same ones can be evaluated make the same mask. -/
theorem mask?_withChecks {checks : List Check}
    (hmem : ∀ check, check.evaluate? input ≠ none → (check ∈ checks ↔ check ∈ rule.checks)) :
    (rule.withChecks checks).mask? input = rule.mask? input := by
  rw [mask?_eq_fold?, mask?_eq_fold?]
  refine Combine.fold?_congr fun mask => ?_
  simp only [List.mem_filterMap]
  refine exists_congr fun check => and_congr_left fun hmask => ?_
  exact hmem check (by simp [hmask])

/-- Of the checks that can be evaluated, none comes in with one that cannot. -/
theorem mem_insert_of_inapplicable {before after : List Check} {check other : Check}
    (hnone : check.evaluate? input = none) (hother : other.evaluate? input ≠ none) :
    other ∈ before ++ check :: after ↔ other ∈ before ++ after := by
  rw [List.perm_middle.mem_iff, List.mem_cons, or_iff_right_of_imp]
  rintro rfl
  exact absurd hnone hother

/-- One more check that can be evaluated, at any place, is joined to what the others make. -/
theorem mask?_insert {before after : List Check} (hchecks : rule.checks = before ++ after) {check : Check}
    {bits mask : Mask n} (hbits : check.evaluate? input = some bits) (hmask : rule.mask? input = some mask) :
    (rule.withChecks (before ++ check :: after)).mask? input = some (rule.combine.join mask bits) := by
  rw [mask?_eq_fold?] at hmask ⊢
  rw [← Combine.fold?_cons hmask bits]
  refine Combine.fold?_congr fun one => ?_
  simp only [withChecks, hchecks, List.filterMap_append, List.filterMap_cons_some hbits, List.mem_append,
    List.mem_cons]
  exact or_left_comm

end Folding

/-- What the combined mask of a rule is, and how it depends on the checks: only those that can be
evaluated count, each once, in any order. -/
structure CombinesChecks (rule : Rule) (input : CheckInput n) : Prop where
  absent_iff : rule.mask? input = none ↔ ∀ check ∈ rule.checks, check.evaluate? input = none
  rows : ∀ mask, rule.mask? input = some mask → ∀ row, mask.get row = true ↔ rule.HoldsAt input row
  reordered : ∀ checks : List Check, checks.Perm rule.checks →
    (rule.withChecks checks).mask? input = rule.mask? input
  repeated : ∀ before after check, rule.checks = before ++ after → check ∈ rule.checks →
    (rule.withChecks (before ++ check :: after)).mask? input = rule.mask? input
  inapplicable_inserted : ∀ before after check, rule.checks = before ++ after →
    check.evaluate? input = none →
    (rule.withChecks (before ++ check :: after)).mask? input = rule.mask? input
  inapplicable_removed : ∀ before after check, rule.checks = before ++ check :: after →
    check.evaluate? input = none →
    (rule.withChecks (before ++ after)).mask? input = rule.mask? input
  /-- With `and` a further check adds no row, with `or` it takes none away. -/
  inserted : ∀ before after check bits mask, rule.checks = before ++ after →
    check.evaluate? input = some bits → rule.mask? input = some mask →
    ∃ joined, (rule.withChecks (before ++ check :: after)).mask? input = some joined ∧
      (rule.combine = .and → joined.Within mask) ∧ (rule.combine = .or → mask.Within joined)

/-- Every rule combines its checks in this way, for any batch and any context. The checks that cannot be
evaluated neither match nor fail: a rule is as if they were not written, and where there are no others it
has no mask at all. -/
theorem combinesChecks (rule : Rule) (input : CheckInput n) : rule.CombinesChecks input where
  absent_iff := rule.mask?_eq_none_iff input
  rows _ hmask := rule.get_of_mask? input hmask
  reordered _ hperm := rule.mask?_withChecks input fun _ _ => hperm.mem_iff
  repeated before after check hchecks hcheck := by
    refine rule.mask?_withChecks input fun other _ => ?_
    rw [hchecks] at hcheck ⊢
    rw [List.perm_middle.mem_iff, List.mem_cons, or_iff_right_of_imp]
    rintro rfl
    exact hcheck
  inapplicable_inserted before after check hchecks hnone := by
    refine rule.mask?_withChecks input fun other hother => ?_
    rw [hchecks, mem_insert_of_inapplicable input hnone hother]
  inapplicable_removed before after check hchecks hnone := by
    refine rule.mask?_withChecks input fun other hother => ?_
    rw [hchecks, mem_insert_of_inapplicable input hnone hother]
  inserted before after check bits mask hchecks hbits hmask := by
    refine ⟨_, rule.mask?_insert input hchecks hbits hmask, fun hcombine row hrow => ?_,
      fun hcombine row hrow => ?_⟩
    · rw [hcombine, Combine.join, Mask.get_and, Bool.and_eq_true] at hrow
      exact hrow.1
    · rw [hcombine, Combine.join, Mask.get_or, Bool.or_eq_true]
      exact .inl hrow

end Rule

end PurchaseStatus
