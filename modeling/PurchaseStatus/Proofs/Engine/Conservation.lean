import PurchaseStatus.Proofs.Engine.Split

namespace PurchaseStatus

variable {n : Nat}

/-- The rows of a mask are counted row by row. -/
theorem Mask.count_eq_countP (rows : Mask n) : rows.count = (List.finRange n).countP rows.get := by
  have hbits : rows.toList = (List.finRange n).map rows.get := by
    apply List.ext_getElem (by simp)
    intro i _ _
    simp [Series.get]
  rw [Mask.count, Series.count, hbits, List.countP_map]
  rfl

theorem Mask.count_constant_false : Mask.count (Series.constant n false) = 0 := by
  refine Nat.eq_zero_of_not_pos fun hpos => ?_
  obtain ⟨row, hrow⟩ := Mask.count_pos_iff.1 hpos
  simp at hrow

/-- Of the rows of a mask, some are in another mask and the others are not. -/
theorem Mask.count_andNot_add_count_and (rows matched : Mask n) :
    (rows.andNot (matched.and rows)).count + (matched.and rows).count = rows.count := by
  have hsplit := List.countP_eq_countP_filter_add (List.finRange n) rows.get matched.get
  have hin : (matched.and rows).count = ((List.finRange n).filter matched.get).countP rows.get := by
    rw [Mask.count_eq_countP, List.countP_filter]
    exact List.countP_congr fun row _ => by rw [Mask.get_and, Bool.and_comm]
  have hout : (rows.andNot (matched.and rows)).count =
      ((List.finRange n).filter fun row => !matched.get row).countP rows.get := by
    rw [Mask.count_eq_countP, List.countP_filter]
    refine List.countP_congr fun row _ => ?_
    rw [Mask.get_andNot, Mask.get_and]
    cases rows.get row <;> simp
  have hrows := rows.count_eq_countP
  omega

namespace Labeling

/-- The unset rows of which some are claimed are those that are claimed and those that stay unset. -/
theorem count_unset_claim (task : LabelingTask) (state : Labeling n) (matched : Mask n)
    (status note : String) :
    (state.claim task (matched.and state.unset) status note).unset.count +
      (matched.and state.unset).count = state.unset.count := by
  have hsplit := Mask.count_andNot_add_count_and state.unset matched
  unfold claim
  split
  · exact hsplit
  · rename_i hnone
    omega

/-- A rule is recorded with exactly the rows that it takes from the unset ones. -/
theorem count_unset_apply (task : LabelingTask) (state : Labeling n) (rule : Rule) :
    (state.apply task rule).unset.count + rowsOf (state.apply task rule).hits =
      state.unset.count + rowsOf state.hits := by
  rcases apply_cases task state rule with hsame | ⟨status, matched, _, _, heq⟩
  · rw [hsame]
  · have hclaim := count_unset_claim task state matched status rule.note
    have hhits : (state.apply task rule).hits =
        state.hits ++ [(rule.id, (matched.and state.unset).count)] := by
      rw [heq]
      simp only [record, claim_hits]
    have hone : rowsOf [(rule.id, (matched.and state.unset).count)] = (matched.and state.unset).count := rfl
    rw [hhits, rowsOf_append, hone, heq, record_unset]
    omega

/-- Through all rules, what is left unset and what has been labelled make up the same number of rows. -/
theorem count_unset_applyAll (task : LabelingTask) (state : Labeling n) (rules : List Rule) :
    (state.applyAll task rules).unset.count + rowsOf (state.applyAll task rules).hits =
      state.unset.count + rowsOf state.hits := by
  induction rules generalizing state with
  | nil => rfl
  | cons rule rest ih => exact (ih (state.apply task rule)).trans (count_unset_apply task state rule)

/-- A row is unset after a rule if it was before and the rule does not claim it. -/
theorem get_unset_apply (task : LabelingTask) (state : Labeling n) (rule : Rule) (row : Fin n) :
    (state.apply task rule).unset.get row =
      (state.unset.get row && !rule.claims task.kind (state.input task) row) := by
  cases hunset : state.unset.get row with
  | false =>
    cases hafter : (state.apply task rule).unset.get row with
    | false => rfl
    | true => simp [(frame_apply task state rule).unset row hafter] at hunset
  | true =>
    cases hclaims : rule.claims task.kind (state.input task) row with
    | false => exact apply_of_not_claims hunset hclaims
    | true => exact (apply_of_claims hunset hclaims).1

/-- The rows that a run leaves unset are those that were unset before it and that no rule claims when
its turn comes. -/
theorem get_unset_applyAll_iff (task : LabelingTask) (state : Labeling n) (rules : List Rule)
    (row : Fin n) : (state.applyAll task rules).unset.get row = true ↔
      state.unset.get row = true ∧ ∀ earlier rule later, rules = earlier ++ rule :: later →
        rule.claims task.kind ((state.applyAll task earlier).input task) row = false := by
  induction rules generalizing state with
  | nil => simp [applyAll]
  | cons first rest ih =>
    -- the rules before a rule shrink from the front, as the run does
    have hrest := ih (state.apply task first)
    rw [get_unset_apply, Bool.and_eq_true, Bool.not_eq_true'] at hrest
    refine hrest.trans ⟨?_, ?_⟩
    · rintro ⟨⟨hunset, hfirst⟩, hlater⟩
      refine ⟨hunset, fun earlier rule later hsplit => ?_⟩
      cases earlier with
      | nil =>
        obtain ⟨rfl, _⟩ := List.cons.inj hsplit
        exact hfirst
      | cons other earlier =>
        obtain ⟨rfl, htail⟩ := List.cons.inj hsplit
        exact hlater earlier rule later htail
    · rintro ⟨hunset, hnone⟩
      exact ⟨⟨hunset, hnone [] first rest rfl⟩, fun earlier rule later hsplit =>
        hnone (first :: earlier) rule later (congrArg (first :: ·) hsplit)⟩

end Labeling

end PurchaseStatus
