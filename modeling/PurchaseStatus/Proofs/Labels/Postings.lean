import PurchaseStatus.Proofs.Check.Reading
import PurchaseStatus.Proofs.Engine.Columns
import PurchaseStatus.Proofs.Labels.Keeping

namespace PurchaseStatus.FinanceRemark

variable {n : Nat}

/-- Six digits with `入FA` behind them. -/
def IsPosting (cs : List Char) : Prop :=
  ∃ digits, digits.length = 6 ∧ areDigits digits = true ∧ cs = digits ++ ['入', 'F', 'A']

/-- A posting has nine characters. -/
theorem IsPosting.length_eq {cs : List Char} (h : IsPosting cs) : cs.length = 9 := by
  obtain ⟨digits, hlength, _, rfl⟩ := h
  simp [hlength]

/-- A posting that stands in a text, and before which no other begins. -/
def IsLeftmostPosting (cs posting : List Char) : Prop :=
  IsPosting posting ∧ ∃ before behind, cs = before ++ posting ++ behind ∧
    ∀ earlier other later, IsPosting other → cs = earlier ++ other ++ later →
      before.length ≤ earlier.length

section Search

variable {cs posting other : List Char}

/-- All postings have one length, so that only one of them begins at a place. -/
theorem IsLeftmostPosting.unique (h : IsLeftmostPosting cs posting) (h' : IsLeftmostPosting cs other) :
    posting = other := by
  obtain ⟨hposting, before, behind, hcs, hfirst⟩ := h
  obtain ⟨hother, before', behind', hcs', hfirst'⟩ := h'
  have hplace : before.length = before'.length :=
    Nat.le_antisymm (hfirst before' other behind' hother hcs') (hfirst' before posting behind hposting hcs)
  have hsame := hcs.symm.trans hcs'
  rw [List.append_assoc, List.append_assoc] at hsame
  have hrest := (List.append_inj hsame hplace).2
  exact (List.append_inj hrest (hposting.length_eq.trans hother.length_eq.symm)).1

/-- What is found in a place is the posting that begins there. -/
theorem postingAt?_eq_some_iff : postingAt? cs = some posting ↔ IsPosting posting ∧ posting <+: cs := by
  constructor
  · intro h
    unfold postingAt? at h
    split at h
    · split at h
      · rename_i a b c d e f rest hdigits
        cases h
        exact ⟨⟨[a, b, c, d, e, f], rfl, hdigits, rfl⟩, rest, rfl⟩
      · cases h
    · cases h
  · rintro ⟨⟨digits, hlength, hdigits, rfl⟩, behind, rfl⟩
    match digits, hlength with
    | [a, b, c, d, e, f], _ => simp [postingAt?, hdigits]

/-- Nothing is found exactly if there is no posting anywhere. -/
theorem firstPosting?_eq_none_iff :
    firstPosting? cs = none ↔ ∀ posting, IsPosting posting → ¬posting <:+: cs := by
  induction cs with
  | nil =>
    refine iff_of_true rfl fun posting hposting hinfix => ?_
    have hlength := hposting.length_eq
    rw [List.infix_nil.1 hinfix] at hlength
    cases hlength
  | cons c rest ih =>
    rw [firstPosting?, Option.or_eq_none_iff, ih]
    simp only [Option.eq_none_iff_forall_ne_some, ne_eq, postingAt?_eq_some_iff, not_and, List.infix_cons_iff,
      not_or]
    exact ⟨fun h posting hposting => ⟨h.1 posting hposting, h.2 posting hposting⟩,
      fun h => ⟨fun posting hposting => (h posting hposting).1, fun posting hposting => (h posting hposting).2⟩⟩

/-- What is found has no other posting before it. -/
theorem isLeftmostPosting_of_firstPosting? (h : firstPosting? cs = some posting) :
    IsLeftmostPosting cs posting := by
  induction cs with
  | nil => cases h
  | cons c rest ih =>
    rw [firstPosting?] at h
    cases hhere : postingAt? (c :: rest) with
    | some found =>
      rw [hhere, Option.some_or, Option.some_inj] at h
      subst h
      obtain ⟨hposting, behind, hbehind⟩ := postingAt?_eq_some_iff.1 hhere
      exact ⟨hposting, [], behind, hbehind.symm, fun _ _ _ _ _ => Nat.zero_le _⟩
    | none =>
      rw [hhere, Option.none_or] at h
      obtain ⟨hposting, before, behind, rfl, hfirst⟩ := ih h
      refine ⟨hposting, c :: before, behind, rfl, fun earlier other later hother hsplit => ?_⟩
      cases earlier with
      | nil =>
        have hfound := postingAt?_eq_some_iff.2 ⟨hother, later, hsplit.symm⟩
        cases hhere.symm.trans hfound
      | cons c' earlier =>
        obtain ⟨_, htail⟩ := List.cons.inj hsplit
        exact Nat.succ_le_succ (hfirst earlier other later hother htail)

/-- What is found is the leftmost posting, and it is found if there is one. -/
theorem firstPosting?_eq_some_iff : firstPosting? cs = some posting ↔ IsLeftmostPosting cs posting := by
  refine ⟨isLeftmostPosting_of_firstPosting?, fun h => ?_⟩
  cases hfound : firstPosting? cs with
  | none =>
    obtain ⟨hposting, before, behind, hcs, _⟩ := h
    exact absurd ⟨before, behind, hcs.symm⟩ (firstPosting?_eq_none_iff.1 hfound posting hposting)
  | some found => rw [(isLeftmostPosting_of_firstPosting? hfound).unique h]

-- Of eight digits the last six count, and what comes later is not looked at.
example : firstPosting? "72202401入FA 202402入FA".toList = some "202401入FA".toList := by decide

end Search

/-- What a remark offers to a row without a status: the leftmost posting in it. A remark that is null or
records a partial completion offers nothing. -/
def Offers (remark : Option String) (posting : String) : Prop :=
  ∃ text, remark = some text ∧ ¬"部分完成".toList <:+: text.toList ∧
    IsLeftmostPosting text.toList posting.toList

/-- A remark gives the posting that it offers. -/
theorem bind_posting?_eq_some_iff {remark : Option String} {posting : String} :
    remark.bind posting? = some posting ↔ Offers remark posting := by
  unfold Offers
  cases remark with
  | none => simp
  | some text =>
    have hcontains : Text.contains text "部分完成" = true ↔ "部分完成".toList <:+: text.toList :=
      Text.containsList_iff
    have hofList : ∀ cs, String.ofList cs = posting ↔ cs = posting.toList := fun cs =>
      ⟨fun h => h ▸ String.toList_ofList.symm, fun h => h ▸ String.ofList_toList⟩
    simp only [Option.bind_some, posting?, ← hcontains, ← firstPosting?_eq_some_iff, Option.some_inj,
      exists_eq_left']
    by_cases hpartial : Text.contains text "部分完成" = true
    · simp [hpartial]
    · simp [hpartial, hofList]

/-- A remark without a posting, or one that is null, offers none. -/
theorem bind_posting?_eq_none_iff {remark : Option String} :
    remark.bind posting? = none ↔ ∀ posting, ¬Offers remark posting := by
  simp only [Option.eq_none_iff_forall_ne_some, ne_eq, bind_posting?_eq_some_iff]

/-- A posting is neither empty nor as short as `nan`. -/
theorem isBlank_of_offers {remark : Option String} {posting : String} (h : Offers remark posting) :
    isBlank (some posting) = false := by
  obtain ⟨_, _, _, hposting, _⟩ := h
  have hlength := hposting.length_eq
  rw [isBlank, Bool.or_eq_false_iff, beq_eq_false_iff_ne, Text.eqIgnoreCase, beq_eq_false_iff_ne]
  refine ⟨?_, fun hnan => ?_⟩
  · rintro rfl
    cases hlength
  · have hshort := congrArg (fun text => text.toList.length) hnan
    simp only [Text.asciiLower, String.toList_ofList, List.length_map, hlength] at hshort
    cases hshort

/-- A row stays blank if it was so and its remark offers nothing, a posting never being blank. -/
theorem isBlank_or {remark present : Option String} : isBlank ((remark.bind posting?).or present) =
    (isBlank present && !(remark.bind posting?).isSome) := by
  cases hoffer : remark.bind posting? with
  | none => simp
  | some posting => simp [isBlank_of_offers (bind_posting?_eq_some_iff.1 hoffer)]

namespace Labelled

variable (labelled : Labelled n) (remarks : Texts n)

/-- Of the rows that carry no status, those take one whose remark offers it. -/
theorem get_status_take (row : Fin n) : (labelled.take remarks).status.get row =
    if isBlank (labelled.status.get row) then
      ((remarks.get row).bind posting?).or (labelled.status.get row)
    else labelled.status.get row := by
  simp only [take, Series.get_blend, Mask.get_and, Texts.get_unset, Series.get_map]
  cases isBlank (labelled.status.get row) <;> cases (remarks.get row).bind posting? <;> rfl

/-- The rows that are unset after a column of remarks are those to which it had nothing to offer. -/
theorem unset_take : (labelled.take remarks).status.unset =
    labelled.status.unset.andNot
      (Mask.and (remarks.map fun remark => (remark.bind posting?).isSome) labelled.status.unset) := by
  apply Series.ext_get
  intro row
  rw [Texts.get_unset, get_status_take, Mask.get_andNot, Mask.get_and, Texts.get_unset, Series.get_map]
  cases hblank : isBlank (labelled.status.get row) with
  | false => exact hblank
  | true => simp [isBlank_or, hblank]

/-- The rows that a column labels are counted, and no others. -/
theorem count_unset_take : (labelled.take remarks).status.unset.count + (labelled.take remarks).count =
    labelled.status.unset.count + labelled.count := by
  have hsplit := labelled.status.unset.count_andNot_add_count_and
    (remarks.map fun remark => (remark.bind posting?).isSome)
  have hrows : (labelled.take remarks).count = labelled.count +
      (Mask.and (remarks.map fun remark => (remark.bind posting?).isSome) labelled.status.unset).count := by
    refine congrArg (labelled.count + Mask.count ·) (Series.ext_get fun row => ?_)
    simp [Bool.and_comm]
  rw [unset_take, hrows]
  omega

/-- Where all remarks are null nothing is labelled. -/
theorem take_constant_none : labelled.take (.constant n none) = labelled := by
  have hrows : labelled.status.unset.and ((Series.constant n none).map fun remark : Option String =>
      (remark.bind posting?).isSome) = .constant n false := Series.ext_get (by simp)
  have hstatus : (labelled.take (.constant n none)).status = labelled.status :=
    Series.ext_get (by simp [get_status_take])
  have hcount : (labelled.take (.constant n none)).count = labelled.count := by
    have hnone := congrArg (labelled.count + Mask.count ·) hrows
    simp only [Mask.count_constant_false] at hnone
    simpa [take, Function.comp_def] using hnone
  calc labelled.take (.constant n none)
      = ⟨(labelled.take (.constant n none)).status, (labelled.take (.constant n none)).count⟩ := rfl
    _ = labelled := by rw [hstatus, hcount]

/-- A column that is absent does as much as one without remarks. -/
theorem foldl_take_filterMap (batch : Batch n) (columns : List String) :
    (columns.filterMap batch.text?).foldl take labelled =
      columns.foldl (fun labelled column => labelled.take (batch.textOrNulls column)) labelled := by
  induction columns generalizing labelled with
  | nil => rfl
  | cons column rest ih =>
    rw [List.foldl_cons, ← ih]
    cases hremarks : batch.text? column with
    | none =>
      have hnulls : batch.textOrNulls column = .constant n none := by rw [Batch.textOrNulls, hremarks]; rfl
      rw [List.filterMap_cons_none hremarks, hnulls, take_constant_none]
    | some remarks =>
      have htexts : batch.textOrNulls column = remarks := by rw [Batch.textOrNulls, hremarks]; rfl
      rw [List.filterMap_cons_some hremarks, List.foldl_cons, htexts]

end Labelled

section Rows

variable (batch : Batch n) (column : String)

/-- The statuses once both remark columns have been asked, one after the other. -/
def filled : Labelled n :=
  (columnNames.filterMap batch.text?).foldl Labelled.take ⟨batch.textOrNulls column, 0⟩

/-- The posting that a remark column offers to a row. -/
def offered? (remarks : String) (row : Fin n) : Option String := (batch.textAt? remarks row).bind posting?

theorem filled_eq : filled batch column =
    ((⟨batch.textOrNulls column, 0⟩ : Labelled n).take (batch.textOrNulls Schema.financeRemark)).take
      (batch.textOrNulls Schema.financeRequestRemark) :=
  Labelled.foldl_take_filterMap ⟨batch.textOrNulls column, 0⟩ batch columnNames

/-- A row keeps its status, or takes the offer of the first column, or else that of the second. -/
theorem get_status_filled (row : Fin n) : (filled batch column).status.get row =
    if isBlank (batch.textAt? column row) then
      (offered? batch Schema.financeRemark row).or
        ((offered? batch Schema.financeRequestRemark row).or (batch.textAt? column row))
    else batch.textAt? column row := by
  unfold offered?
  rw [filled_eq, Labelled.get_status_take, Labelled.get_status_take, Batch.get_textOrNulls,
    Batch.get_textOrNulls, Batch.get_textOrNulls]
  cases hblank : isBlank (batch.textAt? column row) with
  | false => simp [hblank]
  | true =>
    -- the second column is asked only for what the first has left blank
    cases hfirst : (batch.textAt? Schema.financeRemark row).bind posting? with
    | none => simp [hblank]
    | some posting => simp [isBlank_of_offers (bind_posting?_eq_some_iff.1 hfirst)]

/-- No row loses its status. -/
theorem isBlank_of_isBlank_filled {row : Fin n}
    (h : isBlank ((filled batch column).status.get row) = true) :
    isBlank (batch.textAt? column row) = true := by
  rw [get_status_filled] at h
  split at h <;> assumption

/-- A row that stays blank has been offered nothing, and its text is the one that it had. -/
theorem get_status_filled_of_isBlank {row : Fin n}
    (h : isBlank (batch.textAt? column row) = true → isBlank ((filled batch column).status.get row) = true) :
    (filled batch column).status.get row = batch.textAt? column row := by
  rw [get_status_filled] at h ⊢
  split
  · rename_i hblank
    have hnothing := h hblank
    rw [if_pos hblank, offered?, offered?, isBlank_or, isBlank_or, hblank] at hnothing
    simp only [Bool.true_and, Bool.and_eq_true, Bool.not_eq_true', Option.isSome_eq_false_iff,
      Option.isNone_iff_eq_none] at hnothing
    rw [offered?, offered?, hnothing.1, hnothing.2, Option.none_or, Option.none_or]
  · rfl

/-- What is counted are the rows that went from blank to a status, each once. -/
theorem count_filled : (filled batch column).count = (List.finRange n).countP fun row =>
    isBlank (batch.textAt? column row) && !isBlank ((filled batch column).status.get row) := by
  have hfirst := (⟨batch.textOrNulls column, 0⟩ : Labelled n).count_unset_take
    (batch.textOrNulls Schema.financeRemark)
  have hsecond := ((⟨batch.textOrNulls column, 0⟩ : Labelled n).take
    (batch.textOrNulls Schema.financeRemark)).count_unset_take (batch.textOrNulls Schema.financeRequestRemark)
  rw [← filled_eq] at hsecond
  have hsum : (filled batch column).status.unset.count + (filled batch column).count =
      (batch.textOrNulls column).unset.count := hsecond.trans hfirst
  have hleft : (filled batch column).status.unset.and (batch.textOrNulls column).unset =
      (filled batch column).status.unset := by
    apply Series.ext_get
    intro row
    rw [Mask.get_and, Texts.get_unset, Texts.get_unset, Batch.get_textOrNulls]
    cases hblank : isBlank ((filled batch column).status.get row) with
    | false => rfl
    | true => rw [isBlank_of_isBlank_filled batch column hblank]; rfl
  have hrows : ((batch.textOrNulls column).unset.andNot (filled batch column).status.unset).get = fun row =>
      isBlank (batch.textAt? column row) && !isBlank ((filled batch column).status.get row) := by
    funext row
    rw [Mask.get_andNot, Texts.get_unset, Texts.get_unset, Batch.get_textOrNulls]
  have hsplit := (batch.textOrNulls column).unset.count_andNot_add_count_and
    (filled batch column).status.unset
  rw [hleft, Mask.count_eq_countP (Mask.andNot _ _), hrows] at hsplit
  omega

theorem labelPostings_eq : labelPostings batch column =
    if (filled batch column).count = 0 then (batch, 0)
    else (batch.putText column (filled batch column).status, (filled batch column).count) := rfl

/-- What is reported is the number of rows that are filled. -/
theorem count_labelPostings : (labelPostings batch column).2 = (filled batch column).count := by
  rw [labelPostings_eq]
  split
  · rename_i hnone
    exact hnone.symm
  · rfl

/-- Where nothing is counted no row has changed, so that the batch need not be written. -/
theorem textAt?_labelPostings (row : Fin n) :
    (labelPostings batch column).1.textAt? column row = (filled batch column).status.get row := by
  have hcounted := count_filled batch column
  rw [labelPostings_eq]
  split
  · rename_i hnone
    rw [hnone, eq_comm, List.countP_eq_zero] at hcounted
    exact (get_status_filled_of_isBlank batch column fun hblank => by
      simpa [hblank] using hcounted row (List.mem_finRange row)).symm
  · exact Batch.textAt?_putText_self _

end Rows

/-- The rows without a status have taken the postings that last month's remarks offer, and were counted.
The remark on finance comes first, that on the request only where the first offers nothing. -/
structure TakesPostings (column : String) (before after : Batch n) (count : Nat) : Prop where
  labelled : ∀ row, isBlank (before.textAt? column row) = false →
    after.textAt? column row = before.textAt? column row
  first : ∀ row posting, isBlank (before.textAt? column row) = true →
    Offers (before.textAt? Schema.financeRemark row) posting → after.textAt? column row = some posting
  second : ∀ row posting, isBlank (before.textAt? column row) = true →
    (∀ other, ¬Offers (before.textAt? Schema.financeRemark row) other) →
    Offers (before.textAt? Schema.financeRequestRemark row) posting →
    after.textAt? column row = some posting
  neither : ∀ row, (∀ other, ¬Offers (before.textAt? Schema.financeRemark row) other) →
    (∀ other, ¬Offers (before.textAt? Schema.financeRequestRemark row) other) →
    after.textAt? column row = before.textAt? column row
  counted : count = (List.finRange n).countP fun row =>
    isBlank (before.textAt? column row) && !isBlank (after.textAt? column row)
  others : Batch.KeepsOthers column column before after
  names : after.names = if count = 0 then before.names else Batch.withName before.names column
  unchanged : count = 0 → after = before

/-- Postings go to the rows without a status, those of the first remark column before those of the
second. -/
theorem labelPostings_takesPostings (batch : Batch n) (column : String) :
    let labelled := labelPostings batch column
    TakesPostings column batch labelled.1 labelled.2 := by
  intro labelled
  have hlabelled : labelled = _ := labelPostings_eq batch column
  have hcount : labelled.2 = (filled batch column).count := count_labelPostings batch column
  have hstatus : ∀ row, labelled.1.textAt? column row = (filled batch column).status.get row :=
    textAt?_labelPostings batch column
  refine
    { labelled := fun row hlabel => ?_
      first := fun row posting hblank hoffer => ?_
      second := fun row posting hblank hnone hoffer => ?_
      neither := fun row hfirst hsecond => ?_
      counted := ?_
      others := ?_
      names := ?_
      unchanged := fun hnone => ?_ }
  · rw [hstatus, get_status_filled, hlabel]
    rfl
  · rw [hstatus, get_status_filled, if_pos hblank, offered?, bind_posting?_eq_some_iff.2 hoffer, Option.some_or]
  · rw [hstatus, get_status_filled, if_pos hblank, offered?, offered?, bind_posting?_eq_none_iff.2 hnone,
      bind_posting?_eq_some_iff.2 hoffer, Option.none_or, Option.some_or]
  · rw [hstatus, get_status_filled, offered?, offered?, bind_posting?_eq_none_iff.2 hfirst,
      bind_posting?_eq_none_iff.2 hsecond, Option.none_or, Option.none_or, ite_self]
  · simp only [hstatus, hcount]
    exact count_filled batch column
  · rw [hlabelled]
    split
    · exact .refl batch
    · exact .put batch _ (.inl rfl)
  · rw [hcount, hlabelled]
    split
    · rfl
    · exact Batch.names_putText batch column _
  · rw [hlabelled, if_pos (hcount.symm.trans hnone)]

end PurchaseStatus.FinanceRemark
