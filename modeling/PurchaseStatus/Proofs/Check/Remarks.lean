import PurchaseStatus.Check.Evaluation
import PurchaseStatus.Proofs.Agreement

namespace PurchaseStatus

namespace Calendar

/-- The characters that the text of a day is made of. -/
def IsDayChar (c : Char) : Prop := c.isDigit = true ∨ c = '-' ∨ c = '+'

instance (c : Char) : Decidable (IsDayChar c) := inferInstanceAs (Decidable (_ ∨ _))

/-- Numbers are padded with zeros. -/
theorem isDayChar_of_mem_padded {width n : Nat} {c : Char} (hc : c ∈ (padded width n).toList) :
    IsDayChar c := by
  simp only [padded, String.toList_ofList, List.mem_append] at hc
  rcases hc with hzero | hdigit
  · rw [List.eq_of_mem_replicate hzero]
    exact .inl rfl
  · exact .inl (Nat.isDigit_of_mem_toDigits (by decide) (by decide) hdigit)

/-- A year has a sign where it has other than four digits. -/
theorem isDayChar_of_mem_yearText {year : Int} {c : Char} (hc : c ∈ (yearText year).toList) :
    IsDayChar c := by
  unfold yearText at hc
  split at hc
  · exact isDayChar_of_mem_padded hc
  · rw [String.toList_append, List.mem_append] at hc
    rcases hc with hsign | hdigits
    · split at hsign
      · exact .inr (.inl (List.mem_singleton.1 hsign))
      · exact .inr (.inr (List.mem_singleton.1 hsign))
    · exact isDayChar_of_mem_padded hdigits

/-- A day is written with digits and signs alone. -/
theorem isDayChar_of_mem_dayText? {day : Int} {text : String} (h : dayText? day = some text) {c : Char}
    (hc : c ∈ text.toList) : IsDayChar c := by
  rw [dayText?] at h
  split at h
  · cases h
    simp only [Date.text, String.toList_append, List.mem_append] at hc
    rcases hc with ((((hyear | hdash) | hmonth) | hdash) | hday)
    · exact isDayChar_of_mem_yearText hyear
    · exact .inr (.inl (List.mem_singleton.1 hdash))
    · exact isDayChar_of_mem_padded hmonth
    · exact .inr (.inl (List.mem_singleton.1 hdash))
    · exact isDayChar_of_mem_padded hday
  · cases h

/-- No letter stands in the text of a day, so no word that has one does. -/
theorem contains_dayText?_eq_false {day : Int} {text : String} (h : dayText? day = some text)
    (part : String) {c : Char} (hpart : c ∈ part.toList) (hc : ¬IsDayChar c) :
    Text.contains text part = false := by
  rw [← Bool.not_eq_true]
  intro hcontains
  exact hc (isDayChar_of_mem_dayText? h ((Text.containsList_iff.1 hcontains).subset hpart))

/-- Neither digits nor signs come in two cases. -/
theorem toLower_of_isDayChar {c : Char} (h : IsDayChar c) : c.toLower = c := by
  have hval : c.toNat ≤ 57 := by
    rcases h with hdigit | rfl | rfl
    · simp only [Char.isDigit, Bool.and_eq_true, decide_eq_true_eq] at hdigit
      exact UInt32.le_iff_toNat_le.1 hdigit.2
    · decide
    · decide
  unfold Char.toLower
  split
  · rename_i hupper
    have hlow : 65 ≤ c.toNat := UInt32.le_iff_toNat_le.1 hupper.1
    omega
  · rfl

/-- The text of a day is in lower case already. -/
theorem asciiLower_dayText? {day : Int} {text : String} (h : dayText? day = some text) :
    Text.asciiLower text = text := by
  have hlower : text.toList.map Char.toLower = text.toList.map id :=
    List.map_congr_left fun c hc => toLower_of_isDayChar (isDayChar_of_mem_dayText? h hc)
  rw [Text.asciiLower, hlower, List.map_id, String.ofList_toList]

end Calendar

/-- A cell in which no remark stands: it is null, or the text of a day. -/
def IsMute (cell : Option String) : Prop := ∀ text ∈ cell, ∃ day, Calendar.dayText? day = some text

/-- Two cells say the same as remarks: they are equal, or there is no remark in either. -/
def SameRemark (x y : Option String) : Prop := x = y ∨ IsMute x ∧ IsMute y

/-- A cell without a remark gets the answer for null from any predicate that takes a day for no remark.
-/
theorem IsMute.elim_eq {cell : Option String} (h : IsMute cell) {onNull : Bool} {p : String → Bool}
    (hp : ∀ {day text}, Calendar.dayText? day = some text → p text = onNull) :
    cell.elim onNull p = onNull := by
  cases cell with
  | none => rfl
  | some text =>
    obtain ⟨day, hday⟩ := h text rfl
    exact hp hday

/-- A predicate that takes a day for no remark does not tell such cells apart. -/
theorem SameRemark.elim_eq {x y : Option String} (h : SameRemark x y) {onNull : Bool} {p : String → Bool}
    (hp : ∀ {day text}, Calendar.dayText? day = some text → p text = onNull) :
    x.elim onNull p = y.elim onNull p := by
  rcases h with rfl | ⟨hx, hy⟩
  · rfl
  · rw [hx.elim_eq hp, hy.elim_eq hp]

namespace Builtin

variable {day : Int} {text : String}

/-- A day is no remark that something was completed, nor that rent is due. -/
theorem mentionsCompletion_dayText? (h : Calendar.dayText? day = some text) :
    mentionsCompletion text = false := by
  have hcompleted := Calendar.contains_dayText?_eq_false h "已完成" (c := '已') (by decide) (by decide)
  have hrent := Calendar.contains_dayText?_eq_false h "rent" (c := 'r') (by decide) (by decide)
  rw [mentionsCompletion, Calendar.asciiLower_dayText? h, hcompleted, hrent, Bool.or_self]

/-- A day is no remark that something was booked. -/
theorem mentionsBooking_dayText? (h : Calendar.dayText? day = some text) : mentionsBooking text = false := by
  have hcompleted := Calendar.contains_dayText?_eq_false h "已完成" (c := '已') (by decide) (by decide)
  have hbooked := Calendar.contains_dayText?_eq_false h "已入帳" (c := '已') (by decide) (by decide)
  rw [mentionsBooking, hcompleted, hbooked, Bool.or_self]

/-- A day is no remark that something is incomplete. -/
theorem not_incomplete_dayText? (h : Calendar.dayText? day = some text) :
    (!Text.contains text "未完成") = true := by
  rw [Calendar.contains_dayText?_eq_false h "未完成" (c := '未') (by decide) (by decide), Bool.not_false]

/-- A day is not the remark for an error. -/
theorem not_error_dayText? (h : Calendar.dayText? day = some text) : (text != "error") = true := by
  rw [bne_iff_ne]
  rintro rfl
  exact absurd (Calendar.isDayChar_of_mem_dayText? h (c := 'e') (by decide)) (by decide)

end Builtin

namespace Batch

variable {n m : Nat} {pairs : Fin n → Fin m → Prop} {column : String} {a : Batch n} {b : Batch m}

/-- Two batches show the same in a column wherever it can be read in both: as text, as floats and as integers,
in paired rows, and as remarks also where it cannot be read in one of them. -/
structure ReadAlike (pairs : Fin n → Fin m → Prop) (column : String) (a : Batch n) (b : Batch m) : Prop where
  texts : Option.WhenBoth (Series.AgreeOn pairs) (a.text? column) (b.text? column)
  numbers : Option.WhenBoth (Series.AgreeOn pairs) (a.numbers? column) (b.numbers? column)
  integers : Option.WhenBoth (Series.AgreeOn pairs) (a.integers? column) (b.integers? column)
  remarks : ∀ i j, pairs i j →
    SameRemark ((a.textOrNulls column).get i) ((b.textOrNulls column).get j)

/-- Columns that agree in every way of reading them are read alike. -/
theorem AgreeOn.readAlike (h : AgreeOn pairs column a b) : ReadAlike pairs column a b where
  texts := .of_rel h.texts
  numbers := .of_rel h.numbers
  integers := .of_rel h.integers
  remarks i j hij := .inl (h.textOrNulls i j hij)

/-- How a column is read depends on its cells alone. -/
theorem ReadAlike.congr {a' : Batch n} {b' : Batch m} (h : ReadAlike pairs column a b)
    (ha : a'.cells? column = a.cells? column) (hb : b'.cells? column = b.cells? column) :
    ReadAlike pairs column a' b' := by
  obtain ⟨htexts, hnumbers, hintegers, hremarks⟩ := h
  unfold textOrNulls at hremarks
  unfold text? at htexts hremarks
  unfold numbers? at hnumbers
  unfold integers? at hintegers
  rw [← ha, ← hb] at htexts hnumbers hintegers hremarks
  exact ⟨htexts, hnumbers, hintegers, hremarks⟩

end Batch

end PurchaseStatus
