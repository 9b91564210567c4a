import PurchaseStatus.Decimal.Reading
import PurchaseStatus.Text.Space
import Mathlib.Algebra.Group.Nat.Defs
import Mathlib.Data.List.TakeWhile

namespace PurchaseStatus

namespace Text

/-- Nothing but white space. -/
def AllSpace (cs : List Char) : Prop := ∀ c ∈ cs, isSpace c = true

instance (cs : List Char) : Decidable (AllSpace cs) := List.decidableBAll _ cs

/-- White space at the start is trimmed, however much of it there is. -/
theorem trimStart_append {before : List Char} (hbefore : AllSpace before) (cs : List Char) :
    trimStart (before ++ cs) = trimStart cs :=
  List.dropWhile_append_of_pos hbefore

/-- Without white space nothing is trimmed. -/
theorem trimStart_of_none {cs : List Char} (hnone : ∀ c ∈ cs, isSpace c = false) : trimStart cs = cs := by
  cases cs with
  | nil => rfl
  | cons c rest => exact List.dropWhile_cons_of_neg (by simp [hnone c List.mem_cons_self])

/-- The text is what is left of it, with white space before and behind. -/
theorem exists_trim (text : String) : ∃ before after, AllSpace before ∧ AllSpace after ∧
    before ++ (trim text).toList ++ after = text.toList := by
  let rest := trimStart text.toList
  refine ⟨text.toList.takeWhile isSpace, (rest.reverse.takeWhile isSpace).reverse,
    fun c hc => List.mem_takeWhile_imp hc, fun c hc => List.mem_takeWhile_imp (List.mem_reverse.1 hc), ?_⟩
  have hrest : (trim text).toList ++ (rest.reverse.takeWhile isSpace).reverse = rest := by
    rw [trim, String.toList_ofList, trimEnd, ← List.reverse_append]
    exact (congrArg List.reverse List.takeWhile_append_dropWhile).trans (List.reverse_reverse rest)
  rw [List.append_assoc, hrest]
  exact List.takeWhile_append_dropWhile

/-- White space around a text without any is all that goes. -/
theorem trim_ofList {before cs after : List Char} (hbefore : AllSpace before) (hafter : AllSpace after)
    (hnone : ∀ c ∈ cs, isSpace c = false) :
    trim (String.ofList (before ++ cs ++ after)) = String.ofList cs := by
  have hafter' : AllSpace after.reverse := fun c hc => hafter c (List.mem_reverse.1 hc)
  have hnone' : ∀ c ∈ cs.reverse, isSpace c = false := fun c hc => hnone c (List.mem_reverse.1 hc)
  have hend : trimEnd (cs ++ after) = cs := by
    rw [trimEnd, List.reverse_append, trimStart_append hafter', trimStart_of_none hnone', List.reverse_reverse]
  cases cs with
  | nil =>
    have hblank : trimStart (before ++ [] ++ after) = [] := by
      rw [List.append_nil]
      exact List.dropWhile_eq_nil_iff.2 fun c hc => (List.mem_append.1 hc).elim (hbefore c) (hafter c)
    rw [trim, String.toList_ofList, hblank]
    rfl
  | cons c rest =>
    have hstart : trimStart (c :: rest ++ after) = c :: rest ++ after :=
      List.dropWhile_cons_of_neg (by simp [hnone c List.mem_cons_self])
    rw [trim, String.toList_ofList, List.append_assoc, trimStart_append hbefore, hstart, hend]

end Text

namespace Decimal

open Text (AllSpace isSpace trim)

/-- A run of decimal digits. -/
def IsDigits (cs : List Char) : Prop := cs ≠ [] ∧ ∀ c ∈ cs, c.isDigit = true

/-- The ways to write an integer: digits, with zeros in front or without, behind a sign or none. -/
inductive Numeral : Int → List Char → Prop where
  | unsigned {digits : List Char} (h : IsDigits digits) : Numeral (ofDigits digits) digits
  | plus {digits : List Char} (h : IsDigits digits) : Numeral (ofDigits digits) ('+' :: digits)
  | minus {digits : List Char} (h : IsDigits digits) : Numeral (-(ofDigits digits : Int)) ('-' :: digits)

/-- The digits are the ten characters from zero to nine. -/
theorem toNat_of_isDigit {c : Char} (h : c.isDigit = true) : 48 ≤ c.toNat ∧ c.toNat ≤ 57 := by
  simpa [Char.isDigit, UInt32.le_iff_toNat_le] using h

theorem isSpace_eq_false_of_isDigit {c : Char} (h : c.isDigit = true) : isSpace c = false := by
  have hrange := toNat_of_isDigit h
  simp only [isSpace, Bool.or_eq_false_iff, Bool.and_eq_false_iff, beq_eq_false_iff_ne, decide_eq_false_iff_not]
  omega

/-- A digit is no sign. -/
theorem ne_sign_of_isDigit {c : Char} (h : c.isDigit = true) : c ≠ '-' ∧ c ≠ '+' := by
  constructor <;> (rintro rfl; revert h; decide)

/-- A numeral has no white space in it. -/
theorem Numeral.isSpace_eq_false {i : Int} {cs : List Char} (h : Numeral i cs) :
    ∀ c ∈ cs, isSpace c = false := by
  cases h with
  | unsigned h => exact fun c hc => isSpace_eq_false_of_isDigit (h.2 c hc)
  | plus h | minus h =>
    intro c hc
    rcases List.mem_cons.1 hc with rfl | hc
    · decide
    · exact isSpace_eq_false_of_isDigit (h.2 c hc)

/-- What the reader asks of the digits is that there are some and nothing else. -/
theorem isDigits_iff {cs : List Char} : (cs.isEmpty || !cs.all Char.isDigit) = false ↔ IsDigits cs := by
  simp [IsDigits]

/-- Digits come without a sign. -/
theorem splitSign_of_isDigits {digits : List Char} (h : IsDigits digits) :
    splitSign digits = (false, digits) := by
  obtain ⟨hne, hdigits⟩ := h
  obtain ⟨c, rest, rfl⟩ := List.exists_cons_of_ne_nil hne
  obtain ⟨hminus, hplus⟩ := ne_sign_of_isDigit (hdigits c List.mem_cons_self)
  unfold splitSign
  split
  · rename_i heq
    exact absurd (List.cons.inj heq).1 hminus
  · rename_i heq
    exact absurd (List.cons.inj heq).1 hplus
  · rfl

/-- What is left behind a sign, if there is one. -/
theorem splitSign_cases (cs : List Char) :
    (∃ rest, cs = '-' :: rest ∧ splitSign cs = (true, rest)) ∨
      (∃ rest, cs = '+' :: rest ∧ splitSign cs = (false, rest)) ∨ splitSign cs = (false, cs) := by
  unfold splitSign
  split
  · exact .inl ⟨_, rfl, rfl⟩
  · exact .inr (.inl ⟨_, rfl, rfl⟩)
  · exact .inr (.inr rfl)

/-- The number is that of the digits, with the sign that was split off. -/
theorem wholeNumber?_of_splitSign {cs digits : List Char} {negative : Bool} {i : Int}
    (hsplit : splitSign cs = (negative, digits)) : wholeNumber? cs = some i ↔
      IsDigits digits ∧ (if negative then -(ofDigits digits : Int) else ofDigits digits) = i := by
  rw [wholeNumber?, hsplit]
  dsimp only
  by_cases h : IsDigits digits
  · rw [isDigits_iff.2 h]
    simp [h]
  · rw [eq_true_of_ne_false (mt isDigits_iff.1 h)]
    simp [h]

/-- The reader takes exactly the numerals for numbers. -/
theorem wholeNumber?_eq_some_iff {cs : List Char} {i : Int} : wholeNumber? cs = some i ↔ Numeral i cs := by
  constructor
  · intro h
    rcases splitSign_cases cs with ⟨rest, rfl, hsplit⟩ | ⟨rest, rfl, hsplit⟩ | hsplit
    all_goals obtain ⟨hdigits, rfl⟩ := (wholeNumber?_of_splitSign hsplit).1 h
    · exact .minus hdigits
    · exact .plus hdigits
    · exact .unsigned hdigits
  · intro h
    cases h with
    | unsigned h => exact (wholeNumber?_of_splitSign (splitSign_of_isDigits h)).2 ⟨h, rfl⟩
    | plus h => exact (wholeNumber?_of_splitSign rfl).2 ⟨h, rfl⟩
    | minus h => exact (wholeNumber?_of_splitSign rfl).2 ⟨h, rfl⟩

/-- An integer is a numeral whose number has sixty-four bits. -/
theorem integer?_eq_some_iff {text : String} {i : Int} :
    integer? text = some i ↔ Numeral i text.toList ∧ IsInt64 i := by
  rw [integer?, Option.filter_eq_some_iff, wholeNumber?_eq_some_iff, decide_eq_true_eq]

/-- A trimmed text is an integer exactly if a numeral stands in it with white space around. -/
theorem integer?_trim_eq_some_iff {text : String} {i : Int} : integer? (trim text) = some i ↔
    (∃ before numeral after, AllSpace before ∧ AllSpace after ∧ Numeral i numeral ∧
      before ++ numeral ++ after = text.toList) ∧ IsInt64 i := by
  rw [integer?_eq_some_iff]
  refine and_congr_left fun _ => ⟨fun hnumeral => ?_, ?_⟩
  · obtain ⟨before, after, hbefore, hafter, htext⟩ := Text.exists_trim text
    exact ⟨before, (trim text).toList, after, hbefore, hafter, hnumeral, htext⟩
  · rintro ⟨before, numeral, after, hbefore, hafter, hnumeral, htext⟩
    rw [← String.ofList_toList (s := text), ← htext, Text.trim_ofList hbefore hafter hnumeral.isSpace_eq_false,
      String.toList_ofList]
    exact hnumeral

/-- Printed digits are digits. -/
theorem isDigits_toDigits (m : Nat) : IsDigits (Nat.toDigits 10 m) :=
  ⟨Nat.toDigits_ne_nil, fun _ hc => Nat.isDigit_of_mem_toDigits (by decide) (by decide) hc⟩

/-- An integer in its usual form. -/
theorem numeral_toString (i : Int) : Numeral i (toString i).toList := by
  cases i with
  | ofNat m =>
    have htext : (toString (Int.ofNat m)).toList = Nat.toDigits 10 m := Nat.toList_repr
    have hnumeral := Numeral.unsigned (isDigits_toDigits m)
    rw [ofDigits, Nat.ofDigitChars_ten_toDigits] at hnumeral
    rw [htext]
    exact hnumeral
  | negSucc m =>
    have htext : (toString (Int.negSucc m)).toList = '-' :: Nat.toDigits 10 (m + 1) :=
      String.toList_append.trans (congrArg _ Nat.toList_repr)
    have hnumeral := Numeral.minus (isDigits_toDigits (m + 1))
    rw [ofDigits, Nat.ofDigitChars_ten_toDigits] at hnumeral
    rw [htext]
    exact hnumeral

/-- Each digit behind a number makes room for ten times as many. -/
theorem ofDigitChars_lt {cs : List Char} (h : ∀ c ∈ cs, c.isDigit = true) (init : Nat) :
    Nat.ofDigitChars 10 cs init < 10 ^ cs.length * (init + 1) := by
  induction cs generalizing init with
  | nil => simp
  | cons c rest ih =>
    obtain ⟨hc, hrest⟩ := List.forall_mem_cons.1 h
    have hrange := toNat_of_isDigit hc
    have hzero : '0'.toNat = 48 := rfl
    rw [Nat.ofDigitChars_cons, List.length_cons, Nat.pow_succ, Nat.mul_assoc]
    refine Nat.lt_of_lt_of_le (ih hrest _) (Nat.mul_le_mul_left _ ?_)
    omega

/-- A number is less than ten to the power of the number of its digits. -/
theorem ofDigits_lt {cs : List Char} (h : ∀ c ∈ cs, c.isDigit = true) : ofDigits cs < 10 ^ cs.length := by
  simpa [ofDigits] using ofDigitChars_lt h 0

end Decimal

end PurchaseStatus
