import PurchaseStatus.FinanceRemark
import Mathlib.Data.List.Induction

namespace PurchaseStatus.FinanceRemark

/-- So many digits and nothing else. -/
structure Digits (count : Nat) (cs : List Char) : Prop where
  length : cs.length = count
  all : areDigits cs = true

/-- Four digits, a slash and two digits. -/
def IsMonth (cs : List Char) : Prop :=
  ∃ year month, Digits 4 year ∧ Digits 2 month ∧ cs = year ++ '/' :: month

/-- A month whose digits, two to five of them, run on to another slash with two digits behind it. A full
date is the shortest one. -/
def IsChain (cs : List Char) : Prop :=
  ∃ year between last, Digits 4 year ∧ areDigits between = true ∧ 2 ≤ between.length ∧
    between.length ≤ 5 ∧ Digits 2 last ∧ cs = year ++ '/' :: (between ++ '/' :: last)

@[simp] theorem areDigits_nil : areDigits [] = true := rfl

@[simp] theorem areDigits_cons (c : Char) (cs : List Char) :
    areDigits (c :: cs) = (Unicode.isDecimalDigit c && areDigits cs) := rfl

@[simp] theorem areDigits_append (cs rest : List Char) :
    areDigits (cs ++ rest) = (areDigits cs && areDigits rest) := List.all_append

/-- No digit of any script is a slash. -/
theorem ne_slash_of_isDecimalDigit {c : Char} (h : Unicode.isDecimalDigit c = true) : c ≠ '/' := by
  rintro rfl
  revert h
  decide

/-- The number of digits in which a text ends, when `k` digits stand in front of it. -/
def digitsBehind (k : Nat) (cs : List Char) : Nat :=
  cs.foldl (fun k c => if Unicode.isDecimalDigit c then k + 1 else 0) k

/-- Two digits in front. -/
def StartsInMonth (cs : List Char) : Prop := ∃ month rest, Digits 2 month ∧ cs = month ++ rest

/-- A slash behind four digits, with `k` digits in front of the text, after which something follows. -/
def SlashAhead (k : Nat) (Follows : List Char → Prop) (cs : List Char) : Prop :=
  ∃ before behind, cs = before ++ '/' :: behind ∧ 4 ≤ digitsBehind k before ∧ Follows behind

/-- Digits in front, no fewer and no more than two bounds, then a slash and two digits. -/
def RunsOn (least most : Nat) (cs : List Char) : Prop :=
  ∃ digits behind, cs = digits ++ '/' :: behind ∧ areDigits digits = true ∧ least ≤ digits.length ∧
    digits.length ≤ most ∧ StartsInMonth behind

section Scanning

variable {k least most : Nat} {c : Char} {cs rest : List Char} {Follows : List Char → Prop}

/-- A character that is no digit ends the run of digits behind it. -/
theorem digitsBehind_cons : digitsBehind k (c :: cs) =
    digitsBehind (if Unicode.isDecimalDigit c then k + 1 else 0) cs := rfl

/-- What stands in front counts for a text of digits only. -/
theorem digitsBehind_eq : digitsBehind k cs =
    if areDigits cs = true then k + cs.length else digitsBehind 0 cs := by
  induction cs generalizing k with
  | nil => rfl
  | cons c rest ih =>
    rw [digitsBehind_cons, digitsBehind_cons]
    cases hc : Unicode.isDecimalDigit c with
    | true =>
      rw [if_pos rfl, if_pos rfl, ih, ih (k := 0 + 1), areDigits_cons, hc, Bool.true_and]
      split
      · rw [List.length_cons]
        omega
      · rfl
    | false =>
      rw [areDigits_cons, hc, Bool.false_and, if_neg Bool.false_ne_true, if_neg Bool.false_ne_true,
        if_neg Bool.false_ne_true]

/-- The next slash is either here, with enough digits before it, or further on. -/
theorem slashAhead_cons : SlashAhead k Follows (c :: cs) ↔ (c = '/' ∧ 4 ≤ k ∧ Follows cs) ∨
    SlashAhead (if Unicode.isDecimalDigit c then k + 1 else 0) Follows cs := by
  constructor
  · rintro ⟨before, behind, hcs, hdigits, hfollows⟩
    cases before with
    | nil =>
      obtain ⟨rfl, rfl⟩ := List.cons.inj hcs
      exact .inl ⟨rfl, hdigits, hfollows⟩
    | cons _ before =>
      obtain ⟨rfl, rfl⟩ := List.cons.inj hcs
      exact .inr ⟨before, behind, rfl, hdigits, hfollows⟩
  · rintro (⟨rfl, hdigits, hfollows⟩ | ⟨before, behind, rfl, hdigits, hfollows⟩)
    · exact ⟨[], cs, rfl, hdigits, hfollows⟩
    · exact ⟨c :: before, behind, rfl, hdigits, hfollows⟩

/-- A digit adds to the run before the slash. -/
theorem slashAhead_cons_of_digit (hc : Unicode.isDecimalDigit c = true) :
    SlashAhead k Follows (c :: cs) ↔ SlashAhead (k + 1) Follows cs := by
  rw [slashAhead_cons, if_pos hc]
  exact or_iff_right fun h => ne_slash_of_isDecimalDigit hc h.1

/-- Digits add to the run before the slash, all at once. -/
theorem slashAhead_append (hcs : areDigits cs = true) :
    SlashAhead k Follows (cs ++ rest) ↔ SlashAhead (k + cs.length) Follows rest := by
  induction cs generalizing k with
  | nil => exact Iff.rfl
  | cons c cs ih =>
    rw [areDigits_cons, Bool.and_eq_true] at hcs
    rw [List.cons_append, slashAhead_cons_of_digit hcs.1, ih hcs.2, List.length_cons, Nat.add_right_comm,
      Nat.add_assoc]

/-- At a slash the run before it is judged, and the next one starts from nothing. -/
theorem slashAhead_slash :
    SlashAhead k Follows ('/' :: cs) ↔ (4 ≤ k ∧ Follows cs) ∨ SlashAhead 0 Follows cs := by
  rw [slashAhead_cons, if_neg (by decide)]
  simp

/-- A run ends at a slash or goes on by a digit. -/
theorem runsOn_cons : RunsOn least most (c :: cs) ↔ (c = '/' ∧ least = 0 ∧ StartsInMonth cs) ∨
    (Unicode.isDecimalDigit c = true ∧ 0 < most ∧ RunsOn (least - 1) (most - 1) cs) := by
  constructor
  · rintro ⟨digits, behind, hcs, hdigits, hleast, hmost, hbehind⟩
    cases digits with
    | nil =>
      obtain ⟨rfl, rfl⟩ := List.cons.inj hcs
      exact .inl ⟨rfl, Nat.le_zero.1 hleast, hbehind⟩
    | cons _ digits =>
      obtain ⟨rfl, rfl⟩ := List.cons.inj hcs
      rw [areDigits_cons, Bool.and_eq_true] at hdigits
      rw [List.length_cons] at hleast hmost
      exact .inr ⟨hdigits.1, by omega, digits, behind, rfl, hdigits.2, by omega, by omega, hbehind⟩
  · rintro (⟨rfl, rfl, hbehind⟩ | ⟨hc, hpos, digits, behind, rfl, hdigits, hleast, hmost, hbehind⟩)
    · exact ⟨[], cs, rfl, rfl, Nat.le_refl 0, Nat.zero_le most, hbehind⟩
    · refine ⟨c :: digits, behind, rfl, ?_, ?_, ?_, hbehind⟩
      · rw [areDigits_cons, hc, hdigits, Bool.and_self]
      · rw [List.length_cons]
        omega
      · rw [List.length_cons]
        omega

theorem runsOn_cons_of_digit (hc : Unicode.isDecimalDigit c = true) :
    RunsOn least most (c :: cs) ↔ 0 < most ∧ RunsOn (least - 1) (most - 1) cs := by
  rw [runsOn_cons]
  simp [hc, ne_slash_of_isDecimalDigit hc]

/-- Digits use up what a run may still have. -/
theorem runsOn_append (hcs : areDigits cs = true) : RunsOn least most (cs ++ rest) ↔
    cs.length ≤ most ∧ RunsOn (least - cs.length) (most - cs.length) rest := by
  induction cs generalizing least most with
  | nil => simp
  | cons c cs ih =>
    rw [areDigits_cons, Bool.and_eq_true] at hcs
    have hmost : 0 < most ∧ cs.length ≤ most - 1 ↔ cs.length + 1 ≤ most := by omega
    rw [List.cons_append, runsOn_cons_of_digit hcs.1, ih hcs.2, ← and_assoc, hmost, List.length_cons,
      Nat.sub_sub, Nat.sub_sub, Nat.add_comm 1]

/-- A run within narrow bounds is one within wider bounds. -/
theorem RunsOn.mono {more fewer : Nat} (h : RunsOn least most cs) (hfewer : fewer ≤ least)
    (hmore : most ≤ more) : RunsOn fewer more cs := by
  obtain ⟨digits, behind, hcs, hdigits, hleast, hmost, hbehind⟩ := h
  exact ⟨digits, behind, hcs, hdigits, Nat.le_trans hfewer hleast, Nat.le_trans hmost hmore, hbehind⟩

/-- The longest run that is allowed is the one that uses all its digits. -/
theorem RunsOn.lt_or_eq (h : RunsOn least (most + 1) cs) :
    RunsOn least most cs ∨ RunsOn (most + 1) (most + 1) cs := by
  obtain ⟨digits, behind, hcs, hdigits, hleast, hmost, hbehind⟩ := h
  rcases Nat.lt_or_eq_of_le hmost with hlt | heq
  · exact .inl ⟨digits, behind, hcs, hdigits, hleast, Nat.le_of_lt_succ hlt, hbehind⟩
  · exact .inr ⟨digits, behind, hcs, hdigits, Nat.le_of_eq heq.symm, Nat.le_of_eq heq, hbehind⟩

/-- No run has fewer digits than it has to have. -/
theorem not_runsOn_of_lt (hlt : most < least) : ¬RunsOn least most cs := by
  rintro ⟨digits, behind, _, _, hleast, hmost, _⟩
  omega

/-- Two digits are a month, whatever follows. -/
theorem startsInMonth_append (hcs : areDigits cs = true) (htwo : 2 ≤ cs.length) :
    StartsInMonth (cs ++ rest) := by
  rw [← List.take_append_drop 2 cs, areDigits_append, Bool.and_eq_true] at hcs
  refine ⟨cs.take 2, cs.drop 2 ++ rest, ⟨List.length_take_of_le htwo, hcs.1⟩, ?_⟩
  rw [← List.append_assoc, List.take_append_drop]

/-- Between the digits and the slash there is room for two digits at least. -/
theorem RunsOn.startsInMonth (h : RunsOn 2 most cs) : StartsInMonth cs := by
  obtain ⟨digits, behind, rfl, hdigits, hleast, _, _⟩ := h
  exact startsInMonth_append hdigits hleast

/-- A slash with enough digits of its own before it needs none from further back. -/
theorem SlashAhead.of_zero (h : SlashAhead 0 Follows cs) : SlashAhead k Follows cs := by
  obtain ⟨before, behind, hcs, hdigits, hfollows⟩ := h
  refine ⟨before, behind, hcs, ?_, hfollows⟩
  rw [digitsBehind_eq]
  rw [digitsBehind_eq] at hdigits
  split at hdigits
  · rename_i hall
    rw [if_pos hall]
    omega
  · rename_i hall
    rwa [if_neg hall]

/-- A slash that does not have four digits of the text before it has only digits before it. -/
theorem SlashAhead.zero_or_runsOn (h : SlashAhead k Follows cs)
    (hmonth : ∀ cs, Follows cs → StartsInMonth cs) : SlashAhead 0 Follows cs ∨ RunsOn (4 - k) 3 cs := by
  obtain ⟨before, behind, hcs, hdigits, hfollows⟩ := h
  by_cases hzero : 4 ≤ digitsBehind 0 before
  · exact .inl ⟨before, behind, hcs, hzero, hfollows⟩
  · rw [digitsBehind_eq] at hdigits
    split at hdigits
    · rename_i hall
      rw [digitsBehind_eq, if_pos hall] at hzero
      exact .inr ⟨before, behind, hcs, hall, by omega, by omega, hmonth behind hfollows⟩
    · exact absurd hdigits hzero

end Scanning

section Joining

variable {k : Nat} {a : Char} {cs rest year month : List Char}

/-- A year, a slash and a month lose the slash. -/
theorem joinMonths_month (hyear : Digits 4 year) (hmonth : Digits 2 month) :
    joinMonths (year ++ '/' :: (month ++ rest)) = year ++ (month ++ joinMonths rest) := by
  obtain ⟨hlength, hall⟩ := hyear
  obtain ⟨hlength', hall'⟩ := hmonth
  match year, hlength, month, hlength' with
  | [a, b, c, d], _, [e, f], _ =>
    have hdigits : areDigits ([a, b, c, d] ++ [e, f]) = true := by
      rw [areDigits_append, hall, hall', Bool.and_self]
    exact if_pos ⟨rfl, hdigits⟩

/-- Where no year, slash and month begin, the character stays. -/
theorem joinMonths_cons (h : ¬RunsOn 4 4 (a :: rest)) : joinMonths (a :: rest) = a :: joinMonths rest := by
  match rest with
  | [] | [_] | [_, _] | [_, _, _] | [_, _, _, _] | [_, _, _, _, _] => rfl
  | b :: c :: d :: slash :: e :: f :: rest =>
    rw [joinMonths, if_neg]
    rintro ⟨rfl, hdigits⟩
    change areDigits ([a, b, c, d] ++ [e, f]) = true at hdigits
    rw [areDigits_append, Bool.and_eq_true] at hdigits
    exact h ⟨[a, b, c, d], e :: f :: rest, rfl, hdigits.1, Nat.le_refl 4, Nat.le_refl 4,
      startsInMonth_append hdigits.2 (Nat.le_refl 2)⟩

/-- A text is read by months and by characters with which no month begins. -/
theorem months_induction {motive : List Char → Prop} (nil : motive [])
    (month : ∀ year month rest, Digits 4 year → Digits 2 month → motive rest →
      motive (year ++ '/' :: (month ++ rest)))
    (cons : ∀ a rest, ¬RunsOn 4 4 (a :: rest) → motive rest → motive (a :: rest)) (cs : List Char) :
    motive cs := by
  induction hlength : cs.length using Nat.strongRecOn generalizing cs with
  | _ length ih =>
    subst hlength
    cases cs with
    | nil => exact nil
    | cons a rest =>
      by_cases hmonth : RunsOn 4 4 (a :: rest)
      · obtain ⟨year, behind, hcs, hall, hleast, hmost, next, last, hnext, rfl⟩ := hmonth
        rw [hcs] at ih ⊢
        refine month year next last ⟨Nat.le_antisymm hmost hleast, hall⟩ hnext (ih _ ?_ last rfl)
        simp only [List.length_append, List.length_cons]
        omega
      · exact cons a rest hmonth (ih _ (Nat.lt_succ_self _) rest rfl)

/-- Digits in front decide what comes first. -/
theorem Digits.head?_append {count : Nat} (h : Digits (count + 1) cs) : (cs ++ rest).head? = cs.head? := by
  cases cs with
  | nil => cases h.length
  | cons c cs => rfl

/-- Joining months leaves the first character as it is, since it is never the slash that goes. -/
theorem head?_joinMonths (cs : List Char) : (joinMonths cs).head? = cs.head? := by
  induction cs using months_induction with
  | nil => rfl
  | month year month rest hyear hmonth _ =>
    rw [joinMonths_month hyear hmonth, hyear.head?_append, hyear.head?_append]
  | cons a rest hnone _ =>
    rw [joinMonths_cons hnone]
    rfl

theorem startsInMonth_cons {e : Char} : StartsInMonth (e :: cs) ↔
    Unicode.isDecimalDigit e = true ∧ ∃ f, cs.head? = some f ∧ Unicode.isDecimalDigit f = true := by
  constructor
  · rintro ⟨month, rest, ⟨hlength, hall⟩, hcs⟩
    match month, hlength with
    | [e, f], _ =>
      obtain ⟨rfl, rfl⟩ := List.cons.inj hcs
      simp only [areDigits_cons, areDigits_nil, Bool.and_true, Bool.and_eq_true] at hall
      exact ⟨hall.1, f, rfl, hall.2⟩
  · rintro ⟨he, f, hf, hdigit⟩
    obtain ⟨rest, rfl⟩ := List.head?_eq_some_iff.1 hf
    exact ⟨[e, f], rest, ⟨rfl, by simp [he, hdigit]⟩, rfl⟩

/-- A slash that goes has four digits before it, so that two digits in front stay there. -/
theorem startsInMonth_joinMonths : StartsInMonth (joinMonths cs) ↔ StartsInMonth cs := by
  induction cs using months_induction with
  | nil => exact Iff.rfl
  | month year month rest hyear hmonth _ =>
    have htwo : 2 ≤ year.length := by
      have hlength := hyear.length
      omega
    rw [joinMonths_month hyear hmonth]
    exact iff_of_true (startsInMonth_append hyear.all htwo) (startsInMonth_append hyear.all htwo)
  | cons a rest hnone _ =>
    rw [joinMonths_cons hnone, startsInMonth_cons, startsInMonth_cons, head?_joinMonths]

/-- A character with which no month begins makes no difference to the slashes behind it. -/
theorem slashAhead_cons_of_not_runsOn {Follows : List Char → Prop} (h : ¬RunsOn 4 4 (a :: rest))
    (hmonth : ∀ cs, Follows cs → StartsInMonth cs) :
    SlashAhead 0 Follows (a :: rest) ↔ SlashAhead 0 Follows rest := by
  cases ha : Unicode.isDecimalDigit a with
  | true =>
    rw [runsOn_cons_of_digit ha] at h
    rw [slashAhead_cons_of_digit ha]
    refine ⟨fun hlater => ?_, SlashAhead.of_zero⟩
    exact (hlater.zero_or_runsOn hmonth).resolve_right fun hthree => h ⟨by omega, hthree⟩
  | false =>
    rw [slashAhead_cons, ha, if_neg Bool.false_ne_true]
    exact or_iff_right fun hslash => by omega

/-- In a text whose first month is joined, a slash of the rest has the digits of that month before it. -/
theorem chainAhead_month (hyear : Digits 4 year) (hmonth : Digits 2 month) :
    SlashAhead 0 (RunsOn 2 5) (year ++ '/' :: (month ++ rest)) ↔
      SlashAhead 0 (RunsOn 2 5) rest ∨ RunsOn 0 3 rest := by
  rw [slashAhead_append hyear.all, slashAhead_slash, slashAhead_append hmonth.all, runsOn_append hmonth.all,
    hyear.length, hmonth.length]
  constructor
  · rintro (⟨_, _, hruns⟩ | hlater)
    · exact .inr hruns
    · refine (hlater.zero_or_runsOn fun _ => RunsOn.startsInMonth).imp_right fun hruns => ?_
      exact hruns.mono (Nat.zero_le _) (Nat.le_refl 3)
  · rintro (hlater | hruns)
    · exact .inr hlater.of_zero
    · exact .inl ⟨by omega, by omega, hruns⟩

/-- The slashes that stay behind four digits, of which the last `k` may stand before the text: those
that a month runs on to, and one with no month before it. -/
theorem slashAhead_joinMonths : SlashAhead k StartsInMonth (joinMonths cs) ↔
    SlashAhead 0 (RunsOn 2 5) cs ∨ RunsOn (4 - k) 3 cs := by
  induction cs using months_induction generalizing k with
  | nil =>
    refine iff_of_false ?_ ?_
    · rintro ⟨before, behind, hcs, _⟩
      exact absurd hcs (by simp [joinMonths])
    · rintro (⟨before, behind, hcs, _⟩ | ⟨digits, behind, hcs, _⟩)
      · exact absurd hcs (by simp)
      · exact absurd hcs (by simp)
  | month year month rest hyear hmonth ih =>
    have hfront : ¬RunsOn (4 - k) 3 (year ++ '/' :: (month ++ rest)) := by
      rw [runsOn_append hyear.all, hyear.length]
      omega
    have hnone : 4 - (k + 4 + 2) = 0 := by omega
    rw [joinMonths_month hyear hmonth, chainAhead_month hyear hmonth, or_iff_left hfront,
      slashAhead_append hyear.all, slashAhead_append hmonth.all, hyear.length, hmonth.length, ih, hnone]
  | cons a rest hnone ih =>
    rw [joinMonths_cons hnone, slashAhead_cons_of_not_runsOn hnone fun _ => RunsOn.startsInMonth]
    cases ha : Unicode.isDecimalDigit a with
    | true =>
      rw [runsOn_cons_of_digit ha] at hnone
      rw [slashAhead_cons_of_digit ha, runsOn_cons_of_digit ha, ih]
      refine or_congr_right ⟨fun hruns => ?_, fun ⟨_, hruns⟩ => hruns.mono (by omega) (by omega)⟩
      -- with three more digits before the slash a month would begin here
      rcases hruns.lt_or_eq with hshort | hthree
      · exact ⟨by omega, hshort⟩
      · exact absurd ⟨by omega, hthree⟩ hnone
    | false =>
      have hzero : 4 - k = 0 ↔ 4 ≤ k := by omega
      have hfew : ¬RunsOn (4 - 0) 3 rest := not_runsOn_of_lt (by omega)
      rw [slashAhead_cons, runsOn_cons, ha, if_neg Bool.false_ne_true, startsInMonth_joinMonths, ih]
      simp [hzero, hfew, or_comm]

/-- A text is left as it is if no month stands in it. -/
theorem joinMonths_eq_self_iff : joinMonths cs = cs ↔ ¬SlashAhead 0 StartsInMonth cs := by
  induction cs using months_induction with
  | nil =>
    refine iff_of_true rfl ?_
    rintro ⟨before, behind, hcs, _⟩
    exact absurd hcs (by simp)
  | month year month rest hyear hmonth _ =>
    rw [joinMonths_month hyear hmonth, slashAhead_append hyear.all, slashAhead_slash]
    refine iff_of_false (fun heq => ?_) (not_not_intro (.inl ⟨?_, month, rest, hmonth, rfl⟩))
    · have hhead := congrArg List.head? (List.append_cancel_left heq)
      rw [hmonth.head?_append] at hhead
      obtain ⟨behind, rfl⟩ := List.head?_eq_some_iff.1 hhead
      have hall := hmonth.all
      rw [areDigits_cons, Bool.and_eq_true] at hall
      exact ne_slash_of_isDecimalDigit hall.1 rfl
    · have hlength := hyear.length
      omega
  | cons a rest hnone ih =>
    rw [joinMonths_cons hnone, slashAhead_cons_of_not_runsOn hnone fun _ => id, ← ih]
    exact ⟨fun heq => (List.cons.inj heq).2, fun heq => congrArg (a :: ·) heq⟩

end Joining

section Occurrences

variable {cs : List Char}

/-- A text ends in some digits if they are counted at its end. -/
theorem le_digitsBehind_iff {count : Nat} :
    count ≤ digitsBehind 0 cs ↔ ∃ before digits, Digits count digits ∧ cs = before ++ digits := by
  constructor
  · intro h
    induction cs using List.reverseRecOn generalizing count with
    | nil => exact ⟨[], [], ⟨(Nat.le_zero.1 h).symm, rfl⟩, rfl⟩
    | append_singleton cs c ih =>
      cases count with
      | zero => exact ⟨cs ++ [c], [], ⟨rfl, rfl⟩, (List.append_nil _).symm⟩
      | succ count =>
        rw [digitsBehind, List.foldl_append] at h
        simp only [List.foldl_cons, List.foldl_nil] at h
        split at h
        · rename_i hc
          obtain ⟨before, digits, ⟨hlength, hall⟩, rfl⟩ := ih (Nat.le_of_succ_le_succ h)
          refine ⟨before, digits ++ [c], ⟨?_, by simp [hall, hc]⟩, List.append_assoc _ _ _⟩
          rw [List.length_append, hlength, List.length_singleton]
        · cases h
  · rintro ⟨before, digits, ⟨rfl, hall⟩, rfl⟩
    have hbehind : digitsBehind 0 (before ++ digits) = digitsBehind (digitsBehind 0 before) digits :=
      List.foldl_append
    rw [hbehind, digitsBehind_eq, if_pos hall]
    exact Nat.le_add_left _ _

/-- A slash that counts has four digits right before it. -/
theorem slashAhead_zero_iff {Follows : List Char → Prop} : SlashAhead 0 Follows cs ↔
    ∃ before year behind, Digits 4 year ∧ Follows behind ∧ cs = before ++ (year ++ '/' :: behind) := by
  constructor
  · rintro ⟨front, behind, rfl, hdigits, hfollows⟩
    obtain ⟨before, year, hyear, rfl⟩ := le_digitsBehind_iff.1 hdigits
    exact ⟨before, year, behind, hyear, hfollows, List.append_assoc _ _ _⟩
  · rintro ⟨before, year, behind, hyear, hfollows, rfl⟩
    exact ⟨before ++ year, behind, (List.append_assoc _ _ _).symm,
      le_digitsBehind_iff.2 ⟨before, year, hyear, rfl⟩, hfollows⟩

/-- There is a month exactly if some slash stands between four digits and two. -/
theorem exists_isMonth_iff :
    (∃ month, IsMonth month ∧ month <:+: cs) ↔ SlashAhead 0 StartsInMonth cs := by
  rw [slashAhead_zero_iff]
  constructor
  · rintro ⟨_, ⟨year, month, hyear, hmonth, rfl⟩, before, rest, rfl⟩
    exact ⟨before, year, month ++ rest, hyear, ⟨month, rest, hmonth, rfl⟩, by simp⟩
  · rintro ⟨before, year, _, hyear, ⟨month, rest, hmonth, rfl⟩, rfl⟩
    exact ⟨year ++ '/' :: month, ⟨year, month, hyear, hmonth, rfl⟩, before, rest, by simp⟩

/-- There is a chain exactly if the digits between some slash and the next are two to five. -/
theorem exists_isChain_iff :
    (∃ chain, IsChain chain ∧ chain <:+: cs) ↔ SlashAhead 0 (RunsOn 2 5) cs := by
  rw [slashAhead_zero_iff]
  constructor
  · rintro ⟨_, ⟨year, between, last, hyear, hbetween, hleast, hmost, hlast, rfl⟩, before, rest, rfl⟩
    refine ⟨before, year, between ++ '/' :: (last ++ rest), hyear, ?_, by simp⟩
    exact ⟨between, last ++ rest, rfl, hbetween, hleast, hmost, last, rest, hlast, rfl⟩
  · rintro ⟨before, year, _, hyear, ⟨between, _, rfl, hbetween, hleast, hmost, last, rest, hlast, rfl⟩, rfl⟩
    refine ⟨year ++ '/' :: (between ++ '/' :: last), ?_, before, rest, by simp⟩
    exact ⟨year, between, last, hyear, hbetween, hleast, hmost, hlast, rfl⟩

end Occurrences

/-- A month stands in a remark. -/
def HasMonth (remark : String) : Prop := ∃ month, IsMonth month ∧ month <:+: remark.toList

/-- A month that runs on to another slash stands in a remark. -/
def HasChain (remark : String) : Prop := ∃ chain, IsChain chain ∧ chain <:+: remark.toList

section Remarks

variable {remark : String}

/-- A remark still has a month to join after joining exactly if it had a chain of them. -/
theorem hasMonth_normalize_iff : HasMonth (normalize remark) ↔ HasChain remark := by
  unfold HasMonth HasChain
  rw [exists_isMonth_iff, exists_isChain_iff, normalize, String.toList_ofList, slashAhead_joinMonths]
  exact or_iff_left (not_runsOn_of_lt (by omega))

/-- Joining changes a remark exactly if it has a month. -/
theorem normalize_eq_self_iff : normalize remark = remark ↔ ¬HasMonth remark := by
  unfold HasMonth
  rw [exists_isMonth_iff, ← joinMonths_eq_self_iff, normalize]
  exact ⟨fun h => by rw [← String.toList_ofList (l := joinMonths remark.toList), h],
    fun h => by rw [h, String.ofList_toList]⟩

end Remarks

end PurchaseStatus.FinanceRemark
