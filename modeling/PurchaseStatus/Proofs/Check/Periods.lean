import PurchaseStatus.Proofs.Check.Pairs
import PurchaseStatus.Proofs.Decimal.Numeral

namespace PurchaseStatus

open Decimal (IsInt64 Numeral)
open Text (AllSpace)

variable {n : Nat} {period : String} {first last : Int}

/-- The first six bytes of a text are a number of sixty-four bits. -/
def HasStart (period : String) (first : Int) : Prop :=
  ∃ head rest, head ++ rest = period ∧ head.utf8ByteSize = 6 ∧ Numeral first head.toList ∧ IsInt64 first

/-- Behind its first seven bytes a text is a number of sixty-four bits, which may stand in white space. -/
def HasEnd (period : String) (last : Int) : Prop :=
  ∃ head before numeral after, head ++ String.ofList (before ++ numeral ++ after) = period ∧
    head.utf8ByteSize = 7 ∧ AllSpace before ∧ AllSpace after ∧ Numeral last numeral ∧ IsInt64 last

/-- The start that is read is the start that is there. -/
theorem periodStart?_iff_hasStart : periodStart? period = some first ↔ HasStart period first := by
  simp only [periodStart?_eq_some_iff, HasStart, Decimal.integer?_eq_some_iff]

/-- The end that is read is the end that is there, under any white space and sign. -/
theorem periodEnd?_iff_hasEnd : periodEnd? period = some last ↔ HasEnd period last := by
  simp only [periodEnd?_eq_some_iff, HasEnd, Decimal.integer?_trim_eq_some_iff]
  constructor
  · rintro ⟨head, rest, happend, hsize, ⟨before, numeral, after, hbefore, hafter, hnumeral, hrest⟩, hfits⟩
    refine ⟨head, before, numeral, after, ?_, hsize, hbefore, hafter, hnumeral, hfits⟩
    rw [hrest, String.ofList_toList, happend]
  · rintro ⟨head, before, numeral, after, happend, hsize, hbefore, hafter, hnumeral, hfits⟩
    exact ⟨head, _, happend, hsize,
      ⟨before, numeral, after, hbefore, hafter, hnumeral, String.toList_ofList.symm⟩, hfits⟩

/-- A period reads as two numbers if each of its ends reads as one. -/
theorem periodReads_iff : PeriodReads period first last ↔ HasStart period first ∧ HasEnd period last := by
  rw [← periodStart?_iff_hasStart, ← periodEnd?_iff_hasEnd, periodStart?_eq_some_iff, periodEnd?_eq_some_iff]
  exact ⟨fun h => ⟨h.starts, h.ends⟩, fun h => ⟨h.1, h.2⟩⟩

/-- How a period is written: six digits, a separator of one byte, and a number of sixty-four bits that
may stand in white space. -/
inductive IsPeriod : String → Int → Int → Prop where
  | intro {digits before numeral after : List Char} {separator : Char} {last : Int}
      (hlength : digits.length = 6) (hdigits : ∀ c ∈ digits, c.isDigit = true)
      (hseparator : separator.utf8Size = 1) (hbefore : AllSpace before) (hafter : AllSpace after)
      (hnumeral : Numeral last numeral) (hfits : IsInt64 last) :
      IsPeriod (String.ofList (digits ++ separator :: (before ++ numeral ++ after)))
        (Decimal.ofDigits digits) last

/-- A text of characters of one byte has as many bytes as characters. -/
theorem utf8ByteSize_ofList_of_single {cs : List Char} (h : ∀ c ∈ cs, c.utf8Size = 1) :
    (String.ofList cs).utf8ByteSize = cs.length := by
  induction cs with
  | nil => rfl
  | cons c rest ih =>
    obtain ⟨hc, hrest⟩ := List.forall_mem_cons.1 h
    rw [Text.utf8ByteSize_ofList_cons, hc, ih hrest, List.length_cons, Nat.add_comm]

theorem utf8Size_of_isDigit {c : Char} (h : c.isDigit = true) : c.utf8Size = 1 := by
  have hrange := Decimal.toNat_of_isDigit h
  rw [Char.utf8Size_eq_one_iff, UInt32.le_iff_toNat_le]
  exact Nat.le_trans hrange.2 (by decide)

/-- A written period has its first month in the first six bytes. -/
theorem IsPeriod.hasStart (h : IsPeriod period first last) : HasStart period first := by
  obtain @⟨digits, before, numeral, after, separator, last, hlength, hdigits, _, _, _, _, _⟩ := h
  have hne : digits ≠ [] := List.ne_nil_of_length_pos (by omega)
  have hsize : (String.ofList digits).utf8ByteSize = 6 :=
    (utf8ByteSize_ofList_of_single fun c hc => utf8Size_of_isDigit (hdigits c hc)).trans hlength
  have hlt := Decimal.ofDigits_lt hdigits
  have hfits : IsInt64 (Decimal.ofDigits digits) := by
    rw [hlength] at hlt
    unfold IsInt64 Decimal.int64Min Decimal.int64Max
    omega
  refine ⟨_, String.ofList (separator :: (before ++ numeral ++ after)), String.ofList_append.symm, hsize, ?_, hfits⟩
  rw [String.toList_ofList]
  exact .unsigned ⟨hne, hdigits⟩

/-- Behind the separator stands the last month, with whatever white space was written around it. -/
theorem IsPeriod.hasEnd (h : IsPeriod period first last) : HasEnd period last := by
  obtain @⟨digits, before, numeral, after, separator, last, hlength, hdigits, hseparator, hbefore, hafter,
    hnumeral, hfits⟩ := h
  refine ⟨String.ofList (digits ++ [separator]), before, numeral, after, ?_, ?_, hbefore, hafter, hnumeral, hfits⟩
  · rw [← String.ofList_append, List.append_assoc]
    rfl
  · rw [utf8ByteSize_ofList_of_single, List.length_append, hlength]
    · rfl
    · intro c hc
      rcases List.mem_append.1 hc with hdigit | hlast
      · exact utf8Size_of_isDigit (hdigits c hdigit)
      · rwa [List.mem_singleton.1 hlast]

/-- The usual form of a number will do. -/
theorem isPeriod_toString (digits before after : List Char) (separator : Char) (last : Int)
    (hlength : digits.length = 6) (hdigits : ∀ c ∈ digits, c.isDigit = true)
    (hseparator : separator.utf8Size = 1) (hbefore : AllSpace before) (hafter : AllSpace after)
    (hfits : IsInt64 last) :
    IsPeriod (String.ofList (digits ++ separator :: (before ++ (toString last).toList ++ after)))
      (Decimal.ofDigits digits) last :=
  .intro hlength hdigits hseparator hbefore hafter (Decimal.numeral_toString last) hfits

/-- Reading undoes writing. -/
theorem IsPeriod.parsed (h : IsPeriod period first last) :
    periodStart? period = some first ∧ periodEnd? period = some last :=
  ⟨periodStart?_iff_hasStart.2 h.hasStart, periodEnd?_iff_hasEnd.2 h.hasEnd⟩

/-- A written period has no other start. -/
theorem IsPeriod.hasStart_iff (h : IsPeriod period first last) {i : Int} : HasStart period i ↔ i = first := by
  rw [← periodStart?_iff_hasStart, h.parsed.1, Option.some_inj, eq_comm]

/-- A written period has no other end. -/
theorem IsPeriod.hasEnd_iff (h : IsPeriod period first last) {i : Int} : HasEnd period i ↔ i = last := by
  rw [← periodEnd?_iff_hasEnd, h.parsed.2, Option.some_inj, eq_comm]

namespace CheckInput

variable (input : CheckInput n) (row : Fin n)

/-- The text of the period in a row has a number at its start. -/
def StartsAt (period : String) (first : Int) : Prop :=
  input.batch.textAt? Schema.descriptionPeriod row = some period ∧ HasStart period first

/-- The text of the period in a row has a number at its end. -/
def EndsAt (period : String) (last : Int) : Prop :=
  input.batch.textAt? Schema.descriptionPeriod row = some period ∧ HasEnd period last

/-- The expected month and both ends of the period are numbers in a row. -/
def MonthAndPeriodAt (month : Int) (period : String) (first last : Int) : Prop :=
  input.batch.integerAt? Schema.expectedMonth row = some month ∧ input.StartsAt row period first ∧
    input.EndsAt row period last

/-- A test of the month against the period is passed only by three numbers that stand in the row. -/
theorem any_monthInPeriodAt?_iff (p : MonthInPeriod → Bool) :
    (input.monthInPeriodAt? row).any p = true ↔ ∃ month period first last,
      input.MonthAndPeriodAt row month period first last ∧ p ⟨month, first, last⟩ = true := by
  simp only [Option.any_eq_true, monthInPeriodAt?, monthInPeriod?_eq_some_iff, periodReads_iff]
  constructor
  · rintro ⟨found, ⟨hmonth, period, hperiod, hstart, hend⟩, hp⟩
    exact ⟨found.month, period, found.first, found.last, ⟨hmonth, ⟨hperiod, hstart⟩, hperiod, hend⟩, hp⟩
  · rintro ⟨month, period, first, last, ⟨hmonth, ⟨hperiod, hstart⟩, _, hend⟩, hp⟩
    exact ⟨⟨month, first, last⟩, ⟨hmonth, period, hperiod, hstart, hend⟩, hp⟩

/-- A test of one end of the period is passed by an end that is read, and by no text without one. -/
theorem any_periodAt?_iff {read : String → Option Int} {Reads : String → Int → Prop}
    (hread : ∀ period i, read period = some i ↔ Reads period i) (p : Int → Bool) :
    (input.batch.textAt? Schema.descriptionPeriod row).any (fun period => (read period).any p) = true ↔
      ∃ period i, (input.batch.textAt? Schema.descriptionPeriod row = some period ∧ Reads period i) ∧
        p i = true := by
  simp only [Option.any_eq_true, hread]
  constructor
  · rintro ⟨period, hperiod, i, hi, hp⟩
    exact ⟨period, i, ⟨hperiod, hi⟩, hp⟩
  · rintro ⟨period, i, ⟨hperiod, hi⟩, hp⟩
    exact ⟨period, hperiod, i, hi, hp⟩

section Written

variable {input : CheckInput n} {row : Fin n} (hperiod : IsPeriod period first last)
  (htext : input.batch.textAt? Schema.descriptionPeriod row = some period) {text : String} {i : Int}

include hperiod htext

/-- A row in which a written period stands starts with its first month. -/
theorem startsAt_iff : input.StartsAt row text i ↔ text = period ∧ i = first := by
  rw [StartsAt, htext, Option.some_inj, eq_comm, ← hperiod.hasStart_iff]
  exact and_congr_right fun h => by rw [h]

/-- A row in which a written period stands ends with its last month. -/
theorem endsAt_iff : input.EndsAt row text i ↔ text = period ∧ i = last := by
  rw [EndsAt, htext, Option.some_inj, eq_comm, ← hperiod.hasEnd_iff]
  exact and_congr_right fun h => by rw [h]

end Written

end CheckInput

namespace Builtin

/-- The checks that take a period apart. -/
def ofPeriods : List Builtin := [ermInRange, outOfRange, descErmLeDate, descErmGtDate, descErmNotError]

/-- None of them looks at the mask that is registered for another check. -/
theorem base?_of_mem_ofPeriods : ∀ b ∈ ofPeriods, b.base? = none := by decide

section Rows

variable {input : CheckInput n} {date : Int} (row : Fin n)

/-- The expected month lies between the two ends, all three of which are read in the row. -/
theorem holdsAt_ermInRange_iff (hfree : input.Unregistered ermInRange.name) :
    ermInRange.holdsAt input row = true ↔ ∃ month period first last,
      input.MonthAndPeriodAt row month period first last ∧ first ≤ month ∧ month ≤ last := by
  rw [holdsAt_of_unregistered hfree, any_compute?_ermInRange, input.any_monthInPeriodAt?_iff]
  simp only [Bool.and_eq_true, decide_eq_true_eq]

/-- The expected month lies before the start or behind the end, and the period is not the sentinel. -/
theorem holdsAt_outOfRange_iff (hfree : input.Unregistered outOfRange.name) :
    outOfRange.holdsAt input row = true ↔ ∃ month period first last,
      input.MonthAndPeriodAt row month period first last ∧ (month < first ∨ last < month) ∧
        period ≠ Schema.formatErrorPeriod := by
  rw [holdsAt_of_unregistered hfree, any_compute?_outOfRange, any_compute?_formatError,
    Bool.and_eq_true, input.any_monthInPeriodAt?_iff]
  simp only [Bool.or_eq_true, decide_eq_true_eq]
  constructor
  · rintro ⟨⟨month, period, first, last, hat, hout⟩, hsentinel⟩
    refine ⟨month, period, first, last, hat, hout, ?_⟩
    simpa [hat.2.1.1] using hsentinel
  · rintro ⟨month, period, first, last, hat, hout, hsentinel⟩
    refine ⟨⟨month, period, first, last, hat, hout⟩, ?_⟩
    simpa [hat.2.1.1] using hsentinel

/-- The start is a number and not that of the sentinel. The end is not looked at. -/
theorem holdsAt_descErmNotError_iff (hfree : input.Unregistered descErmNotError.name) :
    descErmNotError.holdsAt input row = true ↔ ∃ period first, input.StartsAt row period first ∧ first ≠ 100001 := by
  rw [holdsAt_of_unregistered hfree, any_compute?_descErmNotError,
    input.any_periodAt?_iff row fun _ _ => periodStart?_iff_hasStart]
  simp only [bne_iff_ne, CheckInput.StartsAt]

/-- The end is a number that is not later than the date. The start is not looked at. -/
theorem holdsAt_descErmLeDate_iff (hfree : input.Unregistered descErmLeDate.name)
    (hdate : input.date = some date) :
    descErmLeDate.holdsAt input row = true ↔ ∃ period last, input.EndsAt row period last ∧ last ≤ date := by
  rw [holdsAt_of_unregistered hfree, compute?, hdate, Option.bind_some,
    input.any_periodsWhere?, input.any_periodAt?_iff row fun _ _ => periodEnd?_iff_hasEnd]
  simp only [decide_eq_true_eq, CheckInput.EndsAt]

/-- The start is a number that is later than the date. The end is not looked at. -/
theorem holdsAt_descErmGtDate_iff (hfree : input.Unregistered descErmGtDate.name)
    (hdate : input.date = some date) :
    descErmGtDate.holdsAt input row = true ↔ ∃ period first, input.StartsAt row period first ∧ date < first := by
  rw [holdsAt_of_unregistered hfree, compute?, hdate, Option.bind_some,
    input.any_periodsWhere?, input.any_periodAt?_iff row fun _ _ => periodStart?_iff_hasStart]
  simp only [decide_eq_true_eq, CheckInput.StartsAt]

end Rows

/-- What the checks that take a period apart say of a row, each unless a mask is registered under its name.
Whatever text stands there, they can be evaluated, and are true only by numbers that were read. Two of them
need a processing date. -/
structure PeriodsJudged (input : CheckInput n) (row : Fin n) : Prop where
  evaluated : ∀ b ∈ ofPeriods, input.Unregistered b.name →
    (b.evaluate? input).isSome = b.requirements.all (·.isMet input)
  inRange : input.Unregistered ermInRange.name →
    (ermInRange.holdsAt input row = true ↔ ∃ month period first last,
      input.MonthAndPeriodAt row month period first last ∧ first ≤ month ∧ month ≤ last)
  outOfRange : input.Unregistered outOfRange.name →
    (outOfRange.holdsAt input row = true ↔ ∃ month period first last,
      input.MonthAndPeriodAt row month period first last ∧ (month < first ∨ last < month) ∧
        period ≠ Schema.formatErrorPeriod)
  endsByDate : input.Unregistered descErmLeDate.name → ∀ date, input.date = some date →
    (descErmLeDate.holdsAt input row = true ↔ ∃ period last, input.EndsAt row period last ∧ last ≤ date)
  startsLater : input.Unregistered descErmGtDate.name → ∀ date, input.date = some date →
    (descErmGtDate.holdsAt input row = true ↔ ∃ period first, input.StartsAt row period first ∧ date < first)
  notError : input.Unregistered descErmNotError.name →
    (descErmNotError.holdsAt input row = true ↔ ∃ period first, input.StartsAt row period first ∧ first ≠ 100001)

/-- What these checks say of a row in which a period stands as periods are written: they compare the two
ends of the period with the month of the row or with the processing date. -/
structure JudgesPeriod (input : CheckInput n) (row : Fin n) (first last : Int) : Prop where
  inRange : input.Unregistered ermInRange.name →
    ∀ month, input.batch.integerAt? Schema.expectedMonth row = some month →
      (ermInRange.holdsAt input row = true ↔ first ≤ month ∧ month ≤ last)
  endsByDate : input.Unregistered descErmLeDate.name → ∀ date, input.date = some date →
    (descErmLeDate.holdsAt input row = true ↔ last ≤ date)
  startsLater : input.Unregistered descErmGtDate.name → ∀ date, input.date = some date →
    (descErmGtDate.holdsAt input row = true ↔ date < first)

section Judged

variable (input : CheckInput n) (row : Fin n)

theorem periodsJudged : PeriodsJudged input row where
  evaluated b hb hfree := isSome_evaluate?_of_unregistered hfree (base?_of_mem_ofPeriods b hb)
  inRange hfree := holdsAt_ermInRange_iff row hfree
  outOfRange hfree := holdsAt_outOfRange_iff row hfree
  endsByDate hfree _ hdate := holdsAt_descErmLeDate_iff row hfree hdate
  startsLater hfree _ hdate := holdsAt_descErmGtDate_iff row hfree hdate
  notError hfree := holdsAt_descErmNotError_iff row hfree

variable {input row}

theorem judgesPeriod (hperiod : IsPeriod period first last)
    (htext : input.batch.textAt? Schema.descriptionPeriod row = some period) :
    JudgesPeriod input row first last where
  inRange hfree month hmonth := by
    rw [holdsAt_ermInRange_iff row hfree]
    constructor
    · rintro ⟨found, _, _, _, ⟨hfound, hstart, hend⟩, hle⟩
      obtain ⟨rfl, rfl⟩ := (CheckInput.startsAt_iff hperiod htext).1 hstart
      obtain ⟨_, rfl⟩ := (CheckInput.endsAt_iff hperiod htext).1 hend
      rwa [← Option.some_inj.1 (hmonth.symm.trans hfound)] at hle
    · exact fun hle => ⟨month, period, first, last,
        ⟨hmonth, ⟨htext, hperiod.hasStart⟩, htext, hperiod.hasEnd⟩, hle⟩
  endsByDate hfree _ hdate := by
    rw [holdsAt_descErmLeDate_iff row hfree hdate]
    simp only [CheckInput.endsAt_iff hperiod htext]
    exact ⟨fun ⟨_, _, ⟨_, hi⟩, hle⟩ => hi ▸ hle, fun hle => ⟨period, last, ⟨rfl, rfl⟩, hle⟩⟩
  startsLater hfree _ hdate := by
    rw [holdsAt_descErmGtDate_iff row hfree hdate]
    simp only [CheckInput.startsAt_iff hperiod htext]
    exact ⟨fun ⟨_, _, ⟨_, hi⟩, hlt⟩ => hi ▸ hlt, fun hlt => ⟨period, first, ⟨rfl, rfl⟩, hlt⟩⟩

end Judged

/-- The checks undo how periods are written, and on any other text are true only by what they read. What is
said of one check asks for nothing that only another one needs. -/
theorem periods_read_back (input : CheckInput n) (row : Fin n) :
    PeriodsJudged input row ∧
    ∀ period first last, IsPeriod period first last →
      (periodStart? period = some first ∧ periodEnd? period = some last) ∧
      (input.batch.textAt? Schema.descriptionPeriod row = some period →
        JudgesPeriod input row first last) :=
  ⟨periodsJudged input row, fun _ _ _ hperiod => ⟨hperiod.parsed, fun htext => judgesPeriod hperiod htext⟩⟩

/-- Four deliveries, and the same without a processing date and with a mask for another check: the month of
the first still lies in its period. -/
theorem periods_read_back_deliveries :
    let undated : CheckInput 4 := { deliveries with
      date := none, masks := ⟨[(descErmLeDate.name, [some true, some true, some true, some true])]⟩ }
    (∀ b ∈ ofPeriods, deliveries.Unregistered b.name) ∧ deliveries.date = some 202403 ∧
    (∀ row, PeriodsJudged deliveries row) ∧
    IsPeriod "202401, +202403 " 202401 202403 ∧ JudgesPeriod deliveries 0 202401 202403 ∧
    IsPeriod "202401,202403" 202401 202403 ∧ JudgesPeriod deliveries 2 202401 202403 ∧
    ermInRange.holdsAt deliveries 0 = true ∧
    undated.Unregistered ermInRange.name ∧ ermInRange.holdsAt undated 0 = true ∧
    (List.finRange 4).map (descErmLeDate.holdsAt deliveries) = [true, true, true, false] := by
  intro undated
  have hnone : ∀ b ∈ ofPeriods, deliveries.registered? b.name = none := by decide
  have hfree : ∀ b ∈ ofPeriods, deliveries.Unregistered b.name := fun b hb =>
    (Check.registered?_eq_none_iff deliveries b.name).1 (hnone b hb)
  have hfree' : undated.Unregistered ermInRange.name :=
    (Check.registered?_eq_none_iff undated ermInRange.name).1 (by decide)
  have hspaced : IsPeriod "202401, +202403 " 202401 202403 :=
    @IsPeriod.intro "202401".toList [' '] "+202403".toList [' '] ',' _ rfl (List.all_eq_true.1 rfl) rfl
      (by decide) (by decide) (@Decimal.Numeral.plus "202403".toList ⟨by decide, List.all_eq_true.1 rfl⟩)
      (by decide)
  have hplain : IsPeriod "202401,202403" 202401 202403 :=
    isPeriod_toString "202401".toList [] [] ',' 202403 rfl (List.all_eq_true.1 rfl) rfl (by decide)
      (by decide) (by decide)
  have hall := fun row => periods_read_back deliveries row
  have hrange := ((hall 0).2 _ _ _ hspaced).2 rfl
  have hundated := ((periods_read_back undated 0).2 _ _ _ hspaced).2 rfl
  exact ⟨hfree, rfl, fun row => (hall row).1, hspaced, hrange, hplain, ((hall 2).2 _ _ _ hplain).2 rfl,
    (hrange.inRange (hfree _ (by decide)) 202402 rfl).2 (by decide), hfree',
    (hundated.inRange hfree' 202402 rfl).2 (by decide), by decide⟩

end Builtin

end PurchaseStatus
