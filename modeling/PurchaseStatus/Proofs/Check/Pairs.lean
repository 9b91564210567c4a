import PurchaseStatus.Proofs.Check.Reading

namespace PurchaseStatus

variable {n : Nat}

/-- What a predicate of the cells, null apart, makes of a row. -/
theorem Series.any_map_rowsWhere {α : Type u} (cells? : Option (Series (Option α) n)) (p : α → Bool)
    (row : Fin n) : (cells?.map (·.rowsWhere false p)).any (·.get row) = (cells?.bind (·.get row)).any p := by
  cases cells? with
  | none => rfl
  | some cells => cases hcell : cells.get row <;> simp [hcell]

/-- Where the condition holds one of the two is true and not both, and elsewhere neither is. -/
structure ExactlyOneWhere (condition : Prop) (a b : Bool) : Prop where
  one : condition → a = !b
  neither : ¬condition → a = false ∧ b = false

/-- Opposite predicates tell apart the values that are there. -/
theorem ExactlyOneWhere.any {α : Type u} (x : Option α) {p q : α → Bool} (hopposite : ∀ a, p a = !q a) :
    ExactlyOneWhere (x.isSome = true) (x.any p) (x.any q) := by
  cases x with
  | none => exact ⟨nofun, fun _ => ⟨rfl, rfl⟩⟩
  | some a => exact ⟨fun _ => hopposite a, fun habsent => absurd rfl habsent⟩

/-- The numbers in the first six bytes of a period and, without blanks around it, from byte 7 on. -/
structure PeriodReads (period : String) (first last : Int) : Prop where
  starts : ∃ head rest, head ++ rest = period ∧ head.utf8ByteSize = 6 ∧ Decimal.integer? head = some first
  ends : ∃ head rest, head ++ rest = period ∧ head.utf8ByteSize = 7 ∧
    Decimal.integer? (Text.trim rest) = some last

/-- The start of a period is what its first six bytes spell as an integer. -/
theorem periodStart?_eq_some_iff {period : String} {first : Int} : periodStart? period = some first ↔
    ∃ head rest, head ++ rest = period ∧ head.utf8ByteSize = 6 ∧ Decimal.integer? head = some first := by
  simp only [periodStart?, Option.bind_eq_some_iff, Text.takeBytes?_eq_some_iff]
  constructor
  · rintro ⟨head, ⟨rest, happend, hsize⟩, hfirst⟩
    exact ⟨head, rest, happend, hsize, hfirst⟩
  · rintro ⟨head, rest, happend, hsize, hfirst⟩
    exact ⟨head, ⟨rest, happend, hsize⟩, hfirst⟩

/-- The end of a period is what is left behind seven bytes, without the white space around it. -/
theorem periodEnd?_eq_some_iff {period : String} {last : Int} : periodEnd? period = some last ↔
    ∃ head rest, head ++ rest = period ∧ head.utf8ByteSize = 7 ∧
      Decimal.integer? (Text.trim rest) = some last := by
  simp only [periodEnd?, Option.bind_eq_some_iff, Text.dropBytes?_eq_some_iff]
  constructor
  · rintro ⟨rest, ⟨head, happend, hsize⟩, hlast⟩
    exact ⟨head, rest, happend, hsize, hlast⟩
  · rintro ⟨head, rest, happend, hsize, hlast⟩
    exact ⟨rest, ⟨head, happend, hsize⟩, hlast⟩

/-- All three numbers have to be there. -/
theorem monthInPeriod?_eq_some_iff {month : Option Int} {period : Option String} {found : MonthInPeriod} :
    monthInPeriod? month period = some found ↔
      month = some found.month ∧ ∃ text, period = some text ∧ PeriodReads text found.first found.last := by
  simp only [monthInPeriod?, Option.bind_eq_bind, Option.bind_eq_some_iff, periodStart?_eq_some_iff,
    periodEnd?_eq_some_iff]
  constructor
  · rintro ⟨_, hmonth, text, htext, first, hfirst, last, hlast, ⟨⟩⟩
    exact ⟨hmonth, text, htext, hfirst, hlast⟩
  · rintro ⟨hmonth, text, htext, hfirst, hlast⟩
    exact ⟨_, hmonth, text, htext, _, hfirst, _, hlast, rfl⟩

theorem isSome_difference? (amount billed : Option Float) :
    (difference? amount billed).isSome = (amount.isSome && billed.isSome) := by
  cases amount <;> cases billed <;> rfl

namespace CheckInput

variable (input : CheckInput n) (row : Fin n)

/-- The month of a row with the two ends of its period, if all three can be read. -/
def monthInPeriodAt? : Option MonthInPeriod :=
  monthInPeriod? (input.batch.integerAt? Schema.expectedMonth row)
    (input.batch.textAt? Schema.descriptionPeriod row)

/-- What is left of the amount of a row, if both amounts can be read. -/
def unbilledAt? : Option Float :=
  difference? (input.batch.numberAt? Schema.entryAmount row)
    (input.batch.numberAt? Schema.entryBilledAmount row)

/-- The expected month and both ends of the period can be read in a row. -/
def RangeReads : Prop :=
  ∃ month period first last, input.batch.integerAt? Schema.expectedMonth row = some month ∧
    input.batch.textAt? Schema.descriptionPeriod row = some period ∧ PeriodReads period first last

/-- The month and the period of a row can be compared exactly if they are numbers. -/
theorem isSome_monthInPeriodAt?_iff : (input.monthInPeriodAt? row).isSome = true ↔ input.RangeReads row := by
  rw [Option.isSome_iff_exists]
  simp only [monthInPeriodAt?, monthInPeriod?_eq_some_iff]
  constructor
  · rintro ⟨found, hmonth, period, hperiod, hreads⟩
    exact ⟨found.month, period, found.first, found.last, hmonth, hperiod, hreads⟩
  · rintro ⟨month, period, first, last, hmonth, hperiod, hreads⟩
    exact ⟨⟨month, first, last⟩, hmonth, period, hperiod, hreads⟩

/-- What the column of comparisons holds for a row is read off the row. -/
theorem bind_monthsInPeriods? : input.monthsInPeriods?.bind (·.get row) = input.monthInPeriodAt? row := by
  unfold monthsInPeriods? periods? monthInPeriodAt? Batch.integerAt? Batch.textAt?
  cases input.batch.integers? Schema.expectedMonth with
  | none => rfl
  | some months =>
    cases input.batch.text? Schema.descriptionPeriod with
    | none => cases hmonth : months.get row <;> simp [monthInPeriod?, hmonth]
    | some periods => simp

/-- The unbilled amounts as a column, and that of one row. -/
theorem bind_unbilled? : input.unbilled?.bind (·.get row) = input.unbilledAt? row := by
  unfold unbilled? unbilledAt? Batch.numberAt?
  cases input.batch.numbers? Schema.entryAmount with
  | none => rfl
  | some amounts =>
    cases input.batch.numbers? Schema.entryBilledAmount with
    | none => cases hamount : amounts.get row <;> simp [difference?, hamount]
    | some billed => simp

/-- A row passes a comparison with the date if its month is there and does. -/
theorem any_monthAgainstDate? {date : Int} (hdate : input.date = some date) (compare : Int → Int → Bool) :
    (input.monthAgainstDate? compare).any (·.get row) =
      (input.batch.integerAt? Schema.expectedMonth row).any (compare · date) := by
  have hmask : input.monthAgainstDate? compare =
      (input.batch.integers? Schema.expectedMonth).map (·.rowsWhere false (compare · date)) := by
    rw [monthAgainstDate?, hdate, Option.map_eq_bind]
    rfl
  rw [hmask, Series.any_map_rowsWhere, Batch.integerAt?]

/-- A row passes a test of the period if its text is there and does. -/
theorem any_periodsWhere? (p : String → Bool) : (input.periodsWhere? p).any (·.get row) =
    (input.batch.textAt? Schema.descriptionPeriod row).any p := by
  rw [periodsWhere?, Series.any_map_rowsWhere]
  rfl

end CheckInput

namespace Builtin

/-- Whether the check can be evaluated and is true of a row. -/
def holdsAt (b : Builtin) (input : CheckInput n) (row : Fin n) : Bool :=
  (b.evaluate? input).any (·.get row)

/-- The checks that come in pairs, and those of the period that stands for a format error. -/
def paired : List Builtin :=
  [ermLeDate, ermGtDate, ermInRange, outOfRange, formatError, descErmNotError, fullyBilled, hasUnpaid]

section Computed

variable (input : CheckInput n) (row : Fin n)

theorem any_compute?_ermInRange : (ermInRange.compute? input).any (·.get row) =
    (input.monthInPeriodAt? row).any (fun m => m.first ≤ m.month && m.month ≤ m.last) := by
  rw [compute?, ermInRangeMask?, Series.any_map_rowsWhere, CheckInput.bind_monthsInPeriods?]

theorem any_compute?_formatError : (formatError.compute? input).any (·.get row) =
    (input.batch.textAt? Schema.descriptionPeriod row).any (· == Schema.formatErrorPeriod) := by
  rw [compute?, CheckInput.any_periodsWhere?]

theorem any_compute?_descErmNotError : (descErmNotError.compute? input).any (·.get row) =
    (input.batch.textAt? Schema.descriptionPeriod row).any
      (fun period => (periodStart? period).any (· != 100001)) := by
  rw [compute?, CheckInput.any_periodsWhere?]

/-- The sentinel is excepted here and not in the check of the range itself. -/
theorem any_compute?_outOfRange : (outOfRange.compute? input).any (·.get row) =
    ((input.monthInPeriodAt? row).any (fun m => m.month < m.first || m.last < m.month) &&
      !(formatError.compute? input).any (·.get row)) := by
  rw [compute?, compute?, ← CheckInput.bind_monthsInPeriods?, ← Series.any_map_rowsWhere]
  cases hmonths : input.monthsInPeriods? with
  | none => simp [outOfRangeMask?, hmonths]
  | some months =>
    -- where the months stand in periods, the periods are there
    obtain ⟨periods, hperiods⟩ : ∃ periods, input.periods? = some periods := by
      have hread := isSome_monthsInPeriods? input
      rw [hmonths, Option.isSome_some, eq_comm, Bool.and_eq_true] at hread
      exact Option.isSome_iff_exists.1 hread.2
    simp [outOfRangeMask?, CheckInput.periodsWhere?, hmonths, hperiods]

variable {input : CheckInput n}

/-- Without a mask of its name, a built-in check says of a row what its own logic says. -/
theorem holdsAt_of_unregistered {b : Builtin} (hfree : input.Unregistered b.name) (row : Fin n) :
    b.holdsAt input row = (b.compute? input).any (·.get row) := by
  rw [holdsAt, evaluate?_of_unregistered hfree]

/-- Without a mask, a built-in check can be evaluated exactly if all is there that it reads. -/
theorem isSome_evaluate?_of_unregistered {b : Builtin} (hfree : input.Unregistered b.name)
    (hbase : b.base? = none) : (b.evaluate? input).isSome = b.requirements.all (·.isMet input) := by
  rw [evaluate?_of_unregistered hfree, isSome_compute?, hbase, Option.any_none, Bool.false_or]

end Computed

section Rows

variable {input : CheckInput n} (hfree : ∀ b ∈ paired, input.Unregistered b.name) (row : Fin n)

include hfree

theorem holdsAt_of_paired {b : Builtin} (hb : b ∈ paired) :
    b.holdsAt input row = (b.compute? input).any (·.get row) :=
  holdsAt_of_unregistered (hfree b hb) row

theorem isSome_evaluate?_of_paired {b : Builtin} (hb : b ∈ paired) :
    (b.evaluate? input).isSome = b.requirements.all (·.isMet input) := by
  have hbase : b.base? = none := by
    revert b
    decide
  exact isSome_evaluate?_of_unregistered (hfree b hb) hbase

/-- The expected month is not later than the date. -/
theorem holdsAt_ermLeDate {date : Int} (hdate : input.date = some date) :
    ermLeDate.holdsAt input row =
      (input.batch.integerAt? Schema.expectedMonth row).any (fun month => decide (month ≤ date)) := by
  rw [holdsAt_of_paired hfree row (by decide), compute?, input.any_monthAgainstDate? row hdate]

/-- The expected month is later than the date. -/
theorem holdsAt_ermGtDate {date : Int} (hdate : input.date = some date) :
    ermGtDate.holdsAt input row =
      (input.batch.integerAt? Schema.expectedMonth row).any (fun month => decide (date < month)) := by
  rw [holdsAt_of_paired hfree row (by decide), compute?, input.any_monthAgainstDate? row hdate]

/-- The expected month lies within the period. -/
theorem holdsAt_ermInRange : ermInRange.holdsAt input row =
    (input.monthInPeriodAt? row).any (fun m => m.first ≤ m.month && m.month ≤ m.last) := by
  rw [holdsAt_of_paired hfree row (by decide), any_compute?_ermInRange]

/-- The period is the sentinel for one that could not be read. -/
theorem holdsAt_formatError_iff : formatError.holdsAt input row = true ↔
    input.batch.textAt? Schema.descriptionPeriod row = some Schema.formatErrorPeriod := by
  rw [holdsAt_of_paired hfree row (by decide), any_compute?_formatError]
  simp [Option.any_eq_true]

theorem holdsAt_descErmNotError : descErmNotError.holdsAt input row =
    (input.batch.textAt? Schema.descriptionPeriod row).any
      (fun period => (periodStart? period).any (· != 100001)) := by
  rw [holdsAt_of_paired hfree row (by decide), any_compute?_descErmNotError]

/-- The expected month lies outside the period, and the period is not the sentinel. -/
theorem holdsAt_outOfRange : outOfRange.holdsAt input row =
    ((input.monthInPeriodAt? row).any (fun m => m.month < m.first || m.last < m.month) &&
      !formatError.holdsAt input row) := by
  rw [holdsAt_of_paired hfree row (by decide), holdsAt_of_paired hfree row (by decide),
    any_compute?_outOfRange]

/-- Nothing of the amount is left to be billed. -/
theorem holdsAt_fullyBilled : fullyBilled.holdsAt input row = (input.unbilledAt? row).any (· == 0) := by
  rw [holdsAt_of_paired hfree row (by decide), compute?, Series.any_map_rowsWhere, CheckInput.bind_unbilled?]

theorem holdsAt_hasUnpaid : hasUnpaid.holdsAt input row = (input.unbilledAt? row).any (· != 0) := by
  rw [holdsAt_of_paired hfree row (by decide), compute?, Series.any_map_rowsWhere, CheckInput.bind_unbilled?]

end Rows

/-- The readable rows, divided by the checks that come in pairs. Months and billed amounts are divided
without exception; a row with the sentinel for an unreadable period is left out by the two checks that
would claim it. -/
structure PairsPartition (input : CheckInput n) (row : Fin n) : Prop where
  evaluated : ∀ b ∈ paired, (b.evaluate? input).isSome = b.requirements.all (·.isMet input)
  dates : ExactlyOneWhere ((input.batch.integerAt? Schema.expectedMonth row).isSome = true)
    (ermLeDate.holdsAt input row) (ermGtDate.holdsAt input row)
  ranges_disjoint : (ermInRange.holdsAt input row && outOfRange.holdsAt input row) = false
  ranges_read : input.RangeReads row →
    input.batch.textAt? Schema.descriptionPeriod row ≠ some Schema.formatErrorPeriod →
    ermInRange.holdsAt input row = !outOfRange.holdsAt input row
  ranges_unread : ¬input.RangeReads row →
    ermInRange.holdsAt input row = false ∧ outOfRange.holdsAt input row = false
  formatError_iff : formatError.holdsAt input row = true ↔
    input.batch.textAt? Schema.descriptionPeriod row = some Schema.formatErrorPeriod
  formatError_excepted : formatError.holdsAt input row = true →
    outOfRange.holdsAt input row = false ∧ descErmNotError.holdsAt input row = false
  billing : ExactlyOneWhere ((input.batch.numberAt? Schema.entryAmount row).isSome = true ∧
      (input.batch.numberAt? Schema.entryBilledAmount row).isSome = true)
    (fullyBilled.holdsAt input row) (hasUnpaid.holdsAt input row)

/-- Each pair of opposite checks divides the rows in which all is there that they read: such a row passes
exactly one of the two, and any other row neither. A row with the sentinel for a period that could not be
read is excepted: it is never told to lie outside its period, nor to be free of the error. -/
theorem pairs_partition {input : CheckInput n} (hfree : ∀ b ∈ paired, input.Unregistered b.name)
    (hdate : input.date.isSome = true) (row : Fin n) : PairsPartition input row := by
  obtain ⟨date, hdate⟩ := Option.isSome_iff_exists.1 hdate
  have hranges : ExactlyOneWhere (input.RangeReads row) (ermInRange.holdsAt input row)
      ((input.monthInPeriodAt? row).any fun m => m.month < m.first || m.last < m.month) := by
    rw [holdsAt_ermInRange hfree, ← input.isSome_monthInPeriodAt?_iff]
    refine ExactlyOneWhere.any _ fun m => ?_
    rw [Bool.eq_iff_iff]
    simp
  have hformat := holdsAt_formatError_iff hfree row
  exact {
    evaluated := fun b hb => isSome_evaluate?_of_paired hfree hb
    dates := by
      rw [holdsAt_ermLeDate hfree row hdate, holdsAt_ermGtDate hfree row hdate]
      refine ExactlyOneWhere.any _ fun month => ?_
      rw [Bool.eq_iff_iff]
      simp
    ranges_disjoint := by
      rw [holdsAt_outOfRange hfree]
      by_cases hreads : input.RangeReads row
      · rw [hranges.one hreads, ← Bool.and_assoc, Bool.not_and_self, Bool.false_and]
      · rw [(hranges.neither hreads).1, Bool.false_and]
    ranges_read := fun hreads hsentinel => by
      have herror : formatError.holdsAt input row = false := by rwa [Bool.eq_false_iff, ne_eq, hformat]
      rw [holdsAt_outOfRange hfree, hranges.one hreads, herror, Bool.not_false, Bool.and_true]
    ranges_unread := fun hreads => by
      rw [holdsAt_outOfRange hfree, (hranges.neither hreads).2]
      exact ⟨(hranges.neither hreads).1, rfl⟩
    formatError_iff := hformat
    formatError_excepted := fun herror => by
      rw [holdsAt_outOfRange hfree, herror, holdsAt_descErmNotError hfree, hformat.1 herror]
      exact ⟨Bool.and_false _, by decide⟩
    billing := by
      rw [holdsAt_fullyBilled hfree, holdsAt_hasUnpaid hfree, ← Bool.and_eq_true, ← isSome_difference?]
      exact ExactlyOneWhere.any _ fun left => (Bool.not_not (left == 0)).symm }

/-- Four deliveries: one in its period, one with a format error, one without a month, and one whose
period has a character across byte 6. The mask is too short to count. -/
def deliveries : CheckInput 4 :=
  { batch := ⟨⟨[
      (Schema.expectedMonth, .int64 ⟨[some 202402, some 202405, none, some 202312], rfl⟩),
      (Schema.descriptionPeriod, .text ⟨[some "202401, +202403 ", some "100001,100002",
        some "202401,202403", some "20240年,202403"], rfl⟩),
      (Schema.entryAmount, .float64 ⟨[some (0 / 0), some 5, some 5, none], rfl⟩),
      (Schema.entryBilledAmount, .text ⟨[some "inf", some "5.0", some "", some "1"], rfl⟩)]⟩⟩
    statusColumn := "status", date := some 202403, entity := none, config := .empty
    masks := ⟨[("out_of_range", [some true])]⟩ }

/-- The delivery without a month and the one with an unreadable period pass neither check of a pair, and
the one with the sentinel is in no range. An amount that is not a number still is billed in full or not.
-/
theorem pairs_partition_deliveries :
    (∀ b ∈ paired, deliveries.Unregistered b.name) ∧ deliveries.date.isSome = true ∧
    (∀ row, PairsPartition deliveries row) ∧
    (List.finRange 4).map (ermLeDate.holdsAt deliveries) = [true, false, false, true] ∧
    (List.finRange 4).map (ermGtDate.holdsAt deliveries) = [false, true, false, false] ∧
    (List.finRange 4).map (ermInRange.holdsAt deliveries) = [true, false, false, false] ∧
    (List.finRange 4).map (outOfRange.holdsAt deliveries) = [false, false, false, false] ∧
    fullyBilled.holdsAt deliveries 0 = !hasUnpaid.holdsAt deliveries 0 := by
  have hnone : ∀ b ∈ paired, deliveries.registered? b.name = none := by decide
  have hfree : ∀ b ∈ paired, deliveries.Unregistered b.name := fun b hb =>
    (Check.registered?_eq_none_iff deliveries b.name).1 (hnone b hb)
  have hall : ∀ row, PairsPartition deliveries row := pairs_partition hfree rfl
  have hbilling := (hall 0).billing.one ⟨rfl, by decide⟩
  exact ⟨hfree, rfl, hall, by decide, by decide, by decide, by decide, hbilling⟩

end Builtin

end PurchaseStatus
