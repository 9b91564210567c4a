import PurchaseStatus.Check.Evaluation

namespace PurchaseStatus

variable {n : Nat}

/-- A mask that may have any length and null slots. -/
abbrev LooseMask := List (Option Bool)

namespace LooseMask

variable {α : Type u}

/-- One slot for each value. -/
def ofValues (values : List (Option α)) (onNull : Bool) (p : α → Bool) : LooseMask :=
  values.map fun value => some (value.elim onNull p)

/-- The texts that stand for no value. -/
def unset (texts : List (Option String)) : LooseMask := texts.map fun text => some (isBlank text)

def constant (rows : Nat) (bit : Bool) : LooseMask := List.replicate rows (some bit)

protected def not (rows : LooseMask) : LooseMask := rows.map fun slot => some !slot.getD false

def negateIf (negate : Bool) (rows : LooseMask) : LooseMask := if negate then rows.not else rows

/-- Both masks slot by slot, null slots as false; fails unless they are of one length. -/
def combine? (op : Bool → Bool → Bool) (a b : LooseMask) : Option LooseMask :=
  if a.length = b.length then some (List.zipWith (fun x y => some (op (x.getD false) (y.getD false))) a b)
  else none

/-- All masks combined, and nothing when there is none; fails unless they are of one length. -/
def fold? (op : Bool → Bool → Bool) : List LooseMask → Option (Option LooseMask)
  | [] => some none
  | first :: rest => (rest.foldlM (combine? op) first).map some

/-- The texts with a value in the rows of the mask; fails where the mask has no slot for a row. -/
def fill? (base : List (Option String)) (rows : LooseMask) (value : String) : Option (List (Option String)) :=
  if base.length ≤ rows.length then
    some (List.zipWith (fun old hit => if hit.getD false then some value else old) base rows)
  else none

def count (rows : LooseMask) : Nat := rows.countP (·.getD false)

end LooseMask

/-- The mask as one of any length. -/
def Mask.loose (mask : Mask n) : LooseMask := (Slots.ofMask mask).toList

/-- The first values of a column; fails where it has fewer. -/
def readRows? {α : Type u} (rows : Nat) (column : List α) : Option (List α) :=
  if rows ≤ column.length then some (column.take rows) else none

/-- What keeps a check from giving slots: what it reads is absent, or a row is read that a column does
not have, or masks of two lengths are combined. -/
inductive Obstacle where
  | absent
  | misaligned

namespace Obstacle

variable {α : Type u}

/-- A column or a mask that has to be there. -/
def present : Option α → Except Obstacle α
  | some a => .ok a
  | none => .error absent

/-- A mask or a column that has to have as many slots as its partner. -/
def aligned : Option α → Except Obstacle α
  | some a => .ok a
  | none => .error misaligned

/-- The values of a column, without the knowledge of how many they are. -/
def column (found : Option (Series α n)) : Except Obstacle (List α) := present (found.map Series.toList)

/-- The values in the first rows of a column. -/
def read (rows : Nat) (found : Option (Series α n)) : Except Obstacle (List α) := do
  aligned (readRows? rows (← column found))

end Obstacle

/-- The mask registered under a name, null slots as false; one of another length than the batch does
not count. -/
def CheckInput.looseMask? (input : CheckInput n) (name : String) : Option LooseMask :=
  (input.masks.get? name).bind fun found =>
    if found.length = n then some (found.map fun slot => some (slot.getD false)) else none

/-- The mask registered under a name, or else what is computed. -/
def CheckInput.orCompute (input : CheckInput n) (name : String) (computed : Except Obstacle LooseMask) :
    Except Obstacle LooseMask :=
  match input.looseMask? name with
  | some found => .ok found
  | none => computed

open Obstacle

namespace Builtin.RowByRow

variable (input : CheckInput n)

def monthAgainstDate (compare : Int → Int → Bool) : Except Obstacle LooseMask := do
  let date ← present input.date
  return .ofValues (← read n (input.batch.integers? Schema.expectedMonth)) false (compare · date)

/-- The rows whose period passes a test. -/
def periodsWhere (p : String → Bool) : Except Obstacle LooseMask := do
  return .ofValues (← column input.periods?) false p

/-- The expected month of each row beside the ends of its period. -/
def monthsInPeriods : Except Obstacle (List (Option MonthInPeriod)) := do
  let months ← read n (input.batch.integers? Schema.expectedMonth)
  return List.zipWith monthInPeriod? months (← read n input.periods?)

def outOfRange : Except Obstacle LooseMask := do
  let outside := LooseMask.ofValues (← monthsInPeriods input) false fun m => m.month < m.first || m.last < m.month
  let unreadable := LooseMask.ofValues (← read n input.periods?) false (· == Schema.formatErrorPeriod)
  aligned (LooseMask.combine? (fun outside unreadable => outside && !unreadable) outside unreadable)

def qtyMatched : Except Obstacle LooseMask := do
  let entryTexts ← read n (input.batch.text? Schema.entryQuantity)
  let receivedTexts ← read n (input.batch.text? Schema.receivedQuantity)
  let entries ← read n (input.batch.numbers? Schema.entryQuantity)
  let received ← read n (input.batch.numbers? Schema.receivedQuantity)
  return (List.zipWith sameQuantity (entries.zip received) (entryTexts.zip receivedTexts)).map some

/-- The rows whose number passes a test. -/
def numbersWhere (name : String) (onNull : Bool) (p : Float → Bool) : Except Obstacle LooseMask := do
  return .ofValues (← read n (input.batch.numbers? name)) onNull p

/-- The rows whose unbilled amount passes a test. -/
def unbilledWhere (p : Float → Bool) : Except Obstacle LooseMask := do
  let amounts ← read n (input.batch.numbers? Schema.entryAmount)
  let billed ← read n (input.batch.numbers? Schema.entryBilledAmount)
  return .ofValues (List.zipWith difference? amounts billed) false p

def remarkCompleted : Except Obstacle LooseMask :=
  let procurement := (input.batch.textOrNulls Schema.procurementRemark).toList
  let finance := (input.batch.textOrNulls Schema.financeRemark).toList
  aligned (LooseMask.combine? (· || ·) (.ofValues procurement false mentionsCompletion)
    (.ofValues finance false mentionsBooking))

/-- Without the column every row is in the mask. -/
def remarksWhere (name : String) (p : String → Bool) : LooseMask :=
  match input.batch.text? name with
  | some remarks => .ofValues remarks.toList true p
  | none => .constant n true

def isFa : Except Obstacle LooseMask := do
  let accounts ← present (input.config.resolveList? (fixedAssetPath input.entity))
  return .ofValues (← column (input.batch.text? Schema.glAccount)) false accounts.contains

/-- What a built-in check computes from columns of any length. -/
def compute : Builtin → Except Obstacle LooseMask
  | .noStatus => .ok (.unset (input.batch.textOrNulls input.statusColumn).toList)
  | .ermLeDate => monthAgainstDate input fun month date => month ≤ date
  | .ermGtDate => monthAgainstDate input fun month date => date < month
  | .ermInRange => do
      return .ofValues (← monthsInPeriods input) false fun m => m.first ≤ m.month && m.month ≤ m.last
  | .outOfRange => outOfRange input
  | .descErmLeDate => do
      let date ← present input.date
      periodsWhere input fun period => (periodEnd? period).any (· ≤ date)
  | .descErmGtDate => do
      let date ← present input.date
      periodsWhere input fun period => (periodStart? period).any (date < ·)
  | .descErmNotError => periodsWhere input fun period => (periodStart? period).any (· != 100001)
  | .formatError => periodsWhere input (· == Schema.formatErrorPeriod)
  | .qtyMatched => qtyMatched input
  | .qtyNotMatched => do return (← input.orCompute Builtin.qtyMatched.name (qtyMatched input)).not
  | .notBilled => numbersWhere input Schema.entryBilledAmount false (· == 0)
  | .hasBilling => numbersWhere input Schema.billedQuantity true (· != 0)
  | .fullyBilled => unbilledWhere input (· == 0)
  | .hasUnpaid => unbilledWhere input (· != 0)
  | .remarkCompleted => remarkCompleted input
  | .prNotIncomplete =>
      .ok (remarksWhere input Schema.financeRequestRemark fun remark => !Text.contains remark "未完成")
  | .notError => .ok (remarksWhere input Schema.procurementRemark (· != "error"))
  | .isFa => isFa input
  | .notFa => do return (← input.orCompute Builtin.isFa.name (isFa input)).not

end Builtin.RowByRow

namespace Check.RowByRow

variable (input : CheckInput n)

/-- A comparison reads its column in the way of the value that it compares with. -/
def equals (field : String) : Expected → Except Obstacle LooseMask
  | .int want => do return .ofValues (← read n (input.batch.integers? field)) false (· == want)
  | .float want => do return .ofValues (← read n (input.batch.numbers? field)) false (· == want)
  | .text want => do return .ofValues (← column (input.batch.text? field)) false (· == want)

/-- What a check computes from columns of any length. -/
def compute : Check → Except Obstacle LooseMask
  | .contains field pattern negate => do
      let values ← column (input.batch.text? (← present field))
      let pattern ← present pattern
      return .negateIf negate (.ofValues values false pattern.isFoundIn)
  | .equals field expected negate => do
      let field ← present field
      return .negateIf negate (← equals input field (← present expected))
  | .inList field values negate => do
      let texts ← column (input.batch.text? (← present field))
      let values ← present values
      return .negateIf negate (.ofValues texts false values.contains)
  | .isNull field negate => do
      return .negateIf negate (.unset (← column (input.batch.text? (← present field))))
  | .builtin b => input.orCompute b.name (Builtin.RowByRow.compute input b)
  | .prebuilt _ => .error .absent
  | .always => .ok (.constant n true)

end Check.RowByRow

/-- The slots that a check gives, from masks and columns of any length. -/
def Check.slots (check : Check) (input : CheckInput n) : Except Obstacle LooseMask :=
  input.orCompute check.name (RowByRow.compute input check)

section Loose

@[simp] theorem Mask.length_loose (mask : Mask n) : mask.loose.length = n := by
  simp [Mask.loose]

theorem Mask.loose_eq (mask : Mask n) : mask.loose = mask.toList.map some := rfl

/-- The true slots of a mask without its length are counted as before. -/
theorem Mask.count_loose (mask : Mask n) : mask.loose.count = Mask.count mask := by
  rw [Mask.loose_eq, LooseMask.count, List.countP_map]
  rfl

variable {α : Type u}

@[simp] theorem Series.loose_rowsWhere (values : Series (Option α) n) (onNull : Bool) (p : α → Bool) :
    Mask.loose (values.rowsWhere onNull p) = .ofValues values.toList onNull p := by
  simp [Mask.loose_eq, Series.rowsWhere, LooseMask.ofValues, Function.comp_def]

@[simp] theorem Texts.loose_unset (texts : Texts n) : texts.unset.loose = .unset texts.toList := by
  simp [Mask.loose_eq, Texts.unset, LooseMask.unset, Function.comp_def]

@[simp] theorem Mask.loose_constant (bit : Bool) :
    Mask.loose (.constant n bit) = .constant n bit := by
  simp [Mask.loose_eq, LooseMask.constant]

@[simp] theorem Mask.loose_not (mask : Mask n) : mask.not.loose = mask.loose.not := by
  simp [Mask.loose_eq, Mask.not, LooseMask.not, Function.comp_def]

@[simp] theorem Check.loose_negateIf (negate : Bool) (mask : Mask n) :
    (Check.negateIf negate mask).loose = .negateIf negate mask.loose := by
  cases negate
  · rfl
  · exact mask.loose_not

/-- A series has the length that it is asked for. -/
@[simp] theorem readRows?_toList (values : Series α n) : readRows? n values.toList = some values.toList := by
  have hlength : n ≤ values.toList.length := by simp
  rw [readRows?, if_pos hlength, List.take_of_length_le (by simp)]

/-- Two masks of one batch have equally many slots, so they can be combined. -/
theorem LooseMask.combine?_loose (op : Bool → Bool → Bool) (a b : Mask n) :
    LooseMask.combine? op a.loose b.loose = some (Mask.loose (a.zipWith op b)) := by
  have hlength : a.loose.length = b.loose.length := by simp
  rw [LooseMask.combine?, if_pos hlength]
  simp [Mask.loose_eq, List.zipWith_map, List.map_zipWith]

end Loose


namespace Obstacle

variable {α : Type u} {β : Type u}

/-- What a check gives as a mask of the batch. -/
def ofMask (found : Option (Mask n)) : Except Obstacle LooseMask := present (found.map Mask.loose)

@[simp] theorem ok_bind (a : α) (f : α → Except Obstacle β) : Except.ok a >>= f = f a := rfl

@[simp] theorem error_bind (obstacle : Obstacle) (f : α → Except Obstacle β) :
    Except.error obstacle >>= f = .error obstacle := rfl

@[simp] theorem pure_eq (a : α) : (pure a : Except Obstacle α) = .ok a := rfl

@[simp] theorem present_some (a : α) : present (some a) = .ok a := rfl

@[simp] theorem present_none : present (none : Option α) = .error absent := rfl

@[simp] theorem ofMask_some (mask : Mask n) : ofMask (some mask) = .ok mask.loose := rfl

@[simp] theorem ofMask_none : ofMask (none : Option (Mask n)) = .error absent := rfl

@[simp] theorem column_some (values : Series α n) : column (some values) = .ok values.toList := rfl

@[simp] theorem column_none : column (none : Option (Series α n)) = .error absent := rfl

@[simp] theorem read_some (values : Series α n) : read n (some values) = .ok values.toList :=
  congrArg aligned (readRows?_toList values)

@[simp] theorem read_none : read n (none : Option (Series α n)) = .error absent := rfl

/-- A mask that is found can be negated before or after its length is forgotten. -/
theorem map_not_ofMask (found : Option (Mask n)) :
    (do return (← ofMask found).not) = ofMask (found.map Mask.not) := by
  cases found with
  | none => rfl
  | some mask => exact congrArg Except.ok mask.loose_not.symm

end Obstacle

namespace CheckInput

/-- A registered mask is checked for its length when it is looked up. -/
theorem looseMask?_eq (input : CheckInput n) (name : String) :
    input.looseMask? name = (input.registered? name).map Mask.loose := by
  unfold looseMask? registered? Registry.maskFor?
  cases input.masks.get? name with
  | none => rfl
  | some found =>
    simp only [Option.bind_some, Series.ofList?]
    by_cases hlength : found.length = n
    · rw [if_pos hlength, dif_pos hlength]
      simp [Mask.loose_eq, Slots.bits, Function.comp_def]
    · rw [if_neg hlength, dif_neg hlength]
      rfl

/-- A registered mask is preferred to the logic of the check, in either form. -/
theorem orCompute_ofMask (input : CheckInput n) (name : String) (found : Option (Mask n)) :
    input.orCompute name (ofMask found) = ofMask ((input.registered? name).or found) := by
  rw [orCompute, looseMask?_eq]
  cases input.registered? name <;> rfl

end CheckInput

namespace Builtin.RowByRow

variable (input : CheckInput n)

/-- Comparing the expected month with the date has no exit but a missing column or date. -/
theorem monthAgainstDate_eq (compare : Int → Int → Bool) :
    monthAgainstDate input compare = ofMask (input.monthAgainstDate? compare) := by
  unfold monthAgainstDate CheckInput.monthAgainstDate?
  cases input.date with
  | none => rfl
  | some date => cases input.batch.integers? Schema.expectedMonth <;> simp

theorem periodsWhere_eq (p : String → Bool) :
    periodsWhere input p = ofMask (input.periodsWhere? p) := by
  unfold periodsWhere CheckInput.periodsWhere?
  cases input.periods? <;> simp

/-- Month and period are columns of one batch, so they never differ in length. -/
theorem monthsInPeriods_eq : monthsInPeriods input = column input.monthsInPeriods? := by
  unfold monthsInPeriods CheckInput.monthsInPeriods?
  cases input.batch.integers? Schema.expectedMonth with
  | none => rfl
  | some months => cases input.periods? <;> simp

/-- The mask of the range and that of the sentinel are combined, and have the same length. -/
theorem outOfRange_eq : outOfRange input = ofMask (outOfRangeMask? input) := by
  unfold outOfRange outOfRangeMask?
  rw [monthsInPeriods_eq]
  cases input.monthsInPeriods? with
  | none => rfl
  | some months =>
    cases input.periods? with
    | none => rfl
    | some periods =>
      have hdifference : ∀ a b : Mask n,
          a.zipWith (fun outside unreadable => outside && !unreadable) b = a.andNot b :=
        fun a b => Series.ext_get (by simp)
      simp only [column_some, read_some, ok_bind, ← Series.loose_rowsWhere, LooseMask.combine?_loose,
        hdifference]
      rfl

/-- Two quantities are compared, and their columns have the same length. -/
theorem qtyMatched_eq : qtyMatched input = ofMask (qtyMatchedMask? input) := by
  unfold qtyMatched qtyMatchedMask?
  cases input.batch.text? Schema.entryQuantity with
  | none => rfl
  | some entryTexts =>
    cases input.batch.text? Schema.receivedQuantity with
    | none => simp
    | some receivedTexts =>
      cases input.batch.numbers? Schema.entryQuantity with
      | none => simp
      | some entries =>
        cases input.batch.numbers? Schema.receivedQuantity with
        | none => simp
        | some received => simp [Mask.loose_eq, List.zip]

theorem numbersWhere_eq (name : String) (onNull : Bool) (p : Float → Bool) :
    numbersWhere input name onNull p =
      ofMask ((input.batch.numbers? name).map (·.rowsWhere onNull p)) := by
  unfold numbersWhere
  cases input.batch.numbers? name <;> simp

/-- The amount and what was billed of it are columns of one length. -/
theorem unbilledWhere_eq (p : Float → Bool) :
    unbilledWhere input p = ofMask (input.unbilled?.map (·.rowsWhere false p)) := by
  unfold unbilledWhere CheckInput.unbilled?
  cases input.batch.numbers? Schema.entryAmount with
  | none => rfl
  | some amounts => cases input.batch.numbers? Schema.entryBilledAmount <;> simp

/-- The masks of two columns of remarks are combined, whether the columns are there or not. -/
theorem remarkCompleted_eq : remarkCompleted input = ofMask (some (remarkCompletedMask input)) := by
  simp only [remarkCompleted, ← Series.loose_rowsWhere, LooseMask.combine?_loose]
  rfl

theorem remarksWhere_eq (name : String) (p : String → Bool) : remarksWhere input name p =
    Mask.loose (match input.batch.text? name with
      | some remarks => remarks.rowsWhere true p
      | none => .constant n true) := by
  unfold remarksWhere
  cases input.batch.text? name <;> simp

theorem isFa_eq : isFa input = ofMask (isFaMask? input) := by
  unfold isFa isFaMask?
  cases input.config.resolveList? (fixedAssetPath input.entity) with
  | none => rfl
  | some accounts => cases input.batch.text? Schema.glAccount <;> simp

/-- No built-in check runs into masks of different lengths. -/
theorem compute_eq (b : Builtin) : compute input b = ofMask (b.compute? input) := by
  cases b with
  | noStatus => exact congrArg Except.ok (Texts.loose_unset _).symm
  | ermLeDate => exact monthAgainstDate_eq input _
  | ermGtDate => exact monthAgainstDate_eq input _
  | ermInRange =>
    rw [compute, monthsInPeriods_eq, compute?, ermInRangeMask?]
    cases input.monthsInPeriods? <;> simp
  | outOfRange => exact outOfRange_eq input
  | descErmLeDate =>
    rw [compute, compute?]
    cases input.date with
    | none => rfl
    | some date => exact periodsWhere_eq input _
  | descErmGtDate =>
    rw [compute, compute?]
    cases input.date with
    | none => rfl
    | some date => exact periodsWhere_eq input _
  | descErmNotError => exact periodsWhere_eq input _
  | formatError => exact periodsWhere_eq input _
  | qtyMatched => exact qtyMatched_eq input
  | qtyNotMatched =>
    rw [compute, qtyMatched_eq, input.orCompute_ofMask]
    exact map_not_ofMask _
  | notBilled => exact numbersWhere_eq input _ _ _
  | hasBilling => exact numbersWhere_eq input _ _ _
  | fullyBilled => exact unbilledWhere_eq input _
  | hasUnpaid => exact unbilledWhere_eq input _
  | remarkCompleted => exact remarkCompleted_eq input
  | prNotIncomplete => exact congrArg Except.ok (remarksWhere_eq input _ _)
  | notError => exact congrArg Except.ok (remarksWhere_eq input _ _)
  | isFa => exact isFa_eq input
  | notFa =>
    rw [compute, isFa_eq, input.orCompute_ofMask]
    exact map_not_ofMask _

end Builtin.RowByRow

namespace Check.RowByRow

variable (input : CheckInput n)

/-- A comparison with a value has no exit but a missing column. -/
theorem equals_eq (field : String) (expected : Expected) :
    equals input field expected = ofMask (equalsMask? input field expected) := by
  cases expected with
  | int want =>
    rw [equals, equalsMask?]
    cases input.batch.integers? field <;> simp
  | float want =>
    rw [equals, equalsMask?]
    cases input.batch.numbers? field <;> simp
  | text want =>
    rw [equals, equalsMask?]
    cases input.batch.text? field <;> simp

/-- No check runs into masks of different lengths by its own logic. -/
theorem compute_eq (check : Check) : compute input check = ofMask (check.compute? input) := by
  cases check with
  | contains field pattern negate =>
    unfold compute compute?
    cases field with
    | none => rfl
    | some field => cases htext : input.batch.text? field <;> cases pattern <;> simp [htext]
  | equals field expected negate =>
    unfold compute compute?
    cases field with
    | none => rfl
    | some field =>
      cases expected with
      | none => rfl
      | some expected =>
        simp only [present_some, ok_bind, equals_eq]
        cases hmask : equalsMask? input field expected <;> simp [hmask]
  | inList field values negate =>
    unfold compute compute?
    cases field with
    | none => rfl
    | some field => cases htext : input.batch.text? field <;> cases values <;> simp [htext]
  | isNull field negate =>
    unfold compute compute?
    cases field with
    | none => rfl
    | some field => cases htext : input.batch.text? field <;> simp [htext]
  | builtin b =>
    rw [compute, Builtin.RowByRow.compute_eq, input.orCompute_ofMask]
    rfl
  | prebuilt name => rfl
  | always => exact congrArg Except.ok (Mask.loose_constant true).symm

end Check.RowByRow

/-- Columns of a batch have one value for each row, so checks give from them what they give as masks. -/
theorem Check.slots_eq (check : Check) (input : CheckInput n) :
    check.slots input = ofMask (check.evaluate? input) := by
  rw [slots, RowByRow.compute_eq, input.orCompute_ofMask]
  rfl

/-- A check is never stopped by a mask of another length, even if one is registered. -/
theorem Check.slots_ne_misaligned (check : Check) (input : CheckInput n) :
    check.slots input ≠ .error .misaligned := by
  rw [slots_eq]
  cases check.evaluate? input <;> simp

/-- A check that gives slots gives one for each row, none of them null. -/
theorem Check.slots_aligned {check : Check} {input : CheckInput n} {slots : LooseMask}
    (hslots : check.slots input = .ok slots) : slots.length = n ∧ ∀ slot ∈ slots, slot.isSome = true := by
  rw [slots_eq] at hslots
  cases hmask : check.evaluate? input with
  | none => simp [hmask] at hslots
  | some mask =>
    rw [hmask, ofMask_some, Except.ok.injEq] at hslots
    subst hslots
    refine ⟨mask.length_loose, ?_⟩
    rw [Mask.loose_eq, List.forall_mem_map]
    exact fun _ _ => rfl

end PurchaseStatus
