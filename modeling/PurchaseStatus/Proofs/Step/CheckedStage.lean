import PurchaseStatus.Proofs.Engine.Alignment
import PurchaseStatus.Step.AccrualStage

namespace PurchaseStatus

variable {n : Nat}

/-- How work is left before its end: with a failure, or where a column is read or put that has another
length than is needed. -/
inductive Exit where
  | failed (failure : Failure)
  | misaligned

namespace Exit

variable {α : Type}

/-- A failure as the cause of another. -/
def within (message : String) : Exit → Exit
  | failed failure => failed (failure.within message)
  | misaligned => misaligned

/-- Goes on with what is there, or fails. -/
def found (failure : Failure) : Option α → Except Exit α
  | some a => .ok a
  | none => .error (failed failure)

/-- Goes on if the lengths fit. -/
def aligned : Option α → Except Exit α
  | some a => .ok a
  | none => .error misaligned

/-- The outcome of work that knows the length of its columns. -/
def ofTyped : Except Failure α → Except Exit α
  | .ok a => .ok a
  | .error failure => .error (failed failure)

@[simp] theorem pure_eq (a : α) : (pure a : Except Exit α) = .ok a := rfl

@[simp] theorem aligned_some (a : α) : aligned (some a) = .ok a := rfl

@[simp] theorem ofTyped_ok (a : α) : ofTyped (.ok a) = .ok a := rfl

@[simp] theorem ofTyped_error (failure : Failure) :
    ofTyped (.error failure : Except Failure α) = .error (failed failure) := rfl

end Exit

open Exit

/-- The data that an execution leaves, or how it was left. -/
def Execution.outcome (execution : Execution) : Except Exit Dataset :=
  match execution.ending with
  | .returned _ => .ok execution.context.data
  | .failed failure => .error (.failed failure)
  | .panicked _ => .error .misaligned

/-- The first values, with the rows of the mask taken from the second; fails where a row of the first
has no slot in the others. -/
def LooseMask.blend? {α : Type} (base : List α) (rows : LooseMask) (new : List α) : Option (List α) :=
  if base.length ≤ rows.length ∧ base.length ≤ new.length then
    some (List.zipWith (fun hit (old, new) => if hit.getD false then new else old) rows (base.zip new))
  else none

namespace Dataset

/-- Puts a column of floats of any length. -/
def putNumbers? (data : Dataset) (name : String) (values : List (Option Float)) : Option Dataset :=
  data.batch.put? name (.float64 (.ofList values))

/-- Adds a column of nulls if there is none of the name. -/
def ensureText? (data : Dataset) (name : String) : Option Dataset :=
  if data.batch.hasColumn name then some data else data.putText? name (List.replicate data.rows none)

end Dataset

namespace Accrual

/-- The flags of a mask that may have any length. -/
def flags? (rows : Nat) (accrued : LooseMask) : Option (List (Option String)) :=
  (readRows? rows accrued).map fun slots =>
    slots.map fun slot => some (if slot.getD false then "Y" else "N")

/-- Reads a table of reference data from two columns of any lengths. -/
def lookup? {m : Nat} (reference : Batch m) (key value : String) : Option (Named String) :=
  match reference.text? key, reference.text? value with
  | some keys, some values => do
    let values ← readRows? keys.toList.length values.toList
    return .ofList ((List.zipWith (fun key value => return (← key, ← value)) keys.toList values).filterMap id)
  | _, _ => some ∅

/-- Writes texts into the accrued rows; fails where mask or texts are too short. -/
def setText? (accrued : LooseMask) (data : Dataset) (column : String) (values : List (Option String)) :
    Option Dataset := do
  let blended ← LooseMask.blend? (data.batch.textOrNulls column).toList accrued values
  data.putText? column blended

def setTextFields? (accrued : LooseMask) (data : Dataset) (departmentAccounts : List String)
    (accountNames : Named String) : Option Dataset := do
  let accounts := (data.batch.textOrNulls Schema.glAccount).toList
  let departments := (data.batch.textOrNulls Schema.department).toList
  let data ← setText? accrued data Schema.accountCode accounts
  let data ← setText? accrued data Schema.accountName (accounts.map (·.bind accountNames.get?))
  let data ← setText? accrued data Schema.bookedProductCode
    (data.batch.textOrNulls Schema.productCode).toList
  let data ← setText? accrued data Schema.region (List.replicate data.rows (some region))
  let data ← setText? accrued data Schema.bookedDepartment
    (List.zipWith (departmentOf departmentAccounts) accounts departments)
  setText? accrued data Schema.bookedCurrency (data.batch.textOrNulls Schema.currency).toList

/-- Reads a column of numbers, row by row. -/
def number? (data : Dataset) (column : String) : Except Exit (List (Option Float)) :=
  Exit.found (notNumeric column) ((data.batch.numbers? column).map Series.toList)

/-- Reads what the amounts are computed from and multiplies them in pairs. -/
def amounts? (data : Dataset) : RecordKind → Except Exit (List (Option Float))
  | .order => do
    let price ← number? data Schema.unitPrice
    let entry ← number? data Schema.entryQuantity
    let billed ← number? data Schema.billedQuantity
    let price ← aligned (readRows? data.rows price)
    let entry ← aligned (readRows? data.rows entry)
    let billed ← aligned (readRows? data.rows billed)
    return List.zipWith (fun (price, entry) billed => unbilledPrice price entry billed) (price.zip entry) billed
  | .request => number? data Schema.entryAmount

/-- Whatever goes wrong here is the cause of one failure. -/
def setFields? (config : ConfigTree) (entity : String) (kind : RecordKind) (accounts : Dataset)
    (accrued : LooseMask) (data : Dataset) : Except Exit Dataset :=
  Except.mapError (Exit.within "Failed to derive accounting fields") do
    let names ← aligned (lookup? accounts.batch Schema.referenceAccount Schema.referenceDescription)
    let data ← aligned (setTextFields? accrued data (departmentAccounts config entity) names)
    let amounts ← amounts? data kind
    let blended ← aligned
      (LooseMask.blend? (data.batch.numbersOrNulls Schema.accrualAmount).toList accrued amounts)
    aligned (data.putNumbers? Schema.accrualAmount blended)

/-- Writes the liability and the flag of a prepayment. -/
def setLiability? (liabilities : Dataset) (accrued : LooseMask) (data : Dataset) : Option Dataset := do
  let byAccount ← lookup? liabilities.batch Schema.referenceAccount Schema.referenceLiability
  let accounts := (data.batch.textOrNulls Schema.accountCode).toList
  let paid ← readRows? data.rows (data.batch.numbersOrNulls Schema.entryPrepayAmount).toList
  let prepaid ← LooseMask.combine? (· && ·) accrued (.ofValues paid false (· != 0))
  let booked ← LooseMask.fill? (accounts.map (·.bind byAccount.get?)) prepaid prepaidLiability
  let flags ← LooseMask.fill? (data.batch.textOrNulls Schema.prepaidFlag).toList prepaid "Y"
  let liability ← LooseMask.blend? (data.batch.textOrNulls Schema.liability).toList accrued booked
  let data ← data.putText? Schema.prepaidFlag flags
  data.putText? Schema.liability liability

/-- Compares two columns row by row. -/
def checkProductCode? (data : Dataset) : Option Dataset :=
  match data.batch.text? Schema.project with
  | some projects => do
    let projects ← readRows? data.rows projects.toList
    let codes ← readRows? data.rows (data.batch.textOrNulls Schema.bookedProductCode).toList
    data.putText? Schema.productCodeCheck (List.zipWith productCodeVerdict projects codes)
  | none => some data

end Accrual

namespace AccrualStage

variable (stage : AccrualStage)

/-- Registers what a built-in check gives, if it gives anything. -/
def register? (input : CheckInput n) (masks : Registry) (b : Builtin) : Option Registry := do
  let found ← Obstacle.outcome? ((Check.builtin b).slots input)
  return found.elim masks (Named.put masks b.name)

/-- Makes the context of the rules, with the masks of the built-in checks. -/
def ruleContext? (data : Dataset) (kind : RecordKind) (date : Int) (entity : String) :
    Option RuleContext := do
  let masks ← precomputed.foldlM
    (register?
      { batch := data.batch, statusColumn := kind.statusColumn, date := some date, entity := some entity,
        config := stage.config, masks := ∅ }) ∅
  return { date := some date, entity := some entity, masks }

/-- Applies the rules and then the fallbacks. -/
def label? (data : Dataset) (kind : RecordKind) (date : Int) (entity : String) : Option Dataset := do
  let context ← stage.ruleContext? data kind date entity
  let ruled ← EngineCall.run? stage.engine
    { request := .rules true, data, statusColumn := kind.statusColumn, context, kind, seconds := 0 }
  let final ← EngineCall.run? stage.engine
    { request := .fallbacks (fallbacks kind), data := ruled.data, statusColumn := kind.statusColumn
      context := ruled.context, kind, seconds := 0 }
  return final.data

/-- Adds the status column and the file date. -/
def prepare? (context : Context) (date : Int) : Option Dataset := do
  let dated ← context.data.batch.put? Schema.fileDate (.int64 (.constant context.data.rows (some date)))
  dated.ensureText? context.statusColumn

/-- Derives the fields of the accrual from the reference data. -/
def derive? (context : Context) (data : Dataset) : Except Exit Dataset := do
  let accrued := LooseMask.ofValues (data.batch.textOrNulls context.kind.statusColumn).toList false
    (Accrual.isAccrued context.kind)
  let flags ← aligned (Accrual.flags? data.rows accrued)
  let data ← aligned (data.putText? Schema.accrualFlag flags)
  let accounts ← Exit.found (missingDataset accountsName) (context.auxiliary? accountsName)
  let data ← Accrual.setFields? stage.config context.entity context.kind accounts accrued data
  match context.kind with
  | .request => return data
  | .order =>
    let liabilities ← Exit.found (missingDataset liabilitiesName) (context.auxiliary? liabilitiesName)
    let data ← aligned (Accrual.setLiability? liabilities accrued data)
    aligned (Accrual.checkProductCode? data)

/-- The work of the stage in which every operation on rows, masks and columns fails where their lengths
do not fit. -/
def execute? (context : Context) : Except Exit Dataset := do
  let date ← Exit.found noDate (context.intVariable? dateVariable)
  let prepared ← aligned (prepare? context date)
  let labelled ← aligned (stage.label? prepared context.kind date context.entity)
  stage.derive? context labelled

end AccrualStage

section Operations

/-- Rows of one batch can be blended by a mask of it. -/
theorem LooseMask.blend?_loose {α : Type} (base new : Series α n) (rows : Mask n) :
    LooseMask.blend? base.toList rows.loose new.toList = some (base.blend rows new).toList := by
  have hlength : base.toList.length ≤ rows.loose.length ∧ base.toList.length ≤ new.toList.length := by
    simp
  rw [LooseMask.blend?, if_pos hlength, Option.some_inj]
  simp [Mask.loose_eq, Series.blend, List.zip, List.zipWith_map_left]

theorem Dataset.putNumbers?_toList (batch : Batch n) (name : String) (values : Numbers n) :
    Dataset.putNumbers? ⟨n, batch⟩ name values.toList = some ⟨n, batch.put name (.float64 values)⟩ := by
  obtain ⟨values, hlength⟩ := values
  subst hlength
  rw [Dataset.putNumbers?, Batch.put?, dif_pos rfl]
  rfl

/-- A column of nulls has the length of the batch. -/
theorem Dataset.ensureText?_eq (batch : Batch n) (name : String) :
    Dataset.ensureText? ⟨n, batch⟩ name = some ⟨n, batch.ensureText name⟩ := by
  have hnulls : List.replicate n none = (Series.constant n none : Texts n).toList := rfl
  unfold Dataset.ensureText? Batch.ensureText
  by_cases hcolumn : batch.hasColumn name = true
  · rw [if_pos hcolumn, if_pos hcolumn]
  · rw [if_neg hcolumn, if_neg hcolumn, hnulls, Dataset.putText?_toList]

end Operations

namespace Accrual

theorem flags?_loose (accrued : Mask n) : flags? n accrued.loose = some (flags accrued).toList := by
  have hread : readRows? n accrued.loose = some accrued.loose :=
    readRows?_toList (accrued.map some)
  rw [flags?, hread, Mask.loose_eq]
  simp [flags, Function.comp_def]

/-- The two columns of a table of reference data are of one length. -/
theorem lookup?_eq {m : Nat} (reference : Batch m) (key value : String) :
    lookup? reference key value = some (lookup reference key value) := by
  unfold lookup? lookup
  cases reference.text? key with
  | none => rfl
  | some keys =>
    cases reference.text? value with
    | none => rfl
    | some values => simp

section Fields

variable (accrued : Mask n) (batch : Batch n)

/-- Texts of a batch can be written into rows of it. -/
theorem setText?_loose (column : String) (values : Texts n) :
    setText? accrued.loose ⟨n, batch⟩ column values.toList =
      some ⟨n, setText accrued batch column values⟩ := by
  rw [setText?, LooseMask.blend?_loose]
  exact Dataset.putText?_toList batch column _

theorem setTextFields?_loose (departmentAccounts : List String) (accountNames : Named String) :
    setTextFields? accrued.loose ⟨n, batch⟩ departmentAccounts accountNames =
      some ⟨n, setTextFields accrued batch departmentAccounts accountNames⟩ := by
  have hregion : List.replicate n (some region) = (Series.constant n (some region)).toList := rfl
  simp only [setTextFields?, ← Series.toList_map, ← Series.toList_zipWith, hregion, setText?_loose,
    Option.bind_eq_bind, Option.bind_some]
  rfl

theorem number?_eq (column : String) :
    number? ⟨n, batch⟩ column = ofTyped ((number batch column).map Series.toList) := by
  unfold number? number
  cases batch.numbers? column <;> rfl

theorem amounts?_eq (kind : RecordKind) :
    amounts? ⟨n, batch⟩ kind = ofTyped ((amounts batch kind).map Series.toList) := by
  cases kind with
  | request => exact number?_eq batch Schema.entryAmount
  | order =>
    simp only [amounts?, amounts, number?_eq]
    cases number batch Schema.unitPrice with
    | error failure => rfl
    | ok price =>
      cases number batch Schema.entryQuantity with
      | error failure => rfl
      | ok entry =>
        cases number batch Schema.billedQuantity with
        | error failure => rfl
        | ok billed =>
          simp only [Except.map, ofTyped_ok, Except.ok_bind, readRows?_toList, aligned_some, pure_eq]
          rfl

/-- The fields are derived with lengths as without, or fail for the same column. -/
theorem setFields?_loose (config : ConfigTree) (entity : String) (kind : RecordKind) (accounts : Dataset) :
    setFields? config entity kind accounts accrued.loose ⟨n, batch⟩ =
      ofTyped ((setFields config entity kind accounts.batch accrued batch).map (⟨n, ·⟩)) := by
  simp only [setFields?, setFields, lookup?_eq, setTextFields?_loose, amounts?_eq, aligned_some, Except.ok_bind]
  cases amounts (setTextFields accrued batch (departmentAccounts config entity)
      (lookup accounts.batch Schema.referenceAccount Schema.referenceDescription)) kind with
  | error failure => rfl
  | ok values =>
    simp only [Except.map, ofTyped_ok, Except.ok_bind, LooseMask.blend?_loose, aligned_some,
      Dataset.putNumbers?_toList]
    rfl

/-- The liability is written with lengths as without. -/
theorem setLiability?_loose (liabilities : Dataset) :
    setLiability? liabilities accrued.loose ⟨n, batch⟩ =
      some ⟨n, setLiability liabilities.batch accrued batch⟩ := by
  have hprepaid : LooseMask.combine? (· && ·) accrued.loose
      (.ofValues (batch.numbersOrNulls Schema.entryPrepayAmount).toList false (· != 0)) =
      some (prepaidRows accrued batch).loose := by
    rw [← Series.loose_rowsWhere, LooseMask.combine?_loose]
    rfl
  simp only [setLiability?, lookup?_eq, readRows?_toList, Option.bind_eq_bind, Option.bind_some, hprepaid,
    ← Series.toList_map, LooseMask.fill?_loose, LooseMask.blend?_loose, Dataset.putText?_toList]
  rfl

theorem checkProductCode?_eq :
    checkProductCode? ⟨n, batch⟩ = some ⟨n, checkProductCode batch⟩ := by
  unfold checkProductCode? checkProductCode
  dsimp only
  cases batch.text? Schema.project with
  | none => rfl
  | some projects =>
    simp only [readRows?_toList, Option.bind_eq_bind, Option.bind_some, ← Series.toList_zipWith,
      Dataset.putText?_toList]

end Fields

end Accrual

namespace AccrualStage

variable (stage : AccrualStage)

/-- Each mask that is registered has the length of the batch. -/
theorem foldlM_register? (input : CheckInput n) (builtins : List Builtin) (masks : Registry) :
    builtins.foldlM (register? input) masks =
      some ((precompute input builtins).foldl (fun masks (name, mask) => masks.register name mask) masks) := by
  induction builtins generalizing masks with
  | nil => rfl
  | cons b rest ih =>
    have hslots : Obstacle.outcome? ((Check.builtin b).slots input) =
        some ((b.evaluate? input).map Mask.loose) := by
      rw [Check.slots_eq, Obstacle.outcome?_ofMask, Check.evaluate?_builtin]
    rw [List.foldlM_cons, register?, hslots, precompute]
    cases hmask : b.evaluate? input with
    | none =>
      rw [List.filterMap_cons_none (by rw [hmask]; rfl)]
      exact ih masks
    | some mask =>
      rw [List.filterMap_cons_some (by rw [hmask]; rfl)]
      exact ih (masks.register b.name mask)

/-- The context of the rules is made with lengths as without. -/
theorem ruleContext?_eq (batch : Batch n) (kind : RecordKind) (date : Int) (entity : String) :
    stage.ruleContext? ⟨n, batch⟩ kind date entity = some (stage.ruleContext batch kind date entity) := by
  rw [ruleContext?, foldlM_register?]
  rfl

/-- Rules and fallbacks are applied with lengths as without. -/
theorem label?_eq (batch : Batch n) (kind : RecordKind) (date : Int) (entity : String) :
    stage.label? ⟨n, batch⟩ kind date entity =
      some ⟨n, (stage.label batch kind date entity).batch⟩ := by
  simp only [label?, ruleContext?_eq, EngineCall.run?_eq, Option.bind_eq_bind, Option.bind_some]
  rfl

/-- A batch is prepared with lengths as without. -/
theorem prepare?_eq (context : Context) (date : Int) :
    prepare? context date = some ⟨_, prepare context date⟩ := by
  rw [prepare?, Batch.put?_self]
  exact Dataset.ensureText?_eq _ _

theorem found_missingDataset (context : Context) (name : String) :
    Exit.found (missingDataset name) (context.auxiliary? name) = ofTyped (dataset context name) := by
  unfold dataset
  cases context.auxiliary? name <;> rfl

/-- Deriving ends with lengths as it does without, in success or in the same failure. -/
theorem derive?_eq (context : Context) (batch : Batch n) :
    stage.derive? context ⟨n, batch⟩ = ofTyped ((stage.derive context batch).map (⟨n, ·⟩)) := by
  have haccrued : LooseMask.ofValues (batch.textOrNulls context.kind.statusColumn).toList false
      (Accrual.isAccrued context.kind) = (Accrual.rows batch context.kind).loose :=
    (Series.loose_rowsWhere _ _ _).symm
  simp only [derive?, derive, haccrued, Accrual.flags?_loose, aligned_some, Except.ok_bind,
    Dataset.putText?_toList, found_missingDataset]
  cases dataset context accountsName with
  | error failure => rfl
  | ok accounts =>
    simp only [ofTyped_ok, Except.ok_bind, Accrual.setFields?_loose]
    cases Accrual.setFields stage.config context.entity context.kind accounts.batch
        (Accrual.rows batch context.kind)
        (batch.putText Schema.accrualFlag (Accrual.flags (Accrual.rows batch context.kind))) with
    | error failure => rfl
    | ok fields =>
      cases context.kind with
      | request => rfl
      | order =>
        cases dataset context liabilitiesName with
        | error failure => rfl
        | ok liabilities =>
          simp only [Except.map, ofTyped_ok, Except.ok_bind, Accrual.setLiability?_loose, aligned_some,
            Accrual.checkProductCode?_eq]
          rfl

/-- The stage never meets a length that does not fit: with the lengths checked it comes to the same. -/
theorem execute?_eq (context : Context) : stage.execute? context = (stage.execute context).outcome := by
  unfold execute? execute
  cases context.intVariable? dateVariable with
  | none => rfl
  | some date =>
    simp only [Exit.found, Except.ok_bind, prepare?_eq, aligned_some, label?_eq, derive?_eq]
    cases stage.derive context
      (stage.label (prepare context date) context.kind date context.entity).batch <;> rfl

end AccrualStage

end PurchaseStatus
