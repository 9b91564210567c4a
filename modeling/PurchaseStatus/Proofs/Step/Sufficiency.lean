import PurchaseStatus.Proofs.Labels.Fallbacks
import PurchaseStatus.Proofs.Step.CheckedStage
import Mathlib.Data.List.Find

namespace PurchaseStatus

variable {n : Nat}

namespace Batch

/-- Whether the first column of the name holds dates. -/
def holdsDates (b : Batch n) (column : String) : Bool :=
  match b.cells? column with
  | some (.date32 _) => true
  | _ => false

/-- Of the columns that are there, only those of dates have no numbers. -/
theorem isNone_numbers? {b : Batch n} {column : String} (hcolumn : b.hasColumn column = true) :
    (b.numbers? column).isNone = b.holdsDates column := by
  unfold hasColumn at hcolumn
  unfold numbers? holdsDates
  cases hcells : b.cells? column with
  | none => simp [hcells] at hcolumn
  | some cells => cases cells <;> rfl

/-- If no required column is missing, each is there. -/
theorem hasColumn_of_missing {b : Batch n} {required : List String}
    (hmissing : (b.missing required).isEmpty = true) {column : String} (hcolumn : column ∈ required) :
    b.hasColumn column = true := by
  rw [missing, List.isEmpty_iff, List.filter_eq_nil_iff] at hmissing
  simpa using hmissing column hcolumn

end Batch

namespace Accrual

/-- The columns that amounts are computed from, in the order in which they are read. -/
def amountColumns : RecordKind → List String
  | .order => [Schema.unitPrice, Schema.entryQuantity, Schema.billedQuantity]
  | .request => [Schema.entryAmount]

/-- The first of these columns that has no numbers. -/
def unreadable? (batch : Batch n) (kind : RecordKind) : Option String :=
  (amountColumns kind).find? fun column => (batch.numbers? column).isNone

variable {batch : Batch n} {kind : RecordKind} {column : String}

/-- No column is unreadable exactly if all can be read as numbers. -/
theorem unreadable?_eq_none_iff :
    unreadable? batch kind = none ↔ ∀ column ∈ amountColumns kind, batch.numbers? column ≠ none := by
  simp [unreadable?, List.find?_eq_none]

/-- A column that is not there as numbers fails. -/
theorem number_of_none (h : batch.numbers? column = none) :
    number batch column = .error (notNumeric column) := by
  rw [number, h]

/-- Reading a column gives the numbers that it has. -/
theorem number_eq_ok_iff {numbers : Numbers n} :
    number batch column = .ok numbers ↔ batch.numbers? column = some numbers := by
  unfold number
  cases batch.numbers? column <;> simp

/-- Whether the amounts can be read depends on their columns. -/
theorem unreadable?_congr {a b : Batch n}
    (h : ∀ column ∈ amountColumns kind, a.cells? column = b.cells? column) :
    unreadable? a kind = unreadable? b kind := by
  refine List.find?_congr fun column hcolumn => ?_
  simp only [Batch.numbers?, h column hcolumn]

/-- Amounts can be computed exactly if each of their columns has numbers. -/
theorem exists_amounts (h : unreadable? batch kind = none) : ∃ values, amounts batch kind = .ok values := by
  rw [unreadable?_eq_none_iff] at h
  cases kind with
  | order =>
    simp only [amountColumns, List.forall_mem_cons, Option.ne_none_iff_exists'] at h
    obtain ⟨⟨price, hprice⟩, ⟨entry, hentry⟩, ⟨billed, hbilled⟩, _⟩ := h
    simp only [amounts, number_eq_ok_iff.2 hprice, number_eq_ok_iff.2 hentry, number_eq_ok_iff.2 hbilled,
      Except.ok_bind]
    exact ⟨_, rfl⟩
  | request =>
    obtain ⟨numbers, hnumbers⟩ := Option.ne_none_iff_exists'.1 (h _ List.mem_cons_self)
    exact ⟨numbers, number_eq_ok_iff.2 hnumbers⟩

/-- The first column without numbers is the one that is reported. -/
theorem amounts_of_unreadable (h : unreadable? batch kind = some column) :
    amounts batch kind = .error (notNumeric column) := by
  cases kind with
  | order =>
    simp only [unreadable?, amountColumns, List.find?_cons_eq_some, List.find?_nil, Option.isNone_iff_eq_none,
      Bool.not_eq_true', Option.isNone_eq_false_iff, Option.isSome_iff_exists, reduceCtorEq, and_false,
      or_false] at h
    simp only [amounts]
    obtain ⟨hprice, rfl⟩ | ⟨⟨price, hprice⟩, ⟨hentry, rfl⟩ | ⟨⟨entry, hentry⟩, hbilled, rfl⟩⟩ := h
    · rw [number_of_none hprice, Except.error_bind]
    · rw [number_eq_ok_iff.2 hprice, Except.ok_bind, number_of_none hentry, Except.error_bind]
    · rw [number_eq_ok_iff.2 hprice, Except.ok_bind, number_eq_ok_iff.2 hentry, Except.ok_bind,
        number_of_none hbilled, Except.error_bind]
  | request =>
    obtain ⟨hamount, rfl⟩ : batch.numbers? Schema.entryAmount = none ∧ Schema.entryAmount = column := by
      simpa [unreadable?, amountColumns, List.find?_cons_eq_some] using h
    exact number_of_none hamount

/-- Nothing that the stage writes is read for an amount. -/
theorem unwritten_of_mem_amountColumns (hcolumn : column ∈ amountColumns kind) :
    column ∉ derivedColumns ∧ column ≠ kind.statusColumn ∧ column ≠ Schema.matchedNote ∧
      column ≠ Schema.fileDate := by
  cases kind <;> revert column <;> decide

/-- Every column of amounts is required. -/
theorem mem_requiredColumns (hcolumn : column ∈ amountColumns kind) :
    column ∈ AccrualStage.requiredColumns kind := by
  cases kind <;> revert column <;> decide

/-- Which column has no numbers is not changed by what is derived. -/
theorem unreadable?_of_writesOnly {after : Batch n} (h : Batch.WritesOnly derivedColumns batch after) :
    unreadable? after kind = unreadable? batch kind :=
  unreadable?_congr fun column hcolumn => h column (unwritten_of_mem_amountColumns hcolumn).1

/-- The failure to compute amounts as it is reported. -/
def underivable (column : String) : Failure :=
  ⟨"Failed to derive accounting fields", [s!"Column '{column}' is not numeric"]⟩

section Fields

variable {m : Nat} (config : ConfigTree) (entity : String) (accounts : Batch m) (accrued : Mask n)

/-- The fields are derived if the amounts can be read. -/
theorem exists_setFields (h : unreadable? batch kind = none) :
    ∃ final, setFields config entity kind accounts accrued batch = .ok final := by
  have hwritten := setTextFields_writesOnly accrued batch (departmentAccounts config entity)
    (lookup accounts Schema.referenceAccount Schema.referenceDescription)
  rw [← unreadable?_of_writesOnly (hwritten.mono (by decide))] at h
  obtain ⟨values, hvalues⟩ := exists_amounts h
  rw [setFields, hvalues]
  exact ⟨_, rfl⟩

/-- The fields fail for the first column of amounts that cannot be read. -/
theorem setFields_of_unreadable (h : unreadable? batch kind = some column) :
    setFields config entity kind accounts accrued batch = .error (underivable column) := by
  have hwritten := setTextFields_writesOnly accrued batch (departmentAccounts config entity)
    (lookup accounts Schema.referenceAccount Schema.referenceDescription)
  rw [← unreadable?_of_writesOnly (hwritten.mono (by decide))] at h
  rw [setFields, amounts_of_unreadable h]
  rfl

end Fields

end Accrual

namespace AccrualStage

section Derivation

variable (stage : AccrualStage) {context : Context} {batch : Batch n} {accounts : Dataset}

/-- Deriving fails for that column, the accounts being there. -/
theorem derive_of_unreadable {column : String} (haccounts : context.auxiliary? accountsName = some accounts)
    (hcolumn : Accrual.unreadable? batch context.kind = some column) :
    stage.derive context batch = .error (Accrual.underivable column) := by
  have hflags := Accrual.flags_writesOnly (Accrual.rows batch context.kind) batch
  rw [← Accrual.unreadable?_of_writesOnly (hflags.mono (by decide))] at hcolumn
  rw [derive, dataset_eq_ok_iff.2 haccounts, Except.ok_bind, Accrual.setFields_of_unreadable _ _ _ _ hcolumn]
  rfl

/-- Deriving succeeds if the reference data is there and the amounts can be read. -/
theorem exists_derive (haccounts : context.auxiliary? accountsName = some accounts)
    (hliabilities : context.kind = .order → (context.auxiliary? liabilitiesName).isSome = true)
    (hread : Accrual.unreadable? batch context.kind = none) :
    ∃ final, stage.derive context batch = .ok final := by
  have hflags := Accrual.flags_writesOnly (Accrual.rows batch context.kind) batch
  rw [← Accrual.unreadable?_of_writesOnly (hflags.mono (by decide))] at hread
  obtain ⟨fields, hfields⟩ := Accrual.exists_setFields stage.config context.entity accounts.batch
    (Accrual.rows batch context.kind) hread
  rw [derive, dataset_eq_ok_iff.2 haccounts, Except.ok_bind, hfields, Except.ok_bind]
  cases hkind : context.kind with
  | request => exact ⟨fields, rfl⟩
  | order =>
    obtain ⟨liabilities, hfound⟩ := Option.isSome_iff_exists.1 (hliabilities hkind)
    dsimp only
    rw [dataset_eq_ok_iff.2 hfound]
    exact ⟨_, rfl⟩

end Derivation

section Execution

variable (stage : AccrualStage) (context : Context)

/-- The columns that amounts are computed from are those of the data of the run. -/
theorem unreadable?_label (date : Int) :
    Accrual.unreadable? (stage.label (prepare context date) context.kind date context.entity).batch
      context.kind = Accrual.unreadable? context.data.batch context.kind := by
  refine Accrual.unreadable?_congr fun column hcolumn => ?_
  obtain ⟨_, hstatus, hnote, hdate⟩ := Accrual.unwritten_of_mem_amountColumns hcolumn
  rw [stage.cells?_label date _ _ _ hstatus hnote]
  exact cells?_prepare context date hstatus hdate

/-- What an accepted context is known to have. -/
structure Accepted (context : Context) : Prop where
  accounts : ∃ data, context.auxiliary? accountsName = some data
  liabilities : context.kind = .order → (context.auxiliary? liabilitiesName).isSome = true
  date : ∃ date, context.intVariable? dateVariable = some date
  columns : ∀ column ∈ requiredColumns context.kind, context.data.batch.hasColumn column = true

variable {context}

/-- What the stage accepts has its columns, its date and its reference data. -/
theorem accepted (h : accepts context = true) : Accepted context := by
  simp only [accepts, Bool.and_eq_true, Bool.or_eq_true, bne_iff_ne, ne_eq] at h
  obtain ⟨⟨⟨⟨_, hcolumns⟩, haccounts⟩, hliabilities⟩, hdate⟩ := h
  exact
    { accounts := Option.isSome_iff_exists.1 haccounts
      liabilities := fun hkind => hliabilities.resolve_left (not_not_intro hkind)
      date := Option.isSome_iff_exists.1 hdate
      columns := fun _ => Batch.hasColumn_of_missing hcolumns }

/-- In data that is accepted, only dates cannot be read as numbers. -/
theorem Accepted.isNone_numbers? (h : Accepted context) {column : String}
    (hcolumn : column ∈ Accrual.amountColumns context.kind) :
    (context.data.batch.numbers? column).isNone = context.data.batch.holdsDates column :=
  Batch.isNone_numbers? (h.columns column (Accrual.mem_requiredColumns hcolumn))

/-- In data that is accepted, the column that fails is the first that holds dates. -/
theorem Accepted.unreadable?_eq (h : Accepted context) :
    Accrual.unreadable? context.data.batch context.kind =
      (Accrual.amountColumns context.kind).find? context.data.batch.holdsDates :=
  List.find?_congr fun _ => h.isNone_numbers?

/-- Without dates among the amounts the stage succeeds. -/
theorem Accepted.status_eq_success (h : Accepted context)
    (hread : (Accrual.amountColumns context.kind).find? context.data.batch.holdsDates = none) :
    ((stage.execute context).ending.result stepName).status = .success := by
  obtain ⟨accounts, haccounts⟩ := h.accounts
  obtain ⟨date, hdate⟩ := h.date
  rw [← h.unreadable?_eq, ← stage.unreadable?_label context date] at hread
  obtain ⟨final, hfinal⟩ := stage.exists_derive haccounts h.liabilities hread
  simp only [execute, hdate, hfinal]
  rfl

/-- With dates among the amounts the stage fails for the first such column. -/
theorem Accepted.ending_eq_failed (h : Accepted context) {column : String}
    (hcolumn : (Accrual.amountColumns context.kind).find? context.data.batch.holdsDates = some column) :
    (stage.execute context).ending = .failed (Accrual.underivable column) := by
  obtain ⟨accounts, haccounts⟩ := h.accounts
  obtain ⟨date, hdate⟩ := h.date
  rw [← h.unreadable?_eq, ← stage.unreadable?_label context date] at hcolumn
  simp only [execute, hdate, stage.derive_of_unreadable haccounts hcolumn]

/-- A context that is accepted is executed with success, unless a column that amounts are computed from
holds dates; the first such column is then named as the cause of the failure. There is no other way out,
not even where lengths might not fit. -/
theorem execute_of_accepts (stage : AccrualStage) (context : Context)
    (haccepts : accepts context = true) :
    let ending := (stage.execute context).ending
    let result := ending.result stepName
    let columns := Accrual.amountColumns context.kind
    let dated := context.data.batch.holdsDates
    stage.execute? context = (stage.execute context).outcome ∧
    (∀ column ∈ columns, context.data.batch.numbers? column = none ↔ dated column = true) ∧
    (result.status = .success ↔ ∀ column ∈ columns, dated column = false) ∧
    (result.status = .failed ∧ result.message = "Failed to derive accounting fields" ↔
      ∃ column ∈ columns, dated column = true) ∧
    ∀ column, columns.find? dated = some column → ending =
      .failed ⟨"Failed to derive accounting fields", [s!"Column '{column}' is not numeric"]⟩ := by
  intro ending result columns dated
  have h : Accepted context := accepted haccepts
  have hnumbers : ∀ column ∈ columns, context.data.batch.numbers? column = none ↔ dated column = true := by
    intro column hcolumn
    rw [← Option.isNone_iff_eq_none, h.isNone_numbers? hcolumn]
  refine ⟨stage.execute?_eq context, hnumbers, ?_⟩
  -- the amounts are read column by column, and the first that holds dates ends the stage
  cases hfirst : columns.find? dated with
  | none =>
    have hsuccess : result.status = .success := h.status_eq_success stage hfirst
    have hundated : ∀ column ∈ columns, dated column = false := by
      simpa only [List.find?_eq_none, Bool.not_eq_true] using hfirst
    refine ⟨iff_of_true hsuccess hundated, iff_of_false ?_ ?_, fun _ => nofun⟩
    · rintro ⟨hfailed, _⟩
      cases hsuccess.symm.trans hfailed
    · rintro ⟨column, hcolumn, hdated⟩
      cases (hundated column hcolumn).symm.trans hdated
  | some column =>
    have hcolumn : column ∈ columns := List.mem_of_find?_eq_some hfirst
    have hdated : dated column = true := List.find?_some hfirst
    have hending : ending = .failed (Accrual.underivable column) := h.ending_eq_failed stage hfirst
    have hresult : result = .failed stepName (Accrual.underivable column) :=
      congrArg (Ending.result stepName) hending
    rw [hresult]
    refine ⟨iff_of_false nofun ?_, iff_of_true ⟨rfl, rfl⟩ ⟨column, hcolumn, hdated⟩, ?_⟩
    · intro hundated
      cases (hundated column hcolumn).symm.trans hdated
    · rintro _ ⟨⟩
      exact hending

end Execution

/-- Two orders of which nothing is known but what stands in one column, and empty reference data. -/
def ordersWith (column : String) (cells : Cells 2) : Context :=
  { Context.start
      ⟨2, ⟨⟨(requiredColumns .order).map fun name => (name, if name = column then cells else .null)⟩⟩⟩
      "spx" 202501 .order with
    auxiliary := .ofList [(accountsName, .empty), (liabilitiesName, .empty)] }

/-- Quantities that cannot be read as numbers do no harm, dates in their place do. -/
theorem execute_of_accepts_unreadable_quantities :
    let stage := ofConfig .empty
    let texts := ordersWith Schema.entryQuantity (.text ⟨[some "many", none], rfl⟩)
    let dates := ordersWith Schema.entryQuantity (.date32 ⟨[some 0, none], rfl⟩)
    accepts texts = true ∧ accepts dates = true ∧
    ((stage.execute texts).ending.result stepName).status = .success ∧
    (stage.execute dates).ending =
      .failed ⟨"Failed to derive accounting fields", ["Column 'Entry Quantity' is not numeric"]⟩ := by
  intro stage texts dates
  have htexts : accepts texts = true := by decide
  have hdates : accepts dates = true := by decide
  obtain ⟨_, _, hsuccess, _⟩ := execute_of_accepts stage texts htexts
  obtain ⟨_, _, _, _, hfailure⟩ := execute_of_accepts stage dates hdates
  exact ⟨htexts, hdates, hsuccess.2 (by decide), hfailure Schema.entryQuantity (by decide)⟩

end AccrualStage

end PurchaseStatus
