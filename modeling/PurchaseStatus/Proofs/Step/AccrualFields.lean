import PurchaseStatus.Proofs.Step.Atomicity
import PurchaseStatus.Proofs.Step.ReferenceData
import PurchaseStatus.Proofs.Step.Sufficiency

namespace PurchaseStatus

variable {n : Nat}

namespace Accrual

/-- Whether a status is that of a row to be accrued. -/
def StatusAccrues : RecordKind → Option String → Prop
  | .order, status => ∃ text, status = some text ∧ "已完成".toList <:+: text.toList
  | .request, status => status = some "已完成"

/-- The rows that the code takes for accrued are those whose status accrues. -/
theorem statusAccrues_iff {kind : RecordKind} {status : Option String} :
    status.elim false (isAccrued kind) = true ↔ StatusAccrues kind status := by
  cases kind <;> cases status <;>
    simp [StatusAccrues, isAccrued, Text.contains, Text.containsList_iff, completed]

instance (kind : RecordKind) (status : Option String) : Decidable (StatusAccrues kind status) :=
  decidable_of_iff _ statusAccrues_iff

/-- What a row has to be accrued with: for orders the price of what is not billed, if all of it is known. -/
def amountAt (batch : Batch n) (kind : RecordKind) (row : Fin n) : Option Float :=
  match kind with
  | .order =>
    match batch.numberAt? Schema.unitPrice row, batch.numberAt? Schema.entryQuantity row,
      batch.numberAt? Schema.billedQuantity row with
    | some price, some entry, some billed => some (price * (entry - billed))
    | _, _, _ => none
  | .request => batch.numberAt? Schema.entryAmount row

/-- Something has been paid in advance. -/
def Prepaid (batch : Batch n) (row : Fin n) : Prop :=
  ∃ amount, batch.numberAt? Schema.entryPrepayAmount row = some amount ∧ (amount != 0) = true

section Fields

variable {batch : Batch n} {accrued : Mask n} {column other : String} {row : Fin n}

/-- A row is accrued exactly if its status accrues. -/
theorem get_rows_iff {kind : RecordKind} :
    (rows batch kind).get row = true ↔ StatusAccrues kind (batch.textAt? kind.statusColumn row) := by
  rw [rows, Series.get_rowsWhere, Batch.get_textOrNulls]
  exact statusAccrues_iff

/-- Of the accrued rows, the prepaid ones are marked. -/
theorem get_prepaidRows_iff : (prepaidRows accrued batch).get row = true ↔
    accrued.get row = true ∧ Prepaid batch row := by
  rw [prepaidRows, Mask.get_and, Series.get_rowsWhere, Batch.get_numbersOrNulls, Bool.and_eq_true,
    Prepaid]
  cases batch.numberAt? Schema.entryPrepayAmount row <;> simp

/-- A text is written into the accrued rows of its column, and nowhere else. -/
theorem textAt?_setText (values : Texts n) :
    (setText accrued batch column values).textAt? other row =
      if other = column ∧ accrued.get row = true then values.get row else batch.textAt? other row := by
  unfold setText
  by_cases hsame : other = column
  · subst hsame
    simp
  · rw [Batch.textAt?_putText_of_ne hsame, if_neg (fun h => hsame h.1)]

variable (departmentAccounts : List String) (accountNames : Named String)

/-- A row that is not accrued keeps its texts. -/
theorem textAt?_setTextFields_of_not_accrued (hrow : accrued.get row = false) (column : String) :
    (setTextFields accrued batch departmentAccounts accountNames).textAt? column row =
      batch.textAt? column row := by
  simp [setTextFields, textAt?_setText, hrow]

/-- The text fields of an accrued row, by what stood in the row. -/
theorem textAt?_setTextFields_of_accrued (batch : Batch n) (hrow : accrued.get row = true) :
    let fields := setTextFields accrued batch departmentAccounts accountNames
    let account := batch.textAt? Schema.glAccount row
    fields.textAt? Schema.accountCode row = account ∧
    fields.textAt? Schema.accountName row = account.bind accountNames.get? ∧
    fields.textAt? Schema.bookedProductCode row = batch.textAt? Schema.productCode row ∧
    fields.textAt? Schema.region row = some region ∧
    fields.textAt? Schema.bookedDepartment row =
      departmentOf departmentAccounts account (batch.textAt? Schema.department row) ∧
    fields.textAt? Schema.bookedCurrency row = batch.textAt? Schema.currency row := by
  simp [setTextFields, textAt?_setText, hrow, Schema.accountCode, Schema.accountName,
    Schema.bookedProductCode, Schema.region, Schema.bookedDepartment, Schema.bookedCurrency,
    Schema.glAccount, Schema.productCode, Schema.department, Schema.currency]

end Fields

section Amounts

variable {batch : Batch n} {kind : RecordKind} {row : Fin n}

/-- A column of numbers that was read has the numbers of the batch. -/
theorem get_of_number_eq_ok {column : String} {numbers : Numbers n} (h : number batch column = .ok numbers) :
    batch.numberAt? column row = numbers.get row := by
  rw [Batch.numberAt?, number_eq_ok_iff.1 h, Option.bind_some]

/-- The amounts that were read are those of the rows. -/
theorem get_of_amounts_eq_ok {values : Numbers n} (h : amounts batch kind = .ok values) :
    values.get row = amountAt batch kind row := by
  cases kind with
  | order =>
    unfold amounts at h
    obtain ⟨price, hprice, h⟩ := Except.bind_eq_ok_iff.1 h
    obtain ⟨entry, hentry, h⟩ := Except.bind_eq_ok_iff.1 h
    obtain ⟨billed, hbilled, h⟩ := Except.bind_eq_ok_iff.1 h
    cases h
    rw [amountAt, get_of_number_eq_ok hprice, get_of_number_eq_ok hentry, get_of_number_eq_ok hbilled,
      Series.get_zipWith, Series.get_zipWith]
    cases price.get row <;> cases entry.get row <;> cases billed.get row <;> rfl
  | request => exact (get_of_number_eq_ok h).symm

/-- An amount depends on the columns it is computed from. -/
theorem amountAt_congr {a b : Batch n}
    (h : ∀ column ∈ amountColumns kind, a.cells? column = b.cells? column) :
    amountAt a kind row = amountAt b kind row := by
  cases kind with
  | order =>
    simp only [amountColumns, List.forall_mem_cons] at h
    simp only [amountAt, Batch.numberAt?_congr h.1, Batch.numberAt?_congr h.2.1, Batch.numberAt?_congr h.2.2.1]
  | request => exact Batch.numberAt?_congr (h _ List.mem_cons_self)

/-- The texts of an accrual are written whatever becomes of the amount. -/
theorem textAt?_setFields {m : Nat} {config : ConfigTree} {entity : String} {accounts : Batch m}
    {accrued : Mask n} {final : Batch n}
    (h : setFields config entity kind accounts accrued batch = .ok final) {column : String}
    (hne : column ≠ Schema.accrualAmount) :
    final.textAt? column row = (setTextFields accrued batch (departmentAccounts config entity)
      (lookup accounts Schema.referenceAccount Schema.referenceDescription)).textAt? column row := by
  obtain ⟨values, _, rfl⟩ := exists_amounts_of_setFields h
  exact Batch.textAt?_congr (Batch.cells?_put_of_ne _ hne _)

/-- The amount is written into the accrued rows. -/
theorem numberAt?_setFields {m : Nat} {config : ConfigTree} {entity : String} {accounts : Batch m}
    {accrued : Mask n} {final : Batch n}
    (h : setFields config entity kind accounts accrued batch = .ok final) :
    final.numberAt? Schema.accrualAmount row =
      if accrued.get row then amountAt batch kind row else batch.numberAt? Schema.accrualAmount row := by
  obtain ⟨values, hvalues, rfl⟩ := exists_amounts_of_setFields h
  have htexts := setTextFields_writesOnly accrued batch (departmentAccounts config entity)
    (lookup accounts Schema.referenceAccount Schema.referenceDescription)
  have hread : ∀ column ∈ amountColumns kind, column ∉ textColumns := fun column hcolumn hmem =>
    (unwritten_of_mem_amountColumns hcolumn).1 ((by decide : textColumns ⊆ derivedColumns) hmem)
  rw [Batch.numberAt?_put_self, Series.get_blend, get_of_amounts_eq_ok hvalues,
    amountAt_congr fun column hcolumn => htexts column (hread column hcolumn),
    Batch.get_numbersOrNulls, Batch.numberAt?_congr (htexts Schema.accrualAmount (by decide))]

end Amounts

section Liability

variable {m : Nat} (liabilities : Batch m) {accrued : Mask n} {batch : Batch n} {row : Fin n}

/-- The liability of an accrued row is that of a prepayment, or the one listed for its account. -/
theorem textAt?_liability_setLiability :
    (setLiability liabilities accrued batch).textAt? Schema.liability row =
      if accrued.get row then
        if (prepaidRows accrued batch).get row then some prepaidLiability
        else (batch.textAt? Schema.accountCode row).bind
          (lookup liabilities Schema.referenceAccount Schema.referenceLiability).get?
      else batch.textAt? Schema.liability row := by
  simp [setLiability]

/-- The prepaid rows are flagged. -/
theorem textAt?_prepaidFlag_setLiability :
    (setLiability liabilities accrued batch).textAt? Schema.prepaidFlag row =
      if (prepaidRows accrued batch).get row then some "Y" else batch.textAt? Schema.prepaidFlag row := by
  have hne : Schema.prepaidFlag ≠ Schema.liability := by decide
  rw [setLiability, Batch.textAt?_putText_of_ne hne]
  simp

end Liability

section Books

/-- The columns that fields are read from, and those that they stand in, but for the flag. -/
def fieldColumns : List String :=
  [Schema.glAccount, Schema.productCode, Schema.department, Schema.currency, Schema.entryPrepayAmount,
    Schema.unitPrice, Schema.entryQuantity, Schema.billedQuantity, Schema.entryAmount,
    Schema.accrualAmount] ++ textColumns ++ liabilityColumns

theorem mem_fieldColumns_of_amount {kind : RecordKind} {column : String}
    (hcolumn : column ∈ amountColumns kind) : column ∈ fieldColumns := by
  cases kind <;> revert column <;> decide

/-- The account is one of those that the configuration lists for the entity as kept by department: its text
stands in the list `dept_accounts` under the name of the entity in small letters. -/
def KeptByDepartment (config : ConfigTree) (entity account : String) : Prop :=
  ∃ accounts, config.resolveList? s!"{Text.asciiLower entity}.dept_accounts" = some accounts ∧
    account ∈ accounts

/-- An entity for which nothing is listed keeps no account by department. -/
theorem mem_departmentAccounts_iff {config : ConfigTree} {entity account : String} :
    account ∈ departmentAccounts config entity ↔ KeptByDepartment config entity account := by
  unfold departmentAccounts KeptByDepartment
  cases config.resolveList? s!"{Text.asciiLower entity}.dept_accounts" <;> simp

/-- The fields that all accrued records have, by what stood in the row before. The department is booked for
the accounts that the configuration keeps by department, and for the others three zeros are. -/
structure Books {m : Nat} (config : ConfigTree) (entity : String) (accounts : Batch m) (kind : RecordKind)
    (before after : Batch n) (row : Fin n) : Prop where
  accountCode : after.textAt? Schema.accountCode row = before.textAt? Schema.glAccount row
  accountName : LookedUp accounts Schema.referenceAccount Schema.referenceDescription
    (before.textAt? Schema.glAccount row) (after.textAt? Schema.accountName row)
  productCode : after.textAt? Schema.bookedProductCode row = before.textAt? Schema.productCode row
  region : after.textAt? Schema.region row = some "TW"
  department : ∀ account, before.textAt? Schema.glAccount row = some account →
    KeptByDepartment config entity account →
    after.textAt? Schema.bookedDepartment row =
      (before.textAt? Schema.department row).map fun name => String.ofList (name.toList.take 3)
  noDepartment : (∀ account, before.textAt? Schema.glAccount row = some account →
      ¬KeptByDepartment config entity account) →
    after.textAt? Schema.bookedDepartment row = some "000"
  currency : after.textAt? Schema.bookedCurrency row = before.textAt? Schema.currency row
  amount : after.numberAt? Schema.accrualAmount row = amountAt before kind row

/-- The fields that accrued orders have besides. The liability is that of a prepayment, or it is looked
up by the account in the rows of the reference dataset, of which the last counts. -/
structure BooksLiability {m : Nat} (liabilities : Batch m) (before after : Batch n) (row : Fin n) : Prop where
  prepaid : Prepaid before row →
    after.textAt? Schema.liability row = some "111112" ∧ after.textAt? Schema.prepaidFlag row = some "Y"
  unpaid : ¬Prepaid before row →
    LookedUp liabilities Schema.referenceAccount Schema.referenceLiability
      (before.textAt? Schema.glAccount row) (after.textAt? Schema.liability row) ∧
    after.textAt? Schema.prepaidFlag row = before.textAt? Schema.prepaidFlag row

/-- The fields are as before. Texts are compared as texts and the amount as a number, since a column may
come to be stored in another way for the sake of other rows. -/
structure Keeps (before after : Batch n) (row : Fin n) : Prop where
  texts : ∀ column ∈ textColumns ++ liabilityColumns, after.textAt? column row = before.textAt? column row
  amount : after.numberAt? Schema.accrualAmount row = before.numberAt? Schema.accrualAmount row

variable {m : Nat} {config : ConfigTree} {entity : String} {kind : RecordKind} {accounts : Batch m}
  {accrued : Mask n} {before source fields after : Batch n} {row : Fin n}

/-- Under a department account the department is cut to its first three characters. -/
theorem departmentOf_of_mem {departmentAccounts : List String} {account : String}
    (haccount : account ∈ departmentAccounts) (department : Option String) :
    departmentOf departmentAccounts (some account) department =
      department.map fun name => String.ofList (name.toList.take 3) := by
  simp [departmentOf, haccount]

/-- Under any other account the department is the common one. -/
theorem departmentOf_of_forall_ne {departmentAccounts : List String} {account : Option String}
    (haccount : ∀ other ∈ departmentAccounts, account ≠ some other) (department : Option String) :
    departmentOf departmentAccounts account department = some "000" := by
  have hnone : account.any departmentAccounts.contains = false := by
    cases account with
    | none => rfl
    | some name => simpa using fun hname => haccount name hname rfl
  simp [departmentOf, hnone, noDepartment]

/-- Where the fields for all records are set, and the others behind them, an accrued row has them. -/
theorem books_of_setFields (hfields : setFields config entity kind accounts accrued source = .ok fields)
    (hsource : ∀ column ∈ fieldColumns, source.cells? column = before.cells? column)
    (hafter : ∀ column ∈ Schema.accrualAmount :: textColumns, after.cells? column = fields.cells? column)
    (hrow : accrued.get row = true) :
    Books config entity accounts kind before after row := by
  have hread : ∀ column ∈ fieldColumns, source.textAt? column row = before.textAt? column row :=
    fun column hcolumn => Batch.textAt?_congr (hsource column hcolumn)
  have hset : ∀ column ∈ textColumns, after.textAt? column row =
      (setTextFields accrued source (departmentAccounts config entity)
        (lookup accounts Schema.referenceAccount Schema.referenceDescription)).textAt? column row := by
    intro column hcolumn
    have hne : column ≠ Schema.accrualAmount := by
      rintro rfl
      exact absurd hcolumn (by decide)
    rw [Batch.textAt?_congr (hafter column (List.mem_cons_of_mem _ hcolumn))]
    exact textAt?_setFields hfields hne
  obtain ⟨hcode, hname, hproduct, hregion, hdepartment, hcurrency⟩ :=
    textAt?_setTextFields_of_accrued (departmentAccounts config entity)
      (lookup accounts Schema.referenceAccount Schema.referenceDescription) source hrow
  rw [hread _ (by decide)] at hcode hname hproduct hcurrency
  rw [hread Schema.glAccount (by decide), hread Schema.department (by decide)] at hdepartment
  refine
    { accountCode := (hset _ (by decide)).trans hcode
      accountName := ?_
      productCode := (hset _ (by decide)).trans hproduct
      region := (hset _ (by decide)).trans hregion
      department := fun account hgl hkept => ?_
      noDepartment := fun hnone => ?_
      currency := (hset _ (by decide)).trans hcurrency
      amount := ?_ }
  · rw [hset _ (by decide), hname]
    exact lookedUp_lookup accounts _ _ _
  · rw [hset _ (by decide), hdepartment, hgl, departmentOf_of_mem (mem_departmentAccounts_iff.2 hkept)]
  · rw [hset _ (by decide), hdepartment, departmentOf_of_forall_ne fun account hlisted hgl =>
      hnone account hgl (mem_departmentAccounts_iff.1 hlisted)]
  · rw [Batch.numberAt?_congr (hafter _ List.mem_cons_self), numberAt?_setFields hfields, if_pos hrow]
    exact amountAt_congr fun column hcolumn => hsource column (mem_fieldColumns_of_amount hcolumn)

/-- Whether a row is prepaid depends on the one column only. -/
theorem prepaid_congr (h : fields.cells? Schema.entryPrepayAmount = before.cells? Schema.entryPrepayAmount) :
    Prepaid fields row ↔ Prepaid before row := by
  simp only [Prepaid, Batch.numberAt?_congr h]

/-- Where the account code is that of the row before, an accrued order has its other fields by it. -/
theorem booksLiability_of_setLiability (liabilities : Batch m)
    (hfields : ∀ column ∈ Schema.entryPrepayAmount :: liabilityColumns,
      fields.cells? column = before.cells? column)
    (hcode : fields.textAt? Schema.accountCode row = before.textAt? Schema.glAccount row)
    (hafter : ∀ column ∈ liabilityColumns,
      after.cells? column = (setLiability liabilities accrued fields).cells? column)
    (hrow : accrued.get row = true) : BooksLiability liabilities before after row := by
  have hprepaid : (prepaidRows accrued fields).get row = true ↔ Prepaid before row := by
    rw [get_prepaidRows_iff, prepaid_congr (hfields _ List.mem_cons_self)]
    exact and_iff_right hrow
  have hliability : after.textAt? Schema.liability row =
      if (prepaidRows accrued fields).get row then some prepaidLiability
      else (before.textAt? Schema.glAccount row).bind
        (lookup liabilities Schema.referenceAccount Schema.referenceLiability).get? := by
    rw [Batch.textAt?_congr (hafter _ (by decide)), textAt?_liability_setLiability, if_pos hrow, hcode]
  have hflag : after.textAt? Schema.prepaidFlag row =
      if (prepaidRows accrued fields).get row then some "Y" else before.textAt? Schema.prepaidFlag row := by
    rw [Batch.textAt?_congr (hafter _ (by decide)), textAt?_prepaidFlag_setLiability,
      Batch.textAt?_congr (hfields Schema.prepaidFlag (by decide))]
  refine ⟨fun hpaid => ?_, fun hunpaid => ?_⟩
  · rw [hliability, hflag, if_pos (hprepaid.2 hpaid), if_pos (hprepaid.2 hpaid)]
    exact ⟨rfl, rfl⟩
  · rw [hliability, hflag, if_neg (mt hprepaid.1 hunpaid), if_neg (mt hprepaid.1 hunpaid)]
    exact ⟨lookedUp_lookup liabilities _ _ _, rfl⟩

/-- A row that is not accrued keeps its fields, whatever is set in the others. -/
theorem keeps_of_setFields (hfields : setFields config entity kind accounts accrued source = .ok fields)
    (hsource : ∀ column ∈ fieldColumns, source.cells? column = before.cells? column)
    (hrow : accrued.get row = false) : Keeps before fields row where
  texts column hcolumn := by
    have hapart : ∀ column ∈ textColumns ++ liabilityColumns,
        column ≠ Schema.accrualAmount ∧ column ∈ fieldColumns := by decide
    rw [textAt?_setFields hfields (hapart column hcolumn).1,
      textAt?_setTextFields_of_not_accrued _ _ hrow]
    exact Batch.textAt?_congr (hsource column (hapart column hcolumn).2)
  amount := by
    rw [numberAt?_setFields hfields, if_neg (Bool.not_eq_true _ ▸ hrow)]
    exact Batch.numberAt?_congr (hsource _ (by decide))

/-- A row that is not accrued keeps its texts when liabilities are written. -/
theorem textAt?_setLiability_of_not_accrued (liabilities : Batch m) (hrow : accrued.get row = false)
    (column : String) : (setLiability liabilities accrued fields).textAt? column row =
      fields.textAt? column row := by
  by_cases hliability : column = Schema.liability
  · rw [hliability, textAt?_liability_setLiability, hrow]
    rfl
  · by_cases hflag : column = Schema.prepaidFlag
    · have hprepaid : (prepaidRows accrued fields).get row = false := by simp [prepaidRows, hrow]
      rw [hflag, textAt?_prepaidFlag_setLiability, hprepaid]
      rfl
    · refine Batch.textAt?_congr (setLiability_writesOnly liabilities accrued fields column ?_)
      simp [liabilityColumns, hliability, hflag]

/-- Nor do the fields of orders change in a row that is not accrued. -/
theorem Keeps.setLiability (h : Keeps before fields row) (liabilities : Batch m)
    (hrow : accrued.get row = false) :
    Keeps before (checkProductCode (setLiability liabilities accrued fields)) row where
  texts column hcolumn := by
    have hapart : ∀ column ∈ textColumns ++ liabilityColumns, column ∉ [Schema.productCodeCheck] := by
      decide
    rw [Batch.textAt?_congr (checkProductCode_writesOnly _ column (hapart column hcolumn)),
      textAt?_setLiability_of_not_accrued liabilities hrow]
    exact h.texts column hcolumn
  amount := by
    rw [Batch.numberAt?_congr (checkProductCode_writesOnly _ _ (by decide)),
      Batch.numberAt?_congr (setLiability_writesOnly _ _ _ _ (by decide))]
    exact h.amount

end Books

end Accrual

namespace AccrualStage

section Execution

variable {stage : AccrualStage} {context : Context}

/-- Neither the labels nor the date of the run stand in a column that a field is read from or kept in. -/
theorem cells?_flagged (stage : AccrualStage) (context : Context) (date : Int) {column : String}
    (hcolumn : column ∈ Accrual.fieldColumns) (accrued : Mask context.data.rows) :
    ((stage.label (prepare context date) context.kind date context.entity).batch.putText
      Schema.accrualFlag (Accrual.flags accrued)).cells? column = context.data.batch.cells? column := by
  have hapart : ∀ kind : RecordKind, ∀ column ∈ Accrual.fieldColumns, column ∉ [Schema.accrualFlag] ∧
      column ≠ kind.statusColumn ∧ column ≠ Schema.matchedNote ∧ column ≠ Schema.fileDate := by
    intro kind
    cases kind <;> decide
  obtain ⟨hflag, hstatus, hnote, hdate⟩ := hapart context.kind column hcolumn
  rw [Accrual.flags_writesOnly accrued _ column hflag, stage.cells?_label date _ _ _ hstatus hnote]
  exact cells?_prepare context date hstatus hdate

/-- A row that is accrued, with the fields that it gets from the data before, from the reference datasets
and, as to the department, from the configuration of the stage. -/
structure AccruedAt (stage : AccrualStage) (context : Context) (after : Batch context.data.rows)
    (row : Fin context.data.rows) : Prop where
  flag : after.textAt? Schema.accrualFlag row = some "Y"
  fields : ∃ accounts, context.auxiliary? accountsName = some accounts ∧
    Accrual.Books stage.config context.entity accounts.batch context.kind context.data.batch after row
  liability : context.kind = .order →
    ∃ liabilities, context.auxiliary? liabilitiesName = some liabilities ∧
      Accrual.BooksLiability liabilities.batch context.data.batch after row

/-- A row that is not accrued. Its flag says so, and all other fields that the stage may write are left
to it. -/
structure PassedOverAt (context : Context) (after : Batch context.data.rows)
    (row : Fin context.data.rows) : Prop where
  flag : after.textAt? Schema.accrualFlag row = some "N"
  keeps : Accrual.Keeps context.data.batch after row

/-- The rows that were found to be accrued are those whose status says so in the end. -/
theorem get_rows_of_derive {labelled after : Batch context.data.rows}
    (hderived : stage.derive context labelled = .ok after) (row : Fin context.data.rows) :
    (Accrual.rows labelled context.kind).get row = true ↔
      Accrual.StatusAccrues context.kind (after.textAt? context.statusColumn row) := by
  have hstatus := derive_writesOnly hderived _ (Accrual.statusColumn_not_mem_derivedColumns context.kind)
  rw [Accrual.get_rows_iff, ← Batch.textAt?_congr hstatus]
  rfl

namespace Derives

variable {accrued : Mask context.data.rows} {source fields after : Batch context.data.rows}
  {accounts : Dataset} {row : Fin context.data.rows}

/-- What is derived after the fields leaves the fields as they are. -/
theorem cells?_eq (h : stage.Derives context accrued source accounts fields after) {column : String}
    (hcolumn : column ∈ Schema.accrualFlag :: Schema.accrualAmount :: Accrual.textColumns) :
    after.cells? column = fields.cells? column := by
  have hapart : ∀ column ∈ Schema.accrualFlag :: Schema.accrualAmount :: Accrual.textColumns,
      column ∉ Schema.productCodeCheck :: Accrual.liabilityColumns := by decide
  exact h.writesOnly column (hapart column hcolumn)

/-- The flag is written before all other fields and stays. -/
theorem textAt?_accrualFlag (h : stage.Derives context accrued source accounts fields after) :
    after.textAt? Schema.accrualFlag row = source.textAt? Schema.accrualFlag row :=
  (Batch.textAt?_congr (h.cells?_eq List.mem_cons_self)).trans
    (Batch.textAt?_congr (Accrual.setFields_writesOnly h.set _ (by decide)))

section Source

variable (h : stage.Derives context accrued source accounts fields after)
  (hsource : ∀ column ∈ Accrual.fieldColumns, source.cells? column = context.data.batch.cells? column)

include h hsource

/-- An accrued row is booked as the reference data and the configuration say. -/
theorem books (hrow : accrued.get row = true) :
    Accrual.Books stage.config context.entity accounts.batch context.kind context.data.batch after row :=
  Accrual.books_of_setFields h.set hsource
    (fun _ hcolumn => h.cells?_eq (List.mem_cons_of_mem _ hcolumn)) hrow

/-- The columns that the liability is read from, and those it is written to, are still those of the data.
-/
theorem cells?_liabilityColumns {column : String}
    (hcolumn : column ∈ Schema.entryPrepayAmount :: Accrual.liabilityColumns) :
    fields.cells? column = context.data.batch.cells? column := by
  have hapart : ∀ column ∈ Schema.entryPrepayAmount :: Accrual.liabilityColumns,
      column ∉ Schema.accrualAmount :: Accrual.textColumns ∧ column ∈ Accrual.fieldColumns := by decide
  rw [Accrual.setFields_writesOnly h.set column (hapart column hcolumn).1]
  exact hsource column (hapart column hcolumn).2

/-- An accrued order has its liability booked, for which the reference data has to be there. -/
theorem booksLiability (hkind : context.kind = .order) (hrow : accrued.get row = true) :
    ∃ liabilities, context.auxiliary? liabilitiesName = some liabilities ∧
      Accrual.BooksLiability liabilities.batch context.data.batch after row := by
  have hcode : fields.textAt? Schema.accountCode row =
      context.data.batch.textAt? Schema.glAccount row := by
    rw [← Batch.textAt?_congr (h.cells?_eq (by decide))]
    exact (h.books hsource hrow).accountCode
  have hcheck : ∀ column ∈ Accrual.liabilityColumns, column ∉ [Schema.productCodeCheck] := by decide
  obtain ⟨liabilities, hliabilities, hafter⟩ := h.order hkind
  refine ⟨liabilities, hliabilities, Accrual.booksLiability_of_setLiability liabilities.batch
    (fun _ => h.cells?_liabilityColumns hsource) hcode (fun column hcolumn => ?_) hrow⟩
  rw [hafter]
  exact Accrual.checkProductCode_writesOnly _ column (hcheck column hcolumn)

/-- A row that is not accrued keeps all that an accrual would write. -/
theorem keeps (hrow : accrued.get row = false) : Accrual.Keeps context.data.batch after row := by
  have hkeeps := Accrual.keeps_of_setFields h.set hsource hrow
  cases hkind : context.kind with
  | request => rwa [h.request hkind]
  | order =>
    obtain ⟨liabilities, _, rfl⟩ := h.order hkind
    exact hkeeps.setLiability liabilities.batch hrow

end Source

end Derives

/-- After a success the flag of a row says whether its status asks for an accrual. A row that is accrued has
the fields that its data and the reference datasets give, and the others have those that they had. -/
theorem execute_derives_fields (stage : AccrualStage) (context : Context)
    (hsuccess : ((stage.execute context).ending.result stepName).isSuccess = true) :
    ∃ after : Batch context.data.rows,
      (stage.execute context).context.data = ⟨context.data.rows, after⟩ ∧
      ((stage.execute context).ending.result stepName).data = some ⟨context.data.rows, after⟩ ∧
      (∀ row, Accrual.StatusAccrues context.kind (after.textAt? context.statusColumn row) →
        stage.AccruedAt context after row) ∧
      (∀ row, ¬Accrual.StatusAccrues context.kind (after.textAt? context.statusColumn row) →
        PassedOverAt context after row) ∧
      (context.kind = .request → ∀ column ∈ Accrual.liabilityColumns,
        after.cells? column = context.data.batch.cells? column) := by
  obtain ⟨date, after, _, hderived, hcontext⟩ := exists_derived_of_success hsuccess
  obtain ⟨accounts, fields, hderives⟩ := exists_derives hderived
  have htakes := (stage.execute_atomic context).changed hsuccess
  let labelled := (stage.label (prepare context date) context.kind date context.entity).batch
  let accrued := Accrual.rows labelled context.kind
  -- labelling leaves every column from which the fields are derived
  have hsource : ∀ column ∈ Accrual.fieldColumns,
      (labelled.putText Schema.accrualFlag (Accrual.flags accrued)).cells? column =
        context.data.batch.cells? column :=
    fun _ hcolumn => stage.cells?_flagged context date hcolumn accrued
  have hflag : ∀ row, after.textAt? Schema.accrualFlag row = some (if accrued.get row then "Y" else "N") := by
    intro row
    rw [hderives.textAt?_accrualFlag, Batch.textAt?_putText_self, Accrual.flags, Series.get_map]
  refine ⟨after, congrArg Context.data hcontext, ?_, fun row hstatus => ?_, fun row hstatus => ?_,
    fun hkind column hcolumn => ?_⟩
  · rw [htakes.data, hcontext]
    rfl
  · have hrow : accrued.get row = true := (get_rows_of_derive hderived row).2 hstatus
    exact
      { flag := by rw [hflag, hrow]; rfl
        fields := ⟨accounts, hderives.found, hderives.books hsource hrow⟩
        liability := fun hkind => hderives.booksLiability hsource hkind hrow }
  · have hrow : accrued.get row = false :=
      Bool.eq_false_of_not_eq_true (mt (get_rows_of_derive hderived row).1 hstatus)
    exact
      { flag := by rw [hflag, hrow]; rfl
        keeps := hderives.keeps hsource hrow }
  · rw [hderives.request hkind]
    exact hderives.cells?_liabilityColumns hsource (List.mem_cons_of_mem _ hcolumn)

end Execution

/-- Only the first of the two accounts below is kept by department. -/
def keptAccounts : ConfigTree := ⟨.object [("spx", .object [("dept_accounts", .array [.int 520019])])]⟩

/-- Two completed orders and one that is not, with numbers in the column of the account code. The first
account is listed three times, at last without a name. -/
def threeOrders : Context :=
  let listed : Batch 3 := ⟨⟨[
    (Schema.referenceAccount, .text ⟨[some "520019", some "520019", some "520019"], rfl⟩),
    (Schema.referenceDescription, .text ⟨[some "Rent", some "Office rent", none], rfl⟩),
    (Schema.referenceLiability, .text ⟨[some "200401", none, none], rfl⟩)]⟩⟩
  { Context.start
      ⟨3, ⟨⟨[(RecordKind.order.statusColumn, .text ⟨[some "已完成(部分)", some "已完成", some "未完成"], rfl⟩),
        (Schema.glAccount, .text ⟨[some "520019", some "510101", some "520019"], rfl⟩),
        (Schema.department, .text ⟨[some "A01-sales", some "B02-sales", none], rfl⟩),
        (Schema.accountCode, .int64 ⟨[some 1, some 2, some 3], rfl⟩),
        (Schema.unitPrice, .null), (Schema.entryQuantity, .null), (Schema.billedQuantity, .null)]⟩⟩⟩
      "SPX" 202501 .order with
    auxiliary := .ofList [(accountsName, ⟨3, listed⟩), (liabilitiesName, ⟨3, listed⟩)] }

/-- The last row of an account that has a name or a liability counts, one by one, and only the account that
is listed by the configuration is booked with its department. -/
theorem execute_derives_fields_three_orders :
    let stage := ofConfig keptAccounts
    let first : Fin threeOrders.data.rows := ⟨0, by decide⟩
    let second : Fin threeOrders.data.rows := ⟨1, by decide⟩
    let third : Fin threeOrders.data.rows := ⟨2, by decide⟩
    ((stage.execute threeOrders).ending.result stepName).isSuccess = true ∧
    ∃ after, (stage.execute threeOrders).context.data = ⟨threeOrders.data.rows, after⟩ ∧
      after.textAt? Schema.accrualFlag first = some "Y" ∧
      after.textAt? Schema.accountName first = some "Office rent" ∧
      after.textAt? Schema.bookedDepartment first = some "A01" ∧
      after.textAt? Schema.liability first = some "200401" ∧
      after.textAt? Schema.accrualFlag second = some "Y" ∧
      after.textAt? Schema.accountName second = none ∧
      after.textAt? Schema.bookedDepartment second = some "000" ∧
      after.textAt? Schema.accrualFlag third = some "N" ∧
      after.textAt? Schema.accountCode third = some "3" := by
  intro stage first second third
  have hsuccess : ((stage.execute threeOrders).ending.result stepName).isSuccess = true := by decide
  obtain ⟨after, hdata, _, haccrued, hpassed, _⟩ := execute_derives_fields stage threeOrders hsuccess
  have hstatus : ∀ row, after.textAt? threeOrders.statusColumn row =
      threeOrders.data.batch.textAt? threeOrders.statusColumn row := by
    have htexts : ((stage.execute threeOrders).context.data.batch.textOrNulls
        threeOrders.statusColumn).toList =
        (threeOrders.data.batch.textOrNulls threeOrders.statusColumn).toList := by decide
    rw [hdata] at htexts
    intro row
    rw [← Batch.get_textOrNulls, ← Batch.get_textOrNulls, Series.ext_toList htexts]
  have hfirst := haccrued first (by rw [hstatus]; decide)
  have hsecond := haccrued second (by rw [hstatus]; decide)
  have hthird := hpassed third (by rw [hstatus]; decide)
  obtain ⟨accounts, haccounts, hbooks⟩ := hfirst.fields
  obtain ⟨accounts', haccounts', hbooks'⟩ := hsecond.fields
  obtain ⟨liabilities, hliabilities, hliability⟩ := hfirst.liability rfl
  cases haccounts
  cases haccounts'
  cases hliabilities
  have hunpaid : ¬Accrual.Prepaid threeOrders.data.batch first := by
    rintro ⟨_, ⟨⟩, _⟩
  have hlist : stage.config.resolveList? s!"{Text.asciiLower threeOrders.entity}.dept_accounts" =
      some ["520019"] := by decide
  have hkept : Accrual.KeptByDepartment stage.config threeOrders.entity "520019" :=
    ⟨["520019"], hlist, List.mem_singleton_self _⟩
  have hnot : ¬Accrual.KeptByDepartment stage.config threeOrders.entity "510101" := by
    rintro ⟨listed, hlisted, hmem⟩
    obtain rfl : ["520019"] = listed := Option.some.inj (hlist.symm.trans hlisted)
    exact absurd hmem (by decide)
  refine ⟨hsuccess, after, hdata, hfirst.flag, ?_, ?_, ?_, hsecond.flag, ?_, ?_, hthird.flag, ?_⟩
  · exact hbooks.accountName.unique (Accrual.lookedUp_lookup _ _ _ _)
  · exact (hbooks.department "520019" rfl hkept).trans (by decide)
  · exact (hliability.unpaid hunpaid).1.unique (Accrual.lookedUp_lookup _ _ _ _)
  · exact hbooks'.accountName.unique (Accrual.lookedUp_lookup _ _ _ _)
  · refine hbooks'.noDepartment ?_
    rintro account ⟨⟩
    exact hnot
  · exact (hthird.keeps.texts _ (by decide)).trans (by decide)

end AccrualStage

end PurchaseStatus
