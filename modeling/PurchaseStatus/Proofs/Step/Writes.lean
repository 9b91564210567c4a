import PurchaseStatus.FinanceRemark
import PurchaseStatus.Step.AccrualStage
import PurchaseStatus.Proofs.Agreement

namespace PurchaseStatus

variable {n : Nat} {columns : List String} {before middle after : Batch n}

/-- All columns but some are left as they are. -/
def Batch.WritesOnly (columns : List String) (before after : Batch n) : Prop :=
  ∀ column, column ∉ columns → after.cells? column = before.cells? column

namespace Batch.WritesOnly

theorem refl (columns : List String) (batch : Batch n) : WritesOnly columns batch batch :=
  fun _ _ => rfl

theorem trans (h : WritesOnly columns before middle) (h' : WritesOnly columns middle after) :
    WritesOnly columns before after :=
  fun column hcolumn => (h' column hcolumn).trans (h column hcolumn)

/-- A batch of which some columns are written is one of which more may be written. -/
theorem mono {more : List String} (h : WritesOnly columns before after) (hsubset : columns ⊆ more) :
    WritesOnly more before after :=
  fun column hcolumn => h column fun hmem => hcolumn (hsubset hmem)

/-- A column of the list may be written next. -/
theorem put (h : WritesOnly columns before after) {column : String} (hcolumn : column ∈ columns)
    (cells : Cells n) : WritesOnly columns before (after.put column cells) := by
  intro other hother
  rw [cells?_put_of_ne after (by rintro rfl; exact hother hcolumn) cells]
  exact h other hother

theorem putText (h : WritesOnly columns before after) {column : String} (hcolumn : column ∈ columns)
    (values : Texts n) : WritesOnly columns before (after.putText column values) := h.put hcolumn _

end Batch.WritesOnly

/-- No kind of records keeps its status where the notes are. -/
theorem RecordKind.statusColumn_ne_matchedNote (kind : RecordKind) :
    kind.statusColumn ≠ Schema.matchedNote := by
  cases kind <;> decide

namespace FinanceRemark

/-- Normalizing a column of remarks writes that column only. -/
theorem normalizeColumn_writesOnly (batch : Batch n) (column : String)
    (hcolumn : column ∈ columnNames) :
    Batch.WritesOnly columnNames batch (normalizeColumn batch column) := by
  unfold normalizeColumn
  split
  · exact (Batch.WritesOnly.refl columnNames batch).putText hcolumn _
  · exact .refl columnNames batch

/-- Normalizing remarks writes their two columns only. -/
theorem normalizeColumns_writesOnly (batch : Batch n) :
    Batch.WritesOnly columnNames batch (normalizeColumns batch) := by
  have hfinance := normalizeColumn_writesOnly batch Schema.financeRemark (by decide)
  exact hfinance.trans (normalizeColumn_writesOnly _ Schema.financeRequestRemark (by decide))

end FinanceRemark

namespace Accrual

/-- The columns of the derived texts that requests have as well as orders. -/
def textColumns : List String := [
  Schema.accountCode, Schema.accountName, Schema.bookedProductCode, Schema.region,
  Schema.bookedDepartment, Schema.bookedCurrency]

/-- The columns of the derived texts that only orders have. -/
def liabilityColumns : List String := [Schema.prepaidFlag, Schema.liability]

/-- The columns of the derived accounting fields. -/
def derivedColumns : List String := [
  Schema.accrualFlag, Schema.prepaidFlag, Schema.accountCode, Schema.accountName,
  Schema.bookedProductCode, Schema.region, Schema.bookedDepartment, Schema.bookedCurrency,
  Schema.accrualAmount, Schema.liability, Schema.productCodeCheck]

/-- The flags go into their own column. -/
theorem flags_writesOnly (accrued : Mask n) (batch : Batch n) :
    Batch.WritesOnly [Schema.accrualFlag] batch (batch.putText Schema.accrualFlag (flags accrued)) :=
  (Batch.WritesOnly.refl _ batch).putText (List.mem_singleton_self _) _

/-- A text is written into its own column. -/
theorem setText_writesOnly (accrued : Mask n) (batch : Batch n) {column : String}
    (hcolumn : column ∈ columns) (values : Texts n) :
    Batch.WritesOnly columns batch (setText accrued batch column values) :=
  (Batch.WritesOnly.refl columns batch).putText hcolumn _

/-- The text fields are written into their own columns. -/
theorem setTextFields_writesOnly (accrued : Mask n) (batch : Batch n)
    (departmentAccounts : List String) (accountNames : Named String) :
    Batch.WritesOnly textColumns batch
      (setTextFields accrued batch departmentAccounts accountNames) := by
  unfold setTextFields
  refine .trans ?_ (setText_writesOnly accrued _ (by decide) _)
  refine .trans ?_ (setText_writesOnly accrued _ (by decide) _)
  refine .trans ?_ (setText_writesOnly accrued _ (by decide) _)
  refine .trans ?_ (setText_writesOnly accrued _ (by decide) _)
  refine .trans ?_ (setText_writesOnly accrued _ (by decide) _)
  exact setText_writesOnly accrued batch (by decide) _

/-- What fields are set with: amounts that could be computed once the texts were there. -/
theorem exists_amounts_of_setFields {m : Nat} {config : ConfigTree} {entity : String} {kind : RecordKind}
    {accounts : Batch m} {accrued : Mask n} {batch final : Batch n}
    (h : setFields config entity kind accounts accrued batch = .ok final) :
    let texts := setTextFields accrued batch (departmentAccounts config entity)
      (lookup accounts Schema.referenceAccount Schema.referenceDescription)
    ∃ values, amounts texts kind = .ok values ∧ final = texts.put Schema.accrualAmount
      (.float64 ((texts.numbersOrNulls Schema.accrualAmount).blend accrued values)) := by
  intro texts
  unfold setFields at h
  obtain ⟨values, hvalues, hfinal⟩ := Except.bind_eq_ok_iff.1 h
  cases hfinal
  refine ⟨values, ?_, rfl⟩
  cases hamounts : amounts texts kind with
  | error failure =>
    rw [hamounts] at hvalues
    cases hvalues
  | ok amounts =>
    rw [hamounts] at hvalues
    cases hvalues
    rfl

/-- The fields of an accrual are written into their own columns. -/
theorem setFields_writesOnly {m : Nat} {config : ConfigTree} {entity : String} {kind : RecordKind}
    {accounts : Batch m} {accrued : Mask n} {batch final : Batch n}
    (h : setFields config entity kind accounts accrued batch = .ok final) :
    Batch.WritesOnly (Schema.accrualAmount :: textColumns) batch final := by
  obtain ⟨values, _, rfl⟩ := exists_amounts_of_setFields h
  exact ((setTextFields_writesOnly accrued batch _ _).mono (List.subset_cons_self _ _)).put
    List.mem_cons_self _

/-- The liability and the flag of a prepayment are written into their own columns. -/
theorem setLiability_writesOnly {m : Nat} (liabilities : Batch m) (accrued : Mask n) (batch : Batch n) :
    Batch.WritesOnly liabilityColumns batch (setLiability liabilities accrued batch) := by
  unfold setLiability
  exact ((Batch.WritesOnly.refl liabilityColumns batch).putText (by decide) _).putText (by decide) _

/-- The comparison of product codes is written into its own column. -/
theorem checkProductCode_writesOnly (batch : Batch n) :
    Batch.WritesOnly [Schema.productCodeCheck] batch (checkProductCode batch) := by
  unfold checkProductCode
  split
  · exact (Batch.WritesOnly.refl _ batch).putText (List.mem_singleton_self _) _
  · exact .refl _ batch

/-- No kind of records keeps its status in a column that is derived. -/
theorem statusColumn_not_mem_derivedColumns (kind : RecordKind) : kind.statusColumn ∉ derivedColumns := by
  cases kind <;> decide

end Accrual

/-- No kind of records keeps its status in a column of remarks. -/
theorem FinanceRemark.statusColumn_not_mem_columnNames (kind : RecordKind) :
    kind.statusColumn ∉ columnNames := by
  cases kind <;> decide

namespace AccrualStage

variable {stage : AccrualStage} {context : Context} {batch final : Batch n}

/-- Reference data is found exactly if it was loaded. -/
theorem dataset_eq_ok_iff {name : String} {data : Dataset} :
    dataset context name = .ok data ↔ context.auxiliary? name = some data := by
  unfold dataset
  cases context.auxiliary? name <;> simp

/-- What is derived where nothing fails, from a batch with the flags in it: the fields that all records
have, and behind them those of orders. -/
structure Derives (stage : AccrualStage) (context : Context) (accrued : Mask n) (source : Batch n)
    (accounts : Dataset) (fields final : Batch n) : Prop where
  found : context.auxiliary? accountsName = some accounts
  set : Accrual.setFields stage.config context.entity context.kind accounts.batch accrued source =
    .ok fields
  request : context.kind = .request → final = fields
  order : context.kind = .order → ∃ liabilities, context.auxiliary? liabilitiesName = some liabilities ∧
    final = Accrual.checkProductCode (Accrual.setLiability liabilities.batch accrued fields)

/-- What is derived comes about in steps: the flags, the fields and, for orders, the liability and the
comparison of product codes. -/
theorem exists_derives (h : stage.derive context batch = .ok final) :
    let accrued := Accrual.rows batch context.kind
    ∃ accounts fields, stage.Derives context accrued
      (batch.putText Schema.accrualFlag (Accrual.flags accrued)) accounts fields final := by
  intro accrued
  unfold derive at h
  obtain ⟨accounts, haccounts, h⟩ := Except.bind_eq_ok_iff.1 h
  obtain ⟨fields, hfields, h⟩ := Except.bind_eq_ok_iff.1 h
  refine ⟨accounts, fields, dataset_eq_ok_iff.1 haccounts, hfields, fun hkind => ?_, fun hkind => ?_⟩
  · simp only [hkind] at h
    cases h
    rfl
  · simp only [hkind] at h
    obtain ⟨liabilities, hliabilities, h⟩ := Except.bind_eq_ok_iff.1 h
    cases h
    exact ⟨liabilities, dataset_eq_ok_iff.1 hliabilities, by rw [← hkind]⟩

/-- Behind the fields for all records only those of orders are written. -/
theorem Derives.writesOnly {accrued : Mask n} {source fields : Batch n} {accounts : Dataset}
    (h : stage.Derives context accrued source accounts fields final) :
    Batch.WritesOnly (Schema.productCodeCheck :: Accrual.liabilityColumns) fields final := by
  cases hkind : context.kind with
  | request =>
    rw [h.request hkind]
    exact .refl _ fields
  | order =>
    obtain ⟨liabilities, _, rfl⟩ := h.order hkind
    have hliability := Accrual.setLiability_writesOnly liabilities.batch accrued fields
    exact (hliability.mono (List.subset_cons_self _ _)).trans
      ((Accrual.checkProductCode_writesOnly _).mono (by decide))

/-- What is derived from a labelled batch goes into columns of its own. -/
theorem derive_writesOnly (h : stage.derive context batch = .ok final) :
    Batch.WritesOnly Accrual.derivedColumns batch final := by
  obtain ⟨accounts, fields, hderives⟩ := exists_derives h
  have hflags := Accrual.flags_writesOnly (Accrual.rows batch context.kind) batch
  have hfields := Accrual.setFields_writesOnly hderives.set
  exact ((hflags.mono (by decide)).trans (hfields.mono (by decide))).trans
    (hderives.writesOnly.mono (by decide))

end AccrualStage

end PurchaseStatus
