import PurchaseStatus.Proofs.Step.AccrualFields

namespace PurchaseStatus

variable {n : Nat}

/-- What has been taken over once is there already. -/
@[simp] theorem Series.blend_blend {α : Type u} (base new : Series α n) (rows : Mask n) :
    (base.blend rows new).blend rows new = base.blend rows new := by
  apply Series.ext_get
  intro row
  cases hrow : rows.get row <;> simp [hrow]

theorem Batch.WritesOnly.keeps {columns kept : List String} {before after : Batch n}
    (h : WritesOnly columns before after) (hkept : ∀ column ∈ kept, column ∉ columns) :
    ∀ column ∈ kept, after.cells? column = before.cells? column :=
  fun column hcolumn => h column (hkept column hcolumn)

namespace Accrual

variable (accrued : Mask n)

/-- Sets the accrued rows of several text columns, one after another. -/
def setTexts (batch : Batch n) (fields : List (String × Texts n)) : Batch n :=
  fields.foldl (fun batch field => setText accrued batch field.1 field.2) batch

/-- The text fields with the values that a batch has for them. -/
def textFields (batch : Batch n) (departmentAccounts : List String) (accountNames : Named String) :
    List (String × Texts n) :=
  let accounts := batch.textOrNulls Schema.glAccount
  [ (Schema.accountCode, accounts),
    (Schema.accountName, accounts.map (·.bind accountNames.get?)),
    (Schema.bookedProductCode, batch.textOrNulls Schema.productCode),
    (Schema.region, .constant n (some region)),
    (Schema.bookedDepartment,
      accounts.zipWith (departmentOf departmentAccounts) (batch.textOrNulls Schema.department)),
    (Schema.bookedCurrency, batch.textOrNulls Schema.currency)]

/-- The columns that the text fields take their values from. -/
def textSources : List String := [Schema.glAccount, Schema.productCode, Schema.department, Schema.currency]

variable {accrued} {batch : Batch n}

/-- Writing one column leaves the texts of the others. -/
theorem textOrNulls_setText_of_ne {column other : String} (hne : other ≠ column) (values : Texts n) :
    (setText accrued batch column values).textOrNulls other = batch.textOrNulls other :=
  Batch.textOrNulls_congr (Batch.cells?_putText_of_ne batch hne _)

/-- No text field takes its value from another. -/
theorem setTextFields_eq (accrued : Mask n) (batch : Batch n) (departmentAccounts : List String)
    (accountNames : Named String) : setTextFields accrued batch departmentAccounts accountNames =
      setTexts accrued batch (textFields batch departmentAccounts accountNames) := by
  have hproduct : ∀ column ∈ textColumns, Schema.productCode ≠ column := by decide
  have hcurrency : ∀ column ∈ textColumns, Schema.currency ≠ column := by decide
  simp only [textColumns, List.forall_mem_cons] at hproduct hcurrency
  simp only [setTextFields, setTexts, textFields, List.foldl_cons, List.foldl_nil,
    textOrNulls_setText_of_ne hproduct.1, textOrNulls_setText_of_ne hproduct.2.1,
    textOrNulls_setText_of_ne hcurrency.1, textOrNulls_setText_of_ne hcurrency.2.1,
    textOrNulls_setText_of_ne hcurrency.2.2.1, textOrNulls_setText_of_ne hcurrency.2.2.2.1,
    textOrNulls_setText_of_ne hcurrency.2.2.2.2.1]

theorem map_fst_textFields (departmentAccounts : List String) (accountNames : Named String) :
    (textFields batch departmentAccounts accountNames).map (·.1) = textColumns := rfl

/-- The text fields depend on the columns they are read from. -/
theorem textFields_congr {other : Batch n} (departmentAccounts : List String) (accountNames : Named String)
    (h : ∀ column ∈ textSources, other.cells? column = batch.cells? column) :
    textFields other departmentAccounts accountNames = textFields batch departmentAccounts accountNames := by
  simp only [textSources, List.forall_mem_cons] at h
  simp only [textFields, Batch.textOrNulls_congr h.1, Batch.textOrNulls_congr h.2.1,
    Batch.textOrNulls_congr h.2.2.1, Batch.textOrNulls_congr h.2.2.2.1]

/-- Columns that are not written stay as they are. -/
theorem cells?_setTexts_of_not_mem {fields : List (String × Texts n)} {column : String}
    (hcolumn : column ∉ fields.map (·.1)) :
    (setTexts accrued batch fields).cells? column = batch.cells? column := by
  induction fields generalizing batch with
  | nil => rfl
  | cons field rest ih =>
    obtain ⟨hne, hrest⟩ := not_or.1 (mt List.mem_cons.2 hcolumn)
    exact (ih hrest).trans (Batch.cells?_putText_of_ne batch hne _)

/-- A field stands in its column behind the others, which are set elsewhere. -/
theorem cells?_setTexts_of_mem {fields : List (String × Texts n)} (hnodup : (fields.map (·.1)).Nodup)
    {field : String × Texts n} (hfield : field ∈ fields) :
    ∃ base : Texts n, (setTexts accrued batch fields).cells? field.1 =
      some (.text (base.blend accrued field.2)) := by
  induction fields generalizing batch with
  | nil => cases hfield
  | cons first rest ih =>
    obtain ⟨hnew, hrest⟩ := List.nodup_cons.1 hnodup
    rcases List.mem_cons.1 hfield with rfl | hlater
    · refine ⟨batch.textOrNulls field.1, ?_⟩
      exact (cells?_setTexts_of_not_mem hnew).trans (Batch.cells?_putText_self _ _ _)
    · exact ih hrest hlater

/-- Writing again what is there changes nothing. -/
theorem setText_of_cells? {base values : Texts n} {column : String}
    (h : batch.cells? column = some (.text (base.blend accrued values))) :
    setText accrued batch column values = batch := by
  rw [setText, Batch.textOrNulls_of_cells? h, Series.blend_blend, Batch.putText_of_cells? h]

/-- Fields that are all there are not set anew. -/
theorem setTexts_of_cells? {fields : List (String × Texts n)}
    (h : ∀ field ∈ fields, ∃ base : Texts n, batch.cells? field.1 =
      some (.text (base.blend accrued field.2))) : setTexts accrued batch fields = batch := by
  induction fields with
  | nil => rfl
  | cons field rest ih =>
    obtain ⟨⟨base, hbase⟩, hrest⟩ := List.forall_mem_cons.1 h
    have hfield := setText_of_cells? hbase
    rw [setTexts, List.foldl_cons, hfield]
    exact ih hrest

/-- A batch that has its text fields from one with the same sources keeps them as they are. -/
theorem setTextFields_again {source after : Batch n} {departmentAccounts : List String}
    {accountNames : Named String}
    (hfields : ∀ column ∈ textColumns, after.cells? column =
      (setTextFields accrued source departmentAccounts accountNames).cells? column)
    (hsources : ∀ column ∈ textSources, after.cells? column = source.cells? column) :
    setTextFields accrued after departmentAccounts accountNames = after := by
  have hcolumns : (textFields source departmentAccounts accountNames).map (·.1) = textColumns :=
    map_fst_textFields departmentAccounts accountNames
  have hnodup : ((textFields source departmentAccounts accountNames).map (·.1)).Nodup := by
    rw [hcolumns]
    decide
  rw [setTextFields_eq, textFields_congr departmentAccounts accountNames hsources]
  refine setTexts_of_cells? fun field hfield => ?_
  have hcolumn : field.1 ∈ textColumns := hcolumns ▸ List.mem_map_of_mem hfield
  rw [hfields field.1 hcolumn, setTextFields_eq]
  exact cells?_setTexts_of_mem hnodup hfield

/-- The amounts depend on the columns they are computed from. -/
theorem amounts_congr {other : Batch n} {kind : RecordKind}
    (h : ∀ column ∈ amountColumns kind, other.cells? column = batch.cells? column) :
    amounts other kind = amounts batch kind := by
  have hnumber : ∀ column ∈ amountColumns kind, number other column = number batch column := by
    intro column hcolumn
    rw [number, number, Batch.numbers?, Batch.numbers?, h column hcolumn]
  cases kind with
  | order =>
    simp only [amountColumns, List.forall_mem_cons] at hnumber
    simp only [amounts, hnumber.1, hnumber.2.1, hnumber.2.2.1]
  | request => exact hnumber _ List.mem_cons_self

/-- Fields that have been set once are not set anew: neither they nor what is written behind them
stand in a column that they are taken from. -/
theorem setFields_again {m : Nat} {config : ConfigTree} {entity : String} {kind : RecordKind}
    {accounts : Batch m} {source fields after : Batch n}
    (h : setFields config entity kind accounts accrued source = .ok fields)
    (hfields : ∀ column ∈ Schema.accrualAmount :: textColumns, after.cells? column = fields.cells? column)
    (hsources : ∀ column ∈ textSources ++ amountColumns kind, after.cells? column = source.cells? column) :
    setFields config entity kind accounts accrued after = .ok after := by
  obtain ⟨values, hvalues, rfl⟩ := exists_amounts_of_setFields h
  have hapart : ∀ column ∈ textColumns, column ≠ Schema.accrualAmount := by decide
  have htexts : setTextFields accrued after (departmentAccounts config entity)
      (lookup accounts Schema.referenceAccount Schema.referenceDescription) = after := by
    have htextSources : ∀ column ∈ textSources, after.cells? column = source.cells? column :=
      fun column hcolumn => hsources column (List.mem_append_left _ hcolumn)
    refine setTextFields_again (fun column hcolumn => ?_) htextSources
    rw [hfields column (List.mem_cons_of_mem _ hcolumn)]
    exact Batch.cells?_put_of_ne _ (hapart column hcolumn) _
  have hamounts : amounts after kind = .ok values := by
    rw [← hvalues]
    refine amounts_congr fun column hcolumn => ?_
    have hunwritten : column ∉ textColumns := fun hmem =>
      (unwritten_of_mem_amountColumns hcolumn).1 ((by decide : textColumns ⊆ derivedColumns) hmem)
    rw [hsources column (List.mem_append_right _ hcolumn)]
    exact (setTextFields_writesOnly accrued source _ _ column hunwritten).symm
  obtain ⟨base, hamount⟩ : ∃ base : Numbers n, after.cells? Schema.accrualAmount =
      some (.float64 (base.blend accrued values)) :=
    ⟨_, (hfields Schema.accrualAmount List.mem_cons_self).trans (Batch.cells?_put_self _ _ _)⟩
  have hpresent : after.numbersOrNulls Schema.accrualAmount = base.blend accrued values := by
    rw [Batch.numbersOrNulls, Batch.numbers?, hamount]
    rfl
  have hput : after.put Schema.accrualAmount
      (.float64 ((after.numbersOrNulls Schema.accrualAmount).blend accrued values)) = after := by
    rw [hpresent, Series.blend_blend]
    exact Batch.put_of_cells? hamount
  simp only [setFields, htexts, hamounts]
  exact congrArg Except.ok hput

/-- The prepaid rows depend on the one column only. -/
theorem prepaidRows_congr {other : Batch n} (h : other.cells? Schema.entryPrepayAmount =
    batch.cells? Schema.entryPrepayAmount) : prepaidRows accrued other = prepaidRows accrued batch := by
  rw [prepaidRows, prepaidRows, Batch.numbersOrNulls, Batch.numbersOrNulls, Batch.numbers?, Batch.numbers?, h]

/-- Writing the liability a second time changes nothing. -/
theorem setLiability_again {m : Nat} (liabilities : Batch m) {fields after : Batch n}
    (hfields : ∀ column ∈ liabilityColumns,
      after.cells? column = (setLiability liabilities accrued fields).cells? column)
    (hsources : ∀ column ∈ [Schema.entryPrepayAmount, Schema.accountCode],
      after.cells? column = fields.cells? column) : setLiability liabilities accrued after = after := by
  have hprepaid : prepaidRows accrued after = prepaidRows accrued fields :=
    prepaidRows_congr (hsources _ (by decide))
  have haccounts := Batch.textOrNulls_congr (hsources Schema.accountCode (by decide))
  have hflag : after.cells? Schema.prepaidFlag = some (.text
      ((fields.textOrNulls Schema.prepaidFlag).fill (prepaidRows accrued fields) "Y")) := by
    rw [hfields _ (by decide), setLiability, Batch.cells?_putText_of_ne _ (by decide),
      Batch.cells?_putText_self]
  have hliability := hfields Schema.liability (by decide)
  rw [setLiability, Batch.cells?_putText_self] at hliability
  simp only [setLiability, hprepaid, haccounts, Batch.textOrNulls_of_cells? hflag,
    Batch.textOrNulls_of_cells? hliability, Series.fill, Series.blend_blend]
  rw [← Series.fill, Batch.putText_of_cells? hflag]
  exact Batch.putText_of_cells? hliability

/-- Comparing the product codes a second time changes nothing. -/
theorem checkProductCode_again {fields after : Batch n}
    (hcheck : after.cells? Schema.productCodeCheck =
      (checkProductCode fields).cells? Schema.productCodeCheck)
    (hsources : ∀ column ∈ [Schema.project, Schema.bookedProductCode],
      after.cells? column = fields.cells? column) : checkProductCode after = after := by
  have hprojects : after.text? Schema.project = fields.text? Schema.project := by
    rw [Batch.text?, Batch.text?, hsources _ (by decide)]
  have hcodes := Batch.textOrNulls_congr (hsources Schema.bookedProductCode (by decide))
  unfold checkProductCode at hcheck ⊢
  rw [hprojects]
  cases hproject : fields.text? Schema.project with
  | none => rfl
  | some projects =>
    simp only [hproject, Batch.cells?_putText_self] at hcheck
    rw [hcodes]
    exact Batch.putText_of_cells? hcheck

/-- What only orders get is booked once: neither the liabilities nor the checked product codes are taken
from a column that either of them writes. -/
theorem checkProductCode_setLiability_again {m : Nat} (liabilities : Batch m) {fields after : Batch n}
    (hafter : after = checkProductCode (setLiability liabilities accrued fields)) :
    checkProductCode (setLiability liabilities accrued after) = after := by
  let booked := setLiability liabilities accrued fields
  have hbooked : Batch.WritesOnly liabilityColumns fields booked :=
    setLiability_writesOnly liabilities accrued fields
  have hchecked : Batch.WritesOnly [Schema.productCodeCheck] booked after :=
    hafter ▸ checkProductCode_writesOnly booked
  have hsources : ∀ column ∈ [Schema.entryPrepayAmount, Schema.accountCode],
      after.cells? column = fields.cells? column := fun column hcolumn =>
    (hchecked.keeps (by decide) column hcolumn).trans (hbooked.keeps (by decide) column hcolumn)
  have hliability : setLiability liabilities accrued after = after :=
    setLiability_again liabilities (hchecked.keeps (by decide)) hsources
  have hcode : checkProductCode after = after :=
    checkProductCode_again (congrArg (Batch.cells? · _) hafter) (hchecked.keeps (by decide))
  rw [hliability, hcode]

end Accrual

namespace AccrualStage

variable {stage : AccrualStage} {context : Context} {labelled after : Batch n}

/-- What has been derived is derived again from itself: every field is there with the value for its rows,
and no value comes from a column that is written behind it. -/
theorem derive_again (h : stage.derive context labelled = .ok after) :
    stage.derive context after = .ok after := by
  obtain ⟨accounts, fields, hderives⟩ := exists_derives h
  have hwrites := derive_writesOnly h
  have hrows : Accrual.rows after context.kind = Accrual.rows labelled context.kind := by
    rw [Accrual.rows, Accrual.rows,
      Batch.textOrNulls_congr (hwrites _ (Accrual.statusColumn_not_mem_derivedColumns context.kind))]
  have hbehind := hderives.writesOnly
  have hflag : after.putText Schema.accrualFlag (Accrual.flags (Accrual.rows labelled context.kind)) =
      after := by
    refine Batch.putText_of_cells? ?_
    rw [hbehind _ (by decide), Accrual.setFields_writesOnly hderives.set _ (by decide)]
    exact Batch.cells?_putText_self _ _ _
  have hset : Accrual.setFields stage.config context.entity context.kind accounts.batch
      (Accrual.rows labelled context.kind) after = .ok after := by
    have hunwritten : ∀ kind : RecordKind, ∀ column ∈ Accrual.textSources ++ Accrual.amountColumns kind,
        column ∉ Accrual.derivedColumns ∧ column ∉ [Schema.accrualFlag] := by
      intro kind
      cases kind <;> decide
    refine Accrual.setFields_again hderives.set (hbehind.keeps (by decide)) fun column hcolumn => ?_
    obtain ⟨hderived, hflags⟩ := hunwritten context.kind column hcolumn
    exact (hwrites column hderived).trans (Accrual.flags_writesOnly _ labelled column hflags).symm
  simp only [derive, hrows, hflag, dataset_eq_ok_iff.2 hderives.found, Except.ok_bind, hset]
  cases hkind : context.kind with
  | request => rfl
  | order =>
    obtain ⟨liabilities, hliabilities, hafter⟩ := hderives.order hkind
    rw [hkind] at hafter
    have hbooked := Accrual.checkProductCode_setLiability_again liabilities.batch hafter
    simp only [dataset_eq_ok_iff.2 hliabilities, Except.ok_bind, hbooked]
    rfl

end AccrualStage

end PurchaseStatus
