import PurchaseStatus.Engine.Labeling
import PurchaseStatus.Proofs.Check.Remarks
import PurchaseStatus.Proofs.Check.Requirements

namespace PurchaseStatus

variable {n m : Nat} {pairs : Fin n → Fin m → Prop} {a : CheckInput n} {b : CheckInput m}

/-- The fixed columns that a built-in check reads. `no_status` reads the status column instead,
whatever its name. -/
def Builtin.fixedColumns : Builtin → List String
  | noStatus => []
  | ermLeDate | ermGtDate => [Schema.expectedMonth]
  | ermInRange | outOfRange => [Schema.expectedMonth, Schema.descriptionPeriod]
  | descErmLeDate | descErmGtDate | descErmNotError | formatError => [Schema.descriptionPeriod]
  | qtyMatched | qtyNotMatched => [Schema.entryQuantity, Schema.receivedQuantity]
  | notBilled => [Schema.entryBilledAmount]
  | hasBilling => [Schema.billedQuantity]
  | fullyBilled | hasUnpaid => [Schema.entryAmount, Schema.entryBilledAmount]
  | remarkCompleted => [Schema.procurementRemark, Schema.financeRemark]
  | prNotIncomplete => [Schema.financeRequestRemark]
  | notError => [Schema.procurementRemark]
  | isFa | notFa => [Schema.glAccount]

/-- The names of the built-in checks tell them apart. -/
theorem Builtin.name_injective {b c : Builtin} (h : b.name = c.name) : b = c := by
  have hname := ofName?_name b
  rw [h, ofName?_name, Option.some_inj] at hname
  exact hname.symm

/-- No built-in check reads the notes. -/
theorem Builtin.matchedNote_not_mem_fixedColumns (b : Builtin) :
    Schema.matchedNote ∉ b.fixedColumns := by
  cases b <;> decide

/-- The column that a configured check names. -/
def Check.field? : Check → Option String
  | contains field _ _ | equals field _ _ | inList field _ _ | isNull field _ => field
  | builtin _ | prebuilt _ | always => none

/-- The columns that a check reads, the status column apart: `no_status` reads that under any name. -/
def Check.columns : Check → List String
  | contains field _ _ | equals field _ _ | inList field _ _ | isNull field _ => field.toList
  | builtin b => b.fixedColumns
  | prebuilt _ | always => []

/-- The field that a check names is among the columns that it reads. -/
theorem Check.mem_columns_of_field? {check : Check} {column : String}
    (hfield : check.field? = some column) : column ∈ check.columns := by
  cases check with
  | builtin _ | prebuilt _ | always => cases hfield
  | contains field _ _ | equals field _ _ | inList field _ _ | isNull field _ =>
    exact Option.mem_toList.2 hfield

/-- Only a check that names the note column reads it. -/
theorem Check.field?_of_matchedNote_mem_columns {check : Check}
    (hnote : Schema.matchedNote ∈ check.columns) : check.field? = some Schema.matchedNote := by
  cases check with
  | builtin b => exact absurd hnote (Builtin.matchedNote_not_mem_fixedColumns b)
  | prebuilt _ | always => cases hnote
  | contains field _ _ | equals field _ _ | inList field _ _ | isNull field _ =>
    exact Option.mem_toList.1 hnote

/-- A check for registered masks only does not go under the name of a built-in check. -/
def Check.WellNamed : Check → Prop
  | prebuilt name => Builtin.ofName? name = none
  | _ => True

/-- A type becomes a mask only if it is the name of nothing else. -/
theorem CheckConfig.wellNamed_compile (config : CheckConfig) (tree : ConfigTree) :
    (config.compile tree).WellNamed := by
  unfold compile
  split
  case h_5 =>
    split
    · trivial
    · rename_i h
      exact h
  all_goals trivial

/-- No comparison goes by the name of a built-in check. -/
theorem Comparison.ofName?_name_eq_none (comparison : Comparison) (negate : Bool) :
    Builtin.ofName? (comparison.name negate) = none := by
  cases comparison <;> cases negate <;> rfl

/-- Two inputs of one run: they differ at most in the batch and in the registered masks. -/
structure CheckInput.SameRun (a : CheckInput n) (b : CheckInput m) : Prop where
  statusColumn : a.statusColumn = b.statusColumn
  date : a.date = b.date
  entity : a.entity = b.entity
  config : a.config = b.config

namespace CheckInput

/-- A comparison of the expected month with the date looks at one row at a time. -/
theorem SameRun.monthAgainstDate?_whenBoth (hrun : a.SameRun b)
    (hmonth : Batch.ReadAlike pairs Schema.expectedMonth a.batch b.batch)
    (compare : Int → Int → Bool) :
    Option.WhenBoth (Series.AgreeOn pairs) (a.monthAgainstDate? compare) (b.monthAgainstDate? compare) := by
  unfold CheckInput.monthAgainstDate?
  rw [hrun.date]
  cases b.date with
  | none => exact .of_rel .none
  | some date => exact hmonth.integers.bind fun _ _ h => .of_rel (.some (h.rowsWhere _ _))

/-- A test of the period looks at one row at a time. -/
theorem periodsWhere?_whenBoth
    (hperiod : Batch.ReadAlike pairs Schema.descriptionPeriod a.batch b.batch) (p : String → Bool) :
    Option.WhenBoth (Series.AgreeOn pairs) (a.periodsWhere? p) (b.periodsWhere? p) :=
  hperiod.texts.map fun _ _ h => h.rowsWhere _ _

/-- The month and the period of a row are read in that row. -/
theorem monthsInPeriods?_whenBoth
    (hmonth : Batch.ReadAlike pairs Schema.expectedMonth a.batch b.batch)
    (hperiod : Batch.ReadAlike pairs Schema.descriptionPeriod a.batch b.batch) :
    Option.WhenBoth (Series.AgreeOn pairs) a.monthsInPeriods? b.monthsInPeriods? := by
  refine hmonth.integers.bind fun _ _ hmonths => ?_
  exact hperiod.texts.bind fun _ _ hperiods => .of_rel (.some (hmonths.zipWith hperiods _))

/-- The unbilled amount of a row is the difference of two cells in that row. -/
theorem unbilled?_whenBoth
    (hamount : Batch.ReadAlike pairs Schema.entryAmount a.batch b.batch)
    (hbilled : Batch.ReadAlike pairs Schema.entryBilledAmount a.batch b.batch) :
    Option.WhenBoth (Series.AgreeOn pairs) a.unbilled? b.unbilled? := by
  refine hamount.numbers.bind fun _ _ hamounts => ?_
  exact hbilled.numbers.bind fun _ _ hbilled => .of_rel (.some (hamounts.zipWith hbilled _))

/-- Remarks are looked through row by row, and a row without a remark is one in which no day stands either. -/
theorem remarksWhere_agree {column : String} (hremark : Batch.ReadAlike pairs column a.batch b.batch)
    {onNull : Bool} {p : String → Bool}
    (hp : ∀ {day text}, Calendar.dayText? day = some text → p text = onNull) :
    Series.AgreeOn pairs ((a.batch.textOrNulls column).rowsWhere onNull p)
      ((b.batch.textOrNulls column).rowsWhere onNull p) := by
  intro i j hij
  rw [Series.get_rowsWhere, Series.get_rowsWhere]
  exact (hremark.remarks i j hij).elim_eq hp

end CheckInput

/-- Whether something that a check needs is there does not depend on any row. -/
theorem CheckInput.SameRun.isMet_eq (hrun : a.SameRun b) {need : Requirement}
    (hcolumn : ∀ column, need.column? = some column → Batch.AgreeOn pairs column a.batch b.batch) :
    need.isMet a = need.isMet b := by
  cases need with
  | text column => exact (hcolumn column rfl).texts.isSome_eq
  | numbers column => exact (hcolumn column rfl).numbers.isSome_eq
  | integers column => exact (hcolumn column rfl).integers.isSome_eq
  | date => simp only [Requirement.isMet, hrun.date]
  | accounts => simp only [Requirement.isMet, hrun.config, hrun.entity]

namespace Builtin

/-- The sentinel is recognised in the row where it stands. -/
theorem outOfRangeMask?_whenBoth
    (hmonth : Batch.ReadAlike pairs Schema.expectedMonth a.batch b.batch)
    (hperiod : Batch.ReadAlike pairs Schema.descriptionPeriod a.batch b.batch) :
    Option.WhenBoth (Series.AgreeOn pairs) (outOfRangeMask? a) (outOfRangeMask? b) := by
  refine (CheckInput.monthsInPeriods?_whenBoth hmonth hperiod).bind fun _ _ hmonths => ?_
  refine hperiod.texts.bind fun _ _ hperiods => .of_rel (.some ?_)
  exact Mask.agreeOn_andNot (hmonths.rowsWhere _ _) (hperiods.rowsWhere _ _)

theorem qtyMatchedMask?_whenBoth
    (hentry : Batch.ReadAlike pairs Schema.entryQuantity a.batch b.batch)
    (hreceived : Batch.ReadAlike pairs Schema.receivedQuantity a.batch b.batch) :
    Option.WhenBoth (Series.AgreeOn pairs) (qtyMatchedMask? a) (qtyMatchedMask? b) := by
  refine hentry.texts.bind fun _ _ hentryTexts => ?_
  refine hreceived.texts.bind fun _ _ hreceivedTexts => ?_
  refine hentry.numbers.bind fun _ _ hentries => ?_
  refine hreceived.numbers.bind fun _ _ hreceived => .of_rel (.some ?_)
  exact (hentries.zipWith hreceived _).zipWith (hentryTexts.zipWith hreceivedTexts _) _

/-- A remark is looked for in two columns, and nothing else in the row counts. -/
theorem remarkCompletedMask_agree
    (hprocurement : Batch.ReadAlike pairs Schema.procurementRemark a.batch b.batch)
    (hfinance : Batch.ReadAlike pairs Schema.financeRemark a.batch b.batch) :
    Series.AgreeOn pairs (remarkCompletedMask a) (remarkCompletedMask b) :=
  Mask.agreeOn_or (CheckInput.remarksWhere_agree hprocurement mentionsCompletion_dayText?)
    (CheckInput.remarksWhere_agree hfinance mentionsBooking_dayText?)

/-- A missing column reads as one in which no row has a remark. -/
theorem prNotIncompleteMask_eq (input : CheckInput n) : prNotIncompleteMask input =
    (input.batch.textOrNulls Schema.financeRequestRemark).rowsWhere true
      fun remark => !Text.contains remark "未完成" := by
  unfold prNotIncompleteMask Batch.textOrNulls
  cases input.batch.text? Schema.financeRequestRemark with
  | none => exact Series.ext_get fun row => by simp
  | some remarks => rfl

/-- A column that is not there holds no error. -/
theorem notErrorMask_eq (input : CheckInput n) : notErrorMask input =
    (input.batch.textOrNulls Schema.procurementRemark).rowsWhere true (· != "error") := by
  unfold notErrorMask Batch.textOrNulls
  cases input.batch.text? Schema.procurementRemark with
  | none => exact Series.ext_get fun row => by simp
  | some remarks => rfl

/-- The accounts come from the configuration, which all rows share. -/
theorem isFaMask?_whenBoth (hrun : a.SameRun b)
    (hledger : Batch.ReadAlike pairs Schema.glAccount a.batch b.batch) :
    Option.WhenBoth (Series.AgreeOn pairs) (isFaMask? a) (isFaMask? b) := by
  unfold isFaMask?
  rw [hrun.config, hrun.entity]
  cases b.config.resolveList? (fixedAssetPath b.entity) with
  | none => exact .of_rel .none
  | some accounts => exact hledger.texts.bind fun _ _ h => .of_rel (.some (h.rowsWhere _ _))

/-- The own logic of a built-in check other than `no_status` looks only at paired rows of its fixed columns:
wherever it gives masks for both inputs, the masks agree. -/
theorem compute?_whenBoth {builtin : Builtin} (hne : builtin ≠ noStatus) (hrun : a.SameRun b)
    (hcolumns : ∀ column ∈ builtin.fixedColumns, Batch.ReadAlike pairs column a.batch b.batch)
    (hmasks : ∀ base : Builtin, base ≠ noStatus →
      Option.Rel (Series.AgreeOn pairs) (a.registered? base.name) (b.registered? base.name)) :
    Option.WhenBoth (Series.AgreeOn pairs) (builtin.compute? a) (builtin.compute? b) := by
  cases builtin with
  | noStatus => exact absurd rfl hne
  | ermLeDate => exact hrun.monthAgainstDate?_whenBoth (hcolumns _ (by simp [fixedColumns])) _
  | ermGtDate => exact hrun.monthAgainstDate?_whenBoth (hcolumns _ (by simp [fixedColumns])) _
  | ermInRange =>
    refine (CheckInput.monthsInPeriods?_whenBoth ?_ ?_).map fun _ _ h => h.rowsWhere _ _
    · exact hcolumns _ (by simp [fixedColumns])
    · exact hcolumns _ (by simp [fixedColumns])
  | outOfRange =>
    exact outOfRangeMask?_whenBoth (hcolumns _ (by simp [fixedColumns])) (hcolumns _ (by simp [fixedColumns]))
  | descErmLeDate =>
    simp only [compute?, hrun.date]
    refine .bind (.of_rel (.refl (fun _ => rfl) b.date)) ?_
    rintro date _ rfl
    exact CheckInput.periodsWhere?_whenBoth (hcolumns _ (by simp [fixedColumns])) _
  | descErmGtDate =>
    simp only [compute?, hrun.date]
    refine .bind (.of_rel (.refl (fun _ => rfl) b.date)) ?_
    rintro date _ rfl
    exact CheckInput.periodsWhere?_whenBoth (hcolumns _ (by simp [fixedColumns])) _
  | descErmNotError => exact CheckInput.periodsWhere?_whenBoth (hcolumns _ (by simp [fixedColumns])) _
  | formatError => exact CheckInput.periodsWhere?_whenBoth (hcolumns _ (by simp [fixedColumns])) _
  | qtyMatched =>
    exact qtyMatchedMask?_whenBoth (hcolumns _ (by simp [fixedColumns])) (hcolumns _ (by simp [fixedColumns]))
  | qtyNotMatched =>
    refine (Option.WhenBoth.or (hmasks qtyMatched (by decide)) ?_).map fun _ _ h => Mask.agreeOn_not h
    exact qtyMatchedMask?_whenBoth (hcolumns _ (by simp [fixedColumns])) (hcolumns _ (by simp [fixedColumns]))
  | notBilled => exact (hcolumns _ (by simp [fixedColumns])).numbers.map fun _ _ h => h.rowsWhere _ _
  | hasBilling => exact (hcolumns _ (by simp [fixedColumns])).numbers.map fun _ _ h => h.rowsWhere _ _
  | fullyBilled =>
    refine (CheckInput.unbilled?_whenBoth ?_ ?_).map fun _ _ h => h.rowsWhere _ _
    · exact hcolumns _ (by simp [fixedColumns])
    · exact hcolumns _ (by simp [fixedColumns])
  | hasUnpaid =>
    refine (CheckInput.unbilled?_whenBoth ?_ ?_).map fun _ _ h => h.rowsWhere _ _
    · exact hcolumns _ (by simp [fixedColumns])
    · exact hcolumns _ (by simp [fixedColumns])
  | remarkCompleted =>
    refine .of_rel (.some (remarkCompletedMask_agree ?_ ?_))
    · exact hcolumns _ (by simp [fixedColumns])
    · exact hcolumns _ (by simp [fixedColumns])
  | prNotIncomplete =>
    refine .of_rel (.some ?_)
    rw [prNotIncompleteMask_eq, prNotIncompleteMask_eq]
    exact CheckInput.remarksWhere_agree (hcolumns _ (by simp [fixedColumns])) not_incomplete_dayText?
  | notError =>
    refine .of_rel (.some ?_)
    rw [notErrorMask_eq, notErrorMask_eq]
    exact CheckInput.remarksWhere_agree (hcolumns _ (by simp [fixedColumns])) not_error_dayText?
  | isFa => exact isFaMask?_whenBoth hrun (hcolumns _ (by simp [fixedColumns]))
  | notFa =>
    refine (Option.WhenBoth.or (hmasks isFa (by decide)) ?_).map fun _ _ h => Mask.agreeOn_not h
    exact isFaMask?_whenBoth hrun (hcolumns _ (by simp [fixedColumns]))

/-- Where a built-in check is evaluated on two inputs, paired rows get the same answer. The check for a
missing status is left out, as its mask is kept while rules are applied. -/
theorem evaluate?_whenBoth {builtin : Builtin} (hne : builtin ≠ noStatus) (hrun : a.SameRun b)
    (hcolumns : ∀ column ∈ builtin.fixedColumns, Batch.ReadAlike pairs column a.batch b.batch)
    (hmasks : ∀ base : Builtin, base ≠ noStatus →
      Option.Rel (Series.AgreeOn pairs) (a.registered? base.name) (b.registered? base.name)) :
    Option.WhenBoth (Series.AgreeOn pairs) (builtin.evaluate? a) (builtin.evaluate? b) :=
  .or (hmasks builtin hne) (compute?_whenBoth hne hrun hcolumns hmasks)

/-- All that a built-in check needs of the batch stands in its fixed columns. -/
theorem column_mem_fixedColumns {builtin : Builtin} {need : Requirement} (hneed : need ∈ builtin.requirements)
    {column : String} (hcolumn : need.column? = some column) : column ∈ builtin.fixedColumns := by
  have hall : ∀ need ∈ builtin.requirements, need.column?.all (· ∈ builtin.fixedColumns) = true := by
    cases builtin <;> decide
  have hmem := hall need hneed
  rw [hcolumn, Option.all_some, decide_eq_true_eq] at hmem
  exact hmem

/-- A mask for `no_status` is taken by that check alone. -/
theorem exists_of_mem_maskNames {builtin : Builtin} (hne : builtin ≠ noStatus) {name : String}
    (hname : name ∈ builtin.maskNames) : ∃ base : Builtin, base ≠ noStatus ∧ name = base.name := by
  rw [maskNames, List.mem_cons, List.mem_map] at hname
  rcases hname with rfl | ⟨base, hbase, rfl⟩
  · exact ⟨builtin, hne, rfl⟩
  · refine ⟨base, ?_, rfl⟩
    rintro rfl
    cases builtin <;> cases Option.mem_toList.1 hbase

/-- A built-in check other than `no_status` looks only at paired rows of its fixed columns and of the
registered masks. Whether it can be evaluated does not depend on any row. -/
theorem evaluate?_agree {builtin : Builtin} (hne : builtin ≠ noStatus) (hrun : a.SameRun b)
    (hcolumns : ∀ column ∈ builtin.fixedColumns, Batch.AgreeOn pairs column a.batch b.batch)
    (hmasks : ∀ base : Builtin, base ≠ noStatus →
      Option.Rel (Series.AgreeOn pairs) (a.registered? base.name) (b.registered? base.name)) :
    Option.Rel (Series.AgreeOn pairs) (builtin.evaluate? a) (builtin.evaluate? b) := by
  refine (evaluate?_whenBoth hne hrun (fun column hcolumn => (hcolumns column hcolumn).readAlike)
    hmasks).rel ?_
  have hmask : ∀ name ∈ builtin.maskNames, (a.registered? name).isSome = (b.registered? name).isSome := by
    intro name hname
    obtain ⟨base, hbase, rfl⟩ := exists_of_mem_maskNames hne hname
    exact (hmasks base hbase).isSome_eq
  have hneed : ∀ need ∈ builtin.requirements, need.isMet a = need.isMet b := fun need hneed =>
    hrun.isMet_eq fun column hcolumn => hcolumns column (column_mem_fixedColumns hneed hcolumn)
  rw [isSome_evaluate?, isSome_evaluate?, any_registered?_eq hmask, all_isMet_eq hneed]

end Builtin

namespace Check

/-- A negation looks at one row at a time. -/
theorem negateIf_agree {mask : Mask n} {mask' : Mask m} (h : Series.AgreeOn pairs mask mask')
    (negate : Bool) : Series.AgreeOn pairs (negateIf negate mask) (negateIf negate mask') := by
  cases negate with
  | false => exact h
  | true => exact Mask.agreeOn_not h

/-- A comparison with a value looks at one row at a time, in whichever way the value asks the column to
be read. -/
theorem equalsMask?_whenBoth {column : String} (hcolumn : Batch.ReadAlike pairs column a.batch b.batch)
    (expected : Expected) : Option.WhenBoth (Series.AgreeOn pairs) (equalsMask? a column expected)
      (equalsMask? b column expected) := by
  cases expected with
  | int want => exact hcolumn.integers.map fun _ _ h => h.rowsWhere _ _
  | float want => exact hcolumn.numbers.map fun _ _ h => h.rowsWhere _ _
  | text want => exact hcolumn.texts.map fun _ _ h => h.rowsWhere _ _

/-- The own logic of a check looks only at paired rows: those of the column that it names, or of what its
built-in check reads. Wherever it gives masks for both inputs, the masks agree. -/
theorem compute?_whenBoth {check : Check}
    (hfield : ∀ column, check.field? = some column → Batch.ReadAlike pairs column a.batch b.batch)
    (hbuiltin : ∀ builtin : Builtin, check = .builtin builtin →
      Option.WhenBoth (Series.AgreeOn pairs) (builtin.evaluate? a) (builtin.evaluate? b)) :
    Option.WhenBoth (Series.AgreeOn pairs) (check.compute? a) (check.compute? b) := by
  cases check with
  | contains field pattern negate =>
    cases field with
    | none => exact .of_rel .none
    | some column =>
      refine (hfield column rfl).texts.bind fun _ _ hvalues => .of_rel ?_
      cases pattern with
      | none => exact .none
      | some pattern => exact .some (negateIf_agree (hvalues.rowsWhere _ _) negate)
  | equals field expected negate =>
    cases field with
    | none => exact .of_rel .none
    | some column =>
      cases expected with
      | none => exact .of_rel .none
      | some expected =>
        refine (equalsMask?_whenBoth (hfield column rfl) expected).bind fun _ _ hmask => .of_rel ?_
        exact .some (negateIf_agree hmask negate)
  | inList field values negate =>
    cases field with
    | none => exact .of_rel .none
    | some column =>
      refine (hfield column rfl).texts.bind fun _ _ hvalues => .of_rel ?_
      cases values with
      | none => exact .none
      | some values => exact .some (negateIf_agree (hvalues.rowsWhere _ _) negate)
  | isNull field negate =>
    cases field with
    | none => exact .of_rel .none
    | some column =>
      refine (hfield column rfl).texts.bind fun _ _ hvalues => .of_rel ?_
      exact .some (negateIf_agree (hvalues.map _) negate)
  | builtin builtin => exact hbuiltin builtin rfl
  | prebuilt name => exact .of_rel .none
  | always => exact .of_rel (.some (Series.agreeOn_constant true))

/-- What a check other than a built-in one needs of the batch stands in the column that it names. -/
theorem field?_of_requirements? {check : Check} (hbuiltin : ∀ b, check ≠ builtin b) {needs : List Requirement}
    (hneeds : check.requirements? = some needs) {need : Requirement} (hneed : need ∈ needs) {column : String}
    (hcolumn : need.column? = some column) : check.field? = some column := by
  cases check with
  | builtin b => exact absurd rfl (hbuiltin b)
  | prebuilt _ => cases hneeds
  | always =>
    cases hneeds
    cases hneed
  | contains field pattern _ =>
    cases field <;> cases pattern <;> cases hneeds
    cases List.mem_singleton.1 hneed
    exact hcolumn
  | equals field expected _ =>
    cases field <;> rcases expected with _ | ⟨_ | _ | _⟩ <;> cases hneeds <;>
      cases List.mem_singleton.1 hneed <;> exact hcolumn
  | inList field values _ =>
    cases field <;> cases values <;> cases hneeds
    cases List.mem_singleton.1 hneed
    exact hcolumn
  | isNull field _ =>
    cases field <;> cases hneeds
    cases List.mem_singleton.1 hneed
    exact hcolumn

/-- All that a check needs of the batch stands in its columns. -/
theorem column_mem_columns {check : Check} {needs : List Requirement} (hneeds : check.requirements? = some needs)
    {need : Requirement} (hneed : need ∈ needs) {column : String} (hcolumn : need.column? = some column) :
    column ∈ check.columns := by
  by_cases hbuilt : ∃ b, check = builtin b
  · obtain ⟨b, rfl⟩ := hbuilt
    cases hneeds
    exact Builtin.column_mem_fixedColumns hneed hcolumn
  · exact mem_columns_of_field? (field?_of_requirements? (not_exists.1 hbuilt) hneeds hneed hcolumn)

/-- Where also the columns can be read in both inputs or in neither, the same holds of the check. -/
theorem compute?_agree {check : Check} (hrun : a.SameRun b)
    (hfield : ∀ column, check.field? = some column → Batch.AgreeOn pairs column a.batch b.batch)
    (hbuiltin : ∀ builtin : Builtin, check = .builtin builtin →
      Option.Rel (Series.AgreeOn pairs) (builtin.evaluate? a) (builtin.evaluate? b)) :
    Option.Rel (Series.AgreeOn pairs) (check.compute? a) (check.compute? b) := by
  by_cases hother : ∃ b, check = builtin b
  · obtain ⟨b, rfl⟩ := hother
    exact hbuiltin b rfl
  · rw [not_exists] at hother
    refine (compute?_whenBoth (fun column hcolumn => (hfield column hcolumn).readAlike)
      fun b hb => absurd hb (hother b)).rel ?_
    rw [isSome_compute?_of_not_builtin _ _ hother, isSome_compute?_of_not_builtin _ _ hother]
    cases hneeds : check.requirements? with
    | none => rfl
    | some needs =>
      have hmet : ∀ need ∈ needs, need.isMet a = need.isMet b := fun need hneed =>
        hrun.isMet_eq fun column hcolumn =>
          hfield column (field?_of_requirements? hother hneeds hneed hcolumn)
      exact all_isMet_eq hmet

/-- Of the masks under other names than those of built-in checks, a check takes at most the one under its own
name. -/
theorem registered?_agree {check : Check} (hnamed : check.WellNamed) (hbuiltin : ∀ b, check ≠ builtin b)
    (hother : ∀ name, Builtin.ofName? name = none →
      Option.Rel (Series.AgreeOn pairs) (a.registered? name) (b.registered? name)) :
    Option.Rel (Series.AgreeOn pairs) (a.registered? check.name) (b.registered? check.name) := by
  cases check with
  | builtin b => exact absurd rfl (hbuiltin b)
  | prebuilt name => exact hother name hnamed
  | always => exact hother "always" (by decide)
  | contains _ _ negate | equals _ _ negate | inList _ _ negate | isNull _ negate =>
    exact hother _ (Comparison.ofName?_name_eq_none _ negate)

/-- Checks agree in paired rows where the columns that they name, the built-in checks and the masks
registered under other names do. -/
theorem evaluate?_agree {check : Check} (hnamed : check.WellNamed) (hrun : a.SameRun b)
    (hfield : ∀ column, check.field? = some column → Batch.AgreeOn pairs column a.batch b.batch)
    (hbuiltin : ∀ builtin : Builtin, check = .builtin builtin →
      Option.Rel (Series.AgreeOn pairs) (builtin.evaluate? a) (builtin.evaluate? b))
    (hother : ∀ name, Builtin.ofName? name = none →
      Option.Rel (Series.AgreeOn pairs) (a.registered? name) (b.registered? name)) :
    Option.Rel (Series.AgreeOn pairs) (check.evaluate? a) (check.evaluate? b) := by
  by_cases hbuilt : ∃ b, check = builtin b
  · obtain ⟨b, rfl⟩ := hbuilt
    rw [evaluate?_builtin, evaluate?_builtin]
    exact hbuiltin b rfl
  · rw [not_exists] at hbuilt
    exact (registered?_agree hnamed hbuilt hother).or (compute?_agree hrun hfield hbuiltin)

/-- Without regard to whether the columns can be read: wherever a check can be evaluated on both inputs, its
masks agree in paired rows. -/
theorem evaluate?_whenBoth {check : Check} (hnamed : check.WellNamed)
    (hfield : ∀ column, check.field? = some column → Batch.ReadAlike pairs column a.batch b.batch)
    (hbuiltin : ∀ builtin : Builtin, check = .builtin builtin →
      Option.WhenBoth (Series.AgreeOn pairs) (builtin.evaluate? a) (builtin.evaluate? b))
    (hother : ∀ name, Builtin.ofName? name = none →
      Option.Rel (Series.AgreeOn pairs) (a.registered? name) (b.registered? name)) :
    Option.WhenBoth (Series.AgreeOn pairs) (check.evaluate? a) (check.evaluate? b) := by
  by_cases hbuilt : ∃ b, check = builtin b
  · obtain ⟨b, rfl⟩ := hbuilt
    rw [evaluate?_builtin, evaluate?_builtin]
    exact hbuiltin b rfl
  · rw [not_exists] at hbuilt
    exact .or (registered?_agree hnamed hbuilt hother) (compute?_whenBoth hfield hbuiltin)

end Check

/-- The combined mask of a rule looks only at the rows that its checks look at. -/
theorem Rule.mask?_agree {rule : Rule}
    (hchecks : ∀ check ∈ rule.checks,
      Option.Rel (Series.AgreeOn pairs) (check.evaluate? a) (check.evaluate? b)) :
    Option.Rel (Series.AgreeOn pairs) (rule.mask? a) (rule.mask? b) := by
  have hmasks : List.Forall₂ (Series.AgreeOn pairs) (rule.checks.filterMap (·.evaluate? a))
      (rule.checks.filterMap (·.evaluate? b)) := by
    refine List.rel_filterMap (R := fun check check' => check = check' ∧ check ∈ rule.checks) ?_ ?_
    · rintro check _ ⟨rfl, hmem⟩
      exact hchecks check hmem
    · exact List.forall₂_same.2 fun check hmem => ⟨rfl, hmem⟩
  unfold Rule.mask?
  cases rule.combine with
  | and => exact Mask.agreeOn_allOf hmasks
  | or => exact Mask.agreeOn_anyOf hmasks

end PurchaseStatus
