import PurchaseStatus.Proofs.Engine.Rerun
import PurchaseStatus.Proofs.Step.AccrualReport
import PurchaseStatus.Proofs.Step.Rederivation

namespace PurchaseStatus

variable {n : Nat}

theorem Batch.hasColumn_of_text {batch : Batch n} {column : String}
    (h : ∃ values, batch.cells? column = some (.text values)) : batch.hasColumn column = true := by
  obtain ⟨values, hvalues⟩ := h
  rw [hasColumn, hvalues]
  rfl

namespace AccrualStage

/-- The columns that are written once the rules begin to be applied, the status apart. -/
def writtenColumns : RecordKind → List String
  | .order => Schema.matchedNote :: Accrual.derivedColumns
  | .request => Schema.matchedNote :: Schema.accrualFlag :: Schema.accrualAmount :: Accrual.textColumns

/-- A stage whose rules give no blank status and compare no column that it writes, but for the status. -/
structure Repeatable (stage : AccrualStage) (kind : RecordKind) : Prop where
  config : stage.engine.config = stage.config
  lasting : ∀ rule ∈ stage.engine.rules, rule.Lasting
  named : ∀ rule ∈ stage.engine.rules, ∀ check ∈ rule.checks, check.WellNamed
  unread : ∀ rule ∈ stage.engine.rules, ∀ check ∈ rule.checks, ∀ column,
    check.field? = some column → column ∉ writtenColumns kind

/-- The declared rules and behind them the fallbacks. -/
def allRules (stage : AccrualStage) (kind : RecordKind) : List Rule :=
  stage.engine.rules ++ (fallbacks kind).map Fallback.toRule

/-- No built-in check reads a column that the stage derives, or the status. -/
theorem fixedColumns_unwritten (kind : RecordKind) (builtin : Builtin) :
    ∀ column ∈ builtin.fixedColumns, column ∉ writtenColumns kind ∧ column ≠ kind.statusColumn := by
  cases kind <;> cases builtin <;> decide

/-- A fallback reads no column of its own and no mask of another's name. -/
theorem checks_fallback {kind : RecordKind} {fallback : Fallback} (hfallback : fallback ∈ fallbacks kind)
    {check : Check} (hcheck : check ∈ fallback.toRule.checks) :
    check.WellNamed ∧ check.field? = none := by
  have hcondition : check = fallback.condition := List.mem_singleton.1 hcheck
  unfold fallbacks at hfallback
  rcases List.mem_cons.1 hfallback with rfl | hrest
  · rw [hcondition]
    exact ⟨trivial, rfl⟩
  · cases kind with
    | order => cases hrest
    | request =>
      cases List.mem_singleton.1 hrest
      rw [hcondition]
      exact ⟨trivial, rfl⟩

namespace Repeatable

variable {stage : AccrualStage} {kind : RecordKind} (h : stage.Repeatable kind)

include h

/-- Every rule of the stage, declared or fallback, gives a status that lasts. -/
theorem lasting_allRules {rule : Rule} (hrule : rule ∈ stage.allRules kind) : rule.Lasting :=
  (List.mem_append.1 hrule).elim (h.lasting rule) (lasting_fallbacks kind)

/-- No rule of the stage takes a mask under the name of a built-in check. -/
theorem named_allRules {rule : Rule} (hrule : rule ∈ stage.allRules kind) :
    ∀ check ∈ rule.checks, check.WellNamed := by
  rcases List.mem_append.1 hrule with hdeclared | hlast
  · exact h.named rule hdeclared
  · obtain ⟨fallback, hfallback, rfl⟩ := List.mem_map.1 hlast
    exact fun check hcheck => (checks_fallback hfallback hcheck).1

/-- No rule of the stage reads a column that the stage derives. -/
theorem unread_allRules {rule : Rule} (hrule : rule ∈ stage.allRules kind) :
    ∀ check ∈ rule.checks, ∀ column, check.field? = some column → column ∉ writtenColumns kind := by
  rcases List.mem_append.1 hrule with hdeclared | hlast
  · exact h.unread rule hdeclared
  · obtain ⟨fallback, hfallback, rfl⟩ := List.mem_map.1 hlast
    intro check hcheck column hfield
    rw [(checks_fallback hfallback hcheck).2] at hfield
    cases hfield

end Repeatable

section Labels

variable {stage : AccrualStage} {kind : RecordKind} (h : stage.Repeatable kind) (batch : Batch n)
  (date : Int) (entity : String)

/-- The whole of the rules and the fallbacks, as one run. -/
def labelled (stage : AccrualStage) (batch : Batch n) (kind : RecordKind) (date : Int) (entity : String) :
    Labeling n :=
  (stage.ruleStart batch kind date entity).applyAll (stage.ruleTask batch kind date entity)
    (stage.allRules kind)

include h

/-- Labelling with fallbacks is one run of all rules. -/
theorem batch_label : (stage.label batch kind date entity).batch =
    (stage.labelled batch kind date entity).batch := by
  have happend := Labeling.applyAll_append_eq_after (stage.ruleTask batch kind date entity)
    kind.statusColumn_ne_matchedNote batch (stage.ruleContext batch kind date entity).masks
    ((fallbacks kind).map Fallback.toRule) h.lasting
  exact (congrArg Labeling.batch happend).symm

/-- The rules and the fallbacks begin with a state from which they can be repeated. -/
theorem stable_ruleStart (htext : ∃ values, batch.cells? kind.statusColumn = some (.text values)) :
    (stage.ruleStart batch kind date entity).Stable (stage.ruleTask batch kind date entity)
      (stage.allRules kind) where
  coherent := Labeling.coherent_start _ batch _
  fresh := fresh_ruleStart h.config date entity (Batch.hasColumn_of_text htext)
  status := Batch.exists_text_ensureText (.inr htext)
  named _ hrule := h.named_allRules hrule
  note rule hrule check hcheck hfield := by
    refine absurd ?_ (h.unread_allRules hrule check hcheck _ hfield)
    cases kind <;> exact List.mem_cons_self

/-- The status column is text after labelling if it was before. -/
theorem exists_text_label (htext : ∃ values, batch.cells? kind.statusColumn = some (.text values)) :
    ∃ values, (stage.label batch kind date entity).batch.cells? kind.statusColumn =
      some (.text values) := by
  have hstart := (stable_ruleStart h batch date entity htext).status
  have hframe := Labeling.frame_applyAll (stage.allRules kind) (stage.ruleTask batch kind date entity)
    (stage.ruleStart batch kind date entity)
  rw [batch_label h]
  rcases hframe.written kind.statusColumn with hsame | hwritten
  · rw [labelled, hsame]
    exact hstart
  · exact hwritten

end Labels

section Claims

variable {stage : AccrualStage} {kind : RecordKind} (h : stage.Repeatable kind) {batch again : Batch n}
  (date : Int) (entity : String)
  (hcells : ∀ column, column ≠ kind.statusColumn → column ∉ writtenColumns kind →
    again.cells? column = batch.cells? column)

include h hcells

/-- A rule sees the same of two batches in a row of one status text. -/
theorem claims_ruleInput_eq {rule : Rule} (hrule : rule ∈ stage.allRules kind)
    (htext : ∃ values, batch.cells? kind.statusColumn = some (.text values))
    (htext' : ∃ values, again.cells? kind.statusColumn = some (.text values)) {row : Fin n}
    (hstatus : (again.textOrNulls kind.statusColumn).get row = (batch.textOrNulls kind.statusColumn).get row) :
    rule.claims kind (stage.ruleInput again kind date entity) row =
      rule.claims kind (stage.ruleInput batch kind date entity) row := by
  let here := Series.within fun other : Fin n => other = row
  have hmask : Option.Rel (Series.AgreeOn here) (rule.mask? (stage.ruleInput again kind date entity))
      (rule.mask? (stage.ruleInput batch kind date entity)) := by
    refine Rule.mask?_agree fun check hcheck => ?_
    refine Check.evaluate?_agree (h.named_allRules hrule check hcheck) ⟨rfl, rfl, rfl, rfl⟩
      (fun column hfield => ?_) (fun builtin _ => ?_) fun name _ => .none
    · by_cases hcolumn : column = kind.statusColumn
      · subst hcolumn
        obtain ⟨values, hvalues⟩ := htext
        obtain ⟨values', hvalues'⟩ := htext'
        refine Batch.agreeOn_of_text hvalues' hvalues ?_
        rintro other _ ⟨rfl, rfl⟩
        rwa [Batch.textOrNulls_of_cells? hvalues, Batch.textOrNulls_of_cells? hvalues'] at hstatus
      · exact Batch.agreeOn_of_cells?_eq _
          (hcells column hcolumn (h.unread_allRules hrule check hcheck column hfield))
    · by_cases hbuiltin : builtin = .noStatus
      · subst hbuiltin
        refine .some ?_
        rintro other _ ⟨rfl, rfl⟩
        rw [Builtin.noStatusMask, Builtin.noStatusMask, Texts.get_unset, Texts.get_unset]
        exact congrArg isBlank hstatus
      · refine Builtin.evaluate?_agree hbuiltin ⟨rfl, rfl, rfl, rfl⟩ (fun column hcolumn => ?_)
          fun _ _ => .none
        obtain ⟨hunwritten, hother⟩ := fixedColumns_unwritten kind builtin column hcolumn
        exact Batch.agreeOn_of_cells?_eq _ (hcells column hother hunwritten)
  unfold Rule.claims
  rw [Mask.any_get_eq hmask ⟨rfl, rfl⟩]

/-- No rule and no fallback labels a row that it has not labelled before. -/
theorem label_again (htext : ∃ values, batch.cells? kind.statusColumn = some (.text values))
    (htext' : ∃ values, again.cells? kind.statusColumn = some (.text values))
    (hstatus : again.textOrNulls kind.statusColumn =
      (stage.label batch kind date entity).batch.textOrNulls kind.statusColumn) :
    (stage.label again kind date entity).batch = again := by
  have hne := kind.statusColumn_ne_matchedNote
  let task := stage.ruleTask batch kind date entity
  let first := stage.ruleStart batch kind date entity
  let second := stage.ruleStart again kind date entity
  let final := stage.labelled batch kind date entity
  have hfirst : first.Stable task (stage.allRules kind) := stable_ruleStart h batch date entity htext
  have hsecond : second.Stable task (stage.allRules kind) := stable_ruleStart h again date entity htext'
  have hframe : Labeling.Frame task first final := Labeling.frame_applyAll _ task first
  have hexact : final.Exact task :=
    (Labeling.exact_start task batch _).applyAll hne fun _ hrule => h.lasting_allRules hrule
  have hfinal : again.textOrNulls kind.statusColumn = final.status := by
    rw [hstatus, batch_label h]
    exact hexact.status
  have hcolumn : batch.hasColumn kind.statusColumn = true := Batch.hasColumn_of_text htext
  have hcolumn' : again.hasColumn kind.statusColumn = true := Batch.hasColumn_of_text htext'
  -- a row that is unset again was never set, and has been passed over by every rule
  have hfree : ∀ row, second.unset.get row = true →
      ∀ rule ∈ stage.allRules kind, rule.claims task.kind (second.input task) row = false := by
    intro row hunset rule hrule
    have hblank : isBlank ((again.textOrNulls kind.statusColumn).get row) = true :=
      (Labeling.get_unset_start task again _ row).symm.trans hunset
    have hlast : final.unset.get row = true := by
      rw [hexact.unset, Texts.get_unset, ← hfinal]
      exact hblank
    have hbefore := hframe.unset row hlast
    have hkept : (again.textOrNulls kind.statusColumn).get row =
        (batch.textOrNulls kind.statusColumn).get row := by
      rw [hfinal, hframe.status row (hbefore.trans hlast.symm)]
      exact congrArg (·.get row) (Batch.textOrNulls_ensureText batch kind.statusColumn kind.statusColumn)
    have hpassed := hfirst.reached.not_claims_of_unset hne hfirst hlast rule hrule
    calc rule.claims kind (second.input task) row
        = rule.claims kind (stage.ruleInput again kind date entity) row :=
          claims_ruleStart h.config date entity hcolumn' (h.named_allRules hrule) hblank
      _ = rule.claims kind (stage.ruleInput batch kind date entity) row :=
          claims_ruleInput_eq h date entity hcells hrule htext htext' hkept
      _ = rule.claims kind (first.input task) row :=
          (claims_ruleStart h.config date entity hcolumn (h.named_allRules hrule)
            (hkept ▸ hblank)).symm
      _ = false := hpassed
  have hrerun := (hsecond.reached.applyAll_again hne hsecond.reached hsecond true hfree .nil).1
  rw [batch_label h]
  exact hrerun.trans (Batch.ensureText_of_hasColumn hcolumn')

end Claims

section Execution

variable {stage : AccrualStage} {context : Context} {date : Int} {labelled after : Batch context.data.rows}

/-- Deriving writes the columns of an accrual only. -/
theorem writesOnly_of_derive (hderived : stage.derive context labelled = .ok after) :
    Batch.WritesOnly (writtenColumns context.kind) labelled after := by
  cases hkind : context.kind with
  | order => exact (derive_writesOnly hderived).mono (List.subset_cons_self _ _)
  | request =>
    obtain ⟨accounts, fields, hderives⟩ := exists_derives hderived
    rw [hderives.request hkind]
    have hflags := Accrual.flags_writesOnly (Accrual.rows labelled context.kind) labelled
    have hfields := Accrual.setFields_writesOnly hderives.set
    exact (hflags.mono (by decide)).trans (hfields.mono (by decide))

/-- A prepared batch has a text column for the statuses. -/
theorem exists_text_prepare (context : Context) (date : Int)
    (hstatus : context.data.batch.cells? context.statusColumn = none ∨
      ∃ values, context.data.batch.cells? context.statusColumn = some (.text values)) :
    ∃ values, (prepare context date).cells? context.kind.statusColumn = some (.text values) := by
  have hdated : context.statusColumn ≠ Schema.fileDate := by
    change context.kind.statusColumn ≠ _
    cases context.kind <;> decide
  refine Batch.exists_text_ensureText ?_
  rwa [Batch.cells?_put_of_ne _ hdated]

variable (hderived : stage.derive context
  (stage.label (prepare context date) context.kind date context.entity).batch = .ok after)

include hderived

/-- The statuses in the end are those that labelling gave. -/
theorem cells?_status_of_derived : after.cells? context.kind.statusColumn =
    (stage.label (prepare context date) context.kind date context.entity).batch.cells?
      context.kind.statusColumn :=
  derive_writesOnly hderived _ (Accrual.statusColumn_not_mem_derivedColumns context.kind)

/-- All other columns are as they were prepared. -/
theorem cells?_of_unwritten {column : String} (hstatus : column ≠ context.kind.statusColumn)
    (hunwritten : column ∉ writtenColumns context.kind) :
    after.cells? column = (prepare context date).cells? column := by
  have hnote : column ≠ Schema.matchedNote := by
    rintro rfl
    refine hunwritten ?_
    cases context.kind <;> exact List.mem_cons_self
  rw [writesOnly_of_derive hderived column hunwritten]
  exact stage.cells?_label date _ context.kind context.entity hstatus hnote

/-- The status column is text in the end if it was so when it was prepared. -/
theorem exists_text_derived (h : stage.Repeatable context.kind)
    (hprepared : ∃ values, (prepare context date).cells? context.kind.statusColumn = some (.text values)) :
    ∃ values, after.cells? context.kind.statusColumn = some (.text values) := by
  rw [cells?_status_of_derived hderived]
  exact exists_text_label h _ date context.entity hprepared

/-- What has been derived is labelled already. -/
theorem label_derived (h : stage.Repeatable context.kind)
    (hprepared : ∃ values, (prepare context date).cells? context.kind.statusColumn = some (.text values)) :
    (stage.label after context.kind date context.entity).batch = after :=
  label_again h date context.entity
    (fun _ hcolumn hunwritten => cells?_of_unwritten hderived hcolumn hunwritten) hprepared
    (exists_text_derived hderived h hprepared) (Batch.textOrNulls_congr (cells?_status_of_derived hderived))

/-- What has been derived is prepared already. -/
theorem prepare_again (htext : ∃ values, after.cells? context.kind.statusColumn = some (.text values)) :
    prepare (context.withData ⟨_, after⟩) date = after := by
  have hdated : Schema.fileDate ≠ context.statusColumn ∧
      Schema.fileDate ∉ writtenColumns context.kind := by
    change Schema.fileDate ≠ context.kind.statusColumn ∧ _
    cases context.kind <;> decide
  have hdate : after.cells? Schema.fileDate = some (.int64 (.constant _ (some date))) := by
    rw [cells?_of_unwritten hderived hdated.1 hdated.2, prepare, Batch.cells?_ensureText_of_ne _ hdated.1,
      Batch.cells?_put_self]
  change (after.put Schema.fileDate (.int64 (.constant context.data.rows (some date)))).ensureText
    context.kind.statusColumn = after
  rw [Batch.put_of_cells? hdate, Batch.ensureText_of_hasColumn (Batch.hasColumn_of_text htext)]

/-- What has been derived is kept by another execution if no rule finds anything to label in it. -/
theorem execute_again (hdate : context.intVariable? dateVariable = some date)
    (htext : ∃ values, after.cells? context.kind.statusColumn = some (.text values))
    (hlabel : (stage.label after context.kind date context.entity).batch = after) :
    let labelled := stage.label after context.kind date context.entity
    stage.execute (context.withData ⟨_, after⟩) =
      ⟨context.withData ⟨_, after⟩, .returned (result context labelled after), labelled.runs⟩ := by
  have hagain : stage.derive context (stage.label after context.kind date context.entity).batch =
      .ok after := by
    rw [hlabel]
    exact derive_again hderived
  exact execute_of_prepared (context.withData ⟨_, after⟩) hdate (prepare_again hderived htext) hagain

end Execution

/-- If no row was labelled at all, no rule labelled one. -/
theorem snd_eq_zero_of_rowsOf {hits : List (String × Nat)} (h : rowsOf hits = 0) :
    ∀ hit ∈ hits, hit.2 = 0 := by
  induction hits with
  | nil => exact fun _ hhit => absurd hhit List.not_mem_nil
  | cons hit rest ih =>
    rw [rowsOf_cons] at h
    exact List.forall_mem_cons.2 ⟨by omega, ih (by omega)⟩

/-- A stage can be run again if its rules give lasting statuses and read nothing that it derives. -/
theorem repeatable_ofRules {config : ConfigTree} (path : String) {rules : List RuleConfig} {kind : RecordKind}
    (hlasting : ∀ written ∈ rules, (Rule.compile written config).Lasting)
    (hunread : ∀ written ∈ rules, ∀ check ∈ written.checks, ∀ column,
      (check.compile config).field? = some column → column ∉ writtenColumns kind) :
    Repeatable ⟨config, .ofRules config path rules⟩ kind where
  config := rfl
  lasting rule hrule := by
    obtain ⟨written, hwritten, rfl⟩ := Engine.mem_rules_ofRules.1 hrule
    exact hlasting written hwritten
  named _ hrule _ := Engine.wellNamed_of_mem_ofRules hrule
  unread rule hrule check hcheck := by
    obtain ⟨written, hwritten, check', hcheck', rfl⟩ := Engine.exists_written_check hrule hcheck
    exact hunread written hwritten check' hcheck'

/-- Executing the stage again on what it has made of a context succeeds and changes nothing: the data
stays as it is, the report says the same of it, and no rule labels a row. No rule may give a blank
status, and no check may compare a column that the stage writes behind the rules. -/
theorem execute_rerun (config : ConfigTree) (path : String) (rules : List RuleConfig) (context : Context)
    (hlasting : ∀ written ∈ rules, (Rule.compile written config).Lasting)
    (hunread : ∀ written ∈ rules, ∀ check ∈ written.checks, ∀ column,
      (check.compile config).field? = some column → column ∉ writtenColumns context.kind)
    (hstatus : context.data.batch.cells? context.statusColumn = none ∨
      ∃ values, context.data.batch.cells? context.statusColumn = some (.text values)) :
    let stage : AccrualStage := ⟨config, .ofRules config path rules⟩
    let first := stage.execute context
    let second := stage.execute first.context
    let result := first.ending.result stepName
    let again := second.ending.result stepName
    result.isSuccess = true →
    again.isSuccess = true ∧ second.context = first.context ∧ again.data = result.data ∧
    (∀ key ∈ ["total_count", "accrual_count", "status_distribution"], ∃ value,
      result.metadata.get? key = some value ∧ again.metadata.get? key = some value) ∧
    ∃ counts : List (String × Nat), again.metadata.get? "rule_hits" =
      some (.object (counts.map Json.countField)) ∧ ∀ count ∈ counts, count.2 = 0 := by
  intro stage first second executed again hsuccess
  obtain ⟨date, after, hdate, hderived, _⟩ := exists_derived_of_success hsuccess
  have hrepeatable : stage.Repeatable context.kind := repeatable_ofRules path hlasting hunread
  have hprepared := exists_text_prepare context date hstatus
  have htext := exists_text_derived hderived hrepeatable hprepared
  have hlabel := label_derived hderived hrepeatable hprepared
  let labelled := stage.label (prepare context date) context.kind date context.entity
  let relabelled := stage.label after context.kind date context.entity
  have hfirst : first = ⟨context.withData ⟨_, after⟩, .returned (result context labelled after),
      labelled.runs⟩ := execute_of_prepared context hdate rfl hderived
  have hsecond : second = ⟨context.withData ⟨_, after⟩, .returned (result context relabelled after),
      relabelled.runs⟩ := by
    have hcontext : first.context = context.withData ⟨_, after⟩ := by rw [hfirst]
    change stage.execute first.context = _
    rw [hcontext]
    exact execute_again hderived hdate htext hlabel
  have hexecuted : executed = result context labelled after :=
    congrArg (fun execution => execution.ending.result stepName) hfirst
  have hagain : again = result context relabelled after :=
    congrArg (fun execution => execution.ending.result stepName) hsecond
  rw [hexecuted, hagain, hsecond, hfirst]
  refine ⟨rfl, rfl, data_result.trans data_result.symm, fun key hkey => ?_, ?_⟩
  · have haccrued : (Accrual.rows labelled.batch context.kind).count =
        (Accrual.rows relabelled.batch context.kind).count := by
      rw [count_rows_of_derive hderived, hlabel, count_rows_of_derive (derive_again hderived)]
    simp only [List.mem_cons, List.not_mem_nil, or_false] at hkey
    obtain rfl | rfl | rfl := hkey
    · exact ⟨_, get?_result_total, get?_result_total⟩
    · exact ⟨_, get?_result_accruals, haccrued ▸ get?_result_accruals⟩
    · exact ⟨_, get?_result_statuses, get?_result_statuses⟩
  · obtain ⟨counts, hcounts, _, _, hrows⟩ :=
      exists_counts_label config path rules config after context.kind date context.entity hlasting
    rw [hlabel] at hrows
    exact ⟨counts, get?_result_hits.trans (congrArg some hcounts),
      snd_eq_zero_of_rowsOf (Nat.add_eq_right.1 hrows)⟩

/-- A request that a rule has taken, and two that were left to the fallbacks, are passed over by both. -/
theorem execute_rerun_three_requests :
    let stage : AccrualStage := ⟨.empty, .ofRules .empty "rules" [completedRule]⟩
    let first := stage.execute threeRequests
    let second := stage.execute first.context
    (∀ written ∈ [completedRule], (Rule.compile written .empty).Lasting) ∧
    (∀ written ∈ [completedRule], ∀ check ∈ written.checks, ∀ column,
      (check.compile .empty).field? = some column → column ∉ writtenColumns threeRequests.kind) ∧
    threeRequests.data.batch.cells? threeRequests.statusColumn = none ∧
    (first.ending.result stepName).isSuccess = true ∧ second.context = first.context := by
  intro stage first second
  have hlasting : ∀ written ∈ [completedRule], (Rule.compile written .empty).Lasting := by decide
  have hunread : ∀ written ∈ [completedRule], ∀ check ∈ written.checks, ∀ column,
      (check.compile .empty).field? = some column → column ∉ writtenColumns threeRequests.kind := by
    rintro written hwritten check hcheck column hfield
    cases List.mem_singleton.1 hwritten
    cases List.mem_singleton.1 hcheck
    cases hfield
    decide
  have hsuccess : (first.ending.result stepName).isSuccess = true := by decide
  obtain ⟨_, hcontext, _⟩ :=
    execute_rerun .empty "rules" [completedRule] threeRequests hlasting hunread (.inl rfl) hsuccess
  exact ⟨hlasting, hunread, rfl, hsuccess, hcontext⟩

end AccrualStage

end PurchaseStatus
