import PurchaseStatus.Proofs.Engine.Attribution
import PurchaseStatus.Proofs.Step.AccrualFields
import PurchaseStatus.Proofs.Tallies

namespace PurchaseStatus

variable {n : Nat}

section Ids

/-- The ids of declared rules and those of fallbacks begin with different letters, whatever priorities,
statuses and references follow. -/
theorem Rule.id_compile_ne_fallback (written : RuleConfig) (tree : ConfigTree) (fallback : Fallback) :
    (Rule.compile written tree).id ≠ fallback.toRule.id := by
  have hdeclared : (Rule.compile written tree).id.toList.head? = some 'p' := by
    have hprefix : toString "priority_" = "priority_" := rfl
    simp [compile, idOf, String.toList_append, hprefix]
  have hfallback : fallback.toRule.id.toList.head? = some 'f' := by
    have hprefix : toString "fallback_" = "fallback_" := rfl
    simp [Fallback.toRule, String.toList_append, hprefix]
  intro h
  rw [h, hfallback] at hdeclared
  cases hdeclared

namespace EngineCall

variable (engine : Engine) (call : EngineCall)

/-- What a call reports stands under the id of a rule that it applies. -/
theorem exists_rule_of_mem_stats {id : String} (hid : id ∈ Named.names (call.run engine).stats) :
    ∃ rule ∈ call.rulesOf engine, rule.id = id := by
  have hids := (RunReport.mem_names_stats (call.run engine).report).1 hid
  rw [hits_run, List.map_map, List.mem_map] at hids
  obtain ⟨turn, hturn, rfl⟩ := hids
  refine ⟨turn.rule, ?_, rfl⟩
  rw [← (call.attributesRows engine).order]
  exact List.mem_map_of_mem (List.mem_of_mem_filter hturn)

end EngineCall

end Ids

namespace AccrualStage

/-- A report says of the data what holds of it: how many rows are flagged for accrual, how many have each
status, and how many each rule and each fallback took from those that were without one. -/
structure Reports (statusColumn : String) (before after : Batch n) (declared fallbacks : RuleStats)
    (metadata : Named Json) : Prop where
  accruals : metadata.get? "accrual_count" = some (.int
    ((List.finRange n).countP fun row => after.textAt? Schema.accrualFlag row == some "Y" : Nat))
  statuses : ∃ counts : List (String × Nat),
    metadata.get? "status_distribution" = some (.object (counts.map Json.countField)) ∧
    (counts.map (·.1)).Nodup ∧
    (∀ status count, (status, count) ∈ counts ↔ isBlank (some status) = false ∧ 0 < count ∧
      count = (List.finRange n).countP fun row => after.textAt? statusColumn row == some status) ∧
    rowsOf counts = (List.finRange n).countP fun row => !isBlank (after.textAt? statusColumn row)
  hits : ∃ counts : List (String × Nat),
    metadata.get? "rule_hits" = some (.object (counts.map Json.countField)) ∧
    (counts.map (·.1)).Nodup ∧
    (∀ id count, (id, count) ∈ counts ↔
      declared.get? id = some count ∨ fallbacks.get? id = some count) ∧
    rowsOf counts + ((List.finRange n).countP fun row => isBlank (after.textAt? statusColumn row)) =
      (List.finRange n).countP fun row => isBlank (before.textAt? statusColumn row)
  disjoint : ∀ id ∈ declared.names, id ∉ fallbacks.names

section Calls

variable (stage : AccrualStage) (batch : Batch n) (kind : RecordKind) (date : Int) (entity : String)

/-- The declared rules, as a call of the engine. -/
def declaredCall : EngineCall :=
  { request := .rules true, data := ⟨n, batch⟩, statusColumn := kind.statusColumn,
    context := stage.ruleContext batch kind date entity, kind, seconds := 0 }

/-- The fallbacks on what the rules have left, with their context. -/
def fallbackCall : EngineCall :=
  let ruled := stage.ruled batch kind date entity
  { request := .fallbacks (fallbacks kind), data := ⟨n, ruled.batch⟩, statusColumn := kind.statusColumn,
    context := ruled.context, kind, seconds := 0 }

/-- A fallback gives a status that is not blank. -/
theorem lasting_fallbacks {rule : Rule} (hrule : rule ∈ (fallbacks kind).map Fallback.toRule) :
    rule.Lasting := by
  revert rule
  cases kind <;> decide

/-- The rows that the two runs label are those that lose their blank status to them. -/
theorem rowsOf_label (hlasting : ∀ rule ∈ stage.engine.rules, rule.Lasting) :
    let declared := (stage.declaredCall batch kind date entity).run stage.engine
    let fallbacks := (stage.fallbackCall batch kind date entity).run stage.engine
    declared.stats.total + fallbacks.stats.total +
      ((stage.label batch kind date entity).batch.textOrNulls kind.statusColumn).unset.count =
      (batch.textOrNulls kind.statusColumn).unset.count := by
  intro declared fallbacks
  have hne := kind.statusColumn_ne_matchedNote
  have hdeclared := ((stage.declaredCall batch kind date entity).attributesRows stage.engine).conserved
    hne hlasting
  have hfallbacks := ((stage.fallbackCall batch kind date entity).attributesRows stage.engine).conserved
    hne fun rule hrule => lasting_fallbacks kind hrule
  have hmiddle : (stage.fallbackCall batch kind date entity).statusBefore =
      (stage.declaredCall batch kind date entity).statusAfter stage.engine := rfl
  rw [hmiddle] at hfallbacks
  calc declared.stats.total + fallbacks.stats.total + _
      = declared.stats.total + (fallbacks.stats.total + _) := Nat.add_assoc _ _ _
    _ = declared.stats.total + _ := congrArg (declared.stats.total + ·) hfallbacks
    _ = _ := hdeclared

end Calls

section Execution

variable (config : ConfigTree) (path : String) (rules : List RuleConfig) (engineConfig : ConfigTree)
  (batch : Batch n) (kind : RecordKind) (date : Int) (entity : String)

/-- No fallback shares its id with a declared rule, so neither adds to the other's hits. -/
theorem disjoint_stats :
    let stage : AccrualStage := ⟨config, .ofRules engineConfig path rules⟩
    ∀ id ∈ Named.names ((stage.declaredCall batch kind date entity).run stage.engine).stats,
      id ∉ Named.names ((stage.fallbackCall batch kind date entity).run stage.engine).stats := by
  intro stage id hdeclared hfallback
  obtain ⟨rule, hrule, rfl⟩ :=
    (stage.declaredCall batch kind date entity).exists_rule_of_mem_stats stage.engine hdeclared
  obtain ⟨written, _, rfl⟩ := Engine.mem_rules_ofRules.1 hrule
  obtain ⟨other, hother, hid⟩ :=
    (stage.fallbackCall batch kind date entity).exists_rule_of_mem_stats stage.engine hfallback
  obtain ⟨fallback, _, rfl⟩ := List.mem_map.1 hother
  exact Rule.id_compile_ne_fallback written engineConfig fallback hid.symm

/-- Both runs keep their entries in what is reported of them. -/
theorem entries_stats_label :
    let stage : AccrualStage := ⟨config, .ofRules engineConfig path rules⟩
    let declared := ((stage.declaredCall batch kind date entity).run stage.engine).stats
    let fallbacks := ((stage.fallbackCall batch kind date entity).run stage.engine).stats
    (stage.label batch kind date entity).stats.entries = declared.entries ++ fallbacks.entries := by
  intro stage declared fallbacks
  have hdisjoint := disjoint_stats config path rules engineConfig batch kind date entity
  have hnodup := ((stage.fallbackCall batch kind date entity).attributesRows stage.engine).nodup
  exact Named.entries_merge_of_disjoint (fun id hid hmem => hdisjoint id hmem hid) hnodup

/-- The hits of the declared rules and of the fallbacks are listed without repetition. -/
theorem nodup_names_stats_label :
    let stage : AccrualStage := ⟨config, .ofRules engineConfig path rules⟩
    (Named.names (stage.label batch kind date entity).stats).Nodup := by
  intro stage
  have hdisjoint := disjoint_stats config path rules engineConfig batch kind date entity
  rw [Named.names, entries_stats_label, List.map_append, List.nodup_append]
  refine ⟨((stage.declaredCall batch kind date entity).attributesRows stage.engine).nodup,
    ((stage.fallbackCall batch kind date entity).attributesRows stage.engine).nodup, ?_⟩
  rintro id hid _ hmem rfl
  exact hdisjoint id hid hmem

/-- What the two runs have counted, as it is reported: no count is lost, and together they are the rows
that have lost their blank status. -/
theorem exists_counts_label
    (hlasting : ∀ written ∈ rules, (Rule.compile written engineConfig).Lasting) :
    let stage : AccrualStage := ⟨config, .ofRules engineConfig path rules⟩
    let declared := (stage.declaredCall batch kind date entity).run stage.engine
    let fallbacks := (stage.fallbackCall batch kind date entity).run stage.engine
    let labelled := stage.label batch kind date entity
    ∃ counts : List (String × Nat),
      Json.ofCounts labelled.stats = .object (counts.map Json.countField) ∧ (counts.map (·.1)).Nodup ∧
      (∀ id count, (id, count) ∈ counts ↔
        declared.stats.get? id = some count ∨ fallbacks.stats.get? id = some count) ∧
      rowsOf counts + (labelled.batch.textOrNulls kind.statusColumn).unset.count =
        (batch.textOrNulls kind.statusColumn).unset.count := by
  intro stage declared fallbacks labelled
  have hrules : ∀ rule ∈ stage.engine.rules, rule.Lasting := by
    intro rule hrule
    obtain ⟨written, hwritten, rfl⟩ := Engine.mem_rules_ofRules.1 hrule
    exact hlasting written hwritten
  have hdeclared := ((stage.declaredCall batch kind date entity).attributesRows stage.engine).nodup
  have hfallbacks := ((stage.fallbackCall batch kind date entity).attributesRows stage.engine).nodup
  have hentries := entries_stats_label config path rules engineConfig batch kind date entity
  have hnodup := nodup_names_stats_label config path rules engineConfig batch kind date entity
  obtain ⟨counts, hcounts, hperm⟩ := Json.exists_ofCounts hnodup
  refine ⟨counts, hcounts, (hperm.map Prod.fst).nodup_iff.2 hnodup, fun id count => ?_, ?_⟩
  · rw [hperm.mem_iff, hentries, List.mem_append, ← Named.find?_eq_some_iff hdeclared,
      ← Named.find?_eq_some_iff hfallbacks]
    rfl
  · have hrows : rowsOf counts = declared.stats.total + fallbacks.stats.total := by
      rw [rowsOf_of_perm hperm, hentries, rowsOf_append]
      rfl
    rw [hrows]
    exact stage.rowsOf_label batch kind date entity hrules

end Execution

section Metadata

variable {stage : AccrualStage} {context : Context} {labelled : Labelled n} {after : Batch n}

/-- The result carries the batch as it was derived. -/
theorem data_result : (result context labelled after).data = some ⟨n, after⟩ := rfl

/-- The rows are counted in the result. -/
theorem get?_result_total : (result context labelled after).metadata.get? "total_count" =
    some (.int n) := rfl

/-- The accrued rows are counted as they were after labelling. -/
theorem get?_result_accruals : (result context labelled after).metadata.get? "accrual_count" =
    some (.int (Accrual.rows labelled.batch context.kind).count) := rfl

/-- The statuses are counted as they are in the end. -/
theorem get?_result_statuses : (result context labelled after).metadata.get? "status_distribution" =
    some (.ofCounts (after.statusCounts context.statusColumn)) := rfl

/-- The hits in the result are those of labelling. -/
theorem get?_result_hits : (result context labelled after).metadata.get? "rule_hits" =
    some (.ofCounts labelled.stats) := rfl

/-- The rows that were found to be accrued are flagged, and no others. -/
theorem count_rows_of_derive {labelled after : Batch n} (hderived : stage.derive context labelled = .ok after) :
    (Accrual.rows labelled context.kind).count =
      (List.finRange n).countP fun row => after.textAt? Schema.accrualFlag row == some "Y" := by
  obtain ⟨accounts, fields, hderives⟩ := exists_derives hderived
  rw [Mask.count_eq_countP]
  refine List.countP_congr fun row _ => ?_
  have hflag : after.textAt? Schema.accrualFlag row =
      some (if (Accrual.rows labelled context.kind).get row then "Y" else "N") := by
    rw [Batch.textAt?_congr (hderives.writesOnly _ (by decide)),
      Batch.textAt?_congr (Accrual.setFields_writesOnly hderives.set _ (by decide)),
      Batch.textAt?_putText_self, Accrual.flags, Series.get_map]
  rw [hflag]
  cases (Accrual.rows labelled context.kind).get row <;> decide

variable (context) in
/-- A run of the stage is put together from its four parts: preparing, labelling, deriving and reporting.
-/
theorem execute_of_prepared {date : Int} {prepared after : Batch context.data.rows}
    (hdate : context.intVariable? dateVariable = some date) (hprepared : prepare context date = prepared)
    (hderived : stage.derive context (stage.label prepared context.kind date context.entity).batch =
      .ok after) :
    let labelled := stage.label prepared context.kind date context.entity
    stage.execute context =
      ⟨context.withData ⟨_, after⟩, .returned (result context labelled after), labelled.runs⟩ := by
  subst hprepared
  unfold execute
  simp only [hdate, hderived]

end Metadata

/-- The report of a success agrees with its data. Each status that is not blank is counted with its rows,
the rows flagged for accrual are counted, and the declared rules together with the fallbacks are counted
with the rows that have lost their blank status, each with its own: no id of a fallback is that of a rule.
No rule may give a blank status. -/
theorem execute_reports (config : ConfigTree) (path : String) (rules : List RuleConfig)
    (engineConfig : ConfigTree) (context : Context)
    (hlasting : ∀ written ∈ rules, (Rule.compile written engineConfig).Lasting) :
    let stage : AccrualStage := ⟨config, .ofRules engineConfig path rules⟩
    let result := (stage.execute context).ending.result stepName
    result.isSuccess = true →
    ∃ (after : Batch context.data.rows) (declared fallbacks : RunReport),
      (stage.execute context).context.data = ⟨_, after⟩ ∧ result.data = some ⟨_, after⟩ ∧
      (stage.execute context).runs = [declared, fallbacks] ∧
      Reports context.statusColumn context.data.batch after declared.stats fallbacks.stats
        result.metadata := by
  intro stage executed hsuccess
  obtain ⟨date, after, hdate, hderived, hcontext⟩ := exists_derived_of_success hsuccess
  let prepared := prepare context date
  let declared := (stage.declaredCall prepared context.kind date context.entity).run stage.engine
  let fallbacks := (stage.fallbackCall prepared context.kind date context.entity).run stage.engine
  let labelled := stage.label prepared context.kind date context.entity
  have hexecute : stage.execute context = ⟨context.withData ⟨_, after⟩,
      .returned (AccrualStage.result context labelled after), [declared.report, fallbacks.report]⟩ :=
    execute_of_prepared context hdate rfl hderived
  have hresult : executed = AccrualStage.result context labelled after := by
    simp only [executed, hexecute]
    rfl
  -- neither deriving nor preparing touches a status, so that the counts of labelling still hold
  have hstatus := Batch.textOrNulls_congr (derive_writesOnly hderived _
    (Accrual.statusColumn_not_mem_derivedColumns context.kind))
  have hbefore : prepared.textOrNulls context.statusColumn =
      context.data.batch.textOrNulls context.statusColumn := by
    refine textOrNulls_prepare context date ?_
    change context.kind.statusColumn ≠ _
    cases context.kind <;> decide
  refine ⟨after, declared.report, fallbacks.report, by rw [hexecute]; rfl, by rw [hresult]; rfl,
    by rw [hexecute], ?_⟩
  rw [hresult]
  constructor
  case accruals => rw [get?_result_accruals, ← count_rows_of_derive hderived]
  case statuses =>
    obtain ⟨counts, hcounts, hrows⟩ := after.exists_statusCounts context.statusColumn
    exact ⟨counts, get?_result_statuses.trans (congrArg some hcounts), hrows⟩
  case hits =>
    obtain ⟨counts, hcounts, hnodup, hmem, hrows⟩ := exists_counts_label config path rules engineConfig
      prepared context.kind date context.entity hlasting
    have hafter : after.textOrNulls context.statusColumn =
        labelled.batch.textOrNulls context.kind.statusColumn := hstatus
    refine ⟨counts, get?_result_hits.trans (congrArg some hcounts), hnodup, hmem, ?_⟩
    rw [← Batch.count_unset_textOrNulls, ← Batch.count_unset_textOrNulls, hafter, ← hbefore]
    exact hrows
  case disjoint =>
    exact disjoint_stats config path rules engineConfig prepared context.kind date context.entity

/-- A rule for a status in which orders accrue. -/
def completedRule : RuleConfig :=
  { priority := 1, statusValue := some "已完成", combine := .or,
    checks := [{ type := "equals", field := some "item", value := some (.string "a") }] }

/-- One row is taken by the rule and the others by a fallback each. -/
theorem execute_reports_three_requests :
    let stage : AccrualStage := ⟨.empty, .ofRules .empty "rules" [completedRule]⟩
    let result := (stage.execute threeRequests).ending.result stepName
    (∀ written ∈ [completedRule], (Rule.compile written .empty).Lasting) ∧ result.isSuccess = true ∧
    ∃ after, Reports threeRequests.statusColumn threeRequests.data.batch after
      (RunReport.stats ⟨[("priority_1_已完成", 1)], 2⟩)
      (RunReport.stats ⟨[("fallback_格式錯誤，退單", 1), ("fallback_其他", 1)], 0⟩) result.metadata := by
  intro stage result
  have hlasting : ∀ written ∈ [completedRule], (Rule.compile written .empty).Lasting := by decide
  have hsuccess : result.isSuccess = true := by decide
  obtain ⟨after, declared, fallbacks, _, _, hruns, hreports⟩ :=
    execute_reports .empty "rules" [completedRule] .empty threeRequests hlasting hsuccess
  have hcounted : (stage.execute threeRequests).runs = [⟨[("priority_1_已完成", 1)], 2⟩,
      ⟨[("fallback_格式錯誤，退單", 1), ("fallback_其他", 1)], 0⟩] := by decide
  cases hcounted.symm.trans hruns
  exact ⟨hlasting, hsuccess, after, hreports⟩

end AccrualStage

end PurchaseStatus
