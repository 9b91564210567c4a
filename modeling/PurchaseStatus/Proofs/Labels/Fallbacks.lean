import PurchaseStatus.Pipeline.Turn
import PurchaseStatus.Proofs.Engine.Precompute
import PurchaseStatus.Proofs.Step.Writes

namespace PurchaseStatus

variable {n : Nat} {task : LabelingTask}

namespace Fallback

/-- The check of the rule that stands for a fallback. -/
def condition (fallback : Fallback) : Check := fallback.check.getD .always

/-- A fallback claims the rows of its check, whatever records they are of. -/
theorem claims_toRule (fallback : Fallback) (kind : RecordKind) (input : CheckInput n) (row : Fin n) :
    fallback.toRule.claims kind input row = (fallback.condition.evaluate? input).any (·.get row) := by
  have hchecks : fallback.toRule.checks = [fallback.condition] := rfl
  unfold Rule.claims Rule.mask?
  rw [hchecks]
  cases hmask : fallback.condition.evaluate? input with
  | none => simp [hmask, toRule, Mask.allOf]
  | some mask => simp [hmask, toRule, Mask.allOf, Rule.appliesTo]

end Fallback

namespace Labeling

/-- Columns that are there stay there while rules are applied. -/
theorem Frame.hasColumn {before after : Labeling n} (h : Frame task before after) {column : String}
    (hcolumn : before.batch.hasColumn column = true) : after.batch.hasColumn column = true := by
  unfold Batch.hasColumn at hcolumn ⊢
  rcases h.written column with hsame | ⟨values, hvalues⟩
  · rw [hsame]
    exact hcolumn
  · rw [hvalues]
    rfl

/-- A run of rules leaves the period of a row alone. -/
theorem Frame.formatError_eq {before after : Labeling n} (h : Frame task before after)
    (hcolumn : task.statusColumn ∉ Builtin.formatError.fixedColumns) :
    (Check.builtin .formatError).evaluate? (after.input task) =
      (Check.builtin .formatError).evaluate? (before.input task) := by
  rw [Check.evaluate?_builtin, Check.evaluate?_builtin]
  exact h.builtin_eq (by decide) hcolumn

/-- The check that holds everywhere holds at every turn. -/
theorem Frame.always_eq {before after : Labeling n} (h : Frame task before after) :
    Check.always.evaluate? (after.input task) = Check.always.evaluate? (before.input task) := by
  have hregistered := h.registered?_of_other (by decide : Builtin.ofName? "always" = none)
  unfold Check.evaluate?
  rw [Check.name, hregistered]
  rfl

/-- A run that goes on from what another has left sees what that one saw last. -/
theorem input_restart {state : Labeling n} (hcolumn : state.batch.hasColumn task.statusColumn = true) :
    (start task state.batch state.masks).input task = state.input task := by
  simp only [start, input, Batch.ensureText_of_hasColumn hcolumn]

/-- The label that fallbacks give a row that carries none. A blank status that a rule has given counts
as none again. -/
theorem labelAt_applyAll_fallbacks (batch : Batch n) (masks : Registry) (fallbacks : List Fallback)
    (row : Fin n)
    (hsteady : ∀ fallback ∈ fallbacks, ∀ state, Frame task (start task batch masks) state →
      fallback.condition.evaluate? (state.input task) =
        fallback.condition.evaluate? ((start task batch masks).input task)) :
    let first := start task batch masks
    (first.applyAll task (fallbacks.map Fallback.toRule)).labelAt row =
      if isBlank (first.labelAt row).status then
        match fallbacks.find? fun fallback =>
          (fallback.condition.evaluate? (first.input task)).any (·.get row) with
        | some fallback => ⟨some fallback.status, some fallback.note⟩
        | none => first.labelAt row
      else first.labelAt row := by
  intro first
  have hbit : first.unset.get row = isBlank (first.labelAt row).status := Texts.get_unset _ row
  rw [← hbit]
  cases hunset : first.unset.get row with
  | false => exact labelAt_applyAll_of_set _ hunset
  | true =>
    have hstep : ∀ rule ∈ fallbacks.map Fallback.toRule, ∀ state, Frame task first state →
        Frame task first (state.apply task rule) :=
      fun rule _ state hframe => hframe.trans (frame_apply task state rule)
    -- no fallback reads what the ones before it write, so each claims what it would have claimed first
    have hclaims : ∀ rule ∈ fallbacks.map Fallback.toRule, ∀ state, Frame task first state →
        state.unset.get row = true → rule.claims task.kind (state.input task) row =
          rule.claims task.kind (first.input task) row := by
      intro rule hrule state hframe _
      obtain ⟨fallback, hfallback, rfl⟩ := List.mem_map.1 hrule
      rw [Fallback.claims_toRule, Fallback.claims_toRule, hsteady fallback hfallback state hframe]
    have hrun := labelAt_applyAll_of_invariant hstep hclaims (.refl task first) hunset
    rw [hrun, List.find?_map]
    simp only [Function.comp_def, Fallback.claims_toRule]
    cases fallbacks.find? fun fallback =>
      (fallback.condition.evaluate? (first.input task)).any (·.get row) <;> rfl

end Labeling

namespace AccrualStage

/-- The status with which a row ends that no rule has given one: that of the fallback for its period,
or what it had. -/
def unclaimedStatus (kind : RecordKind) (period present : Option String) : Option String :=
  if period = some Schema.formatErrorPeriod then some formatErrorStatus
  else
    match kind with
    | .order => present
    | .request => some otherStatus

/-- The check for a period that could not be read finds just the rows with the period that stands for
that. -/
theorem any_formatError {input : CheckInput n} (hmasks : input.masks = ∅) (row : Fin n) :
    (Builtin.formatError.evaluate? input).any (·.get row) =
      ((input.batch.textOrNulls Schema.descriptionPeriod).get row ==
        some Schema.formatErrorPeriod) := by
  have hregistered : input.registered? Builtin.formatError.name = none := by
    rw [CheckInput.registered?, hmasks]
    rfl
  rw [Builtin.evaluate?, hregistered, Option.none_or]
  simp only [Builtin.compute?, CheckInput.periodsWhere?, CheckInput.periods?, Batch.textOrNulls]
  cases input.batch.text? Schema.descriptionPeriod with
  | none =>
    rw [Option.getD_none, Series.get_constant]
    rfl
  | some periods =>
    rw [Option.map_some, Option.any_some, Series.get_rowsWhere, Option.getD_some]
    cases periods.get row <;> rfl

/-- The first fallback of a kind whose check is met gives the status that the kind has for rows nobody
claims. -/
theorem status_find?_fallbacks {claimed : Check → Bool} {period : Option String}
    (hformat : claimed (.builtin .formatError) = (period == some Schema.formatErrorPeriod))
    (halways : claimed .always = true) (kind : RecordKind) (present : RowLabel) :
    (match (fallbacks kind).find? fun fallback : Fallback => claimed fallback.condition with
      | some fallback => (⟨some fallback.status, some fallback.note⟩ : RowLabel)
      | none => present).status = unclaimedStatus kind period present.status := by
  unfold fallbacks unclaimedStatus
  by_cases hperiod : period = some Schema.formatErrorPeriod
  · have hclaimed : claimed (.builtin .formatError) = true := by rw [hformat, hperiod, beq_self_eq_true]
    simp only [List.find?_cons, Fallback.condition, Option.getD_some, hclaimed, if_pos hperiod]
  · have hclaimed : claimed (.builtin .formatError) = false := by
      rw [hformat, beq_eq_false_iff_ne]
      exact hperiod
    simp only [List.find?_cons, Fallback.condition, Option.getD_some, hclaimed, if_neg hperiod]
    cases kind with
    | order => rfl
    | request => simp only [List.find?_cons, Option.getD_none, halways]

/-- Neither fallback reads what a run of rules writes. -/
theorem evaluate?_fallback {before after : Labeling n} (h : Labeling.Frame task before after)
    (hcolumn : task.statusColumn ∉ Builtin.formatError.fixedColumns) {kind : RecordKind}
    {fallback : Fallback} (hfallback : fallback ∈ fallbacks kind) :
    fallback.condition.evaluate? (after.input task) =
      fallback.condition.evaluate? (before.input task) := by
  unfold fallbacks at hfallback
  rcases List.mem_cons.1 hfallback with rfl | hrest
  · exact h.formatError_eq hcolumn
  · cases kind with
    | order => cases hrest
    | request =>
      cases List.mem_singleton.1 hrest
      exact h.always_eq

section Stage

variable (stage : AccrualStage) (batch : Batch n) (kind : RecordKind) (date : Int) (entity : String)

/-- What the rules see of a batch before any of them has been applied. -/
def ruleInput : CheckInput n :=
  { batch, statusColumn := kind.statusColumn, date := some date, entity := some entity,
    config := stage.config, masks := ∅ }

/-- What the stage asks of the engine when its rules are applied. -/
def ruleTask : LabelingTask :=
  stage.engine.task kind.statusColumn (stage.ruleContext batch kind date entity) kind true

/-- The state with which the run of the rules begins. -/
def ruleStart : Labeling n :=
  .start (stage.ruleTask batch kind date entity) batch (stage.ruleContext batch kind date entity).masks

/-- What the rules leave to the fallbacks. -/
def ruled : Run n :=
  stage.engine.applyRules batch kind.statusColumn (stage.ruleContext batch kind date entity) kind true

variable {batch} {kind} (hcolumn : batch.hasColumn kind.statusColumn = true)

include hcolumn

/-- The first rule reads the batch with all masks of built-in checks in place. -/
theorem input_ruleStart :
    (stage.ruleStart batch kind date entity).input (stage.ruleTask batch kind date entity) =
      { (stage.ruleInput batch kind date entity).precomputed precomputed with
        config := stage.engine.config } := by
  simp only [ruleStart, ruleTask, Labeling.start, Labeling.input, Engine.task,
    Batch.ensureText_of_hasColumn hcolumn]
  rfl

/-- The check for a format error goes by the month in the description, which no rule changes. -/
theorem any_formatError_ruleStart (row : Fin n) :
    ((Check.builtin .formatError).evaluate? ((stage.ruleStart batch kind date entity).input
      (stage.ruleTask batch kind date entity))).any (·.get row) =
      ((batch.textOrNulls Schema.descriptionPeriod).get row == some Schema.formatErrorPeriod) := by
  have hprecomputed :=
    Builtin.evaluate?_precomputed (stage.ruleInput batch kind date entity) precomputed .formatError
  rw [stage.input_ruleStart date entity hcolumn, Check.evaluate?_builtin]
  exact (congrArg (Option.any (·.get row)) hprecomputed).trans (any_formatError rfl row)

theorem evaluate?_always_ruleStart :
    Check.always.evaluate? ((stage.ruleStart batch kind date entity).input
      (stage.ruleTask batch kind date entity)) = some (.constant n true) := by
  have hnone := (stage.ruleInput batch kind date entity).registered?_precomputed_of_other precomputed
    (by decide : Builtin.ofName? "always" = none)
  have hor := congrArg (Option.or · (some (Series.constant n true))) hnone
  rw [stage.input_ruleStart date entity hcolumn]
  exact hor

/-- The rules and then the fallbacks: a row that the rules leave blank gets the status of what is
unclaimed, and all others keep theirs. -/
theorem get_status_label (row : Fin n) :
    let present :=
      ((stage.ruled batch kind date entity).batch.textOrNulls kind.statusColumn).get row
    ((stage.label batch kind date entity).batch.textOrNulls kind.statusColumn).get row =
      if isBlank present then
        unclaimedStatus kind ((batch.textOrNulls Schema.descriptionPeriod).get row) present
      else present := by
  intro present
  let task := stage.ruleTask batch kind date entity
  let first := stage.ruleStart batch kind date entity
  let middle := first.applyAll task stage.engine.rules
  let again := Labeling.start task middle.batch middle.masks
  let final := again.applyAll task ((fallbacks kind).map Fallback.toRule)
  have hfixed : task.statusColumn ∉ Builtin.formatError.fixedColumns := by
    change kind.statusColumn ∉ _
    cases kind <;> decide
  have hframe : Labeling.Frame task first middle := Labeling.frame_applyAll _ task first
  have hagain : again.input task = middle.input task :=
    Labeling.input_restart (hframe.hasColumn (Batch.hasColumn_ensureText batch kind.statusColumn))
  -- a check sees the same before the fallbacks as it did before the rules
  let claimed (check : Check) : Bool := (check.evaluate? (again.input task)).any (·.get row)
  have hformat : claimed (.builtin .formatError) =
      ((batch.textOrNulls Schema.descriptionPeriod).get row == some Schema.formatErrorPeriod) := by
    simp only [claimed]
    rw [hagain, hframe.formatError_eq hfixed]
    exact stage.any_formatError_ruleStart date entity hcolumn row
  have halways : claimed .always = true := by
    simp only [claimed]
    rw [hagain, hframe.always_eq, stage.evaluate?_always_ruleStart date entity hcolumn]
    exact Series.get_constant _ row
  have hpresent : (again.labelAt row).status = present :=
    congrArg (·.get row) (Batch.textOrNulls_ensureText middle.batch kind.statusColumn kind.statusColumn)
  have hlabel := Labeling.labelAt_applyAll_fallbacks middle.batch middle.masks (fallbacks kind) row
    fun fallback hfallback state hstate => evaluate?_fallback hstate hfixed hfallback
  have hfinal : final.batch.labelAt kind.statusColumn row = final.labelAt row :=
    ((Labeling.coherent_start task middle.batch middle.masks).applyAll _
      kind.statusColumn_ne_matchedNote).labelAt_batch row
  have hstatus := congrArg RowLabel.status (hfinal.trans hlabel)
  rw [hpresent] at hstatus
  refine hstatus.trans ?_
  split
  · rw [← hpresent]
    exact status_find?_fallbacks hformat halways kind (again.labelAt row)
  · exact hpresent

end Stage

section Unclaimed

variable {stage : AccrualStage} (hconfig : stage.engine.config = stage.config) {batch : Batch n}
  {kind : RecordKind} (date : Int) (entity : String) (hcolumn : batch.hasColumn kind.statusColumn = true)

include hconfig hcolumn

/-- The shared checks leave the start of the rules alike, if they read the configuration of the
rules. -/
theorem twin_ruleStart :
    let task := stage.ruleTask batch kind date entity
    (Labeling.start task batch ∅).input task = stage.ruleInput batch kind date entity ∧
    Labeling.Twin task (.start task batch ∅) (stage.ruleStart batch kind date entity) := by
  intro task
  have hinput : (Labeling.start task batch ∅).input task = stage.ruleInput batch kind date entity := by
    simp only [task, ruleTask, Labeling.start, Labeling.input, Engine.task, hconfig,
      Batch.ensureText_of_hasColumn hcolumn]
    rfl
  have hstart := Labeling.Twin.start_precomputed task batch ∅ precomputed
  rw [hinput] at hstart
  exact ⟨hinput, hstart⟩

/-- The precomputed mask for a missing status is that of the batch when the first rule is applied. -/
theorem fresh_ruleStart : (stage.ruleStart batch kind date entity).Fresh := by
  obtain ⟨_, htwin⟩ := twin_ruleStart hconfig date entity hcolumn
  rcases htwin.noStatus with hsame | ⟨hfresh, _⟩
  · intro mask hmask
    cases hmask.symm.trans hsame
  · exact hfresh

/-- In a row without a status a rule sees, with the shared checks, what it sees without them. -/
theorem claims_ruleStart {rule : Rule} (hnamed : ∀ check ∈ rule.checks, check.WellNamed) {row : Fin n}
    (hblank : isBlank ((batch.textOrNulls kind.statusColumn).get row) = true) :
    rule.claims kind ((stage.ruleStart batch kind date entity).input
      (stage.ruleTask batch kind date entity)) row =
      rule.claims kind (stage.ruleInput batch kind date entity) row := by
  obtain ⟨hinput, htwin⟩ := twin_ruleStart hconfig date entity hcolumn
  have hunset := Labeling.get_unset_start (stage.ruleTask batch kind date entity) batch ∅ row
  have hmask := htwin.mask?_agree (Labeling.coherent_start _ batch ∅) hnamed
  rw [hinput] at hmask
  unfold Rule.claims
  rw [Mask.any_get_eq hmask ⟨rfl, hunset.trans hblank⟩]

end Unclaimed

/-- Rules that do not claim a row without a status leave it so. -/
theorem get_status_ruled_of_unclaimed (config : ConfigTree) (path : String)
    (rules : List RuleConfig) {batch : Batch n} {kind : RecordKind} (date : Int) (entity : String)
    (htext : ∃ values, batch.cells? kind.statusColumn = some (.text values))
    (hnote : ∀ written ∈ rules, ∀ check ∈ written.checks,
      (check.compile config).field? ≠ some Schema.matchedNote) {row : Fin n}
    (hblank : isBlank ((batch.textOrNulls kind.statusColumn).get row) = true)
    (hunclaimed : ∀ written ∈ rules, (Rule.compile written config).claims kind
      (ruleInput ⟨config, .ofRules config path rules⟩ batch kind date entity) row = false) :
    let stage : AccrualStage := ⟨config, .ofRules config path rules⟩
    ((stage.ruled batch kind date entity).batch.textOrNulls kind.statusColumn).get row =
      (batch.textOrNulls kind.statusColumn).get row := by
  intro stage
  let ruled := stage.ruled batch kind date entity
  have hcolumn : batch.hasColumn kind.statusColumn = true := by
    obtain ⟨values, hvalues⟩ := htext
    rw [Batch.hasColumn, hvalues]
    rfl
  have hne := kind.statusColumn_ne_matchedNote
  let task := stage.ruleTask batch kind date entity
  let first := stage.ruleStart batch kind date entity
  have hcoherent : first.Coherent task := Labeling.coherent_start task batch _
  have hnamed : ∀ rule ∈ stage.engine.rules, ∀ check ∈ rule.checks, check.WellNamed :=
    fun _ hrule _ => Engine.wellNamed_of_mem_ofRules hrule
  have hunread : ∀ rule ∈ stage.engine.rules, ∀ check ∈ rule.checks,
      check.field? = some Schema.matchedNote →
      ∃ values, (batch.ensureText kind.statusColumn).cells? Schema.matchedNote = some (.text values) := by
    intro rule hrule check hcheck hfield
    obtain ⟨written, hwritten, check', hcheck', rfl⟩ := Engine.exists_written_check hrule hcheck
    exact absurd hfield (hnote written hwritten check' hcheck')
  -- the rules run on precomputed masks, and are known to claim nothing without them
  have hunclaimedStart : ∀ rule ∈ stage.engine.rules,
      rule.claims kind (first.input task) row = false := by
    intro rule hrule
    obtain ⟨written, hwritten, rfl⟩ := Engine.mem_rules_ofRules.1 hrule
    exact (claims_ruleStart rfl date entity hcolumn (hnamed _ hrule) hblank).trans
      (hunclaimed written hwritten)
  have hlabel : (first.applyAll task stage.engine.rules).labelAt row = first.labelAt row :=
    Labeling.labelAt_applyAll_start_of_unclaimed task hne batch
      (fresh_ruleStart rfl date entity hcolumn) (Batch.exists_text_ensureText (.inr htext)) hnamed
      hunread hunclaimedStart
  have hruled := (hcoherent.applyAll stage.engine.rules hne).labelAt_batch row
  have hstatus : (ruled.batch.textOrNulls kind.statusColumn).get row = first.status.get row :=
    congrArg RowLabel.status (hruled.trans hlabel)
  refine hstatus.trans ?_
  exact congrArg (·.get row) (Batch.textOrNulls_ensureText batch kind.statusColumn kind.statusColumn)

section Execution

variable (stage : AccrualStage) (context : Context) (date : Int)

/-- Preparing a batch writes the status column and the file date only. -/
theorem cells?_prepare {column : String} (hstatus : column ≠ context.statusColumn)
    (hdate : column ≠ Schema.fileDate) :
    (prepare context date).cells? column = context.data.batch.cells? column := by
  rw [prepare, Batch.cells?_ensureText_of_ne _ hstatus]
  exact Batch.cells?_put_of_ne context.data.batch hdate _

theorem textOrNulls_prepare {column : String} (hdate : column ≠ Schema.fileDate) :
    (prepare context date).textOrNulls column = context.data.batch.textOrNulls column := by
  rw [prepare, Batch.textOrNulls_ensureText]
  exact Batch.textOrNulls_congr (Batch.cells?_put_of_ne context.data.batch hdate _)

/-- Labelling writes the status column and the note column only. -/
theorem cells?_label (batch : Batch n) (kind : RecordKind) (entity : String) {column : String}
    (hstatus : column ≠ kind.statusColumn) (hnote : column ≠ Schema.matchedNote) :
    (stage.label batch kind date entity).batch.cells? column = batch.cells? column := by
  let task := stage.ruleTask batch kind date entity
  let first := stage.ruleStart batch kind date entity
  let middle := first.applyAll task stage.engine.rules
  let again := Labeling.start task middle.batch middle.masks
  let final := again.applyAll task ((fallbacks kind).map Fallback.toRule)
  calc final.batch.cells? column
      = again.batch.cells? column := (Labeling.frame_applyAll _ task again).cells column hstatus hnote
    _ = middle.batch.cells? column := Batch.cells?_ensureText_of_ne _ hstatus
    _ = first.batch.cells? column := (Labeling.frame_applyAll _ task first).cells column hstatus hnote
    _ = batch.cells? column := Batch.cells?_ensureText_of_ne _ hstatus

/-- The texts of other columns are read the same after labelling. -/
theorem textOrNulls_label (batch : Batch n) (kind : RecordKind) (entity : String) {column : String}
    (hstatus : column ≠ kind.statusColumn) (hnote : column ≠ Schema.matchedNote) :
    (stage.label batch kind date entity).batch.textOrNulls column = batch.textOrNulls column :=
  Batch.textOrNulls_congr (stage.cells?_label date batch kind entity hstatus hnote)

/-- A success is that of a date that could be read and of fields that could be derived. -/
theorem exists_derived_of_success {stage : AccrualStage} {context : Context}
    (hsuccess : ((stage.execute context).ending.result stepName).isSuccess = true) :
    ∃ date batch, context.intVariable? dateVariable = some date ∧
      stage.derive context
        (stage.label (prepare context date) context.kind date context.entity).batch = .ok batch ∧
      (stage.execute context).context = context.withData ⟨_, batch⟩ := by
  unfold execute at hsuccess ⊢
  split at hsuccess
  · cases hsuccess
  · rename_i date hdate
    dsimp only at hsuccess ⊢
    split at hsuccess
    · cases hsuccess
    · rename_i batch hbatch
      exact ⟨date, batch, hdate, hbatch, rfl⟩

/-- After a success, a row has the status with which the rules have left it, or that of what is
unclaimed. -/
theorem get_status_execute {stage : AccrualStage} {context : Context}
    (hsuccess : ((stage.execute context).ending.result stepName).isSuccess = true) :
    ∃ date batch, context.intVariable? dateVariable = some date ∧
      (stage.execute context).context = context.withData ⟨_, batch⟩ ∧
      batch.textOrNulls Schema.descriptionPeriod =
        context.data.batch.textOrNulls Schema.descriptionPeriod ∧
      ∀ row,
        let ruled := stage.ruled (prepare context date) context.kind date context.entity
        let present := (ruled.batch.textOrNulls context.statusColumn).get row
        (batch.textOrNulls context.statusColumn).get row =
          if isBlank present then
            unclaimedStatus context.kind ((batch.textOrNulls Schema.descriptionPeriod).get row) present
          else present := by
  obtain ⟨date, batch, hdate, hderived, hcontext⟩ := exists_derived_of_success hsuccess
  have hwrites := derive_writesOnly hderived
  have hstatus := Batch.textOrNulls_congr
    (hwrites _ (Accrual.statusColumn_not_mem_derivedColumns context.kind))
  have hperiods : batch.textOrNulls Schema.descriptionPeriod =
      (prepare context date).textOrNulls Schema.descriptionPeriod := by
    have hne : Schema.descriptionPeriod ≠ context.kind.statusColumn := by
      cases context.kind <;> decide
    exact (Batch.textOrNulls_congr (hwrites _ (by decide))).trans
      (stage.textOrNulls_label date _ context.kind context.entity hne (by decide))
  refine ⟨date, batch, hdate, hcontext, hperiods.trans (textOrNulls_prepare context date (by decide)),
    fun row => ?_⟩
  have hcolumn := Batch.hasColumn_ensureText
    (context.data.batch.put Schema.fileDate (.int64 (.constant _ (some date)))) context.statusColumn
  have hlabel := stage.get_status_label date context.entity hcolumn row
  rw [hperiods]
  exact (congrArg (·.get row) hstatus).trans hlabel

end Execution

/-- A row nobody claims gets a status if it is a request or its description has a format error. -/
theorem isBlank_unclaimedStatus {kind : RecordKind} {period : Option String} (present : Option String)
    (hlabelled : kind = .request ∨ period = some Schema.formatErrorPeriod) :
    isBlank (unclaimedStatus kind period present) = false := by
  unfold unclaimedStatus
  split
  · decide
  · rename_i hperiod
    rcases hlabelled with rfl | hlabelled
    · have hother : isBlank (some otherStatus) = false := by decide
      exact hother
    · exact absurd hlabelled hperiod

/-- No row that must have a status is left without one. After a success every request has a status, and
so has every order whose period could not be read, even if a rule gave it a blank one. A row that
had none and that no rule claims has the status for its period, the common one of requests, or still
none. -/
theorem execute_leaves_none_over (config : ConfigTree) (path : String) (rules : List RuleConfig)
    (context : Context) :
    let stage : AccrualStage := ⟨config, .ofRules config path rules⟩
    let after := (stage.execute context).context.data
    let status := after.batch.textOrNulls context.statusColumn
    let periods := after.batch.textOrNulls Schema.descriptionPeriod
    let before := context.data.batch
    ((stage.execute context).ending.result stepName).isSuccess = true →
    (context.kind = .request → ∀ row, isBlank (status.get row) = false) ∧
    (∀ row, periods.get row = some Schema.formatErrorPeriod → isBlank (status.get row) = false) ∧
    ((before.cells? context.statusColumn = none ∨
        ∃ values, before.cells? context.statusColumn = some (.text values)) →
      (∀ written ∈ rules, ∀ check ∈ written.checks,
        (check.compile config).field? ≠ some Schema.matchedNote) →
      ∃ date, context.intVariable? dateVariable = some date ∧
      ∃ hrows : after.rows = context.data.rows, ∀ row,
        isBlank ((before.textOrNulls context.statusColumn).get row) = true →
        (∀ written ∈ rules, (Rule.compile written config).claims context.kind
          (stage.ruleInput (prepare context date) context.kind date context.entity) row = false) →
        status.get (row.cast hrows.symm) = unclaimedStatus context.kind
          ((before.textOrNulls Schema.descriptionPeriod).get row)
          ((before.textOrNulls context.statusColumn).get row)) := by
  intro stage
  dsimp only
  intro hsuccess
  obtain ⟨date, batch, hdate, hcontext, hperiods, hstatus⟩ := get_status_execute hsuccess
  rw [hcontext]
  have hlabelled : ∀ row, context.kind = .request ∨
      (batch.textOrNulls Schema.descriptionPeriod).get row = some Schema.formatErrorPeriod →
      isBlank ((batch.textOrNulls context.statusColumn).get row) = false := by
    intro row hrow
    rw [hstatus row]
    split
    · exact isBlank_unclaimedStatus _ hrow
    · rename_i hset
      rwa [Bool.not_eq_true] at hset
  refine ⟨fun hkind row => hlabelled row (.inl hkind), fun row hperiod => hlabelled row (.inr hperiod),
    fun htext hnote => ⟨date, hdate, rfl, fun row hblank hunclaimed => ?_⟩⟩
  have hdated : context.statusColumn ≠ Schema.fileDate := by
    change context.kind.statusColumn ≠ _
    cases context.kind <;> decide
  -- what the fallbacks find in an unclaimed row is what the data had before the stage
  have hprepared := textOrNulls_prepare context date hdated
  have hcolumn : ∃ values,
      (prepare context date).cells? context.kind.statusColumn = some (.text values) := by
    rw [← Batch.cells?_put_of_ne context.data.batch hdated (.int64 (.constant _ (some date)))] at htext
    exact Batch.exists_text_ensureText htext
  rw [← hprepared] at hblank
  have hruled : ((stage.ruled (prepare context date) context.kind date context.entity).batch.textOrNulls
      context.statusColumn).get row = ((prepare context date).textOrNulls context.statusColumn).get row :=
    get_status_ruled_of_unclaimed config path rules date context.entity hcolumn hnote hblank hunclaimed
  refine (hstatus row).trans ?_
  rw [hperiods, ← hprepared, hruled]
  exact if_pos hblank

/-- A rule with a blank status. -/
def blankRule : RuleConfig :=
  { priority := 1, statusValue := some "", combine := .or,
    checks := [{ type := "equals", field := some "item", value := some (.string "a") }] }

/-- A row that the rule claims, one with an unreadable period and one of neither kind. -/
def threeRequests : Context :=
  { Context.start
      ⟨3, ⟨⟨[("item", .text ⟨[some "a", some "b", some "c"], rfl⟩), (Schema.entryAmount, .null),
        (Schema.descriptionPeriod,
          .text ⟨[some "202501,202503", some Schema.formatErrorPeriod, none], rfl⟩)]⟩⟩⟩
      "spx" 202501 .request with
    auxiliary := .ofList [(accountsName, ⟨0, ⟨⟨[]⟩⟩⟩)] }

/-- The first row has the blank status taken from it again, and the others get the two fallbacks. -/
theorem execute_leaves_none_over_three_requests :
    let stage : AccrualStage := ⟨.empty, .ofRules .empty "rules" [blankRule]⟩
    let after := (stage.execute threeRequests).context.data
    let status := after.batch.textOrNulls threeRequests.statusColumn
    ((stage.execute threeRequests).ending.result stepName).isSuccess = true ∧
    threeRequests.data.batch.cells? threeRequests.statusColumn = none ∧
    (∀ written ∈ [blankRule], ∀ check ∈ written.checks,
      (check.compile .empty).field? ≠ some Schema.matchedNote) ∧
    ∃ hrows : after.rows = threeRequests.data.rows, (∀ row, isBlank (status.get row) = false) ∧
      status.get ((1 : Fin 3).cast hrows.symm) = some formatErrorStatus ∧
      status.get ((2 : Fin 3).cast hrows.symm) = some otherStatus := by
  dsimp only
  have hsuccess : (((⟨.empty, .ofRules .empty "rules" [blankRule]⟩ : AccrualStage).execute
      threeRequests).ending.result stepName).isSuccess = true := by decide
  have hnote : ∀ written ∈ [blankRule], ∀ check ∈ written.checks,
      (check.compile .empty).field? ≠ some Schema.matchedNote := by decide
  obtain ⟨hrequests, _, hunclaimed⟩ :=
    execute_leaves_none_over .empty "rules" [blankRule] threeRequests hsuccess
  obtain ⟨date, hdate, hrows, hrow⟩ := hunclaimed (.inl rfl) hnote
  have hread : threeRequests.intVariable? dateVariable = some 202501 := by decide
  cases hread.symm.trans hdate
  refine ⟨hsuccess, rfl, hnote, hrows, hrequests rfl, ?_, ?_⟩
  · exact (hrow (1 : Fin 3) (by decide) (by decide)).trans (by decide)
  · exact (hrow (2 : Fin 3) (by decide) (by decide)).trans (by decide)

end AccrualStage

end PurchaseStatus
