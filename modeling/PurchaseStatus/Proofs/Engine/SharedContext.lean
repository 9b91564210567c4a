import PurchaseStatus.Proofs.Engine.Conservation
import Mathlib.Data.List.Induction

namespace PurchaseStatus

variable {n : Nat}

/-- Marks that are registered without null slots are the mask of a batch of as many rows. -/
theorem Registry.maskFor?_of_get? {masks : Registry} {name : String} {marks : List Bool}
    (hget : masks.get? name = some (marks.map some)) (n : Nat) :
    masks.maskFor? n name = Series.ofList? n marks := by
  unfold Registry.maskFor?
  rw [hget, Option.bind_some, Series.ofList?, Series.ofList?]
  by_cases hlength : marks.length = n
  · have hslots : (marks.map some).length = n := by rw [List.length_map, hlength]
    rw [dif_pos hslots, dif_pos hlength, Option.map_some, Option.some_inj]
    apply Series.ext_toList
    simp [Slots.bits, Function.comp_def]
  · have hslots : ¬ (marks.map some).length = n := by rwa [List.length_map]
    rw [dif_neg hslots, dif_neg hlength, Option.map_none]

namespace Labeling

section Tracking

variable {task : LabelingTask}

/-- The mask `no_status` is registered and covers exactly the unset rows. -/
def Tracked (state : Labeling n) : Prop :=
  state.masks.get? Builtin.noStatus.name = some (state.unset.toList.map some)

/-- With refreshing, the mask for a missing status follows the unset rows. -/
theorem tracked_record (hrefresh : task.refresh = true) (state : Labeling n) (id : String) (count : Nat) :
    (state.record task id count).Tracked := by
  unfold Tracked record
  rw [if_pos hrefresh]
  exact Named.get?_put_self _ _ _

/-- A rule that is evaluated leaves a mask that is right, whether or not it has labelled a row. -/
theorem apply_eq_or_tracked (hrefresh : task.refresh = true) (state : Labeling n) (rule : Rule) :
    state.apply task rule = state ∨
    (state.apply task rule).hits ≠ [] ∧ (state.apply task rule).Tracked := by
  rcases apply_cases task state rule with hsame | ⟨status, matched, _, _, heq⟩
  · exact .inl hsame
  · rw [heq]
    refine .inr ⟨?_, tracked_record hrefresh _ _ _⟩
    simp [record]

/-- Either no rule has been evaluated and nothing has changed, or the mask follows the unset rows. -/
theorem applyAll_eq_or_tracked (hrefresh : task.refresh = true) (state : Labeling n)
    (rules : List Rule) : state.applyAll task rules = state ∨
    (state.applyAll task rules).hits ≠ [] ∧ (state.applyAll task rules).Tracked := by
  induction rules generalizing state with
  | nil => exact .inl rfl
  | cons rule rest ih =>
    have hrest : state.applyAll task (rule :: rest) = (state.apply task rule).applyAll task rest := rfl
    rw [hrest]
    rcases ih (state.apply task rule) with hsame | htracked
    · rw [hsame]
      exact apply_eq_or_tracked hrefresh state rule
    · exact .inr htracked

/-- The check `no_status` takes the registered mask, and looks at the column only without one. -/
theorem evaluate?_noStatus (task : LabelingTask) (state : Labeling n) :
    (Check.builtin .noStatus).evaluate? (state.input task) =
      some ((state.masks.maskFor? n Builtin.noStatus.name).getD
        (state.batch.textOrNulls task.statusColumn).unset) := by
  have hregistered : (state.input task).registered? Builtin.noStatus.name =
    state.masks.maskFor? n Builtin.noStatus.name := rfl
  rw [Check.evaluate?_builtin, Builtin.evaluate?, hregistered]
  cases state.masks.maskFor? n Builtin.noStatus.name with
  | none => rfl
  | some mask => rfl

/-- A mask that follows the unset rows is what the check for a missing status says. -/
theorem evaluate?_noStatus_of_tracked {state : Labeling n} (h : state.Tracked) :
    (Check.builtin .noStatus).evaluate? (state.input task) = some state.unset := by
  have hlength : state.unset.toList.length = n := state.unset.length_toList
  rw [evaluate?_noStatus, Registry.maskFor?_of_get? h, Series.ofList?, dif_pos hlength]
  rfl

end Tracking

end Labeling

/-- The rules of an engine and the data that they are applied to, in whatever context. -/
structure Application where
  engine : Engine
  data : Dataset
  statusColumn : String
  kind : RecordKind

namespace Application

variable (app : Application) (context : RuleContext)

/-- The run in a context, with the mask `no_status` kept up to date. -/
def run : Run app.data.rows :=
  app.engine.applyRules app.data.batch app.statusColumn context app.kind true

/-- What the application asks of the engine, in a context. -/
def task : LabelingTask := app.engine.task app.statusColumn context app.kind true

theorem refresh_task : (app.task context).refresh = true := rfl

/-- The state of the run after the first of its rules. -/
def turn (earlier : List Rule) : Labeling app.data.rows :=
  (Labeling.start (app.task context) app.data.batch context.masks).applyAll (app.task context) earlier

/-- The rows without a status before the run. -/
def blankBefore : Mask app.data.rows := (app.data.batch.textOrNulls app.statusColumn).unset

/-- The rows that the run leaves unset. -/
def left : Mask app.data.rows := (app.turn context app.engine.rules).unset

/-- The rows that the run leaves marked as unset in its context: none of its own, if it has evaluated
no rule. -/
def marks : Option (List Bool) :=
  if (app.run context).report.hits.isEmpty then none else some (app.left context).toList

/-- The context after several runs, each in the context that the one before it has left. -/
def contextAfter (apps : List Application) : RuleContext :=
  apps.foldl (fun context app => (app.run context).context) context

/-- The runs with the contexts that they find. -/
def visits (context : RuleContext) : List Application → List (RuleContext × Application)
  | [] => []
  | app :: rest => (context, app) :: visits (app.run context).context rest

/-- What the last run that has marked any rows has marked. -/
def leftover (apps : List Application) : Option (List Bool) :=
  ((visits context apps).filterMap fun visit => visit.2.marks visit.1).getLast?

/-- The last application finds what those before it have left. -/
theorem contextAfter_concat (apps : List Application) :
    contextAfter context (apps ++ [app]) = (app.run (contextAfter context apps)).context := by
  rw [contextAfter, List.foldl_append]
  rfl

/-- Each application visits the context that those before it have left. -/
theorem visits_concat (apps : List Application) :
    visits context (apps ++ [app]) = visits context apps ++ [(contextAfter context apps, app)] := by
  induction apps generalizing context with
  | nil => rfl
  | cons first rest ih =>
    have hrest := ih (first.run context).context
    rw [List.cons_append, visits, hrest]
    rfl

/-- The marks of the last application that leaves some are left over. -/
theorem leftover_concat (apps : List Application) : leftover context (apps ++ [app]) =
    (app.marks (contextAfter context apps)).or (leftover context apps) := by
  rw [leftover, visits_concat, List.filterMap_append, List.getLast?_append, leftover]
  cases hmarks : app.marks (contextAfter context apps) with
  | none => simp [hmarks]
  | some marks => simp [hmarks]

/-- A run registers the rows that it leaves unset, or else keeps the masks that it has found. -/
theorem masks_run : (app.marks context = none ∧ (app.run context).context.masks = context.masks) ∨
    (app.marks context = some (app.left context).toList ∧
      (app.run context).context.masks.get? Builtin.noStatus.name =
        some ((app.left context).toList.map some)) := by
  have hhits : (app.run context).report.hits = (app.turn context app.engine.rules).hits := rfl
  have hmasks : (app.run context).context.masks = (app.turn context app.engine.rules).masks := rfl
  rcases Labeling.applyAll_eq_or_tracked (app.refresh_task context)
      (Labeling.start (app.task context) app.data.batch context.masks) app.engine.rules with
    hsame | ⟨hevaluated, htracked⟩
  · refine .inl ⟨?_, ?_⟩
    · rw [marks, hhits, turn, hsame]
      rfl
    · rw [hmasks, turn, hsame]
      rfl
  · refine .inr ⟨?_, ?_⟩
    · rw [marks, hhits, if_neg]
      rwa [List.isEmpty_iff]
    · rw [hmasks]
      exact htracked

/-- Runs in a context without the mask `no_status` leave there what the last of them has marked. -/
theorem get?_contextAfter (hnone : context.masks.get? Builtin.noStatus.name = none)
    (apps : List Application) : (contextAfter context apps).masks.get? Builtin.noStatus.name =
      (leftover context apps).map (·.map some) := by
  induction apps using List.reverseRecOn with
  | nil => exact hnone
  | append_singleton apps app ih =>
    rw [contextAfter_concat, leftover_concat]
    rcases app.masks_run (contextAfter context apps) with ⟨hmarks, hmasks⟩ | ⟨hmarks, hmasks⟩
    · rw [hmasks, hmarks, ih]
      rfl
    · rw [hmasks, hmarks]
      rfl

/-- The check `no_status` at the turn of a rule. It is right once a rule before it has been evaluated.
For the first ones it takes what earlier runs have marked, if that has as many rows as the data, and is
right only if these are the rows without a status. -/
structure NoStatusAt (leftover : Option (List Bool)) (earlier : List Rule) (rule : Rule)
    (mask : Mask app.data.rows) : Prop where
  evaluated : (Check.builtin .noStatus).evaluate? ((app.turn context earlier).input (app.task context)) =
    some mask
  right_iff : mask = (app.turn context earlier).unset ↔ (app.turn context earlier).hits ≠ [] ∨
    ∀ marks ∈ leftover, marks.length = app.data.rows → marks = app.blankBefore.toList
  unset_iff : ∀ row, (app.turn context earlier).unset.get row = true ↔ app.blankBefore.get row = true ∧
    ∀ first other later, earlier = first ++ other :: later →
      other.claims app.kind ((app.turn context first).input (app.task context)) row = false
  blank : app.statusColumn ≠ Schema.matchedNote → (∀ other ∈ earlier, other.Lasting) →
    (app.turn context earlier).unset =
      ((app.turn context earlier).batch.textOrNulls app.statusColumn).unset
  labels : app.statusColumn ≠ Schema.matchedNote → rule.checks = [.builtin .noStatus] →
    mask = (app.turn context earlier).unset → ∀ status, rule.labelFor? app.kind = some status →
      ∀ row, (app.turn context earlier).unset.get row = true →
        (app.turn context (earlier ++ [rule])).batch.labelAt app.statusColumn row =
          ⟨some status, some rule.note⟩

/-- Before its first rule an application has the rows without a status unset. -/
theorem unset_turn_nil : (app.turn context []).unset = app.blankBefore := by
  apply Series.ext_get
  intro row
  have hstart := Labeling.get_unset_start (app.task context) app.data.batch context.masks row
  rw [turn, Labeling.applyAll, List.foldl_nil, hstart, blankBefore, Texts.get_unset]
  rfl

/-- If no status is blank, the unset rows are at every turn those without a status. -/
theorem unset_turn_eq_blank (hne : app.statusColumn ≠ Schema.matchedNote) {earlier : List Rule}
    (hlasting : ∀ rule ∈ earlier, rule.Lasting) : (app.turn context earlier).unset =
      ((app.turn context earlier).batch.textOrNulls app.statusColumn).unset := by
  have hexact : (app.turn context earlier).Exact (app.task context) :=
    (Labeling.exact_start (app.task context) app.data.batch context.masks).applyAll hne hlasting
  have hstatus : (app.turn context earlier).batch.textOrNulls app.statusColumn =
    (app.turn context earlier).status := hexact.status
  rw [hstatus]
  exact hexact.unset

/-- A row is unset at a turn if it had no status and no rule before has claimed it. -/
theorem unset_turn_iff (earlier : List Rule) (row : Fin app.data.rows) :
    (app.turn context earlier).unset.get row = true ↔ app.blankBefore.get row = true ∧
      ∀ first other later, earlier = first ++ other :: later →
        other.claims app.kind ((app.turn context first).input (app.task context)) row = false := by
  have hiff := Labeling.get_unset_applyAll_iff (app.task context)
    (Labeling.start (app.task context) app.data.batch context.masks) earlier row
  have hstart : (Labeling.start (app.task context) app.data.batch context.masks).unset =
    app.blankBefore := app.unset_turn_nil context
  rw [hstart] at hiff
  exact hiff

/-- Before a rule of the run has been evaluated, the state is that of the start. -/
theorem turn_of_no_hits {earlier : List Rule} (hhits : (app.turn context earlier).hits = []) :
    app.turn context earlier = app.turn context [] := by
  rcases Labeling.applyAll_eq_or_tracked (app.refresh_task context)
      (Labeling.start (app.task context) app.data.batch context.masks) earlier with hsame | ⟨hne, _⟩
  · exact hsame
  · exact absurd hhits hne

/-- Once a rule has been evaluated, the check for a missing status says which rows are unset. -/
theorem evaluate?_noStatus_of_hits {earlier : List Rule} (hhits : (app.turn context earlier).hits ≠ []) :
    (Check.builtin .noStatus).evaluate? ((app.turn context earlier).input (app.task context)) =
      some (app.turn context earlier).unset := by
  rcases Labeling.applyAll_eq_or_tracked (app.refresh_task context)
      (Labeling.start (app.task context) app.data.batch context.masks) earlier with
    hsame | ⟨_, htracked⟩
  · have hnone : (app.turn context earlier).hits = [] := by
      rw [turn, hsame]
      rfl
    exact absurd hnone hhits
  · exact Labeling.evaluate?_noStatus_of_tracked htracked

/-- At the start of a run the check takes what is left over, if it fits. -/
theorem evaluate?_noStatus_nil {leftover : Option (List Bool)}
    (hmasks : context.masks.get? Builtin.noStatus.name = leftover.map (·.map some)) :
    (Check.builtin .noStatus).evaluate? ((app.turn context []).input (app.task context)) =
      some ((leftover.bind (Series.ofList? app.data.rows)).getD app.blankBefore) := by
  have hbatch : ((app.turn context []).batch.textOrNulls (app.task context).statusColumn) =
    app.data.batch.textOrNulls app.statusColumn := Batch.textOrNulls_ensureText _ _ _
  have hstart : (app.turn context []).masks = context.masks := rfl
  rw [Labeling.evaluate?_noStatus, hbatch, hstart]
  cases leftover with
  | none =>
    have hnone : context.masks.maskFor? app.data.rows Builtin.noStatus.name = none := by
      rw [Registry.maskFor?, hmasks]
      rfl
    rw [hnone]
    rfl
  | some marks =>
    rw [Registry.maskFor?_of_get? hmasks, Option.bind_some]
    rfl

/-- Marks that are left over do no harm exactly if they are for other rows or those of the rows without a
status. -/
theorem getD_leftover_eq_iff (leftover : Option (List Bool)) :
    (leftover.bind (Series.ofList? app.data.rows)).getD app.blankBefore = app.blankBefore ↔
      ∀ marks ∈ leftover, marks.length = app.data.rows → marks = app.blankBefore.toList := by
  cases leftover with
  | none => simp
  | some marks =>
    simp only [Option.bind_some, Option.mem_some_iff, forall_eq', Series.ofList?]
    by_cases hlength : marks.length = app.data.rows
    · rw [dif_pos hlength, Option.getD_some]
      refine ⟨fun heq _ => congrArg Series.toList heq, fun heq => ?_⟩
      exact Series.ext_toList (heq hlength)
    · rw [dif_neg hlength, Option.getD_none]
      exact iff_of_true rfl fun h => absurd h hlength

/-- A rule with no other check than `no_status` labels every unset row, where the check is right. -/
theorem labelAt_of_noStatus_only (hne : app.statusColumn ≠ Schema.matchedNote) {earlier : List Rule}
    {rule : Rule} (hchecks : rule.checks = [.builtin .noStatus])
    (hright : (Check.builtin .noStatus).evaluate?
      ((app.turn context earlier).input (app.task context)) = some (app.turn context earlier).unset)
    {status : String} (hstatus : rule.labelFor? app.kind = some status) {row : Fin app.data.rows}
    (hunset : (app.turn context earlier).unset.get row = true) :
    (app.turn context (earlier ++ [rule])).batch.labelAt app.statusColumn row =
      ⟨some status, some rule.note⟩ := by
  have hmask : rule.mask? ((app.turn context earlier).input (app.task context)) =
      some (app.turn context earlier).unset := by
    rw [Rule.mask?, hchecks, List.filterMap_cons, hright]
    cases rule.combine <;> rfl
  have hclaims : rule.claims (app.task context).kind
      ((app.turn context earlier).input (app.task context)) row = true :=
    Rule.claims_iff.2 ⟨status, _, hstatus, hmask, hunset⟩
  have hturn : app.turn context (earlier ++ [rule]) =
    (app.turn context earlier).apply (app.task context) rule := List.foldl_append
  have hcoherent : (app.turn context (earlier ++ [rule])).Coherent (app.task context) :=
    (Labeling.coherent_start (app.task context) app.data.batch context.masks).applyAll _ hne
  have hlabel := hcoherent.labelAt_batch row
  rw [hturn, (Labeling.apply_of_claims hunset hclaims).2, ← hturn,
    (Rule.labelFor?_eq_some_iff.1 hstatus).2.2] at hlabel
  exact hlabel

/-- In every one of several runs that share a context, and at the turn of every rule, the check
`no_status` is right once a rule has been evaluated, and before that unless what is left over misleads
it. -/
theorem noStatusAt_contextAfter (hnone : context.masks.get? Builtin.noStatus.name = none)
    (apps : List Application) (earlier : List Rule) (rule : Rule) :
    ∃ mask, app.NoStatusAt (contextAfter context apps) (leftover context apps) earlier rule mask := by
  have hmasks := get?_contextAfter context hnone apps
  obtain ⟨mask, hmask, hright⟩ : ∃ mask, (Check.builtin .noStatus).evaluate?
      ((app.turn (contextAfter context apps) earlier).input (app.task (contextAfter context apps))) =
        some mask ∧
      (mask = (app.turn (contextAfter context apps) earlier).unset ↔
        (app.turn (contextAfter context apps) earlier).hits ≠ [] ∨
        ∀ marks ∈ leftover context apps, marks.length = app.data.rows →
          marks = app.blankBefore.toList) := by
    by_cases hhits : (app.turn (contextAfter context apps) earlier).hits = []
    · have hstart := app.turn_of_no_hits (contextAfter context apps) hhits
      refine ⟨((leftover context apps).bind (Series.ofList? app.data.rows)).getD app.blankBefore, ?_, ?_⟩
      · rw [hstart]
        exact app.evaluate?_noStatus_nil (contextAfter context apps) hmasks
      · rw [or_iff_right (not_not_intro hhits), hstart, unset_turn_nil]
        exact app.getD_leftover_eq_iff (leftover context apps)
    · have hevaluated := app.evaluate?_noStatus_of_hits (contextAfter context apps) hhits
      exact ⟨_, hevaluated, iff_of_true rfl (.inl hhits)⟩
  refine ⟨mask, hmask, hright, app.unset_turn_iff _ earlier, ?_, ?_⟩
  · exact fun hne hlasting => app.unset_turn_eq_blank _ hne hlasting
  · rintro hne hchecks rfl status hstatus row hunset
    exact app.labelAt_of_noStatus_only _ hne hchecks hmask hstatus hunset

def openRule : RuleConfig :=
  { priority := 2, statusValue := some "open", note := "left over", checks := [{ type := "no_status" }] }

def itemRule : RuleConfig :=
  { priority := 1, statusValue := some "seen",
    checks := [{ type := "equals", field := some "item", value := some (.string "b") }] }

/-- A row without a status and one with a status. -/
def halfDone : Dataset :=
  ⟨2, ⟨⟨[("item", .text ⟨[some "a", some "a"], rfl⟩), ("status", .text ⟨[none, some "done"], rfl⟩)]⟩⟩⟩

/-- The rules are applied to data of which no row has been seen. -/
def halfDoneUnder (rules : List RuleConfig) : Application :=
  ⟨.ofRules .empty "rules" rules, halfDone, "status", .order⟩

/-- The first run marks no row as unset. Its marks are replaced as the second run evaluates a rule that
labels nothing, so that the rule behind it finds the one row without a status. -/
theorem noStatusAt_contextAfter_replaced :
    (∅ : Registry).get? Builtin.noStatus.name = none ∧
    leftover {} [halfDoneUnder [openRule]] = some [false, false] ∧
    let app := halfDoneUnder [itemRule, openRule]
    let context := contextAfter {} [halfDoneUnder [openRule]]
    let earlier := [Rule.compile itemRule .empty]
    let rule := Rule.compile openRule .empty
    (Check.builtin .noStatus).evaluate? ((app.turn context earlier).input (app.task context)) =
      some ⟨[true, false], rfl⟩ ∧
    (app.turn context (earlier ++ [rule])).batch.labelAt "status" ⟨0, by decide⟩ =
      ⟨some "open", some "left over"⟩ := by
  refine ⟨rfl, by decide, ?_⟩
  intro app context earlier rule
  obtain ⟨mask, hat⟩ := app.noStatusAt_contextAfter {} rfl [halfDoneUnder [openRule]] earlier rule
  have hright : mask = (app.turn context earlier).unset := hat.right_iff.2 (.inl (by decide))
  have hunset : (app.turn context earlier).unset = ⟨[true, false], rfl⟩ := by decide
  refine ⟨?_, hat.labels (by decide) rfl hright "open" rfl ⟨0, by decide⟩ (by rw [hunset]; rfl)⟩
  rw [hat.evaluated, hright, hunset]

/-- A second run that shares the context does not find the row without a status. -/
theorem not_forall_noStatus_right :
    ¬∀ (context : RuleContext) (apps : List Application) (app : Application),
      context.masks.get? Builtin.noStatus.name = none →
      (∀ other ∈ apps ++ [app], other.statusColumn ≠ Schema.matchedNote ∧
        ∀ rule ∈ other.engine.rules, rule.Lasting) →
      ∀ earlier rule later, app.engine.rules = earlier ++ rule :: later →
        (Check.builtin .noStatus).evaluate? ((app.turn (contextAfter context apps) earlier).input
          (app.task (contextAfter context apps))) =
        some ((app.turn (contextAfter context apps) earlier).batch.textOrNulls app.statusColumn).unset := by
  intro h
  have hright := h {} [halfDoneUnder [openRule]] (halfDoneUnder [openRule]) rfl (by decide) []
    (Rule.compile openRule .empty) [] rfl
  exact absurd hright (by decide)

end Application

end PurchaseStatus
