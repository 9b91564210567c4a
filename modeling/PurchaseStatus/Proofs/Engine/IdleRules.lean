import PurchaseStatus.Proofs.Check.Requirements
import PurchaseStatus.Proofs.Engine.DeadRules

namespace PurchaseStatus

variable {n : Nat}

namespace Rule

/-- The ways in which a rule comes to nothing at its turn. -/
inductive Idle (rule : Rule) (kind : RecordKind) (input : CheckInput n) : Prop
  | otherKind {kinds : List RecordKind} (hlist : rule.applyTo = some kinds) (hkind : kind ∉ kinds)
  | noStatus (hstatus : rule.status = none)
  | noChecks (hchecks : rule.checks = [])
  | stuck (hstuck : ∀ check ∈ rule.checks, check.Stuck input)

/-- A rule is for all kinds of records unless it lists some. -/
theorem appliesTo_eq_false_iff {rule : Rule} {kind : RecordKind} :
    rule.appliesTo kind = false ↔ ∃ kinds, rule.applyTo = some kinds ∧ kind ∉ kinds := by
  rw [appliesTo]
  cases rule.applyTo <;> simp

/-- These are all the ways not to be evaluated. -/
theorem idle_iff {rule : Rule} {kind : RecordKind} {input : CheckInput n} :
    rule.Idle kind input ↔ rule.isEvaluated kind input = false := by
  simp only [isEvaluated, Bool.and_eq_false_iff, appliesTo_eq_false_iff, Bool.not_eq_false',
    List.isEmpty_iff, List.any_eq_false, Option.not_isSome_iff_eq_none, Check.evaluate?_eq_none_iff,
    Option.isSome_eq_false_iff, Option.isNone_iff_eq_none]
  constructor
  · rintro (⟨hlist, hkind⟩ | hstatus | hchecks | hstuck)
    · exact .inl (.inl (.inl ⟨_, hlist, hkind⟩))
    · exact .inl (.inl (.inr hstatus))
    · exact .inl (.inr hchecks)
    · exact .inr hstuck
  · rintro (((⟨kinds, hlist, hkind⟩ | hstatus) | hchecks) | hstuck)
    · exact .otherKind hlist hkind
    · exact .noStatus hstatus
    · exact .noChecks hchecks
    · exact .stuck hstuck

end Rule

/-- When a rule is idle as it is written: it is for other records, its status is not resolved, it has
no checks, or each of them is for a mask that is not there or of another length, and lacks what it compares
with or reads a column, a date or accounts that are not there. -/
def RuleConfig.Idle (written : RuleConfig) (tree : ConfigTree) (kind : RecordKind) (input : CheckInput n) :
    Prop :=
  (∃ kinds, written.applyTo = some kinds ∧ kind ∉ kinds) ∨
  Rule.statusOf? written tree = none ∨
  written.checks = [] ∨
  ∀ check ∈ written.checks,
    (∀ name ∈ (check.compile tree).maskNames, ∀ bits,
      input.masks.get? name = some bits → bits.length ≠ n) ∧
    (check.Lacks tree ∨ ∃ needs, (check.compile tree).requirements? = some needs ∧
      ∃ need ∈ needs, need.isMet input = false)

namespace Rule

/-- A compiled rule is idle exactly if the rule is so as it is written. -/
theorem idle_compile_iff (written : RuleConfig) (tree : ConfigTree) (kind : RecordKind)
    (input : CheckInput n) : (compile written tree).Idle kind input ↔ written.Idle tree kind input := by
  simp only [RuleConfig.Idle, ← CheckConfig.stuck_compile_iff]
  constructor
  · rintro (⟨hlist, hkind⟩ | hstatus | hchecks | hstuck)
    · exact .inl ⟨_, hlist, hkind⟩
    · exact .inr (.inl hstatus)
    · exact .inr (.inr (.inl (List.map_eq_nil_iff.1 hchecks)))
    · exact .inr (.inr (.inr fun check hcheck => hstuck _ (List.mem_map_of_mem hcheck)))
  · rintro (⟨kinds, hlist, hkind⟩ | hstatus | hchecks | hstuck)
    · exact .otherKind hlist hkind
    · exact .noStatus hstatus
    · exact .noChecks (List.map_eq_nil_iff.2 hchecks)
    · refine .stuck fun check hcheck => ?_
      obtain ⟨origin, horigin, rfl⟩ := List.mem_map.1 hcheck
      exact hstuck origin horigin

end Rule

/-- A rule that is idle at its turn might as well be left out. -/
theorem Labeling.applyAll_of_idle {task : LabelingTask} {state : Labeling n} {earlier : List Rule}
    {rule : Rule} (hidle : rule.Idle task.kind ((state.applyAll task earlier).input task))
    (later : List Rule) :
    state.applyAll task (earlier ++ rule :: later) = state.applyAll task (earlier ++ later) := by
  rw [applyAll_append, applyAll_append, applyAll_cons, apply_of_not_evaluated (Rule.idle_iff.1 hidle)]

namespace EngineCall

/-- A rule is idle in a call where some others have been applied. -/
def IdleAfter (engine : Engine) (call : EngineCall) (earlier : List Rule) (rule : Rule) : Prop :=
  rule.Idle call.kind ((call.stateAfter engine earlier).input (call.task engine))

variable {engine : Engine} {call : EngineCall} {earlier later : List Rule} {rule : Rule}

/-- A rule that is idle at its turn leaves no trace in the state. -/
theorem stateAfter_of_idle (hidle : call.IdleAfter engine earlier rule) (later : List Rule) :
    call.stateAfter engine (earlier ++ rule :: later) = call.stateAfter engine (earlier ++ later) := by
  let task := call.task engine
  have hturn : rule.Idle task.kind (((call.start engine).applyAll task earlier).input task) := hidle
  exact Labeling.applyAll_of_idle hturn later

/-- Two engines of which the first has one rule more do the same in a call in which that rule is idle
at its turn, and in one that applies only labels of its own. -/
theorem run_eq_of_idle {whole rest : Engine} (hconfig : whole.config = rest.config)
    (hwhole : whole.rules = earlier ++ rule :: later) (hrest : rest.rules = earlier ++ later)
    (hidle : ∀ refresh, call.request = .rules refresh → call.IdleAfter whole earlier rule) :
    call.run whole = call.run rest := by
  have htask : call.task whole = call.task rest := by simp only [task, Engine.task, hconfig]
  have hstate : ∀ rules, call.stateAfter whole rules = call.stateAfter rest rules := by
    intro rules
    simp only [stateAfter, start, htask]
  -- the configuration apart, an engine enters a call only through its rules
  have hfinal : call.stateAfter whole (call.rulesOf whole) = call.stateAfter rest (call.rulesOf rest) := by
    cases hrequest : call.request with
    | rules refresh =>
      have hrules : call.rulesOf whole = earlier ++ rule :: later := by rw [rulesOf, hrequest, ← hwhole]
      have hothers : call.rulesOf rest = earlier ++ later := by rw [rulesOf, hrequest, ← hrest]
      rw [hrules, hothers, stateAfter_of_idle (hidle refresh hrequest), hstate]
    | fallbacks labels =>
      have hsame : call.rulesOf whole = call.rulesOf rest := by simp only [rulesOf, hrequest]
      rw [hsame, hstate]
  rw [run_eq, run_eq, hfinal]

/-- The call with other labels to fall back to. -/
def withLabels (call : EngineCall) (labels : List Fallback) : EngineCall :=
  { call with request := .fallbacks labels }

/-- A label to fall back to is a rule, and may be left out in the same way. -/
theorem run_withLabels_of_idle {labels : List Fallback} {label : Fallback} {more : List Fallback}
    (hidle : (call.withLabels (labels ++ label :: more)).IdleAfter engine (labels.map Fallback.toRule)
      label.toRule) :
    (call.withLabels (labels ++ label :: more)).run engine = (call.withLabels (labels ++ more)).run engine := by
  have hstate := stateAfter_of_idle hidle (more.map Fallback.toRule)
  have hrules : (call.withLabels (labels ++ label :: more)).rulesOf engine =
      labels.map Fallback.toRule ++ label.toRule :: more.map Fallback.toRule := List.map_append
  have hothers : (call.withLabels (labels ++ more)).rulesOf engine =
      labels.map Fallback.toRule ++ more.map Fallback.toRule := List.map_append
  rw [run_eq, run_eq, hrules, hothers, hstate]
  rfl

end EngineCall

namespace Engine

/-- Engines that do the same in every call have the same ledger. -/
theorem ledger_congr {a b : Engine} {calls : List EngineCall}
    (hruns : ∀ call ∈ calls, call.run a = call.run b) : a.ledger calls = b.ledger calls := by
  refine List.foldl_ext _ _ _ fun ledger call hcall => ?_
  rw [hruns call hcall]

variable (config : ConfigTree) (sectionPath : String)

/-- The rules that apply before one of a priority that is declared between some others. -/
def rulesBefore (first second : List RuleConfig) (priority : Int) : List Rule :=
  byPriority ((first.filter (·.priority ≤ priority) ++ second.filter (·.priority < priority)).map
    (Rule.compile · config))

/-- The rules that apply behind it. -/
def rulesBehind (first second : List RuleConfig) (priority : Int) : List Rule :=
  byPriority ((first.filter (priority < ·.priority) ++ second.filter (priority ≤ ·.priority)).map
    (Rule.compile · config))

/-- Rules of one priority apply behind those that come before them in priority or in declaration, and
before the others. -/
theorem rules_ofRules_around {priority : Int} {middle : List RuleConfig}
    (hmiddle : ∀ written ∈ middle, written.priority = priority) (first second : List RuleConfig) :
    (ofRules config sectionPath (first ++ (middle ++ second))).rules =
      rulesBefore config first second priority ++ (middle.map (Rule.compile · config) ++
        rulesBehind config first second priority) := by
  have hcompiled : ∀ rule ∈ middle.map (Rule.compile · config), rule.priority = priority := by
    intro rule hrule
    obtain ⟨written, hwritten, rfl⟩ := List.mem_map.1 hrule
    exact hmiddle written hwritten
  have haround := sortBy_around (fun rule : Rule => rule.priority) hcompiled
    (first.map (Rule.compile · config)) (second.map (Rule.compile · config))
  simp only [List.filter_map, ← List.map_append] at haround
  exact haround

/-- What it comes to that an engine has a rule that another one has not, behind some and before the
others: nothing in a call in which it is idle at its turn, and nothing in the ledger of such calls. -/
structure Spares (whole rest : Engine) (earlier : List Rule) (rule : Rule) (later : List Rule) : Prop where
  turn : whole.rules = earlier ++ rule :: later
  others : rest.rules = earlier ++ later
  run : ∀ call : EngineCall,
    (∀ refresh, call.request = .rules refresh → call.IdleAfter whole earlier rule) →
    call.run whole = call.run rest
  ledger : ∀ calls : List EngineCall,
    (∀ call ∈ calls, ∀ refresh, call.request = .rules refresh → call.IdleAfter whole earlier rule) →
    whole.ledger calls = rest.ledger calls

/-- Deleting a rule from a declaration changes nothing in any call in which it is idle at its turn, as can
be told from how it is written, nor does deleting such a label from those that a call falls back to. -/
theorem spares_idle (first second : List RuleConfig) (written : RuleConfig) :
    let declared := ofRules config sectionPath (first ++ written :: second)
    let remaining := ofRules config sectionPath (first ++ second)
    let earlier := rulesBefore config first second written.priority
    let rule := Rule.compile written config
    Spares declared remaining earlier rule (rulesBehind config first second written.priority) ∧
    (∀ call : EngineCall, call.IdleAfter declared earlier rule ↔
      written.Idle config call.kind ((call.stateAfter declared earlier).input (call.task declared))) ∧
    ∀ (engine : Engine) (call : EngineCall) (labels more : List Fallback) (label : Fallback),
      let whole := call.withLabels (labels ++ label :: more)
      let rest := call.withLabels (labels ++ more)
      whole.IdleAfter engine (labels.map Fallback.toRule) label.toRule →
      whole.run engine = rest.run engine ∧ ∀ calls others : List EngineCall,
        engine.ledger (calls ++ whole :: others) = engine.ledger (calls ++ rest :: others) := by
  intro declared remaining earlier rule
  refine ⟨?_, fun call => Rule.idle_compile_iff written config call.kind _, ?_⟩
  · have hone : ∀ other ∈ [written], other.priority = written.priority := by simp
    have hnone : ∀ other ∈ ([] : List RuleConfig), other.priority = written.priority := by simp
    have hwhole := rules_ofRules_around config sectionPath hone first second
    have hrest := rules_ofRules_around config sectionPath hnone first second
    refine ⟨hwhole, hrest, fun call hidle => EngineCall.run_eq_of_idle rfl hwhole hrest hidle, ?_⟩
    intro calls hidle
    exact ledger_congr fun call hcall => EngineCall.run_eq_of_idle rfl hwhole hrest (hidle call hcall)
  · intro engine call labels more label whole rest hidle
    have hrun : whole.run engine = rest.run engine := EngineCall.run_withLabels_of_idle hidle
    have hreport : (whole.run engine).report = (rest.run engine).report := congrArg Run.report hrun
    have hrecord : ∀ ledger : Ledger, ledger.record whole.seconds (whole.run engine).report =
        ledger.record rest.seconds (rest.run engine).report :=
      fun ledger => congrArg (ledger.record call.seconds) hreport
    refine ⟨hrun, fun calls others => ?_⟩
    simp only [ledger, List.foldl_append, List.foldl_cons, hrecord]

/-- A type that only a mask can stand for, a column that is not there, a date that is not given. -/
def stuckRule : RuleConfig :=
  { priority := 1, statusValue := some "flagged", combine := .or,
    checks := [{ type := "flagged" }, { type := "is_null", field := some "absent" },
      { type := "erm_le_date" }] }

/-- The mask in the context is for one row. -/
def stuckCall : EngineCall :=
  { overlappingCall with context := { masks := ⟨[("flagged", [some true])]⟩ } }

def stuckLabel : Fallback := { status := "flagged", note := "", check := some (.prebuilt "flagged") }

/-- The stuck rule stands in the middle of others and none of its three checks can be evaluated, nor can
that of the first label to fall back to. -/
theorem spares_idle_stuckRule :
    let first := overlappingRules.take 2
    let second := overlappingRules.drop 2
    let engine := ofRules .empty "rules" (first ++ stuckRule :: second)
    let last : Fallback := { status := "rest", note := "", check := none }
    stuckCall.IdleAfter engine (rulesBefore .empty first second 1) (Rule.compile stuckRule .empty) ∧
    (stuckCall.run engine).report.hits =
      [("priority_1_", 1), ("priority_1_tie", 0), ("priority_2_seen", 1), ("priority_5_open", 1)] ∧
    (stuckCall.withLabels [stuckLabel, last]).IdleAfter engine [] stuckLabel.toRule ∧
    ((stuckCall.withLabels [stuckLabel, last]).run engine).report.hits = [("fallback_rest", 3)] := by
  intro first second engine last
  have hidle : stuckCall.IdleAfter engine (rulesBefore .empty first second 1)
      (Rule.compile stuckRule .empty) := Rule.idle_iff.2 (by decide)
  have hlabel : (stuckCall.withLabels [stuckLabel, last]).IdleAfter engine [] stuckLabel.toRule :=
    Rule.idle_iff.2 (by decide)
  obtain ⟨hspares, _, hlabels⟩ := spares_idle .empty "rules" first second stuckRule
  refine ⟨hidle, ?_, hlabel, ?_⟩
  · rw [hspares.run stuckCall fun _ _ => hidle]
    decide
  · have hrun : (stuckCall.withLabels [stuckLabel, last]).run engine =
        (stuckCall.withLabels [last]).run engine := (hlabels engine stuckCall [] [last] stuckLabel hlabel).1
    rw [hrun]
    decide

end Engine

end PurchaseStatus
