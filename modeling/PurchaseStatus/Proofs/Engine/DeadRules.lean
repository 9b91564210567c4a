import PurchaseStatus.Proofs.Engine.Turns
import Mathlib.Data.List.Nodup

namespace PurchaseStatus

variable {n : Nat}

namespace Labeling

/-- No row is recorded under an id exactly if every rule of that id labels none. -/
theorem rowsOf_hits_eq_zero_iff (task : LabelingTask) (state : Labeling n) (rules : List Rule)
    (id : String) :
    rowsOf ((state.applyAll task rules).hits.filter (·.1 = id)) = 0 ↔
      rowsOf (state.hits.filter (·.1 = id)) = 0 ∧
      ∀ place (hplace : place < rules.length), rules[place].id = id →
        ((state.applyAll task (rules.take place)).taken task rules[place]).count = 0 := by
  induction rules generalizing state with
  | nil => simp [applyAll]
  | cons rule rest ih =>
    have hrest := ih (state.apply task rule)
    rw [rowsOf_hits_apply, Nat.add_eq_zero_iff] at hrest
    refine hrest.trans ⟨?_, ?_⟩
    · rintro ⟨⟨hbefore, hrule⟩, hlater⟩
      refine ⟨hbefore, fun place hplace hid => ?_⟩
      cases place with
      | zero => exact (if_pos hid).symm.trans hrule
      | succ place => exact hlater place (Nat.lt_of_succ_lt_succ hplace) hid
    · rintro ⟨hbefore, hall⟩
      refine ⟨⟨hbefore, ?_⟩, fun place hplace hid => hall (place + 1) (Nat.succ_lt_succ hplace) hid⟩
      split
      · rename_i hid
        exact hall 0 (Nat.succ_pos _) hid
      · rfl

end Labeling

/-- The rows that the rule at a place labels in a call. -/
def EngineCall.labelledAt (engine : Engine) (call : EngineCall) (place : Fin engine.rules.length) :
    Mask call.data.rows :=
  (call.stateAfter engine (engine.rules.take place)).taken (call.task engine) (engine.rules.get place)

namespace Engine

variable (engine : Engine) (calls : List EngineCall)

/-- The rule at a place labels no row in any of the calls. -/
def Dead (place : Fin engine.rules.length) : Prop :=
  ∀ call ∈ calls, ∀ row, (call.labelledAt engine place).get row = false

instance (place : Fin engine.rules.length) : Decidable (engine.Dead calls place) :=
  inferInstanceAs (Decidable (∀ call ∈ calls, ∀ row, (call.labelledAt engine place).get row = false))

/-- The id under which the rule at a place is counted. -/
def idAt (place : Fin engine.rules.length) : String := (engine.rules.get place).id

/-- No rule that shares the id of the one at a place labels a row in any of the calls. -/
def DeadByName (place : Fin engine.rules.length) : Prop :=
  ∀ other, engine.idAt other = engine.idAt place → engine.Dead calls other

instance (place : Fin engine.rules.length) : Decidable (engine.DeadByName calls place) :=
  inferInstanceAs (Decidable (∀ other, engine.idAt other = engine.idAt place → engine.Dead calls other))

/-- The places of the rules, in the order of application. -/
def places : List (Fin engine.rules.length) := List.finRange engine.rules.length

/-- The ids of the rules, place by place. -/
theorem map_idAt_places : engine.places.map engine.idAt = engine.ruleIds := by
  have hrules := congrArg (List.map Rule.id) (List.map_get_finRange engine.rules)
  rw [List.map_map] at hrules
  exact hrules

variable {engine calls}

/-- A call returns no row under an id exactly if no rule of that id labels one. -/
theorem countOf_run_eq_zero_iff {call : EngineCall} (hrequest : ∃ refresh, call.request = .rules refresh)
    (id : String) : (call.run engine).stats.countOf id = 0 ↔
      ∀ place, engine.idAt place = id → ∀ row, (call.labelledAt engine place).get row = false := by
  obtain ⟨refresh, hrequest⟩ := hrequest
  have hrules : call.rulesOf engine = engine.rules := by rw [EngineCall.rulesOf, hrequest]
  have hhits : (call.run engine).report.hits = (call.stateAfter engine engine.rules).hits := by
    rw [call.run_eq, hrules]
  have hcount := (call.run engine).report.countOf_stats id
  have hzero := Labeling.rowsOf_hits_eq_zero_iff (call.task engine) (call.start engine) engine.rules id
  rw [hhits] at hcount
  rw [Run.stats, hcount]
  refine hzero.trans ⟨?_, ?_⟩
  · rintro ⟨_, hall⟩ place hid row
    exact Mask.get_eq_false_of_count (Nat.not_lt.2 (Nat.le_of_eq (hall place place.isLt hid))) row
  · intro hall
    refine ⟨rfl, fun place hplace hid => Nat.eq_zero_of_not_pos fun hpos => ?_⟩
    obtain ⟨row, hrow⟩ := Mask.count_pos_iff.1 hpos
    have hfalse := hall ⟨place, hplace⟩ hid row
    exact absurd hrow (Bool.eq_false_iff.1 hfalse)

/-- Calls return no row under an id exactly if all rules of that id are dead. -/
theorem returned_eq_zero_iff (hrequests : ∀ call ∈ calls, ∃ refresh, call.request = .rules refresh)
    (id : String) : engine.returned calls id = 0 ↔
      ∀ place, engine.idAt place = id → engine.Dead calls place := by
  rw [returned, List.sum_eq_zero_iff_forall_eq_nat, List.forall_mem_map]
  constructor
  · intro hall place hid call hcall
    exact (countOf_run_eq_zero_iff (hrequests call hcall) id).1 (hall call hcall) place hid
  · intro hall call hcall
    exact (countOf_run_eq_zero_iff (hrequests call hcall) id).2 fun place hid => hall place hid call hcall

/-- Where ids are not shared, a rule answers for itself alone. -/
theorem deadByName_iff_of_nodup (hnodup : engine.ruleIds.Nodup) (place : Fin engine.rules.length) :
    engine.DeadByName calls place ↔ engine.Dead calls place := by
  refine ⟨fun hdead => hdead place rfl, fun hdead other hid => ?_⟩
  rw [← map_idAt_places] at hnodup
  have hsame := List.inj_on_of_nodup_map hnodup (List.mem_finRange other) (List.mem_finRange place) hid
  rwa [hsame]

variable (engine calls) in
/-- What is reported as uncovered are the ids whose counter stands at zero. -/
theorem uncovered_report_eq :
    let report := (engine.ledger calls).coverage.report engine.ruleIds
    report.uncovered = engine.ruleIds.filter (fun id => engine.returned calls id % 2 ^ 64 = 0) ∧
    report.covered = engine.ruleIds.countP fun id => ¬engine.returned calls id % 2 ^ 64 = 0 := by
  intro report
  have hid : ∀ id ∈ engine.ruleIds, ((engine.ledger calls).coverage.hitsOf id == 0) =
      decide (engine.returned calls id % 2 ^ 64 = 0) := by
    intro id _
    rw [hitsOf_coverage_ledger, Bool.eq_iff_iff, beq_iff_eq, decide_eq_true_iff, ← UInt64.toNat_inj,
      UInt64.toNat_ofNat']
    rfl
  -- both lists keep the order of application, so it is enough to compare them place by place
  have huncovered : report.uncovered =
      engine.ruleIds.filter (fun id => engine.returned calls id % 2 ^ 64 = 0) := List.filter_congr hid
  refine ⟨huncovered, ?_⟩
  have hlength : report.covered = engine.ruleIds.length - report.uncovered.length := rfl
  have hsplit := engine.ruleIds.length_eq_countP_add_countP (fun id => engine.returned calls id % 2 ^ 64 = 0)
  simp only [decide_eq_true_eq] at hsplit
  rw [hlength, huncovered, ← List.countP_eq_length_filter]
  omega

/-- After any calls of an engine's rules, the coverage report lists as uncovered the ids whose counter
stands at zero. While no counter has wrapped, these belong to the rules whose id no rule with a labelled row
has, in the order of application; and where the rules have different ids, to the dead rules. -/
theorem uncovered_report (hrequests : ∀ call ∈ calls, ∃ refresh, call.request = .rules refresh) :
    let report := (engine.ledger calls).coverage.report engine.ruleIds
    report.uncovered = engine.ruleIds.filter (fun id => engine.returned calls id % 2 ^ 64 = 0) ∧
    report.covered = engine.ruleIds.countP (fun id => ¬engine.returned calls id % 2 ^ 64 = 0) ∧
    ((∀ id ∈ engine.ruleIds, engine.returned calls id < 2 ^ 64) →
      report.uncovered = (engine.places.filter (engine.DeadByName calls)).map engine.idAt ∧
      report.covered = engine.places.countP (¬engine.DeadByName calls ·) ∧
      (engine.ruleIds.Nodup →
        report.uncovered = (engine.places.filter (engine.Dead calls)).map engine.idAt ∧
        report.covered = engine.places.countP (¬engine.Dead calls ·))) := by
  intro report
  obtain ⟨hzero, hpositive⟩ := uncovered_report_eq engine calls
  refine ⟨hzero, hpositive, fun hfits => ?_⟩
  have hdead : ∀ place : Fin engine.rules.length,
      engine.returned calls (engine.idAt place) % 2 ^ 64 = 0 ↔ engine.DeadByName calls place := by
    intro place
    have hmem : engine.idAt place ∈ engine.ruleIds := by
      rw [← map_idAt_places]
      exact List.mem_map_of_mem (List.mem_finRange place)
    rw [Nat.mod_eq_of_lt (hfits _ hmem)]
    exact returned_eq_zero_iff hrequests (engine.idAt place)
  have huncovered : report.uncovered = (engine.places.filter (engine.DeadByName calls)).map engine.idAt := by
    refine hzero.trans ?_
    rw [← map_idAt_places, List.filter_map]
    exact congrArg (List.map engine.idAt) (List.filter_congr fun place _ => decide_eq_decide.2 (hdead place))
  have hcovered : report.covered = engine.places.countP (¬engine.DeadByName calls ·) := by
    refine hpositive.trans ?_
    rw [← map_idAt_places, List.countP_map]
    refine List.countP_congr fun place _ => ?_
    simp only [Function.comp_apply, decide_eq_true_eq, hdead place]
  refine ⟨huncovered, hcovered, fun hnodup => ?_⟩
  have hsame : engine.DeadByName calls = engine.Dead calls :=
    funext fun place => propext (deadByName_iff_of_nodup hnodup place)
  simp only [hsame] at huncovered hcovered
  exact ⟨huncovered, hcovered⟩

/-- The batch of the overlapping rules, in one call. -/
def overlappingCall : EngineCall :=
  { request := .rules true, data := ⟨4, overlappingBatch⟩, statusColumn := "status", context := {},
    kind := .order, seconds := 0 }

/-- The call applies the rules of its engine. -/
theorem requests_overlappingCall :
    ∀ call ∈ [overlappingCall], ∃ refresh, call.request = .rules refresh := by
  intro call hcall
  obtain rfl := List.mem_singleton.1 hcall
  exact ⟨true, rfl⟩

/-- The rule that loses its one row to a rule of the same priority is the only dead one. -/
theorem uncovered_report_overlapping :
    let engine := ofRules .empty "rules" overlappingRules
    let report := (engine.ledger [overlappingCall]).coverage.report engine.ruleIds
    (∀ call ∈ [overlappingCall], ∃ refresh, call.request = .rules refresh) ∧
    (∀ id ∈ engine.ruleIds, engine.returned [overlappingCall] id < 2 ^ 64) ∧ engine.ruleIds.Nodup ∧
    report.uncovered = ["priority_1_tie"] ∧ report.covered = 3 := by
  intro engine report
  have hfits : ∀ id ∈ engine.ruleIds, engine.returned [overlappingCall] id < 2 ^ 64 := by decide
  have hnodup : engine.ruleIds.Nodup := by decide
  obtain ⟨_, _, hunwrapped⟩ := uncovered_report requests_overlappingCall
  obtain ⟨huncovered, hcovered⟩ := (hunwrapped hfits).2.2 hnodup
  exact ⟨requests_overlappingCall, hfits, hnodup, huncovered.trans (by decide), hcovered.trans (by decide)⟩

/-- Two rules of one priority and one status. -/
def namesakes : List RuleConfig := [
  { priority := 2, statusValue := some "seen", note := "item a",
    checks := [{ type := "equals", field := some "item", value := some (.string "a") }] },
  { priority := 2, statusValue := some "seen", note := "item z",
    checks := [{ type := "equals", field := some "item", value := some (.string "z") }] }]

/-- A dead rule is not listed where another rule goes by its id and labels a row. -/
theorem not_forall_uncovered_dead :
    ¬∀ (config : ConfigTree) (sectionPath : String) (rules : List RuleConfig) (calls : List EngineCall),
      (∀ call ∈ calls, ∃ refresh, call.request = .rules refresh) →
      let engine := ofRules config sectionPath rules
      let report := (engine.ledger calls).coverage.report engine.ruleIds
      report.uncovered = (engine.places.filter (engine.Dead calls)).map engine.idAt ∧
      report.covered = engine.places.countP (¬engine.Dead calls ·) := by
  intro h
  obtain ⟨huncovered, _⟩ := h .empty "rules" namesakes [overlappingCall] requests_overlappingCall
  exact absurd huncovered (by decide)

end Engine

end PurchaseStatus
