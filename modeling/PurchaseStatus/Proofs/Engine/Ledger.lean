import PurchaseStatus.Coverage
import PurchaseStatus.Proofs.Engine.Conservation
import PurchaseStatus.Proofs.Metrics.Histogram

namespace PurchaseStatus

/-- The rows counted under an id; none where it is absent. -/
def Metrics.hitsOf (metrics : Metrics) (id : String) : UInt64 := (metrics.ruleHits.get? id).getD 0

namespace Coverage

/-- A coverage counts what statistics hold, under the same ids in the same order, as numbers of
sixty-four bits. -/
def Counts (coverage : Coverage) (stats : RuleStats) : Prop :=
  coverage.hits.entries = stats.entries.map fun entry => (entry.1, UInt64.ofNat entry.2)

namespace Counts

variable {coverage : Coverage} {stats : RuleStats}

/-- Rows are added under an id in both, the wrap of the counter being a homomorphism. -/
theorem record (h : coverage.Counts stats) (id : String) (count : Nat) :
    (coverage.record id count).Counts (stats.add id count) := by
  have hfound : (Named.find? id coverage.hits.entries).getD 0 + UInt64.ofNat count =
      UInt64.ofNat ((Named.find? id stats.entries).getD 0 + count) := by
    rw [h, Named.find?_map UInt64.ofNat, UInt64.ofNat_add]
    cases Named.find? id stats.entries <;> rfl
  unfold Counts
  simp only [Coverage.record, RuleStats.add, Named.update, Named.put, Named.get?]
  rw [hfound, h, Named.putEntry_map]

/-- A run adds its rows rule by rule, in the coverage as in statistics. -/
theorem recordRun (h : coverage.Counts stats) (report : RunReport) :
    (coverage.recordRun report).Counts (stats.addAll report.hits) := by
  obtain ⟨hits, unlabeled⟩ := report
  show Counts (hits.foldl _ coverage) (stats.addAll hits)
  induction hits generalizing coverage stats with
  | nil => exact h
  | cons hit rest ih => exact ih (h.record hit.1 hit.2)

/-- Each counter holds the number that the statistics have under its id. -/
theorem hitsOf (h : coverage.Counts stats) (id : String) :
    coverage.hitsOf id = .ofNat (stats.countOf id) := by
  rw [Coverage.hitsOf, RuleStats.countOf, Named.get?, Named.get?, h, Named.find?_map UInt64.ofNat]
  cases Named.find? id stats.entries <;> rfl

/-- Coverage and statistics list the same ids in the same order. -/
theorem names (h : coverage.Counts stats) : coverage.hits.names = Named.names stats := by
  rw [Named.names, Named.names, h, List.map_map]
  rfl

end Counts

end Coverage

/-- What is kept of the runs of an engine. -/
structure Ledger where
  metrics : Metrics := {}
  coverage : Coverage := {}

namespace Ledger

/-- Takes in a run, in the metrics and in the coverage. -/
def record (ledger : Ledger) (seconds : Float) (report : RunReport) : Ledger :=
  ⟨ledger.metrics.recordRun seconds report, ledger.coverage.recordRun report⟩

end Ledger

namespace Metrics

/-- The same rules are counted in the metrics as in the coverage. -/
theorem ruleHits_recordRun {metrics : Metrics} {coverage : Coverage} (h : metrics.ruleHits = coverage.hits)
    (seconds : Float) (report : RunReport) :
    (metrics.recordRun seconds report).ruleHits = (coverage.recordRun report).hits := by
  obtain ⟨hits, unlabeled⟩ := report
  show (hits.foldl _ metrics).ruleHits = (hits.foldl _ coverage).hits
  induction hits generalizing metrics coverage with
  | nil => exact h
  | cons hit rest ih =>
    refine ih ?_
    simp only [recordRuleHits, Coverage.record, h]

variable (metrics : Metrics) (seconds : Float) (report : RunReport)

/-- The rows that a run labels are added to the counter of rows, whichever rules label them. -/
theorem rowsLabeled_recordRun : (metrics.recordRun seconds report).rowsLabeled =
    metrics.rowsLabeled + .ofNat report.stats.total := by
  rw [report.total_stats]
  obtain ⟨hits, unlabeled⟩ := report
  show Metrics.rowsLabeled (hits.foldl _ metrics) = _
  induction hits generalizing metrics with
  | nil => exact (UInt64.add_zero _).symm
  | cons hit rest ih =>
    rw [List.foldl_cons, ih, rowsOf_cons, UInt64.ofNat_add, ← UInt64.add_assoc]
    rfl

/-- What the rules of a run are recorded with touches neither the number of runs nor their durations. -/
theorem engineRuns_recordRun : (metrics.recordRun seconds report).engineRuns = metrics.engineRuns + 1 ∧
    (metrics.recordRun seconds report).runDurations.total = metrics.runDurations.total + 1 := by
  obtain ⟨hits, unlabeled⟩ := report
  simp only [recordRun, recordEngineRun, Histogram.total_record]
  induction hits generalizing metrics with
  | nil => exact ⟨rfl, rfl⟩
  | cons hit rest ih => exact ih (metrics.recordRuleHits hit.1 hit.2)

end Metrics

/-- What an engine is asked to apply: its own rules, or terminal labels. -/
inductive EngineRequest where
  | rules (refresh : Bool)
  | fallbacks (labels : List Fallback)

/-- One call of an engine, with the seconds that it takes. -/
structure EngineCall where
  request : EngineRequest
  data : Dataset
  statusColumn : String
  context : RuleContext
  kind : RecordKind
  seconds : Float

namespace EngineCall

variable (engine : Engine) (call : EngineCall)

/-- The run that a call asks for. -/
def run : Run call.data.rows :=
  match call.request with
  | .rules refresh =>
    engine.applyRules call.data.batch call.statusColumn call.context call.kind refresh
  | .fallbacks labels =>
    engine.applyFallbacks call.data.batch call.statusColumn call.context call.kind labels

/-- The rules that a call applies: those of the engine, or its labels as rules. -/
def rulesOf : List Rule :=
  match call.request with
  | .rules _ => engine.rules
  | .fallbacks labels => labels.map Fallback.toRule

/-- Labels to fall back to always see the rows that are unset at their turn. -/
def refresh : Bool :=
  match call.request with
  | .rules refresh => refresh
  | .fallbacks _ => true

def task : LabelingTask := engine.task call.statusColumn call.context call.kind call.refresh

/-- The state of the call before its first rule. -/
def start : Labeling call.data.rows :=
  .start (call.task engine) call.data.batch call.context.masks

/-- The state of the call after some of its rules. -/
def stateAfter (earlier : List Rule) : Labeling call.data.rows :=
  (call.start engine).applyAll (call.task engine) earlier

/-- The texts of the status column before the call. -/
def statusBefore : Texts call.data.rows := call.data.batch.textOrNulls call.statusColumn

/-- The texts of the status column after the call. -/
def statusAfter : Texts call.data.rows := (call.run engine).batch.textOrNulls call.statusColumn

/-- A call returns what its last state holds. -/
theorem run_eq : call.run engine =
    let final := call.stateAfter engine (call.rulesOf engine)
    { batch := final.batch
      context := { call.context with masks := final.masks }
      report := { hits := final.hits, unlabeled := final.unset.count } } := by
  unfold run stateAfter start task rulesOf refresh
  cases call.request <;> rfl

/-- The rows without a status are unset when a call begins. -/
theorem unset_start : (call.start engine).unset = call.statusBefore.unset := by
  apply Series.ext_get
  intro row
  rw [start, Labeling.get_unset_start, Texts.get_unset]
  rfl

/-- The rows that a call leaves unset: those that were unset before it and that no rule claims when
its turn comes. The others that were unset are what its statistics count. Where no status is blank
and no note overwrites a status, they are the rows that are without a status afterwards. -/
structure LeavesUnset (left : Mask call.data.rows) : Prop where
  rows : ∀ row, left.get row = true ↔ isBlank (call.statusBefore.get row) = true ∧
    ∀ earlier rule later, call.rulesOf engine = earlier ++ rule :: later →
      rule.claims call.kind ((call.stateAfter engine earlier).input (call.task engine)) row = false
  counted : left.count + (call.run engine).stats.total = call.statusBefore.unset.count
  blank : call.statusColumn ≠ Schema.matchedNote →
    ∀ row, left.get row = true → isBlank ((call.statusAfter engine).get row) = true
  status : call.statusColumn ≠ Schema.matchedNote → (∀ rule ∈ call.rulesOf engine, rule.Lasting) →
    (call.statusAfter engine).unset = left

/-- The rows that are unset in the last state are those that the call leaves unset. -/
theorem leavesUnset_stateAfter :
    call.LeavesUnset engine (call.stateAfter engine (call.rulesOf engine)).unset := by
  have hexact : (call.start engine).Exact (call.task engine) :=
    Labeling.exact_start (call.task engine) call.data.batch call.context.masks
  have hafter : call.statusAfter engine =
      (call.stateAfter engine (call.rulesOf engine)).batch.textOrNulls call.statusColumn := by
    rw [statusAfter, run_eq]
  have htotal : (call.run engine).stats.total =
      rowsOf (call.stateAfter engine (call.rulesOf engine)).hits := by
    rw [run_eq]
    exact RunReport.total_stats _
  refine ⟨fun row => ?_, ?_, fun hne row hrow => ?_, fun hne hlasting => ?_⟩
  · have hiff := Labeling.get_unset_applyAll_iff (call.task engine) (call.start engine)
      (call.rulesOf engine) row
    rw [unset_start, Texts.get_unset] at hiff
    exact hiff
  · have hcount := Labeling.count_unset_applyAll (call.task engine) (call.start engine)
      (call.rulesOf engine)
    rw [unset_start] at hcount
    rw [htotal]
    exact hcount
  · have hcoherent : (call.stateAfter engine (call.rulesOf engine)).Coherent (call.task engine) :=
      hexact.coherent.applyAll (call.rulesOf engine) hne
    have hblank := hcoherent.blank row hrow
    rw [← hcoherent.status] at hblank
    rw [hafter]
    exact hblank
  · have hfinal : (call.stateAfter engine (call.rulesOf engine)).Exact (call.task engine) :=
      hexact.applyAll hne hlasting
    have hstatus := hfinal.status
    rw [hafter, hfinal.unset, ← hstatus]
    rfl

end EngineCall

namespace Engine

variable (engine : Engine)

/-- The ledger of several calls, one after another. -/
def ledger (calls : List EngineCall) : Ledger :=
  calls.foldl (fun ledger call => ledger.record call.seconds (call.run engine).report) {}

/-- The rows that calls return under an id. -/
def returned (calls : List EngineCall) (id : String) : Nat :=
  (calls.map fun call => (call.run engine).stats.countOf id).sum

/-- The statistics of several calls together. -/
def tally (calls : List EngineCall) : RuleStats :=
  calls.foldl (fun stats call => stats.addAll (call.run engine).report.hits) ∅

/-- The rows that calls return under any id. -/
def allReturned (calls : List EngineCall) : Nat :=
  (calls.map fun call => (call.run engine).stats.total).sum

variable (calls : List EngineCall) (call : EngineCall)

theorem ledger_concat : engine.ledger (calls ++ [call]) =
    (engine.ledger calls).record call.seconds (call.run engine).report := by
  rw [ledger, List.foldl_append]
  rfl

theorem tally_concat : engine.tally (calls ++ [call]) =
    (engine.tally calls).addAll (call.run engine).report.hits := by
  rw [tally, List.foldl_append]
  rfl

theorem returned_concat (id : String) : engine.returned (calls ++ [call]) id =
    engine.returned calls id + (call.run engine).stats.countOf id := by
  simp [returned]

theorem allReturned_concat : engine.allReturned (calls ++ [call]) =
    engine.allReturned calls + (call.run engine).stats.total := by
  simp [allReturned]

/-- Under no id do calls return more rows than under all ids. -/
theorem returned_le_allReturned (id : String) : engine.returned calls id ≤ engine.allReturned calls := by
  induction calls using List.reverseRecOn with
  | nil => exact Nat.le_refl 0
  | append_singleton calls call ih =>
    have hcall : (call.run engine).stats.countOf id ≤ (call.run engine).stats.total :=
      RuleStats.countOf_le_total _ id
    rw [returned_concat, allReturned_concat]
    omega

end Engine

/-- Coverage, metrics and returned statistics say the same of calls, and so do metrics and calls. The
counters of the coverage and of the metrics have sixty-four bits and wrap; while they do not, they are equal
as numbers. -/
structure Ledger.Balances (engine : Engine) (calls : List EngineCall) (ledger : Ledger) : Prop where
  covered : ∀ id, ledger.coverage.hitsOf id = .ofNat (engine.returned calls id)
  counted : ∀ id, ledger.metrics.hitsOf id = .ofNat (engine.returned calls id)
  coveredIds : ∀ id, id ∈ ledger.coverage.hits.names ↔
    ∃ call ∈ calls, id ∈ Named.names (call.run engine).stats
  countedIds : ledger.metrics.ruleHits.names = ledger.coverage.hits.names
  rowsLabeled : ledger.metrics.rowsLabeled = .ofNat (engine.allReturned calls)
  unwrapped : engine.allReturned calls < 2 ^ 64 →
    (ledger.metrics.rowsLabeled : Nat) = engine.allReturned calls ∧
    ∀ id, (ledger.coverage.hitsOf id : Nat) = engine.returned calls id ∧
      (ledger.metrics.hitsOf id : Nat) = engine.returned calls id
  engineRuns : ledger.metrics.engineRuns = .ofNat calls.length
  durations : ledger.metrics.runDurations.total = ledger.metrics.engineRuns
  rowsUnlabeled : ∀ call ∈ calls.getLast?, ∃ left, call.LeavesUnset engine left ∧
    ledger.metrics.rowsUnlabeled = .ofNat left.count

namespace Engine

variable (engine : Engine) (calls : List EngineCall)

/-- Metrics and coverage are told of the same rules. -/
theorem ruleHits_ledger : (engine.ledger calls).metrics.ruleHits = (engine.ledger calls).coverage.hits := by
  induction calls using List.reverseRecOn with
  | nil => rfl
  | append_singleton calls call ih =>
    rw [ledger_concat]
    exact Metrics.ruleHits_recordRun ih call.seconds (call.run engine).report

/-- The coverage counts the statistics of all calls together. -/
theorem counts_ledger : (engine.ledger calls).coverage.Counts (engine.tally calls) := by
  induction calls using List.reverseRecOn with
  | nil => rfl
  | append_singleton calls call ih =>
    rw [ledger_concat, tally_concat]
    exact ih.recordRun (call.run engine).report

/-- Under each id stands the sum of what the calls return. -/
theorem countOf_tally (id : String) : (engine.tally calls).countOf id = engine.returned calls id := by
  induction calls using List.reverseRecOn with
  | nil => rfl
  | append_singleton calls call ih =>
    rw [tally_concat, RuleStats.countOf_addAll, ih, returned_concat, Run.stats, RunReport.countOf_stats]

/-- An id is listed if a call returns it, be it with no rows. -/
theorem mem_names_tally {id : String} : id ∈ Named.names (engine.tally calls) ↔
    ∃ call ∈ calls, id ∈ Named.names (call.run engine).stats := by
  induction calls using List.reverseRecOn with
  | nil => simp [tally, Named.names, EmptyCollection.emptyCollection, Named.empty]
  | append_singleton calls call ih =>
    rw [tally_concat, RuleStats.mem_names_addAll, ih, ← RunReport.mem_names_stats]
    simp [or_and_right, exists_or, Run.stats]

/-- The counter of an id in the coverage wraps where the calls return too many rows. -/
theorem hitsOf_coverage_ledger (id : String) :
    (engine.ledger calls).coverage.hitsOf id = .ofNat (engine.returned calls id) := by
  rw [(engine.counts_ledger calls).hitsOf, countOf_tally]

/-- The counter of an id in the metrics wraps in the same way. -/
theorem hitsOf_metrics_ledger (id : String) :
    (engine.ledger calls).metrics.hitsOf id = .ofNat (engine.returned calls id) := by
  rw [← hitsOf_coverage_ledger, Metrics.hitsOf, ruleHits_ledger]
  rfl

/-- The counter of labelled rows adds up all calls. -/
theorem rowsLabeled_ledger :
    (engine.ledger calls).metrics.rowsLabeled = .ofNat (engine.allReturned calls) := by
  induction calls using List.reverseRecOn with
  | nil => rfl
  | append_singleton calls call ih =>
    have hcall := (engine.ledger calls).metrics.rowsLabeled_recordRun call.seconds (call.run engine).report
    rw [ledger_concat, allReturned_concat, UInt64.ofNat_add, ← ih]
    exact hcall

/-- Each call counts as one run, and takes one duration. -/
theorem engineRuns_ledger : (engine.ledger calls).metrics.engineRuns = .ofNat calls.length ∧
    (engine.ledger calls).metrics.runDurations.total = (engine.ledger calls).metrics.engineRuns := by
  induction calls using List.reverseRecOn with
  | nil => exact ⟨rfl, rfl⟩
  | append_singleton calls call ih =>
    obtain ⟨hruns, hdurations⟩ := ih
    obtain ⟨hruns', hdurations'⟩ :=
      (engine.ledger calls).metrics.engineRuns_recordRun call.seconds (call.run engine).report
    rw [hruns] at hruns' hdurations
    rw [hdurations] at hdurations'
    rw [ledger_concat, List.length_append, List.length_singleton, UInt64.ofNat_add]
    exact ⟨hruns', hdurations'.trans hruns'.symm⟩

/-- After any calls of an engine, its rules or fallbacks, on any batches, the coverage, the metrics
and the statistics that were returned agree. -/
theorem ledger_balances : (engine.ledger calls).Balances engine calls where
  covered := engine.hitsOf_coverage_ledger calls
  counted := engine.hitsOf_metrics_ledger calls
  coveredIds id := by rw [(engine.counts_ledger calls).names, mem_names_tally]
  countedIds := by rw [engine.ruleHits_ledger]
  rowsLabeled := engine.rowsLabeled_ledger calls
  unwrapped hfits := by
    refine ⟨?_, fun id => ?_⟩
    · rw [engine.rowsLabeled_ledger, UInt64.toNat_ofNat_of_lt' hfits]
    · have hle := engine.returned_le_allReturned calls id
      rw [hitsOf_coverage_ledger, hitsOf_metrics_ledger,
        UInt64.toNat_ofNat_of_lt' (Nat.lt_of_le_of_lt hle hfits)]
      exact ⟨rfl, rfl⟩
  engineRuns := (engine.engineRuns_ledger calls).1
  durations := (engine.engineRuns_ledger calls).2
  rowsUnlabeled := by
    intro call hlast
    -- each run sets this counter anew, so only the last one counts
    obtain ⟨earlier, rfl⟩ := List.getLast?_eq_some_iff.1 hlast
    refine ⟨_, call.leavesUnset_stateAfter engine, ?_⟩
    rw [ledger_concat, call.run_eq]
    rfl

end Engine

end PurchaseStatus
