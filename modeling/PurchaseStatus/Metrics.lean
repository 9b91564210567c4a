import PurchaseStatus.Decimal.Binary
import PurchaseStatus.Engine.Basic
import PurchaseStatus.Step.Status

namespace PurchaseStatus

/-- The durations up to a bound and above the bounds before it. -/
structure Bucket where
  bound : Float
  boundText : String
  count : UInt64
  deriving DecidableEq

/-- Durations counted in buckets. Counters have sixty-four bits and wrap. -/
structure Histogram where
  buckets : List Bucket
  overflow : UInt64
  deriving DecidableEq

namespace Histogram

def bounds : List (Float × String) := [
  (0.005, "0.005"), (0.01, "0.01"), (0.025, "0.025"), (0.05, "0.05"), (0.1, "0.1"), (0.25, "0.25"),
  (0.5, "0.5"), (1, "1"), (2.5, "2.5"), (5, "5"), (10, "10")]

def empty : Histogram := ⟨bounds.map fun (bound, text) => ⟨bound, text, 0⟩, 0⟩

/-- Counts a duration in the first bucket whose bound it does not exceed; nothing above all
bounds. A duration that compares with nothing is above all. -/
def recordIn? (seconds : Float) : List Bucket → Option (List Bucket)
  | [] => none
  | bucket :: rest =>
    if Decimal.leNumber seconds bucket.bound then
      some ({ bucket with count := bucket.count + 1 } :: rest)
    else (recordIn? seconds rest).map (bucket :: ·)

def record (histogram : Histogram) (seconds : Float) : Histogram :=
  match recordIn? seconds histogram.buckets with
  | some buckets => { histogram with buckets }
  | none => { histogram with overflow := histogram.overflow + 1 }

def total (histogram : Histogram) : UInt64 :=
  histogram.buckets.foldl (fun total bucket => total + bucket.count) histogram.overflow

/-- The bounds with the number of durations up to each. -/
def cumulative : UInt64 → List Bucket → List (String × UInt64)
  | _, [] => []
  | before, bucket :: rest =>
    let upTo := before + bucket.count
    (bucket.boundText, upTo) :: cumulative upTo rest

/-- The lines of a histogram, the last of which counts all durations. -/
def lines (histogram : Histogram) (name labels : String) : List String :=
  let separator := if labels.isEmpty then "" else ","
  let sample (bound : String) (count : UInt64) : String :=
    s!"{name}_seconds_bucket\x7ble=\"{bound}\"{separator}{labels}\x7d {count}"
  [s!"# HELP {name}_seconds Duration histogram.", s!"# TYPE {name}_seconds histogram"] ++
    (cumulative 0 histogram.buckets).map (fun (bound, count) => sample bound count) ++
    [sample "+Inf" histogram.total]

end Histogram

/-- Counters of engine runs and pipeline steps. Each has sixty-four bits and wraps. -/
structure Metrics where
  engineRuns : UInt64 := 0
  rowsLabeled : UInt64 := 0
  /-- The rows that the last run left unset. -/
  rowsUnlabeled : UInt64 := 0
  stepsSucceeded : UInt64 := 0
  stepsFailed : UInt64 := 0
  stepsSkipped : UInt64 := 0
  ruleHits : Named UInt64 := ∅
  runDurations : Histogram := .empty
  stepDurations : Named Histogram := ∅

namespace Metrics

def recordEngineRun (metrics : Metrics) (seconds : Float) (unlabeled : Nat) : Metrics :=
  { metrics with
    engineRuns := metrics.engineRuns + 1
    rowsUnlabeled := UInt64.ofNat unlabeled
    runDurations := metrics.runDurations.record seconds }

def recordRuleHits (metrics : Metrics) (id : String) (count : Nat) : Metrics :=
  { metrics with
    rowsLabeled := metrics.rowsLabeled + UInt64.ofNat count
    ruleHits := metrics.ruleHits.update id fun old => old.getD 0 + UInt64.ofNat count }

/-- Takes in a run: its evaluated rules, then the run itself. -/
def recordRun (metrics : Metrics) (seconds : Float) (report : RunReport) : Metrics :=
  (report.hits.foldl (fun metrics (id, count) => metrics.recordRuleHits id count)
    metrics).recordEngineRun seconds report.unlabeled

def recordDuration (metrics : Metrics) (step : String) (seconds : Float) : Metrics :=
  { metrics with
    stepDurations := metrics.stepDurations.update step fun old => (old.getD .empty).record seconds }

/-- Counts a step that has ended; one that has not leaves every counter alone. -/
def recordStep (metrics : Metrics) (step : String) (status : StepStatus) (seconds : Float) : Metrics :=
  match status with
  | .success =>
    { metrics with stepsSucceeded := metrics.stepsSucceeded + 1 }.recordDuration step seconds
  | .failed => { metrics with stepsFailed := metrics.stepsFailed + 1 }.recordDuration step seconds
  | .skipped => { metrics with stepsSkipped := metrics.stepsSkipped + 1 }.recordDuration step seconds
  | .pending | .running => metrics

/-- The entries sorted by name. -/
def sorted (counters : Named α) : List (String × α) :=
  sortBy (fun a b => decide (a.1 ≤ b.1)) counters.entries

/-- The lines of the counters, those of the rules sorted by id. -/
def counterLines (metrics : Metrics) : List String :=
  [ "# HELP accrual_engine_runs_total Total number of rule engine runs.",
    "# TYPE accrual_engine_runs_total counter",
    s!"accrual_engine_runs_total {metrics.engineRuns}",
    "# HELP accrual_rows_labeled_total Total number of rows labeled by a rule.",
    "# TYPE accrual_rows_labeled_total counter",
    s!"accrual_rows_labeled_total {metrics.rowsLabeled}",
    "# HELP accrual_rows_unlabeled Rows left without a status by the last run.",
    "# TYPE accrual_rows_unlabeled gauge",
    s!"accrual_rows_unlabeled {metrics.rowsUnlabeled}",
    "# HELP accrual_steps_total Pipeline step outcomes.",
    "# TYPE accrual_steps_total counter",
    s!"accrual_steps_total\x7bstatus=\"success\"\x7d {metrics.stepsSucceeded}",
    s!"accrual_steps_total\x7bstatus=\"failed\"\x7d {metrics.stepsFailed}",
    s!"accrual_steps_total\x7bstatus=\"skipped\"\x7d {metrics.stepsSkipped}",
    "# HELP accrual_rule_hits_total Rows labeled per rule.",
    "# TYPE accrual_rule_hits_total counter" ] ++
  (sorted metrics.ruleHits).map
    fun (id, count) => s!"accrual_rule_hits_total\x7brule_id=\"{id}\"\x7d {count}"

/-- The lines of the histograms: that of the engine runs, then those of the steps sorted by name. -/
def durationLines (metrics : Metrics) : List String :=
  metrics.runDurations.lines "accrual_engine_duration" "" ++
  (sorted metrics.stepDurations).flatMap
    fun (step, durations) => durations.lines "accrual_step_duration" s!"step=\"{step}\""

/-- The lines of the text exposition. -/
def lines (metrics : Metrics) : List String := metrics.counterLines ++ metrics.durationLines

/-- The text exposition: every line ends in a line feed. -/
def render (metrics : Metrics) : String := String.join (metrics.lines.map (· ++ "\n"))

end Metrics

end PurchaseStatus
