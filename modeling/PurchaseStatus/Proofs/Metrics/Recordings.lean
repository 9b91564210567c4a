import PurchaseStatus.Proofs.Engine.Statistics
import PurchaseStatus.Proofs.Metrics.Histogram

namespace PurchaseStatus

namespace Named

variable {α : Type u}

/-- What the values of a table make together, in sixty-four bits. -/
def sumOf (f : α → UInt64) (m : Named α) : UInt64 := m.values.foldr (fun a sum => f a + sum) 0

/-- Where one value is written, the sum grows as that value does. -/
theorem sumOf_put (f : α → UInt64) (m : Named α) (name : String) {a : α} {growth : UInt64}
    (h : f a = ((m.get? name).map f).getD 0 + growth) : (m.put name a).sumOf f = m.sumOf f + growth := by
  obtain ⟨entries⟩ := m
  simp only [sumOf, values, put, get?] at h ⊢
  induction entries with
  | nil =>
    rw [putEntry, List.map_singleton, List.foldr_cons, h]
    exact UInt64.add_zero _
  | cons entry rest ih =>
    rw [find?] at h
    rw [putEntry]
    split
    · rename_i hname
      rw [if_pos hname, Option.map_some, Option.getD_some] at h
      rw [List.map_cons, List.map_cons, List.foldr_cons, List.foldr_cons, h]
      ac_rfl
    · rename_i hname
      rw [if_neg hname] at h
      rw [List.map_cons, List.map_cons, List.foldr_cons, List.foldr_cons, ih h, UInt64.add_assoc]

end Named

/-- Whether a step is over. -/
def StepStatus.isFinal : StepStatus → Bool
  | success | failed | skipped => true
  | pending | running => false

/-- Something that metrics are told. -/
inductive Recording where
  | engineRun (seconds : Float) (unlabeled : Nat)
  | ruleHits (id : String) (count : Nat)
  | step (name : String) (status : StepStatus) (seconds : Float)

namespace Recording

/-- The duration of an engine run. -/
def runSeconds? : Recording → Option Float
  | engineRun seconds _ => some seconds
  | ruleHits _ _ | step _ _ _ => none

/-- Whether a step of a name is over. -/
def ends (name : String) : Recording → Bool
  | step other status _ => other = name && status.isFinal
  | engineRun _ _ | ruleHits _ _ => false

/-- The duration of a step of a name that is over. -/
def stepSeconds? (name : String) : Recording → Option Float
  | step other status seconds => if other = name && status.isFinal then some seconds else none
  | engineRun _ _ | ruleHits _ _ => none

/-- Whether a step is not over. -/
def isUnfinished : Recording → Bool
  | step _ status _ => !status.isFinal
  | engineRun _ _ | ruleHits _ _ => false

/-- A recording has a duration for a step if it ends the step. -/
theorem isSome_stepSeconds? (name : String) (recording : Recording) :
    (recording.stepSeconds? name).isSome = recording.ends name := by
  cases recording with
  | step other status seconds => rw [stepSeconds?, ends]; split <;> simp [*]
  | engineRun seconds unlabeled => rfl
  | ruleHits id count => rfl

end Recording

namespace Metrics

/-- Takes one recording into the metrics. -/
def take (metrics : Metrics) : Recording → Metrics
  | .engineRun seconds unlabeled => metrics.recordEngineRun seconds unlabeled
  | .ruleHits id count => metrics.recordRuleHits id count
  | .step name status seconds => metrics.recordStep name status seconds

/-- Fresh metrics that are told one thing after another. -/
def ofRecordings (recordings : List Recording) : Metrics := recordings.foldl take {}

/-- The last recording is taken after all others. -/
theorem ofRecordings_concat (recordings : List Recording) (recording : Recording) :
    ofRecordings (recordings ++ [recording]) = (ofRecordings recordings).take recording :=
  List.foldl_append

/-- What the counters say of each other. The ids and the names are distinct, and each sum wraps as the
counters do. -/
structure Balanced (metrics : Metrics) : Prop where
  ruleIds : metrics.ruleHits.names.Nodup
  rowsLabeled : metrics.rowsLabeled = metrics.ruleHits.sumOf fun hits => hits
  engineRuns : metrics.engineRuns = metrics.runDurations.total
  stepNames : metrics.stepDurations.names.Nodup
  steps : metrics.stepsSucceeded + metrics.stepsFailed + metrics.stepsSkipped =
    metrics.stepDurations.sumOf Histogram.total

section Recorders

variable {metrics : Metrics}

/-- Hits of one rule are added to the hits of all rules. -/
theorem sumOf_recordRuleHits (metrics : Metrics) (id : String) (count : Nat) :
    (metrics.recordRuleHits id count).ruleHits.sumOf (fun hits => hits) =
      metrics.ruleHits.sumOf (fun hits => hits) + .ofNat count :=
  metrics.ruleHits.sumOf_put (fun hits => hits) id (by rw [Option.map_id'])

/-- One duration more of a step is one more of all steps. -/
theorem sumOf_recordDuration (metrics : Metrics) (step : String) (seconds : Float) :
    (metrics.recordDuration step seconds).stepDurations.sumOf Histogram.total =
      metrics.stepDurations.sumOf Histogram.total + 1 := by
  refine metrics.stepDurations.sumOf_put Histogram.total step ?_
  rw [Histogram.total_record]
  cases metrics.stepDurations.get? step <;> rfl

/-- A run of the engine keeps the metrics balanced: one more run and one more duration. -/
theorem Balanced.recordEngineRun (h : metrics.Balanced) (seconds : Float) (unlabeled : Nat) :
    (metrics.recordEngineRun seconds unlabeled).Balanced where
  ruleIds := h.ruleIds
  rowsLabeled := h.rowsLabeled
  engineRuns := by
    rw [Metrics.recordEngineRun, Histogram.total_record, h.engineRuns]
  stepNames := h.stepNames
  steps := h.steps

/-- Hits keep the metrics balanced: the rows labelled grow with the hits of the rule. -/
theorem Balanced.recordRuleHits (h : metrics.Balanced) (id : String) (count : Nat) :
    (metrics.recordRuleHits id count).Balanced where
  ruleIds := Named.nodup_names_put h.ruleIds id _
  rowsLabeled := by
    rw [sumOf_recordRuleHits, ← h.rowsLabeled]
    rfl
  engineRuns := h.engineRuns
  stepNames := h.stepNames
  steps := h.steps

/-- One of the three counters of steps is raised with the histogram of the step. -/
theorem Balanced.recordStep (h : metrics.Balanced) (name : String) (status : StepStatus)
    (seconds : Float) : (metrics.recordStep name status seconds).Balanced := by
  cases status with
  | pending | running => exact h
  | success | failed | skipped =>
    refine ⟨h.ruleIds, h.rowsLabeled, h.engineRuns, Named.nodup_names_put h.stepNames name _, ?_⟩
    rw [Metrics.recordStep, sumOf_recordDuration, ← h.steps]
    simp only [recordDuration]
    ac_rfl

/-- Each recording keeps the metrics balanced. -/
theorem Balanced.take (h : metrics.Balanced) (recording : Recording) : (metrics.take recording).Balanced := by
  cases recording with
  | engineRun seconds unlabeled => exact h.recordEngineRun seconds unlabeled
  | ruleHits id count => exact h.recordRuleHits id count
  | step name status seconds => exact h.recordStep name status seconds

/-- A step that is over is entered under its name, and nothing else is. -/
theorem get?_stepDurations_take (metrics : Metrics) (recording : Recording) (name : String) :
    (metrics.take recording).stepDurations.get? name =
      match recording.stepSeconds? name with
      | some seconds => some (((metrics.stepDurations.get? name).getD .empty).record seconds)
      | none => metrics.stepDurations.get? name := by
  cases recording with
  | engineRun seconds unlabeled => rfl
  | ruleHits id count => rfl
  | step other status seconds =>
    rw [Recording.stepSeconds?]
    by_cases hname : other = name
    · subst hname
      cases status with
      | pending | running => simp [take, recordStep, StepStatus.isFinal]
      | success | failed | skipped =>
        simp [take, recordStep, recordDuration, Named.update, StepStatus.isFinal]
    · simp only [hname, decide_false, Bool.false_and, Bool.false_eq_true, if_false]
      cases status with
      | pending | running => rfl
      | success | failed | skipped => exact Named.get?_put_of_ne _ (Ne.symm hname) _

/-- A step that is not over leaves every counter alone. -/
theorem take_of_isUnfinished (metrics : Metrics) {recording : Recording}
    (h : recording.isUnfinished = true) : metrics.take recording = metrics := by
  cases recording with
  | engineRun seconds unlabeled => cases h
  | ruleHits id count => cases h
  | step name status seconds =>
    cases status with
    | pending | running => rfl
    | success | failed | skipped => cases h

end Recorders

section History

variable (recordings : List Recording)

/-- The durations of the engine runs. -/
def runDurationsOf : List Float := recordings.filterMap Recording.runSeconds?

/-- The durations of the steps of a name that are over. -/
def stepDurationsOf (name : String) : List Float := recordings.filterMap (Recording.stepSeconds? name)

/-- A step has one duration for each recording that ends it. -/
theorem length_stepDurationsOf (name : String) :
    (stepDurationsOf recordings name).length = recordings.countP (Recording.ends name) := by
  rw [stepDurationsOf, List.length_filterMap_eq_countP]
  exact List.countP_congr fun recording _ => by rw [recording.isSome_stepSeconds?]

/-- Metrics are balanced after any recordings, by induction from the last one. -/
theorem balanced_ofRecordings : (ofRecordings recordings).Balanced := by
  induction recordings using List.reverseRecOn with
  | nil => exact ⟨List.nodup_nil, rfl, rfl, List.nodup_nil, rfl⟩
  | append_singleton recordings recording ih =>
    rw [ofRecordings_concat]
    exact ih.take recording

/-- The histogram of the engine has the durations of all its runs. -/
theorem runDurations_ofRecordings :
    (ofRecordings recordings).runDurations = .ofDurations (runDurationsOf recordings) := by
  induction recordings using List.reverseRecOn with
  | nil => rfl
  | append_singleton recordings recording ih =>
    rw [ofRecordings_concat, runDurationsOf, List.filterMap_append]
    cases recording with
    | engineRun seconds unlabeled =>
      rw [take, recordEngineRun, ih, ← runDurationsOf]
      exact (Histogram.ofDurations_concat _ seconds).symm
    | ruleHits id count => exact ih.trans (congrArg _ (List.append_nil _).symm)
    | step name status seconds =>
      have hruns : ∀ metrics : Metrics, (metrics.recordStep name status seconds).runDurations =
          metrics.runDurations := by
        intro metrics
        cases status <;> rfl
      rw [take, hruns]
      exact ih.trans (congrArg _ (List.append_nil _).symm)

/-- Under each name stands the histogram of the steps of that name that are over, if there are any. -/
theorem get?_stepDurations_ofRecordings (name : String) :
    (ofRecordings recordings).stepDurations.get? name =
      if stepDurationsOf recordings name = [] then none
      else some (.ofDurations (stepDurationsOf recordings name)) := by
  induction recordings using List.reverseRecOn with
  | nil => rfl
  | append_singleton recordings recording ih =>
    rw [ofRecordings_concat, get?_stepDurations_take, stepDurationsOf, List.filterMap_append,
      ← stepDurationsOf]
    cases hseconds : recording.stepSeconds? name with
    | none => simp [hseconds, ih]
    | some seconds =>
      have hpresent : ((ofRecordings recordings).stepDurations.get? name).getD .empty =
          .ofDurations (stepDurationsOf recordings name) := by
        rw [ih]
        split
        · rename_i hnone
          rw [hnone]
          rfl
        · rfl
      simp [hseconds, hpresent, Histogram.ofDurations_concat]

/-- A step has a histogram once a recording ends it, and then one of all its durations. -/
theorem get?_stepDurations_eq_some_iff (name : String) (histogram : Histogram) :
    (ofRecordings recordings).stepDurations.get? name = some histogram ↔
      (∃ recording ∈ recordings, recording.ends name = true) ∧
        histogram = .ofDurations (stepDurationsOf recordings name) := by
  have hended : stepDurationsOf recordings name ≠ [] ↔
      ∃ recording ∈ recordings, recording.ends name = true := by
    rw [← List.length_pos_iff, length_stepDurationsOf, List.countP_pos_iff]
  rw [get?_stepDurations_ofRecordings, ← hended, Option.ite_none_left_eq_some, Option.some_inj]
  exact and_congr_right fun _ => eq_comm

/-- What is not over might as well not be recorded. -/
theorem ofRecordings_filter :
    ofRecordings (recordings.filter fun recording => !recording.isUnfinished) = ofRecordings recordings := by
  induction recordings using List.reverseRecOn with
  | nil => rfl
  | append_singleton recordings recording ih =>
    rw [List.filter_append, ofRecordings_concat]
    cases hunfinished : recording.isUnfinished with
    | true => simp [hunfinished, take_of_isUnfinished, ih]
    | false => simp [hunfinished, ofRecordings_concat, ih]

/-- What metrics say of the recordings that they were told of. Counters have sixty-four bits and wrap, so
they are compared with numbers that wrap in the same way. -/
structure Reflects (metrics : Metrics) : Prop extends metrics.Balanced where
  runDurations : metrics.runDurations = .ofDurations (runDurationsOf recordings)
  stepDurations : ∀ name histogram, metrics.stepDurations.get? name = some histogram ↔
    (∃ recording ∈ recordings, recording.ends name = true) ∧
      histogram = .ofDurations (stepDurationsOf recordings name)
  stepTotals : ∀ name histogram, metrics.stepDurations.get? name = some histogram →
    histogram.total = .ofNat (recordings.countP (Recording.ends name))
  unfinished : ∀ recording : Recording, recording.isUnfinished = true → metrics.take recording = metrics
  withoutUnfinished :
    ofRecordings (recordings.filter fun recording => !recording.isUnfinished) = metrics

/-- After any recordings the counters agree with each other and with the recordings: each histogram of
a step counts those of the step that are over, and the others leave no trace. -/
theorem reflects_ofRecordings : (ofRecordings recordings).Reflects recordings where
  toBalanced := balanced_ofRecordings recordings
  runDurations := runDurations_ofRecordings recordings
  stepDurations name histogram := get?_stepDurations_eq_some_iff recordings name histogram
  stepTotals name histogram hhistogram := by
    obtain ⟨_, rfl⟩ := (get?_stepDurations_eq_some_iff recordings name histogram).1 hhistogram
    rw [Histogram.total_ofDurations, length_stepDurationsOf]
  unfinished _ h := take_of_isUnfinished _ h
  withoutUnfinished := ofRecordings_filter recordings

end History

end Metrics

end PurchaseStatus
