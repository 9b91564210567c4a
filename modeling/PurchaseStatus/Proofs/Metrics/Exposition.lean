import PurchaseStatus.Decimal.Reading
import PurchaseStatus.Proofs.Decimal.Order
import PurchaseStatus.Proofs.Metrics.Recordings
import PurchaseStatus.Proofs.Sorting
import Mathlib.Data.String.Basic

namespace PurchaseStatus

namespace Histogram

open Decimal (Binary leNumber exact)

/-- How many of some durations do not exceed a bound, compared as exact numbers. One that is not a
number exceeds every bound. -/
def upTo (durations : List Float) (bound : ℚ) : Nat :=
  durations.countP fun seconds => (Binary.ofFloat seconds).AtMost bound

/-- Every bound of a bucket is a number. -/
theorem finite_bounds : ∀ bound ∈ bounds, (Binary.ofFloat bound.1).number?.isSome = true := by
  decide

/-- A bucket counts the durations up to the exact value of its bound. -/
theorem countP_leNumber {bound : Float × String} (hbound : bound ∈ bounds) (durations : List Float) :
    durations.countP (fun seconds => leNumber seconds bound.1) = upTo durations (exact bound.1) := by
  refine List.countP_congr fun seconds _ => ?_
  rw [Decimal.leNumber_iff_atMost (finite_bounds bound hbound), decide_eq_true_eq]

/-- What is to be shown of some durations: for each bound how many there are up to it, and then how
many there are. -/
def samples (durations : List Float) : List (String × Nat) :=
  bounds.map (fun (bound, text) => (text, upTo durations (exact bound))) ++ [("+Inf", durations.length)]

/-- Counts as counters of sixty-four bits hold them. -/
def wrapped (samples : List (String × Nat)) : List (String × Nat) :=
  samples.map fun (bound, count) => (bound, count % 2 ^ 64)

/-- The line of a count. -/
def sampleLine (name labels : String) (sample : String × Nat) : String :=
  let separator := if labels.isEmpty then "" else ","
  s!"{name}_seconds_bucket\x7ble=\"{sample.1}\"{separator}{labels}\x7d {sample.2}"

/-- The lines of a histogram with some counts. -/
def exposition (name labels : String) (samples : List (String × Nat)) : List String :=
  [s!"# HELP {name}_seconds Duration histogram.", s!"# TYPE {name}_seconds histogram"] ++
    samples.map (sampleLine name labels)

/-- A histogram is rendered with what was counted, wrapped as its counters are. -/
theorem lines_ofDurations (name labels : String) (durations : List Float) :
    (ofDurations durations).lines name labels = exposition name labels (wrapped (samples durations)) := by
  have hbuckets : cumulative 0 (ofDurations durations).buckets =
      bounds.map fun bound => (bound.2, .ofNat (upTo durations (exact bound.1))) := by
    rw [cumulative_ofDurations]
    refine List.map_congr_left fun bound hbound => ?_
    rw [← countP_leNumber hbound]
  rw [lines, hbuckets, total_ofDurations, exposition, wrapped, samples, List.map_append, List.map_append,
    List.map_map, List.map_map, List.map_map, List.append_assoc]
  rfl

end Histogram

namespace Metrics

open Histogram (samples wrapped exposition)

/-- Sorted counters with distinct names ascend strictly. -/
theorem lt_of_sorted {α : Type} {counters : Named α} (hnodup : counters.names.Nodup) :
    ((sorted counters).map (·.1)).Pairwise (· < ·) := by
  have hnames : ((sorted counters).map (·.1)).Nodup :=
    ((sortBy_perm _ counters.entries).map _).nodup_iff.2 hnodup
  have hle : ((sorted counters).map (·.1)).Pairwise (· ≤ ·) :=
    List.pairwise_map.2 (pairwise_sortBy (fun entry : String × α => entry.1) counters.entries)
  exact (hle.and hnames).imp fun ⟨hle, hne⟩ => lt_of_le_of_ne hle hne

section Recordings

variable (recordings : List Recording)

/-- The steps of which one is over, sorted by name, each with the histogram of those that are. -/
theorem exists_sorted_stepDurations : ∃ steps : List String, steps.Pairwise (· < ·) ∧
    (∀ step, step ∈ steps ↔ ∃ recording ∈ recordings, recording.ends step = true) ∧
    sorted (ofRecordings recordings).stepDurations =
      steps.map fun step => (step, .ofDurations (stepDurationsOf recordings step)) := by
  have hnodup := (balanced_ofRecordings recordings).stepNames
  have hmem : ∀ step histogram, (step, histogram) ∈ sorted (ofRecordings recordings).stepDurations ↔
      (∃ recording ∈ recordings, recording.ends step = true) ∧
        histogram = .ofDurations (stepDurationsOf recordings step) := by
    intro step histogram
    rw [sorted, mem_sortBy, ← Named.find?_eq_some_iff hnodup]
    exact get?_stepDurations_eq_some_iff recordings step histogram
  refine ⟨(sorted (ofRecordings recordings).stepDurations).map (·.1), lt_of_sorted hnodup,
    fun step => ?_, ?_⟩
  · simp [hmem]
  · rw [List.map_map]
    refine ((List.map_congr_left fun entry hentry => ?_).trans (List.map_id _)).symm
    exact Prod.ext rfl ((hmem entry.1 entry.2).1 hentry).2.symm

end Recordings

end Metrics

end PurchaseStatus
