import PurchaseStatus.Metrics
import Mathlib.Data.List.Induction

namespace PurchaseStatus.Histogram

open Decimal (leNumber)

/-- A count up to a bound, one more if a duration does not exceed that bound. -/
def raise (seconds : Float) (bucket : Bucket) (sample : String × UInt64) : String × UInt64 :=
  (sample.1, sample.2 + if leNumber seconds bucket.bound then 1 else 0)

/-- Every bucket has a bound that does not exceed those behind it. -/
def Ascending (buckets : List Bucket) : Prop :=
  buckets.Pairwise fun bucket later => leNumber bucket.bound later.bound = true

/-- Counts wrap, so a one may be added on either side of a sum. -/
theorem add_one_add (a b : UInt64) : a + 1 + b = a + b + 1 := by
  ac_rfl

section Buckets

variable {seconds : Float} {buckets : List Bucket}

/-- One more before the first bucket is one more in every sum. -/
theorem cumulative_add_one (before : UInt64) (buckets : List Bucket) :
    cumulative (before + 1) buckets =
      (cumulative before buckets).map fun sample => (sample.1, sample.2 + 1) := by
  induction buckets generalizing before with
  | nil => rfl
  | cons bucket rest ih =>
    rw [cumulative, add_one_add, ih]
    rfl

/-- A duration that all bounds admit raises all counts. -/
theorem zipWith_raise_of_forall (h : ∀ bucket ∈ buckets, leNumber seconds bucket.bound = true)
    (before : UInt64) : List.zipWith (raise seconds) buckets (cumulative before buckets) =
      cumulative (before + 1) buckets := by
  rw [cumulative_add_one]
  induction buckets generalizing before with
  | nil => rfl
  | cons bucket rest ih =>
    obtain ⟨hbucket, hrest⟩ := List.forall_mem_cons.1 h
    rw [cumulative, List.zipWith_cons_cons, List.map_cons, ih hrest, raise, if_pos hbucket]

/-- A duration is entered into one bucket at most, and thereby counts up to each bound that it does
not exceed. -/
theorem cumulative_recordIn? (hascending : Ascending buckets) (before : UInt64) :
    cumulative before ((recordIn? seconds buckets).getD buckets) =
      List.zipWith (raise seconds) buckets (cumulative before buckets) := by
  induction buckets generalizing before with
  | nil => rfl
  | cons bucket rest ih =>
    obtain ⟨hlater, hrest⟩ := List.pairwise_cons.1 hascending
    rw [recordIn?]
    split
    · rename_i hfits
      have hall : ∀ later ∈ rest, leNumber seconds later.bound = true :=
        fun later hmem => Decimal.leNumber_trans hfits (hlater later hmem)
      rw [Option.getD_some, cumulative, cumulative, List.zipWith_cons_cons, zipWith_raise_of_forall hall,
        raise, if_pos hfits, UInt64.add_assoc]
    · rename_i habove
      have hrecord : ((recordIn? seconds rest).map (bucket :: ·)).getD (bucket :: rest) =
          bucket :: (recordIn? seconds rest).getD rest := by
        cases recordIn? seconds rest <;> rfl
      rw [hrecord, cumulative, cumulative, List.zipWith_cons_cons, ih hrest, raise, if_neg habove,
        UInt64.add_zero]

/-- Recording changes no bound. -/
theorem bounds_recordIn? :
    ((recordIn? seconds buckets).getD buckets).map (fun bucket => (bucket.bound, bucket.boundText)) =
      buckets.map fun bucket => (bucket.bound, bucket.boundText) := by
  induction buckets with
  | nil => rfl
  | cons bucket rest ih =>
    rw [recordIn?]
    split
    · rfl
    · cases hrecord : recordIn? seconds rest with
      | none => rfl
      | some buckets =>
        rw [hrecord] at ih
        exact congrArg ((bucket.bound, bucket.boundText) :: ·) ih

/-- A sum that starts one higher ends one higher. -/
theorem foldl_count_add_one (start : UInt64) (buckets : List Bucket) :
    buckets.foldl (fun total bucket => total + bucket.count) (start + 1) =
      buckets.foldl (fun total bucket => total + bucket.count) start + 1 := by
  induction buckets generalizing start with
  | nil => rfl
  | cons bucket rest ih => rw [List.foldl_cons, List.foldl_cons, add_one_add, ih]

/-- A duration that is recorded in some bucket adds one to the count of all buckets. -/
theorem foldl_count_recordIn? {recorded : List Bucket} (h : recordIn? seconds buckets = some recorded)
    (start : UInt64) : recorded.foldl (fun total bucket => total + bucket.count) start =
      buckets.foldl (fun total bucket => total + bucket.count) start + 1 := by
  induction buckets generalizing start recorded with
  | nil => cases h
  | cons bucket rest ih =>
    rw [recordIn?] at h
    split at h
    · cases h
      rw [List.foldl_cons, List.foldl_cons, ← UInt64.add_assoc, foldl_count_add_one]
    · obtain ⟨later, hlater, rfl⟩ := Option.map_eq_some_iff.1 h
      exact ih hlater _

end Buckets

section Record

variable (histogram : Histogram) (seconds : Float)

/-- A duration beyond the last bound leaves the buckets as they are. -/
theorem buckets_record : (histogram.record seconds).buckets =
    (recordIn? seconds histogram.buckets).getD histogram.buckets := by
  unfold record
  cases recordIn? seconds histogram.buckets <;> rfl

/-- Every duration is counted once, in a bucket or above all of them. -/
theorem total_record : (histogram.record seconds).total = histogram.total + 1 := by
  unfold record
  split
  · rename_i buckets hrecord
    exact foldl_count_recordIn? hrecord histogram.overflow
  · exact foldl_count_add_one histogram.overflow histogram.buckets

end Record

/-- The histogram of some durations. -/
def ofDurations (durations : List Float) : Histogram := durations.foldl record empty

section Durations

variable (durations : List Float) (seconds : Float)

/-- The last duration is recorded after all others. -/
theorem ofDurations_concat :
    ofDurations (durations ++ [seconds]) = (ofDurations durations).record seconds :=
  List.foldl_append

/-- The total is the number of durations, wrapped. -/
theorem total_ofDurations : (ofDurations durations).total = .ofNat durations.length := by
  induction durations using List.reverseRecOn with
  | nil => rfl
  | append_singleton durations seconds ih =>
    rw [ofDurations_concat, total_record, ih, List.length_append, UInt64.ofNat_add]
    rfl

/-- The buckets have the bounds that they were made with. -/
theorem bounds_ofDurations :
    (ofDurations durations).buckets.map (fun bucket => (bucket.bound, bucket.boundText)) = bounds := by
  induction durations using List.reverseRecOn with
  | nil => rfl
  | append_singleton durations seconds ih => rw [ofDurations_concat, buckets_record, bounds_recordIn?, ih]

theorem ascending_bounds : bounds.Pairwise fun bound later => leNumber bound.1 later.1 = true := by
  decide

/-- The bounds of the buckets ascend, whatever has been recorded. -/
theorem ascending_ofDurations : Ascending (ofDurations durations).buckets := by
  have hbounds := ascending_bounds
  rw [← bounds_ofDurations durations, List.pairwise_map] at hbounds
  exact hbounds

/-- Up to each bound those durations are counted that do not exceed it. -/
theorem cumulative_ofDurations : cumulative 0 (ofDurations durations).buckets =
    bounds.map fun (bound, text) =>
      (text, .ofNat (durations.countP fun seconds => leNumber seconds bound)) := by
  induction durations using List.reverseRecOn with
  | nil => rfl
  | append_singleton durations seconds ih =>
    rw [ofDurations_concat, buckets_record, cumulative_recordIn? (ascending_ofDurations durations), ih,
      ← bounds_ofDurations durations, List.map_map, List.zipWith_map_right, List.zipWith_self,
      List.map_map]
    refine List.map_congr_left fun bucket _ => Prod.ext rfl ?_
    simp only [raise, Function.comp_apply, List.countP_append, List.countP_singleton, UInt64.ofNat_add]
    split <;> rfl

/-- One duration on a bound, one between two and one above all of them. -/
example : (cumulative 0 (ofDurations [0.01, 0.3, 42]).buckets).map (·.2) =
    [0, 1, 1, 1, 1, 1, 2, 2, 2, 2, 2] := by
  decide

end Durations

end PurchaseStatus.Histogram
