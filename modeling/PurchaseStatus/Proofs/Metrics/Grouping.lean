import PurchaseStatus.Proofs.Metrics.Exposition
import PurchaseStatus.Proofs.Metrics.Families
import Mathlib.Data.Finset.Card

namespace PurchaseStatus

open ExpositionLine (linesOf linesOf_join familyOf_eq isPartOf Grouped IsName Reads reads_ofList
  reads_help reads_type reads_sample reads_count)

/-- The id or the name that a recording brings along. -/
def Recording.label? : Recording → Option String
  | engineRun _ _ => none
  | ruleHits id _ => some id
  | step name _ _ => some name

/-- A recording that ends a step is labelled with its name. -/
theorem Recording.label?_of_ends {recording : Recording} {name : String} (h : recording.ends name = true) :
    recording.label? = some name := by
  cases recording with
  | engineRun seconds unlabeled => cases h
  | ruleHits id count => cases h
  | step other status seconds => exact congrArg some (of_decide_eq_true (Bool.and_eq_true_iff.1 h).1)

theorem forall₂_replicate {R : α → β → Prop} {items : List α} {b : β} (h : ∀ a ∈ items, R a b) :
    List.Forall₂ R items (List.replicate items.length b) := by
  induction items with
  | nil => exact .nil
  | cons a rest ih =>
    obtain ⟨ha, hrest⟩ := List.forall_mem_cons.1 h
    exact .cons ha (ih hrest)

namespace FamilyBlock

/-- A family that is no histogram, whose only metric has its name. -/
def plain (name kind : String) (samples : Nat) : FamilyBlock := ⟨⟨name, kind, name⟩, samples⟩

/-- A histogram of durations has a sample for each bound, and one of all durations. -/
def durations (name : String) : FamilyBlock :=
  ⟨⟨name ++ "_seconds", "histogram", name ++ "_seconds_bucket"⟩, Histogram.bounds.length + 1⟩

end FamilyBlock

namespace Histogram

theorem oneLine_of_mem_bounds : ∀ bound ∈ bounds, OneLine bound.2 := by decide

/-- The bound of a bucket breaks no line. -/
theorem oneLine_of_mem_wrapped {durations : List Float} {sample : String × Nat}
    (h : sample ∈ wrapped (samples durations)) : OneLine sample.1 := by
  obtain ⟨shown, hshown, rfl⟩ := List.mem_map.1 h
  rcases List.mem_append.1 hshown with hbound | hlast
  · obtain ⟨bound, hmem, rfl⟩ := List.mem_map.1 hbound
    exact oneLine_of_mem_bounds bound hmem
  · cases List.mem_singleton.1 hlast
    exact (by decide : OneLine "+Inf")

/-- A bucket is read as a sample of the buckets of its histogram. -/
theorem reads_sampleLine {name labels : String} (hname : IsName name) (hlabels : OneLine labels)
    {sample : String × Nat} (hsample : OneLine sample.1) :
    Reads (sampleLine name labels sample) (.sample (name ++ "_seconds_bucket")) := by
  have htext : sampleLine name labels sample = name ++ "_seconds_bucket" ++ "\x7b" ++
      ("le=\"" ++ sample.1 ++ "\"" ++ (if labels.isEmpty then "" else ",") ++ labels ++ "\x7d ") ++
        toString sample.2 := by
    simp only [sampleLine, String.append_assoc]
    rfl
  rw [htext]
  have hbound : OneLine ("le=\"" ++ sample.1 ++ "\"") :=
    (OneLine.append (by decide) hsample).append (by decide)
  have hseparator : OneLine (if labels.isEmpty then "" else ",") := by split <;> decide
  have hlabel := ((hbound.append hseparator).append hlabels).append (by decide : OneLine "\x7d ")
  exact reads_count (hname.append (by decide)) (.inl rfl) hlabel sample.2

/-- A histogram is read as one block: help, type, buckets, sum and count. -/
theorem reads_exposition {name labels : String} (hname : IsName name) (hlabels : OneLine labels)
    (durations : List Float) : List.Forall₂ Reads (exposition name labels (wrapped (samples durations)))
      (FamilyBlock.durations name).lines := by
  have hseconds : IsName (name ++ "_seconds") := hname.append (by decide)
  have hhelp : Reads s!"# HELP {name}_seconds Duration histogram." (.help (name ++ "_seconds")) := by
    have h := reads_help hseconds (by decide : OneLine "Duration histogram.")
    simp only [String.append_assoc] at h ⊢
    exact h
  have htype : Reads s!"# TYPE {name}_seconds histogram" (.type (name ++ "_seconds") "histogram") := by
    have h := reads_type hseconds (by decide : IsName "histogram")
    simp only [String.append_assoc] at h ⊢
    exact h
  have hlength : (wrapped (samples durations)).length = bounds.length + 1 := by
    simp [wrapped, samples]
  have hsamples : List.Forall₂ Reads ((wrapped (samples durations)).map (sampleLine name labels))
      (List.replicate (bounds.length + 1) (.sample (name ++ "_seconds_bucket"))) := by
    rw [List.forall₂_map_left_iff, ← hlength]
    exact forall₂_replicate fun sample hsample =>
      reads_sampleLine hname hlabels (oneLine_of_mem_wrapped hsample)
  exact .cons hhelp (.cons htype hsamples)

end Histogram

namespace Metrics

/-- The families of counters and of gauges, in the order in which they are rendered. -/
def counterBlocks (rules : Nat) : List FamilyBlock :=
  [ .plain "accrual_engine_runs_total" "counter" 1,
    .plain "accrual_rows_labeled_total" "counter" 1,
    .plain "accrual_rows_unlabeled" "gauge" 1,
    .plain "accrual_steps_total" "counter" 3,
    .plain "accrual_rule_hits_total" "counter" rules ]

/-- The durations of the engine runs are one histogram, and those of each step another. -/
def blocks (rules steps : Nat) : List FamilyBlock :=
  counterBlocks rules ++ .durations "accrual_engine_duration" ::
    List.replicate steps (.durations "accrual_step_duration")

section Blocks

variable (rules steps : Nat)

/-- Only the durations of steps come more than once, once for each step. -/
theorem names_blocks : (blocks rules steps).map (·.name) =
    (blocks 0 0).map (·.name) ++ List.replicate steps "accrual_step_duration_seconds" := by
  simp [blocks, counterBlocks, FamilyBlock.plain, FamilyBlock.durations]

theorem families_blocks : (blocks rules steps).map (·.toMetricFamily) =
    (blocks 0 0).map (·.toMetricFamily) ++
      List.replicate steps (FamilyBlock.durations "accrual_step_duration").toMetricFamily := by
  simp [blocks, counterBlocks, FamilyBlock.plain, FamilyBlock.durations]

/-- The histograms are the duration of the engine and those of the steps, the latter all of one name. -/
theorem histograms_blocks :
    ((blocks rules steps).map (·.toMetricFamily)).filterMap MetricFamily.histogram? =
      "accrual_engine_duration_seconds" :: List.replicate steps "accrual_step_duration_seconds" := by
  have hstep : (FamilyBlock.durations "accrual_step_duration").histogram? =
      some "accrual_step_duration_seconds" := rfl
  rw [families_blocks, List.filterMap_append, List.filterMap_replicate, hstep]
  rfl

/-- No metric is told to be a part of another histogram than its own. -/
theorem isPartOf_blocks : ∀ family ∈ (blocks 0 1).map (·.toMetricFamily),
    ∀ histogram ∈ ["accrual_engine_duration_seconds", "accrual_step_duration_seconds"],
      isPartOf family.metric histogram = true → histogram = family.name := by
  decide

/-- Each metric is either part of the one histogram among these or a family of its own. -/
theorem isPartOf_or_eq : ∀ family ∈ (blocks 0 0).map (·.toMetricFamily),
    (family.name = "accrual_engine_duration_seconds" ∧ isPartOf family.metric family.name = true) ∨
      family.metric = family.name := by
  decide

/-- No metric is taken for part of a family that is not its own. -/
theorem owned_blocks : MetricFamily.Owned ((blocks rules steps).map (·.toMetricFamily)) := by
  intro family hfamily
  rw [histograms_blocks]
  rw [families_blocks, List.mem_append] at hfamily
  have hmem : family ∈ (blocks 0 1).map (·.toMetricFamily) := by
    rw [families_blocks, List.mem_append]
    exact hfamily.imp_right fun h => List.mem_singleton.2 (List.eq_of_mem_replicate h)
  refine familyOf_eq (fun histogram hhistogram => isPartOf_blocks family hmem histogram ?_) ?_
  · exact (List.mem_cons.1 hhistogram).elim (fun h => h ▸ List.mem_cons_self)
      fun h => List.eq_of_mem_replicate h ▸ List.mem_cons_of_mem _ List.mem_cons_self
  · rcases hfamily with hfixed | hstep
    · rcases isPartOf_or_eq family hfixed with ⟨hname, hpart⟩ | hself
      · exact .inl ⟨hname ▸ List.mem_cons_self, hpart⟩
      · exact .inr hself
    · obtain ⟨hsteps, rfl⟩ := List.mem_replicate.1 hstep
      exact .inl ⟨List.mem_cons_of_mem _ (List.mem_replicate.2 ⟨hsteps, rfl⟩), by decide⟩

/-- All families are grouped but one, and that one is so if there is one step at most. -/
theorem grouped_blocks (family : String) : Grouped (FamilyBlock.document (blocks rules steps)) family ↔
    (family = "accrual_step_duration_seconds" → steps ≤ 1) := by
  have hnodup : ((blocks 0 0).map (·.name)).Nodup := by decide
  have hstep : "accrual_step_duration_seconds" ∉ (blocks 0 0).map (·.name) := by decide
  rw [FamilyBlock.grouped_iff (owned_blocks rules steps), names_blocks, List.count_append,
    List.count_replicate]
  by_cases hfamily : family = "accrual_step_duration_seconds"
  · subst hfamily
    rw [List.count_eq_zero.2 hstep]
    simp
  · have hone := List.nodup_iff_count_le_one.1 hnodup family
    simp [hfamily, Ne.symm hfamily, hone]

end Blocks

section Lines

variable {metrics : Metrics}

/-- The line of a rule is read as a sample, since its id breaks no line. -/
theorem reads_ruleHits {id : String} (hid : OneLine id) (count : UInt64) :
    Reads s!"accrual_rule_hits_total\x7brule_id=\"{id}\"\x7d {count}" (.sample "accrual_rule_hits_total") := by
  have htext : s!"accrual_rule_hits_total\x7brule_id=\"{id}\"\x7d {count}" =
      "accrual_rule_hits_total" ++ "\x7b" ++ ("rule_id=\"" ++ id ++ "\"\x7d ") ++ toString count.toNat := by
    simp only [String.append_assoc]
    rfl
  rw [htext]
  exact reads_count (by decide) (.inl rfl)
    ((OneLine.append (by decide) hid).append (by decide)) count.toNat

/-- The lines of the counters are those of their blocks, one for one. The rules share one family, with a
sample for each. -/
theorem reads_counterLines (hrules : ∀ id ∈ metrics.ruleHits.names, OneLine id) :
    List.Forall₂ Reads metrics.counterLines
      ((counterBlocks metrics.ruleHits.size).flatMap FamilyBlock.lines) := by
  have hblocks : (counterBlocks metrics.ruleHits.size).flatMap FamilyBlock.lines =
      (counterBlocks 0).flatMap FamilyBlock.lines ++
        List.replicate metrics.ruleHits.size (.sample "accrual_rule_hits_total") := by
    simp [counterBlocks, FamilyBlock.plain, FamilyBlock.lines]
  rw [hblocks, counterLines]
  refine List.rel_append ?counters ?rules
  case counters =>
    have hcount {name : String} (hname : IsName name) (count : UInt64) :=
      reads_count hname (.inr rfl) (by decide : OneLine "") count.toNat
    have houtcome {status : String} (hstatus : OneLine status) (count : UInt64) :=
      reads_count (by decide : IsName "accrual_steps_total") (.inl rfl) hstatus count.toNat
    exact .cons (reads_ofList (by decide) rfl) <| .cons (reads_ofList (by decide) rfl) <|
      .cons (hcount (by decide : IsName "accrual_engine_runs_total") _) <|
      .cons (reads_ofList (by decide) rfl) <| .cons (reads_ofList (by decide) rfl) <|
      .cons (hcount (by decide : IsName "accrual_rows_labeled_total") _) <|
      .cons (reads_ofList (by decide) rfl) <| .cons (reads_ofList (by decide) rfl) <|
      .cons (hcount (by decide : IsName "accrual_rows_unlabeled") _) <|
      .cons (reads_ofList (by decide) rfl) <| .cons (reads_ofList (by decide) rfl) <|
      .cons (houtcome (by decide : OneLine "status=\"success\"\x7d ") _) <|
      .cons (houtcome (by decide : OneLine "status=\"failed\"\x7d ") _) <|
      .cons (houtcome (by decide : OneLine "status=\"skipped\"\x7d ") _) <|
      .cons (reads_ofList (by decide) rfl) <| .cons (reads_ofList (by decide) rfl) .nil
  case rules =>
    have hsize : metrics.ruleHits.size = (sorted metrics.ruleHits).length := (length_sortBy _ _).symm
    rw [List.forall₂_map_left_iff, hsize]
    refine forall₂_replicate fun entry hentry => ?_
    have hid : OneLine entry.1 := hrules _ (List.mem_map_of_mem (mem_sortBy.1 hentry))
    exact reads_ruleHits hid entry.2

section Durations

variable {steps : List String} {runs : List Float} {durationsOf : String → List Float}
  (hsteps : ∀ step ∈ steps, OneLine step) (hrun : metrics.runDurations = .ofDurations runs)
  (hsorted : sorted metrics.stepDurations = steps.map fun step => (step, .ofDurations (durationsOf step)))

include hsteps hrun hsorted

/-- The lines of the histograms are those of a block for the engine and of one more for each step. -/
theorem reads_durationLines : List.Forall₂ Reads metrics.durationLines
    ((FamilyBlock.durations "accrual_engine_duration" ::
      List.replicate steps.length (.durations "accrual_step_duration")).flatMap FamilyBlock.lines) := by
  rw [durationLines, List.flatMap_cons]
  refine List.rel_append ?engine ?steps
  case engine =>
    rw [hrun, Histogram.lines_ofDurations]
    exact Histogram.reads_exposition (by decide) (by decide) runs
  case steps =>
    have hstep : ∀ step ∈ steps, List.Forall₂ Reads
        ((Histogram.ofDurations (durationsOf step)).lines "accrual_step_duration" s!"step=\"{step}\"")
        (FamilyBlock.durations "accrual_step_duration").lines := by
      intro step hmem
      rw [Histogram.lines_ofDurations]
      refine Histogram.reads_exposition (by decide) ?_ _
      exact (OneLine.append (by decide) (hsteps step hmem)).append (by decide)
    rw [hsorted, List.flatMap_map]
    exact List.rel_flatMap (forall₂_replicate (b := FamilyBlock.durations "accrual_step_duration") hstep)
      fun _ _ h => h

/-- The rendered lines are those of the blocks, one for one. -/
theorem reads_lines (hrules : ∀ id ∈ metrics.ruleHits.names, OneLine id) :
    List.Forall₂ Reads metrics.lines ((blocks metrics.ruleHits.size steps.length).flatMap FamilyBlock.lines) := by
  rw [lines, blocks, List.flatMap_append]
  exact List.rel_append (reads_counterLines hrules) (reads_durationLines hsteps hrun hsorted)

end Durations

end Lines

section Recordings

variable {recordings : List Recording}

/-- A rule is counted only if it is named by some recording. -/
theorem mem_labels_of_mem_names {id : String} (h : id ∈ (ofRecordings recordings).ruleHits.names) :
    id ∈ recordings.filterMap Recording.label? := by
  induction recordings using List.reverseRecOn with
  | nil => cases h
  | append_singleton recordings recording ih =>
    rw [ofRecordings_concat] at h
    rw [List.filterMap_append, List.mem_append]
    cases recording with
    | engineRun seconds unlabeled => exact .inl (ih h)
    | ruleHits other count =>
      rw [take, recordRuleHits, Named.update, Named.names_put] at h
      split at h
      · exact .inl (ih h)
      · exact (List.mem_append.1 h).imp ih fun h => h
    | step name status seconds => cases status <;> exact .inl (ih h)

/-- A list without repetition has one entry at most if all its entries are equal. -/
theorem length_le_one_iff {steps : List String} (hnodup : steps.Nodup) :
    steps.length ≤ 1 ↔ ∀ first second, first ∈ steps → second ∈ steps → first = second := by
  rw [← List.toFinset_card_of_nodup hnodup, Finset.card_le_one_iff]
  simp only [List.mem_toFinset]

/-- The text has a block for each step of which one is over. -/
theorem exists_linesOf_render (recordings : List Recording)
    (hlabels : ∀ label ∈ recordings.filterMap Recording.label?, OneLine label) :
    ∃ steps : List String, steps.Nodup ∧
      (∀ step, step ∈ steps ↔ ∃ recording ∈ recordings, recording.ends step = true) ∧
      linesOf (ofRecordings recordings).render =
        FamilyBlock.document (blocks (ofRecordings recordings).ruleHits.size steps.length) := by
  obtain ⟨steps, hsorted, hmem, hsteps⟩ := exists_sorted_stepDurations recordings
  have hnames : ∀ step ∈ steps, OneLine step := by
    intro step hstep
    obtain ⟨recording, hrecording, hends⟩ := (hmem step).1 hstep
    exact hlabels step (List.mem_filterMap.2 ⟨recording, hrecording, Recording.label?_of_ends hends⟩)
  have hids : ∀ id ∈ (ofRecordings recordings).ruleHits.names, OneLine id :=
    fun id hid => hlabels id (mem_labels_of_mem_names hid)
  have hreads := reads_lines hnames (runDurations_ofRecordings recordings) hsteps hids
  exact ⟨steps, hsorted.imp ne_of_lt, hmem, linesOf_join hreads⟩

/-- Every family of the text is grouped, but for the durations of the steps: each step begins that family
anew, so it is grouped exactly while no two steps are over. -/
theorem grouped_render_iff (recordings : List Recording)
    (hlabels : ∀ label ∈ recordings.filterMap Recording.label?, OneLine label) (family : String) :
    Grouped (linesOf (ofRecordings recordings).render) family ↔
      (family = "accrual_step_duration_seconds" → ∀ first second,
        (∃ recording ∈ recordings, recording.ends first = true) →
          (∃ recording ∈ recordings, recording.ends second = true) → first = second) := by
  obtain ⟨steps, hnodup, hmem, hlines⟩ := exists_linesOf_render recordings hlabels
  rw [hlines, grouped_blocks, length_le_one_iff hnodup]
  simp only [hmem]

/-- With one step all families are grouped; with two, whose names break no line, they are not. -/
theorem grouped_render_iff_one_or_two_steps :
    (∀ family, Grouped (linesOf (ofRecordings [.ruleHits "p1" 3, .step "erm" .failed 0.1]).render) family) ∧
      ¬Grouped (linesOf (ofRecordings [.step "erm" .failed 0.1, .step "load" .success 0.2]).render)
        "accrual_step_duration_seconds" := by
  constructor
  · intro family
    refine (grouped_render_iff _ (by decide) family).2 fun _ first second hfirst hsecond => ?_
    have honly : ∀ name, (∃ recording ∈ [Recording.ruleHits "p1" 3, .step "erm" .failed 0.1],
        recording.ends name = true) → "erm" = name := by
      simp [Recording.ends, StepStatus.isFinal]
    exact (honly first hfirst).symm.trans (honly second hsecond)
  · intro hgrouped
    have hsame := (grouped_render_iff _ (by decide) _).1 hgrouped rfl "erm" "load"
      ⟨_, List.mem_cons_self, rfl⟩ ⟨_, List.mem_cons_of_mem _ List.mem_cons_self, rfl⟩
    exact absurd hsame (by decide)

/-- Whether a label stands between its quotes as it is. -/
def IsPlain (label : String) : Prop := ∀ c ∈ label.toList, c ≠ '"' ∧ c ≠ '\\' ∧ c ≠ '\n'

instance (label : String) : Decidable (IsPlain label) := List.decidableBAll _ _

/-- Two steps are enough to break up their family. -/
theorem not_forall_grouped_render : ¬∀ recordings : List Recording,
    (∀ label ∈ recordings.filterMap Recording.label?, IsPlain label) →
      ∀ family, Grouped (linesOf (ofRecordings recordings).render) family := by
  intro hall
  let recordings : List Recording := [.step "erm" .failed 0.1, .step "load" .success 0.2]
  obtain ⟨steps, hnodup, hmem, hlines⟩ := exists_linesOf_render recordings (by decide)
  have hgrouped := hall recordings (by decide) "accrual_step_duration_seconds"
  rw [hlines, grouped_blocks, length_le_one_iff hnodup] at hgrouped
  have hsame := hgrouped rfl "erm" "load" ((hmem _).2 ⟨_, List.mem_cons_self, rfl⟩)
    ((hmem _).2 ⟨_, List.mem_cons_of_mem _ List.mem_cons_self, rfl⟩)
  exact absurd hsame (by decide)

end Recordings

end Metrics

end PurchaseStatus
