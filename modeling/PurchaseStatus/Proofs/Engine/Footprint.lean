import PurchaseStatus.Proofs.Engine.Frame

namespace PurchaseStatus

variable {n : Nat} {columns : List String}

/-- The first columns of the names are the same in both batches: there or not, of one type and with the
same cells. -/
def Batch.SameOn (columns : List String) (a b : Batch n) : Prop :=
  ∀ column ∈ columns, a.cells? column = b.cells? column

/-- The columns of the names and no others. -/
def Batch.restrict (columns : List String) (batch : Batch n) : Batch n :=
  ⟨⟨batch.columns.entries.filter fun entry => entry.1 ∈ columns⟩⟩

/-- A batch that is restricted to some columns keeps their cells. -/
theorem Batch.cells?_restrict {column : String} (hcolumn : column ∈ columns) (batch : Batch n) :
    (batch.restrict columns).cells? column = batch.cells? column := by
  have hfind : ∀ entries : List (String × Cells n),
      Named.find? column (entries.filter fun entry => entry.1 ∈ columns) = Named.find? column entries := by
    intro entries
    induction entries with
    | nil => rfl
    | cons entry rest ih =>
      by_cases hkept : entry.1 ∈ columns
      · rw [List.filter_cons_of_pos (by simpa using hkept), Named.find?, Named.find?, ih]
      · have hne : entry.1 ≠ column := by
          rintro rfl
          exact hkept hcolumn
        rw [List.filter_cons_of_neg (by simpa using hkept), Named.find?, if_neg hne, ih]
  exact hfind batch.columns.entries

/-- Columns of other names may be there or not, and stand anywhere. -/
theorem Batch.sameOn_of_restrict_eq {a b : Batch n} (h : a.restrict columns = b.restrict columns) :
    Batch.SameOn columns a b := by
  intro column hcolumn
  rw [← cells?_restrict hcolumn a, h, cells?_restrict hcolumn b]

section Check

variable (input : CheckInput n) {batch : Batch n}

/-- A built-in check depends on its fixed columns only, `no_status` on the status column. -/
theorem Builtin.evaluate?_congr {builtin : Builtin}
    (hstatus : batch.cells? input.statusColumn = input.batch.cells? input.statusColumn)
    (hcolumns : Batch.SameOn builtin.fixedColumns batch input.batch) :
    builtin.evaluate? { input with batch } = builtin.evaluate? input := by
  have hmasks : ∀ base : Builtin, Option.Rel (Series.AgreeOn (Series.within fun _ => True))
      (CheckInput.registered? { input with batch } base.name) (input.registered? base.name) :=
    fun _ => Series.rel_agreeOn_of_eq _ rfl
  by_cases hne : builtin = .noStatus
  · subst hne
    simp only [evaluate?, compute?, noStatusMask, Batch.textOrNulls_congr hstatus]
    rfl
  · refine Series.eq_of_rel_agreeOn (evaluate?_agree hne ⟨rfl, rfl, rfl, rfl⟩ ?_ fun base _ => hmasks base)
    exact fun column hcolumn => Batch.agreeOn_of_cells?_eq _ (hcolumns column hcolumn)

/-- A check reads the columns of its list and nothing else of a batch. -/
theorem Check.evaluate?_congr {check : Check}
    (hstatus : batch.cells? input.statusColumn = input.batch.cells? input.statusColumn)
    (hcolumns : Batch.SameOn check.columns batch input.batch) :
    check.evaluate? { input with batch } = check.evaluate? input := by
  have hcompute : check.compute? { input with batch } = check.compute? input := by
    refine Series.eq_of_rel_agreeOn (compute?_agree ⟨rfl, rfl, rfl, rfl⟩ (fun column hfield => ?_) ?_)
    · exact Batch.agreeOn_of_cells?_eq _ (hcolumns column (mem_columns_of_field? hfield))
    · rintro builtin rfl
      exact Series.rel_agreeOn_of_eq _ (Builtin.evaluate?_congr input hstatus hcolumns)
  rw [evaluate?, evaluate?, hcompute]
  rfl

/-- A rule reads the columns of its checks and nothing else of a batch. -/
theorem Rule.mask?_congr {rule : Rule}
    (hstatus : batch.cells? input.statusColumn = input.batch.cells? input.statusColumn)
    (hcolumns : Batch.SameOn (rule.checks.flatMap Check.columns) batch input.batch) :
    rule.mask? { input with batch } = rule.mask? input := by
  have hmasks : rule.checks.filterMap (·.evaluate? { input with batch }) =
      rule.checks.filterMap (·.evaluate? input) := by
    refine List.filterMap_congr fun check hcheck => Check.evaluate?_congr input hstatus ?_
    exact fun column hcolumn => hcolumns column (List.mem_flatMap.2 ⟨check, hcheck, hcolumn⟩)
  simp only [mask?, hmasks]

end Check

/-- The columns on which a run of rules depends: those that it writes, and those that a check of a rule
names or, if it is built in, reads. -/
def Rule.footprint (rules : List Rule) (statusColumn : String) : List String :=
  statusColumn :: Schema.matchedNote :: rules.flatMap fun rule => rule.checks.flatMap Check.columns

namespace Labeling

variable {task : LabelingTask}

/-- Two states that differ at most in columns of other names. -/
structure SameOn (columns : List String) (a b : Labeling n) : Prop where
  batch : Batch.SameOn columns a.batch b.batch
  status : a.status = b.status
  unset : a.unset = b.unset
  masks : a.masks = b.masks
  hits : a.hits = b.hits

namespace SameOn

variable {a b : Labeling n}

/-- Runs that agree on the note column have the same notes. -/
theorem notes_eq (h : SameOn columns a b) (hnote : Schema.matchedNote ∈ columns) : a.notes = b.notes :=
  Batch.textOrNulls_congr (h.batch _ hnote)

/-- Claiming the same rows keeps two runs in agreement. -/
theorem claim (hnote : Schema.matchedNote ∈ columns) (h : SameOn columns a b) (rows : Mask n)
    (status note : String) :
    SameOn columns (a.claim task rows status note) (b.claim task rows status note) := by
  have hnotes : a.batch.textOrNulls Schema.matchedNote = b.batch.textOrNulls Schema.matchedNote :=
    h.notes_eq hnote
  unfold Labeling.claim
  split
  · refine ⟨fun column hcolumn => ?_, ?_, ?_, h.masks, h.hits⟩
    · simp only [label, hnotes, h.status]
      by_cases hnoted : column = Schema.matchedNote
      · rw [hnoted, Batch.cells?_putText_self, Batch.cells?_putText_self]
      · rw [Batch.cells?_putText_of_ne _ hnoted, Batch.cells?_putText_of_ne _ hnoted]
        by_cases hstatus : column = task.statusColumn
        · rw [hstatus, Batch.cells?_putText_self, Batch.cells?_putText_self]
        · rw [Batch.cells?_putText_of_ne _ hstatus, Batch.cells?_putText_of_ne _ hstatus]
          exact h.batch column hcolumn
    · simp only [label, h.status]
    · simp only [label, h.unset]
  · exact h

theorem record (h : SameOn columns a b) (id : String) (count : Nat) :
    SameOn columns (a.record task id count) (b.record task id count) where
  batch := h.batch
  status := h.status
  unset := h.unset
  masks := by simp only [Labeling.record, h.masks, h.unset]
  hits := by simp only [Labeling.record, h.hits]

/-- A rule has the same mask in two runs that agree on its columns. -/
theorem mask?_eq (h : SameOn columns a b) (hstatus : task.statusColumn ∈ columns) {rule : Rule}
    (hreads : ∀ column ∈ rule.checks.flatMap Check.columns, column ∈ columns) :
    rule.mask? (a.input task) = rule.mask? (b.input task) := by
  have hinput : a.input task = { b.input task with batch := a.batch } := by
    simp only [input, h.masks]
  rw [hinput]
  exact Rule.mask?_congr (b.input task) (h.batch _ hstatus)
    fun column hcolumn => h.batch column (hreads column hcolumn)

/-- A rule does the same to both: nothing, or claim the same rows. -/
theorem apply (hstatus : task.statusColumn ∈ columns) (hnote : Schema.matchedNote ∈ columns)
    (h : SameOn columns a b) {rule : Rule}
    (hreads : ∀ column ∈ rule.checks.flatMap Check.columns, column ∈ columns) :
    SameOn columns (a.apply task rule) (b.apply task rule) := by
  have hmask := h.mask?_eq hstatus hreads
  cases hlabel : rule.labelFor? task.kind with
  | none =>
    rw [apply_of_no_status hlabel, apply_of_no_status hlabel]
    exact h
  | some status =>
    cases hmatched : rule.mask? (b.input task) with
    | none =>
      rw [apply_of_no_mask (hmask.trans hmatched), apply_of_no_mask hmatched]
      exact h
    | some matched =>
      rw [apply_of_evaluated hlabel (hmask.trans hmatched), apply_of_evaluated hlabel hmatched, h.unset]
      exact (h.claim hnote (matched.and b.unset) status rule.note).record rule.id _

/-- Rules that read nothing else keep two runs in agreement. -/
theorem applyAll (hstatus : task.statusColumn ∈ columns) (hnote : Schema.matchedNote ∈ columns)
    (h : SameOn columns a b) {rules : List Rule}
    (hreads : ∀ rule ∈ rules, ∀ column ∈ rule.checks.flatMap Check.columns, column ∈ columns) :
    SameOn columns (a.applyAll task rules) (b.applyAll task rules) := by
  induction rules generalizing a b with
  | nil => exact h
  | cons rule rest ih =>
    obtain ⟨hrule, hrest⟩ := List.forall_mem_cons.1 hreads
    exact ih (h.apply hstatus hnote hrule) hrest

end SameOn

/-- Where the status column is the same, both batches are made sure of it alike. -/
theorem sameOn_start (task : LabelingTask) (hstatus : task.statusColumn ∈ columns) {a b : Batch n}
    (h : Batch.SameOn columns a b) (masks : Registry) :
    SameOn columns (start task a masks) (start task b masks) := by
  have hcells := h _ hstatus
  have htexts : (start task a masks).status = (start task b masks).status := by
    simp only [start, Batch.textOrNulls_ensureText, Batch.textOrNulls_congr hcells]
  refine ⟨fun column hcolumn => ?_, htexts, congrArg Texts.unset htexts, rfl, rfl⟩
  simp only [start]
  by_cases hname : column = task.statusColumn
  · subst hname
    cases hb : b.cells? task.statusColumn with
    | none =>
      rw [Batch.cells?_ensureText_of_absent hb, Batch.cells?_ensureText_of_absent (hcells.trans hb)]
    | some cells =>
      rw [Batch.cells?_ensureText_of_present hb, Batch.cells?_ensureText_of_present (hcells.trans hb), hcells]
  · rw [Batch.cells?_ensureText_of_ne a hname, Batch.cells?_ensureText_of_ne b hname]
    exact h column hcolumn

end Labeling

/-- Two runs with the same labels, notes, statistics and masks. -/
structure Run.SameLabels (statusColumn : String) (a b : Run n) : Prop where
  statuses : a.batch.cells? statusColumn = b.batch.cells? statusColumn
  notes : a.batch.cells? Schema.matchedNote = b.batch.cells? Schema.matchedNote
  report : a.report = b.report
  context : a.context = b.context

namespace Engine

/-- A run of any rules depends on no column outside their footprint. -/
theorem run_sameLabels (engine : Engine) (rules : List Rule) (statusColumn : String) (context : RuleContext)
    (kind : RecordKind) (refresh : Bool) {a b : Batch n}
    (h : Batch.SameOn (Rule.footprint rules statusColumn) a b) :
    Run.SameLabels statusColumn (engine.run rules a statusColumn context kind refresh)
      (engine.run rules b statusColumn context kind refresh) := by
  let task := engine.task statusColumn context kind refresh
  have hstatus : task.statusColumn ∈ Rule.footprint rules statusColumn := List.mem_cons_self
  have hnote : Schema.matchedNote ∈ Rule.footprint rules statusColumn :=
    List.mem_cons_of_mem _ List.mem_cons_self
  have hreads : ∀ rule ∈ rules, ∀ column ∈ rule.checks.flatMap Check.columns,
      column ∈ Rule.footprint rules statusColumn := fun rule hrule column hcolumn =>
    List.mem_cons_of_mem _ (List.mem_cons_of_mem _ (List.mem_flatMap.2 ⟨rule, hrule, hcolumn⟩))
  have hfinal := (Labeling.sameOn_start task hstatus h context.masks).applyAll hstatus hnote hreads
  constructor
  · exact hfinal.batch _ hstatus
  · exact hfinal.batch _ hnote
  · simp only [run, RunReport.mk.injEq]
    exact ⟨hfinal.hits, congrArg Mask.count hfinal.unset⟩
  · exact congrArg (fun masks => { context with masks }) hfinal.masks

/-- The labels that an engine gives depend only on what its rules read and on what it writes. Columns
that are neither may be added, dropped, put elsewhere or filled with anything else. -/
theorem applyRules_reads_footprint (engine : Engine) (statusColumn : String) (context : RuleContext)
    (kind : RecordKind) (refresh : Bool) (a b : Batch n) :
    let reads := Rule.footprint engine.rules statusColumn
    let first := engine.applyRules a statusColumn context kind refresh
    let second := engine.applyRules b statusColumn context kind refresh
    (Batch.SameOn reads a b → Run.SameLabels statusColumn first second) ∧
    (a.restrict reads = b.restrict reads → Run.SameLabels statusColumn first second) :=
  ⟨engine.run_sameLabels engine.rules statusColumn context kind refresh, fun h =>
    engine.run_sameLabels engine.rules statusColumn context kind refresh (Batch.sameOn_of_restrict_eq h)⟩

/-- Of the two rules, one reads a column that it names and one reads two fixed columns. -/
def readingRules : List RuleConfig := [
  { priority := 1, statusValue := some "matched", checks := [{ type := "qty_matched" }] },
  { priority := 2, statusValue := some "rush", note := "item a",
    checks := [{ type := "equals", field := some "item", value := some (.string "a") }] }]

def regionalBatch : Batch 3 := ⟨⟨[
  ("item", .text ⟨[some "a", some "b", some "a"], rfl⟩),
  ("region", .text ⟨[some "north", none, some "south"], rfl⟩),
  (Schema.entryQuantity, .int64 ⟨[some 5, some 2, some 3], rfl⟩),
  (Schema.receivedQuantity, .text ⟨[some "4", some "2", some "3"], rfl⟩)]⟩⟩

/-- The same with an owner in front, the region as a number at the end, and the quantities in the other
order. -/
def ownedBatch : Batch 3 := ⟨⟨[
  ("owner", .text ⟨[some "x", some "y", some "z"], rfl⟩),
  ("item", .text ⟨[some "a", some "b", some "a"], rfl⟩),
  (Schema.receivedQuantity, .text ⟨[some "4", some "2", some "3"], rfl⟩),
  (Schema.entryQuantity, .int64 ⟨[some 5, some 2, some 3], rfl⟩),
  ("region", .int64 ⟨[some 1, some 2, none], rfl⟩)]⟩⟩

/-- The same without any other column. -/
def bareBatch : Batch 3 := ⟨⟨regionalBatch.columns.entries.filter (·.1 ≠ "region")⟩⟩

/-- A column that no check reads may be left out, and its cells may be of any type. -/
theorem applyRules_reads_footprint_regional :
    let engine := ofRules .empty "rules" readingRules
    let reads := Rule.footprint engine.rules "status"
    let run (batch : Batch 3) := engine.applyRules batch "status" {} .order true
    Batch.SameOn reads regionalBatch ownedBatch ∧
    regionalBatch.restrict reads = bareBatch.restrict reads ∧
    ((run regionalBatch).batch.textOrNulls "status").toList = [some "rush", some "matched", some "matched"] ∧
    Run.SameLabels "status" (run regionalBatch) (run ownedBatch) ∧
    Run.SameLabels "status" (run regionalBatch) (run bareBatch) := by
  intro engine reads run
  obtain ⟨hsame, _⟩ := engine.applyRules_reads_footprint "status" {} .order true regionalBatch ownedBatch
  obtain ⟨_, hrestrict⟩ := engine.applyRules_reads_footprint "status" {} .order true regionalBatch bareBatch
  have hcells : ∀ column ∈ reads, regionalBatch.cells? column = ownedBatch.cells? column := by decide
  have hkept : regionalBatch.restrict reads = bareBatch.restrict reads := by decide
  exact ⟨hcells, hkept, by decide, hsame hcells, hrestrict hkept⟩

end Engine

end PurchaseStatus
