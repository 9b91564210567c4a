import PurchaseStatus.Proofs.Engine.Turns

namespace PurchaseStatus

section Counting

variable {α : Type u} {β : Type v}

/-- Rows that satisfy one of two conditions that exclude each other are counted condition by condition.
-/
theorem countP_or_of_disjoint {p q : α → Bool} (hdisjoint : ∀ row, p row = true → q row = false)
    (rows : List α) : (rows.countP fun row => p row || q row) = rows.countP p + rows.countP q := by
  have hin : ((rows.filter p).countP fun row => p row || q row) = rows.countP p := by
    rw [List.countP_filter]
    exact List.countP_congr fun row _ => by cases p row <;> simp
  have hout : ((rows.filter fun row => !p row).countP fun row => p row || q row) = rows.countP q := by
    rw [List.countP_filter]
    refine List.countP_congr fun row _ => ?_
    cases hp : p row with
    | false => simp
    | true => simp [hdisjoint row hp]
  rw [List.countP_eq_countP_filter_add rows _ p, hin, hout]

/-- Where no row satisfies two of several conditions, those that satisfy any are counted condition by
condition. -/
theorem countP_any_of_pairwise {holds : β → α → Bool} {items : List β}
    (hdisjoint : items.Pairwise fun a b => ∀ row, holds a row = true → holds b row = false)
    (rows : List α) : (rows.countP fun row => items.any (holds · row)) =
      (items.map fun item => rows.countP (holds item)).sum := by
  induction items with
  | nil => simp
  | cons item rest ih =>
    obtain ⟨hfirst, hrest⟩ := List.pairwise_cons.1 hdisjoint
    have hnone : ∀ row, holds item row = true → rest.any (holds · row) = false := by
      intro row hrow
      simpa using fun other hother => hfirst other hother row hrow
    calc (rows.countP fun row => (item :: rest).any (holds · row))
        = rows.countP fun row => holds item row || rest.any (holds · row) := by
          simp only [List.any_cons]
      _ = rows.countP (holds item) + rows.countP fun row => rest.any (holds · row) :=
          countP_or_of_disjoint hnone rows
      _ = ((item :: rest).map fun item => rows.countP (holds item)).sum := by
          rw [ih hrest, List.map_cons, List.sum_cons]

end Counting

namespace EngineCall

variable (engine : Engine) (call : EngineCall)

/-- Whether a rule of an id gives a row its label. -/
def labelsUnder (id : String) (row : Fin call.data.rows) : Bool :=
  (call.turns engine).any fun turn => turn.rule.id == id && (turn.rows (call.task engine)).get row

/-- The number of rows that rules of an id give their labels. -/
def labelledUnder (id : String) : Nat :=
  (List.finRange call.data.rows).countP (call.labelsUnder engine id)

/-- The rows of an id in the statistics are those that its rules label: although several rules may
share it, no row is counted twice. -/
theorem countOf_stats_run (id : String) :
    (call.run engine).stats.countOf id = call.labelledUnder engine id := by
  let task := call.task engine
  let named := (call.turns engine).filter (·.rule.id = id)
  have hrecorded : (call.run engine).stats.countOf id =
      rowsOf ((call.stateAfter engine (call.rulesOf engine)).hits.filter (·.1 = id)) := by
    rw [run_eq]
    exact RunReport.countOf_stats _ id
  have hrows : rowsOf ((call.stateAfter engine (call.rulesOf engine)).hits.filter (·.1 = id)) =
      (named.map fun turn => (turn.rows task).count).sum :=
    (Labeling.rowsOf_hits_applyAll task (call.start engine) (call.rulesOf engine) id).trans
      (Nat.zero_add _)
  -- a claimed row is no longer unset, so no later turn has it as well
  have hdisjoint : named.Pairwise fun earlier later =>
      ∀ row, (earlier.rows task).get row = true → (later.rows task).get row = false :=
    (Labeling.pairwise_rows_turns task (call.start engine) (call.rulesOf engine)).filter _
  have hcount : labelledUnder engine call id =
      (List.finRange call.data.rows).countP fun row => named.any fun turn => (turn.rows task).get row := by
    refine List.countP_congr fun row _ => ?_
    rw [List.any_filter, labelsUnder]
    exact iff_of_eq rfl
  rw [hrecorded, hrows, hcount, countP_any_of_pairwise hdisjoint]
  simp only [Mask.count_eq_countP]

/-- The status and the note of a row before a call. -/
def labelBefore (row : Fin call.data.rows) : RowLabel := call.data.batch.labelAt call.statusColumn row

/-- The status and the note of a row after a call. -/
def labelAfter (row : Fin call.data.rows) : RowLabel :=
  (call.run engine).batch.labelAt call.statusColumn row

/-- The notes are read from the batch at any time. The statuses are carried along, which is the same
unless notes are written into their column. -/
theorem note_labelAfter (row : Fin call.data.rows) : (call.labelAfter engine row).note =
    ((call.stateAfter engine (call.rulesOf engine)).labelAt row).note := by
  rw [labelAfter, run_eq]
  rfl

/-- The label after a call is read off its last state, if notes are not written over statuses. -/
theorem labelAfter_eq (hne : call.statusColumn ≠ Schema.matchedNote) (row : Fin call.data.rows) :
    call.labelAfter engine row = (call.stateAfter engine (call.rulesOf engine)).labelAt row := by
  have hcoherent : (call.stateAfter engine (call.rulesOf engine)).Coherent (call.task engine) :=
    (Labeling.coherent_start (call.task engine) call.data.batch call.context.masks).applyAll _ hne
  rw [labelAfter, run_eq]
  exact hcoherent.labelAt_batch row

/-- The label before a call is that of its first state. -/
theorem labelBefore_eq (row : Fin call.data.rows) :
    call.labelBefore row = (call.start engine).labelAt row :=
  (Labeling.labelAt_start (call.task engine) call.data.batch call.context.masks row).symm

/-- What the statistics of a call say of the turns of its rules. The ids are those of the evaluated
rules in the order of the first such turn; under each stand the rows that get their label at a turn of
that id. No row gets one at two turns. A row has the label of its turn at the end, and one without a
turn the label from before. -/
structure AttributesRows : Prop where
  order : (call.turns engine).map (·.rule) = call.rulesOf engine
  entries : Named.entries (call.run engine).stats =
    (((call.evaluatedTurns engine).map (·.rule.id)).eraseDups).map fun id =>
      (id, call.labelledUnder engine id)
  nodup : (Named.names (call.run engine).stats).Nodup
  once : (call.turns engine).Pairwise fun earlier later => ∀ row,
    (earlier.rows (call.task engine)).get row = true → (later.rows (call.task engine)).get row = false
  labelled : ∀ turn ∈ call.turns engine, ∀ row, (turn.rows (call.task engine)).get row = true →
    (call.labelAfter engine row).note = some turn.rule.note ∧
    (call.statusColumn ≠ Schema.matchedNote →
      call.labelAfter engine row = ⟨turn.rule.status, some turn.rule.note⟩)
  others : ∀ row, (∀ turn ∈ call.turns engine, (turn.rows (call.task engine)).get row = false) →
    call.labelAfter engine row = call.labelBefore row
  conserved : call.statusColumn ≠ Schema.matchedNote → (∀ rule ∈ call.rulesOf engine, rule.Lasting) →
    (call.run engine).stats.total + (call.statusAfter engine).unset.count = call.statusBefore.unset.count

/-- A row that a rule labels at its turn has the label of the rule in the end. -/
theorem label_of_mem_rows {turn : RuleTurn call.data.rows} (hturn : turn ∈ call.turns engine)
    {row : Fin call.data.rows} (hrow : (turn.rows (call.task engine)).get row = true) :
    (call.stateAfter engine (call.rulesOf engine)).labelAt row =
      ⟨turn.rule.status, some turn.rule.note⟩ :=
  Labeling.labelAt_of_mem_rows hturn hrow

/-- A row that no rule labels has the label that it had. -/
theorem label_of_not_mem_rows {row : Fin call.data.rows}
    (hnone : ∀ turn ∈ call.turns engine, (turn.rows (call.task engine)).get row = false) :
    call.labelAfter engine row = call.labelBefore row := by
  have hkept : (call.stateAfter engine (call.rulesOf engine)).labelAt row =
      (call.start engine).labelAt row := Labeling.labelAt_of_not_mem_rows hnone
  by_cases hne : call.statusColumn = Schema.matchedNote
  · -- statuses and notes share a column, so the note of the row is all there is
    have hnote : (call.labelAfter engine row).note = (call.labelBefore row).note := by
      rw [note_labelAfter, hkept, ← labelBefore_eq engine]
    have hafter : (call.labelAfter engine row).status = (call.labelAfter engine row).note := by
      simp only [labelAfter, Batch.labelAt, hne]
    have hbefore : (call.labelBefore row).status = (call.labelBefore row).note := by
      simp only [labelBefore, Batch.labelAt, hne]
    have hstatus : (call.labelAfter engine row).status = (call.labelBefore row).status := by
      rw [hafter, hnote, hbefore]
    calc call.labelAfter engine row
        = ⟨(call.labelAfter engine row).status, (call.labelAfter engine row).note⟩ := rfl
      _ = ⟨(call.labelBefore row).status, (call.labelBefore row).note⟩ := by rw [hstatus, hnote]
      _ = call.labelBefore row := rfl
  · rw [labelAfter_eq engine call hne, hkept, labelBefore_eq engine]

/-- The statistics of every call of an engine are exact, whatever rules or fallbacks it applies to
whatever columns. -/
theorem attributesRows : call.AttributesRows engine := by
  have hhits := call.hits_run engine
  have hnames : Named.names (call.run engine).stats =
      ((call.evaluatedTurns engine).map (·.rule.id)).eraseDups := by
    have hids := RuleStats.names_addAll (call.run engine).report.hits
    rw [hhits, List.map_map] at hids
    rw [Run.stats, RunReport.stats, hhits]
    exact hids
  have hempty : (Named.names (∅ : RuleStats)).Nodup := List.nodup_nil
  have hnodup : (Named.names (call.run engine).stats).Nodup :=
    RuleStats.nodup_names_addAll hempty (call.run engine).report.hits
  have hentries : Named.entries (call.run engine).stats =
      (((call.evaluatedTurns engine).map (·.rule.id)).eraseDups).map fun id =>
        (id, call.labelledUnder engine id) := by
    rw [RuleStats.entries_eq_map hnodup, hnames]
    exact List.map_congr_left fun id _ => congrArg (id, ·) (call.countOf_stats_run engine id)
  have hleft := call.leavesUnset_stateAfter engine
  refine ⟨?_, hentries, hnodup, ?_, ?_, ?_, ?_⟩
  · exact Labeling.map_rule_turns (call.task engine) (call.start engine) (call.rulesOf engine)
  · exact Labeling.pairwise_rows_turns (call.task engine) (call.start engine) (call.rulesOf engine)
  · intro turn hturn row hrow
    have hlabel := call.label_of_mem_rows engine hturn hrow
    refine ⟨?_, fun hne => ?_⟩
    · rw [note_labelAfter, hlabel]
    · rw [labelAfter_eq engine call hne, hlabel]
  · exact fun row hnone => call.label_of_not_mem_rows engine hnone
  · intro hne hlasting
    rw [hleft.status hne hlasting, Nat.add_comm]
    exact hleft.counted

end EngineCall

end PurchaseStatus
