import PurchaseStatus.Proofs.Check.RowByRow
import PurchaseStatus.Proofs.Engine.Columns
import PurchaseStatus.Proofs.Engine.Ledger

namespace PurchaseStatus

variable {n : Nat}

open Obstacle

/-- What a check gives, with its slots or without; nothing where lengths do not fit. -/
def Obstacle.outcome? : Except Obstacle LooseMask → Option (Option LooseMask)
  | .ok slots => some (some slots)
  | .error .absent => some none
  | .error .misaligned => none

/-- The slots of all checks of a rule that give some, combined. -/
def Rule.slots? (rule : Rule) (input : CheckInput n) : Option (Option LooseMask) := do
  let outcomes ← rule.checks.mapM fun check => outcome? (check.slots input)
  match rule.combine with
  | .and => LooseMask.fold? (· && ·) (outcomes.filterMap fun outcome => outcome)
  | .or => LooseMask.fold? (· || ·) (outcomes.filterMap fun outcome => outcome)

/-- Puts a text column of any length. -/
def Dataset.putText? (data : Dataset) (name : String) (values : List (Option String)) : Option Dataset :=
  data.batch.put? name (.text (.ofList values))

/-- A run between two rules without the knowledge that all its parts have one value for each row. -/
structure Unaligned where
  data : Dataset
  status : List (Option String)
  unset : LooseMask
  masks : Registry
  hits : List (String × Nat)

namespace Unaligned

variable (task : LabelingTask)

/-- What a rule reads at its turn. -/
def input (state : Unaligned) : CheckInput state.data.rows :=
  { batch := state.data.batch
    statusColumn := task.statusColumn
    date := task.date
    entity := task.entity
    config := task.config
    masks := state.masks }

/-- The state before the first rule; fails where the status column does not fit beside the others. -/
def start? (data : Dataset) (masks : Registry) : Option Unaligned := do
  let data ← if data.batch.hasColumn task.statusColumn then some data
    else data.putText? task.statusColumn (List.replicate data.rows none)
  let status := (data.batch.textOrNulls task.statusColumn).toList
  return { data, status, unset := .unset status, masks, hits := [] }

/-- Writes the label of a rule into some rows; fails where a mask is too short for them. -/
def label? (state : Unaligned) (rows : LooseMask) (status note : String) : Option Unaligned := do
  let labelled ← LooseMask.fill? state.status rows status
  let notes ← LooseMask.fill? (state.data.batch.textOrNulls Schema.matchedNote).toList rows note
  let data ← state.data.putText? task.statusColumn labelled
  let data ← data.putText? Schema.matchedNote notes
  let unset ← LooseMask.combine? (fun unset hit => unset && !hit) state.unset rows
  return { state with data, status := labelled, unset }

def record (state : Unaligned) (id : String) (count : Nat) : Unaligned :=
  { state with
    hits := state.hits ++ [(id, count)]
    masks := if task.refresh then Named.put state.masks Builtin.noStatus.name state.unset else state.masks }

/-- Applies one rule; fails where its checks or its label do. -/
def step? (state : Unaligned) (rule : Rule) : Option Unaligned :=
  match rule.labelFor? task.kind with
  | none => some state
  | some status => do
    match ← rule.slots? (state.input task) with
    | none => some state
    | some matched =>
      let rows ← LooseMask.combine? (· && ·) matched state.unset
      let labelled ← if 0 < rows.count then state.label? task rows status rule.note else some state
      return labelled.record task rule.id rows.count

end Unaligned

/-- The outcome of a run, on data of some number of rows. -/
structure LooseRun where
  data : Dataset
  context : RuleContext
  report : RunReport

/-- A call in which every operation on rows, masks and columns fails where their lengths do not fit. -/
def EngineCall.run? (engine : Engine) (call : EngineCall) : Option LooseRun := do
  let first ← Unaligned.start? (call.task engine) call.data call.context.masks
  let final ← (call.rulesOf engine).foldlM (Unaligned.step? (call.task engine)) first
  return { data := final.data
           context := { call.context with masks := final.masks }
           report := { hits := final.hits, unlabeled := final.unset.count } }

section Loose

/-- Masks of one batch can be combined one after another. -/
theorem LooseMask.foldlM_loose (op : Bool → Bool → Bool) (first : Mask n) (rest : List (Mask n)) :
    (rest.map Mask.loose).foldlM (LooseMask.combine? op) first.loose =
      some (rest.foldl (fun all next => all.zipWith op next) first).loose := by
  induction rest generalizing first with
  | nil => rfl
  | cons next rest ih =>
    rw [List.map_cons, List.foldlM_cons, LooseMask.combine?_loose]
    exact ih (first.zipWith op next)

theorem LooseMask.fold?_and_loose (masks : List (Mask n)) :
    LooseMask.fold? (· && ·) (masks.map Mask.loose) = some ((Mask.allOf masks).map Mask.loose) := by
  cases masks with
  | nil => rfl
  | cons first rest =>
    rw [List.map_cons, LooseMask.fold?, LooseMask.foldlM_loose]
    rfl

theorem LooseMask.fold?_or_loose (masks : List (Mask n)) :
    LooseMask.fold? (· || ·) (masks.map Mask.loose) = some ((Mask.anyOf masks).map Mask.loose) := by
  cases masks with
  | nil => rfl
  | cons first rest =>
    rw [List.map_cons, LooseMask.fold?, LooseMask.foldlM_loose]
    rfl

/-- A mask of the batch has a slot for every row that is filled. -/
theorem LooseMask.fill?_loose (base : Texts n) (rows : Mask n) (value : String) :
    LooseMask.fill? base.toList rows.loose value = some (base.fill rows value).toList := by
  have hlength : base.toList.length ≤ rows.loose.length := by simp
  rw [LooseMask.fill?, if_pos hlength, Option.some_inj]
  apply List.ext_getElem (by simp)
  intro row hrow _
  simp [Mask.loose_eq, Series.fill, Series.blend]

/-- Texts of every row fit into the batch. -/
theorem Dataset.putText?_toList (batch : Batch n) (name : String) (values : Texts n) :
    Dataset.putText? ⟨n, batch⟩ name values.toList = some ⟨n, batch.putText name values⟩ := by
  obtain ⟨values, hlength⟩ := values
  subst hlength
  rw [Dataset.putText?, Batch.put?, dif_pos rfl]
  rfl

/-- A check without a mask is passed over. -/
theorem Obstacle.outcome?_ofMask (found : Option (Mask n)) :
    outcome? (ofMask found) = some (found.map Mask.loose) := by
  cases found <;> rfl

/-- The checks of a rule give masks of one length, in whichever way they are combined. -/
theorem Rule.slots?_eq (rule : Rule) (input : CheckInput n) :
    rule.slots? input = some ((rule.mask? input).map Mask.loose) := by
  have houtcomes : (rule.checks.mapM fun check => outcome? (check.slots input)) =
      some (rule.checks.map fun check => (check.evaluate? input).map Mask.loose) := by
    simp only [Check.slots_eq, outcome?_ofMask]
    exact List.mapM_pure
  have hmasks : (rule.checks.map fun check => (check.evaluate? input).map Mask.loose).filterMap (fun outcome => outcome) =
      (rule.checks.filterMap (·.evaluate? input)).map Mask.loose := by
    rw [List.filterMap_map, List.map_filterMap]
    rfl
  rw [slots?, houtcomes, mask?]
  simp only [Option.bind_eq_bind, Option.bind_some, hmasks]
  cases rule.combine with
  | and => exact LooseMask.fold?_and_loose _
  | or => exact LooseMask.fold?_or_loose _

end Loose

namespace Labeling

variable (task : LabelingTask)

/-- The state, forgetting that its parts have one value for each row. -/
def unaligned (state : Labeling n) : Unaligned :=
  { data := ⟨n, state.batch⟩
    status := state.status.toList
    unset := state.unset.loose
    masks := state.masks
    hits := state.hits }

/-- A run can always begin. -/
theorem start?_eq (data : Dataset) (masks : Registry) :
    Unaligned.start? task data masks = some (start task data.batch masks).unaligned := by
  obtain ⟨rows, batch⟩ := data
  have hnulls : (Series.constant rows none : Texts rows).toList = List.replicate rows none := rfl
  unfold Unaligned.start? start unaligned Batch.ensureText
  by_cases hcolumn : batch.hasColumn task.statusColumn = true
  · simp only [if_pos hcolumn, Option.bind_eq_bind, Option.bind_some,
      ← Texts.loose_unset]
    rfl
  · simp only [if_neg hcolumn, ← hnulls, Dataset.putText?_toList, Option.bind_eq_bind, Option.bind_some,
      ← Texts.loose_unset]
    rfl

/-- A label can always be written. -/
theorem label?_unaligned (state : Labeling n) (rows : Mask n) (status note : String) :
    state.unaligned.label? task rows.loose status note =
      some (state.label task rows status note).unaligned := by
  have hunset : LooseMask.combine? (fun unset hit => unset && !hit) state.unset.loose rows.loose =
      some (state.unset.andNot rows).loose := by
    have hrows : (state.unset.zipWith (fun unset hit => unset && !hit) rows) = state.unset.andNot rows := by
      apply Series.ext_get
      simp
    rw [LooseMask.combine?_loose, hrows]
  have hstatus := LooseMask.fill?_loose state.status rows status
  have hnotes := LooseMask.fill?_loose (state.batch.textOrNulls Schema.matchedNote) rows note
  simp only [Unaligned.label?, unaligned, hstatus, hnotes, hunset, Dataset.putText?_toList,
    Option.bind_eq_bind, Option.bind_some]
  rfl

/-- A rule can always be applied, and without lengths it does what it does with them. -/
theorem step?_unaligned (state : Labeling n) (rule : Rule) :
    state.unaligned.step? task rule = some (state.apply task rule).unaligned := by
  have hslots : rule.slots? (state.unaligned.input task) =
      some ((rule.mask? (state.input task)).map Mask.loose) := rule.slots?_eq (state.input task)
  unfold Unaligned.step?
  cases hstatus : rule.labelFor? task.kind with
  | none => rw [apply_of_no_status hstatus]
  | some status =>
    simp only [hslots, Option.bind_eq_bind, Option.bind_some]
    cases hmatched : rule.mask? (state.input task) with
    | none => rw [apply_of_no_mask hmatched, Option.map_none]
    | some matched =>
      have hrows : LooseMask.combine? (· && ·) matched.loose state.unaligned.unset =
        some (matched.and state.unset).loose := LooseMask.combine?_loose _ _ _
      rw [apply_of_evaluated hstatus hmatched, claim, Option.map_some]
      simp only [hrows, Option.bind_some, Mask.count_loose]
      split
      · rw [label?_unaligned]
        rfl
      · rfl

/-- Any number of rules can be applied one after another, with the same outcome as without lengths. -/
theorem foldlM_step?_unaligned (state : Labeling n) (rules : List Rule) :
    rules.foldlM (Unaligned.step? task) state.unaligned = some (state.applyAll task rules).unaligned := by
  induction rules generalizing state with
  | nil => rfl
  | cons rule rest ih =>
    rw [List.foldlM_cons, step?_unaligned]
    exact ih (state.apply task rule)

end Labeling

namespace EngineCall

variable (engine : Engine) (call : EngineCall)

/-- A call cannot fail and touches two columns only: a check gives nothing or one slot for each row, none
of them null; no operation on rows, masks and columns meets another length than it needs; all columns
but the first ones for statuses and for notes stay as they are, and these two are added behind them, in
this order, where they are missing. Where no rule hits a row, only the status column is made sure of. -/
structure StaysAligned : Prop where
  checks : ∀ (check : Check) (input : CheckInput call.data.rows), check.slots input ≠ .error .misaligned ∧
    ∀ slots, check.slots input = .ok slots →
      slots.length = call.data.rows ∧ ∀ slot ∈ slots, slot.isSome = true
  succeeds : call.run? engine = some
    { data := ⟨call.data.rows, (call.run engine).batch⟩
      context := (call.run engine).context
      report := (call.run engine).report }
  others : call.data.batch.KeepsOthers call.statusColumn Schema.matchedNote (call.run engine).batch
  names : (call.run engine).stats.total ≠ 0 → (call.run engine).batch.names =
    Batch.withName (Batch.withName call.data.batch.names call.statusColumn) Schema.matchedNote
  untouched : (call.run engine).stats.total = 0 →
    (call.run engine).batch = call.data.batch.ensureText call.statusColumn

/-- The run that checks every length ends as the run in which the types vouch for them. -/
theorem run?_eq : call.run? engine = some
    { data := ⟨call.data.rows, (call.run engine).batch⟩
      context := (call.run engine).context
      report := (call.run engine).report } := by
  have hstart : Unaligned.start? (call.task engine) call.data call.context.masks =
      some (call.start engine).unaligned := Labeling.start?_eq (call.task engine) call.data _
  have hfinal := Labeling.foldlM_step?_unaligned (call.task engine) (call.start engine)
    (call.rulesOf engine)
  rw [run?, hstart, run_eq]
  simp only [Option.bind_eq_bind, Option.bind_some, hfinal]
  simp only [Labeling.unaligned, Mask.count_loose]
  rfl

/-- A call labels no row and makes sure of the status column, or has added the note column as well. -/
theorem laidOut_stateAfter (earlier : List Rule) :
    (call.stateAfter engine earlier).LaidOut (call.data.batch.ensureText call.statusColumn) := by
  have hcolumn : call.statusColumn ∈ (call.data.batch.ensureText call.statusColumn).names := by
    rw [Batch.names_ensureText]
    exact Batch.mem_withName_self call.data.batch.names call.statusColumn
  exact (Labeling.laidOut_start (call.task engine) call.data.batch call.context.masks).applyAll earlier hcolumn

/-- Whatever the engine, the batch, the columns, the kind and the registered masks are, a call cannot
fail and touches two columns only. -/
theorem staysAligned : call.StaysAligned engine := by
  have hrun := call.run_eq engine
  have hlaid := call.laidOut_stateAfter engine (call.rulesOf engine)
  have htotal : (call.run engine).stats.total =
      rowsOf (call.stateAfter engine (call.rulesOf engine)).hits := by
    rw [hrun]
    exact RunReport.total_stats _
  have hbatch : (call.run engine).batch = (call.stateAfter engine (call.rulesOf engine)).batch := by
    rw [hrun]
  refine ⟨fun check input => ⟨check.slots_ne_misaligned input, fun _ => Check.slots_aligned⟩,
    call.run?_eq engine, ?_, fun hsome => ?_, fun hnone => ?_⟩
  · rw [hbatch]
    exact (Batch.KeepsOthers.ensureText call.data.batch).trans
      (Labeling.keepsOthers_applyAll (call.rulesOf engine) (call.task engine) (call.start engine))
  · rw [htotal] at hsome
    rw [Labeling.LaidOut, if_neg hsome, Batch.names_ensureText] at hlaid
    rw [hbatch, hlaid]
  · rw [htotal] at hnone
    rw [Labeling.LaidOut, if_pos hnone] at hlaid
    rw [hbatch, hlaid]

end EngineCall

end PurchaseStatus
