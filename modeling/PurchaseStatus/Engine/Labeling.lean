import PurchaseStatus.Check.Evaluation
import PurchaseStatus.Rule.Basic

namespace PurchaseStatus

variable {n : Nat}

/-- What does not change while the rules of one run are applied. -/
structure LabelingTask where
  config : ConfigTree
  statusColumn : String
  kind : RecordKind
  date : Option Int
  entity : Option String
  /-- Whether the mask `no_status` is refreshed after every evaluated rule. -/
  refresh : Bool

/-- The state of a run between two rules. -/
structure Labeling (n : Nat) where
  batch : Batch n
  status : Texts n
  /-- The rows that no rule has claimed yet. -/
  unset : Mask n
  masks : Registry
  /-- The rules evaluated so far, with the number of rows that each labelled. -/
  hits : List (String × Nat)

namespace Labeling

/-- The status column is created when it is absent. -/
def start (task : LabelingTask) (batch : Batch n) (masks : Registry) : Labeling n :=
  let batch := batch.ensureText task.statusColumn
  let status := batch.textOrNulls task.statusColumn
  { batch, status, unset := status.unset, masks, hits := [] }

def input (task : LabelingTask) (state : Labeling n) : CheckInput n :=
  { batch := state.batch
    statusColumn := task.statusColumn
    date := task.date
    entity := task.entity
    config := task.config
    masks := state.masks }

/-- Gives the rows of a mask the status and the note of a rule. -/
def label (task : LabelingTask) (state : Labeling n) (rows : Mask n) (status note : String) :
    Labeling n :=
  let labelled := state.status.fill rows status
  let notes := (state.batch.textOrNulls Schema.matchedNote).fill rows note
  { state with
    batch := (state.batch.putText task.statusColumn labelled).putText Schema.matchedNote notes
    status := labelled
    unset := state.unset.andNot rows }

/-- Writes down how many rows a rule labelled and refreshes the mask of unset rows. -/
def record (task : LabelingTask) (state : Labeling n) (id : String) (count : Nat) : Labeling n :=
  { state with
    hits := state.hits ++ [(id, count)]
    masks := if task.refresh then state.masks.register Builtin.noStatus.name state.unset else state.masks }

end Labeling

/-- The masks of the checks that can be evaluated, combined; nothing when there is none. -/
def Rule.mask? (rule : Rule) (input : CheckInput n) : Option (Mask n) :=
  let masks := rule.checks.filterMap (·.evaluate? input)
  match rule.combine with
  | .and => Mask.allOf masks
  | .or => Mask.anyOf masks

namespace Labeling

/-- Applies one rule to the rows that are still unset. A rule that is for other records, has no
status or no check that can be evaluated leaves the state as it is. -/
def apply (task : LabelingTask) (state : Labeling n) (rule : Rule) : Labeling n :=
  match rule.labelFor? task.kind, rule.mask? (state.input task) with
  | some status, some matched =>
    let rows := matched.and state.unset
    let labelled := if 0 < rows.count then state.label task rows status rule.note else state
    labelled.record task rule.id rows.count
  | _, _ => state

def applyAll (task : LabelingTask) (state : Labeling n) (rules : List Rule) : Labeling n :=
  rules.foldl (apply task) state

end Labeling

end PurchaseStatus
