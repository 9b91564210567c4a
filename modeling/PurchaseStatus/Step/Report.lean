import PurchaseStatus.Batch
import PurchaseStatus.Engine.Basic
import PurchaseStatus.Json.Basic

namespace PurchaseStatus

variable {n : Nat}

/-- The number of rows of each value that is not blank. -/
def Texts.counts (texts : Texts n) : Named Nat :=
  (texts.toList.filterMap fun value => if isBlank value then none else value).foldl
    (fun counts value => counts.update value fun old => old.getD 0 + 1) ∅

/-- The number of rows of each status. -/
def Batch.statusCounts (batch : Batch n) (column : String) : Named Nat :=
  (batch.textOrNulls column).counts

/-- Counts under names, as they stand in the metadata of a result. -/
def Json.ofCounts (counts : Named Nat) : Json :=
  .ofFields (counts.entries.map fun (name, count) => (name, .int count))

end PurchaseStatus
