import PurchaseStatus.Batch
import PurchaseStatus.RecordKind
import PurchaseStatus.Schema
import PurchaseStatus.Step.Basic

namespace PurchaseStatus

/-- The ids on a closing list: those that finance has yet to close, and those it has closed. -/
structure ClosingList where
  toBeClosed : List String
  closed : List String
  deriving DecidableEq, Repr

namespace ClosingList

/-- The column that holds the ids. -/
def keyColumn : RecordKind → String
  | .order => Schema.closingOrder
  | .request => Schema.closingRequest

def requiredColumns (kind : RecordKind) : List String :=
  [Schema.closingRequest, Schema.closingDone, keyColumn kind]

def missingColumns (columns : List String) : Failure :=
  ⟨"Closing list is missing columns: " ++ ", ".intercalate columns, []⟩

/-- A row of the list. -/
structure Entry where
  request : Option String
  done : Option String
  key : Option String

/-- The id of an entry. One without a request number does not count. -/
def Entry.id? (entry : Entry) : Option String :=
  if entry.request.all (· == "") then none else entry.key

def entries {n : Nat} (list : Batch n) (kind : RecordKind) : List Entry :=
  let requests := list.textOrNulls Schema.closingRequest
  let done := list.textOrNulls Schema.closingDone
  let keys := list.textOrNulls (keyColumn kind)
  ((requests.zipWith Prod.mk done).zipWith (fun (request, done) key => ⟨request, done, key⟩)
    keys).toList

def ofEntries (entries : List Entry) : ClosingList :=
  { toBeClosed := (entries.filter (·.done.isNone)).filterMap Entry.id?
    closed := (entries.filter (·.done.isSome)).filterMap Entry.id? }

/-- Reads a closing list for records of a kind. -/
def read {n : Nat} (list : Batch n) (kind : RecordKind) : Except Failure ClosingList :=
  match list.missing (requiredColumns kind) with
  | [] => .ok (ofEntries (entries list kind))
  | missing => .error (missingColumns missing)

/-- The rows whose id is among the given ones. -/
def rowsIn {n : Nat} (batch : Batch n) (kind : RecordKind) (ids : List String) : Mask n :=
  (batch.textOrNulls kind.idColumn).rowsWhere false ids.contains

end ClosingList

end PurchaseStatus
