namespace PurchaseStatus

/-- The checks that are computed from fixed columns. -/
inductive Builtin where
  | noStatus
  | ermLeDate
  | ermGtDate
  | ermInRange
  | outOfRange
  | descErmLeDate
  | descErmGtDate
  | descErmNotError
  | formatError
  | qtyMatched
  | qtyNotMatched
  | notBilled
  | hasBilling
  | fullyBilled
  | hasUnpaid
  | remarkCompleted
  | prNotIncomplete
  | notError
  | isFa
  | notFa
  deriving DecidableEq, Repr

namespace Builtin

def all : List Builtin := [
  noStatus, ermLeDate, ermGtDate, ermInRange, outOfRange, descErmLeDate, descErmGtDate,
  descErmNotError, formatError, qtyMatched, qtyNotMatched, notBilled, hasBilling, fullyBilled,
  hasUnpaid, remarkCompleted, prNotIncomplete, notError, isFa, notFa]

/-- The type under which a configuration asks for the check, and under which a mask may be
registered for it. -/
def name : Builtin → String
  | noStatus => "no_status"
  | ermLeDate => "erm_le_date"
  | ermGtDate => "erm_gt_date"
  | ermInRange => "erm_in_range"
  | outOfRange => "out_of_range"
  | descErmLeDate => "desc_erm_le_date"
  | descErmGtDate => "desc_erm_gt_date"
  | descErmNotError => "desc_erm_not_error"
  | formatError => "format_error"
  | qtyMatched => "qty_matched"
  | qtyNotMatched => "qty_not_matched"
  | notBilled => "not_billed"
  | hasBilling => "has_billing"
  | fullyBilled => "fully_billed"
  | hasUnpaid => "has_unpaid"
  | remarkCompleted => "remark_completed"
  | prNotIncomplete => "pr_not_incomplete"
  | notError => "not_error"
  | isFa => "is_fa"
  | notFa => "not_fa"

def ofName? (text : String) : Option Builtin := all.find? (·.name == text)

@[simp] theorem ofName?_name (b : Builtin) : ofName? b.name = some b := by
  cases b <;> rfl

theorem name_of_ofName? {text : String} {b : Builtin} (h : ofName? text = some b) : b.name = text := by
  simpa using List.find?_some h

end Builtin

end PurchaseStatus
