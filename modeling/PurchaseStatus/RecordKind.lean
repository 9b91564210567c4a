import PurchaseStatus.Text.AsciiCase
import PurchaseStatus.Text.Space

namespace PurchaseStatus

/-- The two kinds of purchase records: orders and requests. -/
inductive RecordKind where
  | order
  | request
  deriving DecidableEq, Repr

namespace RecordKind

def code : RecordKind → String
  | order => "PO"
  | request => "PR"

def statusColumn : RecordKind → String
  | order => "PO狀態"
  | request => "PR狀態"

def idColumn : RecordKind → String
  | order => "PO#"
  | request => "PR#"

/-- A text that names no kind, trimmed and in upper case. -/
structure Unknown where
  text : String
  deriving DecidableEq, Repr

def Unknown.message (unknown : Unknown) : String :=
  s!"unknown record kind '{unknown.text}', expected PO or PR"

/-- Blanks around the code and its case do not count. -/
def read (text : String) : Except Unknown RecordKind :=
  match Text.asciiUpper (Text.trim text) with
  | "PO" => .ok order
  | "PR" => .ok request
  | other => .error ⟨other⟩

end RecordKind

end PurchaseStatus
