import PurchaseStatus.Config.Tree
import PurchaseStatus.Decimal.Reading
import PurchaseStatus.RecordKind

namespace PurchaseStatus

/-- How the masks of several checks are combined. -/
inductive Combine where
  | and
  | or
  deriving DecidableEq, Repr

/-- What the two sides of an `equals` comparison are read as. -/
inductive Cast where
  | int
  | float
  | text
  deriving DecidableEq, Repr

/-- A check as it is written in a configuration. -/
structure CheckConfig where
  type : String
  field : Option String := none
  pattern : Option String := none
  patternKey : Option String := none
  value : Option Json := none
  valueKey : Option String := none
  values : Option (List Json) := none
  listKey : Option String := none
  cast : Option Cast := none

/-- A rule as it is written in a configuration. -/
structure RuleConfig where
  priority : Int := 999
  statusValue : Option String := none
  statusValueKey : Option String := none
  note : String := ""
  combine : Combine := .and
  applyTo : Option (List RecordKind) := none
  checks : List CheckConfig := []

/-- Why an entry of a section is no rule. -/
inductive DecodeError where
  | unknownKind (unknown : RecordKind.Unknown)
  | malformed
  deriving DecidableEq, Repr

namespace Decode

/-- What is read, or why it cannot be. -/
abbrev Result := Except DecodeError

def string : Json → Result String
  | .string value => .ok value
  | _ => .error .malformed

/-- An integer of sixty-four bits; floats and texts are refused. -/
def integer : Json → Result Int
  | .int value => if Decimal.IsInt64 value then .ok value else .error .malformed
  | _ => .error .malformed

def list (item : Json → Result α) : Json → Result (List α)
  | .array items => items.mapM item
  | _ => .error .malformed

/-- A missing value and null are none. -/
def optional (item : Json → Result α) : Option Json → Result (Option α)
  | none | some .null => .ok none
  | some value => (item value).map some

/-- A missing value has a default; null has not. -/
def withDefault (default : α) (item : Json → Result α) : Option Json → Result α
  | none => .ok default
  | some value => item value

def required (item : Json → Result α) : Option Json → Result α
  | none => .error .malformed
  | some value => item value

/-- One of several names, as a text or as a table of that one name with nothing in it. -/
def choice (names : List (String × α)) : Json → Result α
  | .string name | .object [(name, .null)] =>
    match names.lookup name with
    | some a => .ok a
    | none => .error .malformed
  | _ => .error .malformed

def combine : Json → Result Combine :=
  choice [("and", .and), ("AND", .and), ("And", .and), ("or", .or), ("OR", .or), ("Or", .or)]

def cast : Json → Result Cast :=
  choice [("int", .int), ("int64", .int), ("Int64", .int), ("float", .float), ("float64", .float),
    ("Float64", .float), ("str", .text), ("string", .text)]

def recordKind (value : Json) : Result RecordKind := do
  let text ← string value
  match RecordKind.read text with
  | .ok kind => return kind
  | .error unknown => throw (.unknownKind unknown)

/-- The fields of a record: by name from a table, or by position from a list, in which the last
ones may be missing. -/
structure Fields where
  get? : String → Option Json
  byName : Bool
  /-- Whether a list holds more items than there are fields. -/
  overlong : Bool

def fields (order : List String) : Json → Result Fields
  | .object fields => .ok ⟨Json.fieldOf? fields, true, false⟩
  | .array items =>
    .ok ⟨fun name => (order.zip items).lookup name, false, order.length < items.length⟩
  | _ => .error .malformed

end Decode

/-- Unknown fields are ignored. -/
def CheckConfig.ofJson (json : Json) : Decode.Result CheckConfig := do
  let fields ← Decode.fields ["type", "field", "pattern", "pattern_key", "value", "value_key", "values",
    "list_key", "cast"] json
  let check : CheckConfig :=
    { type := ← Decode.required Decode.string (fields.get? "type")
      field := ← Decode.optional Decode.string (fields.get? "field")
      pattern := ← Decode.optional Decode.string (fields.get? "pattern")
      patternKey := ← Decode.optional Decode.string (fields.get? "pattern_key")
      value := ← Decode.optional .ok (fields.get? "value")
      valueKey := ← Decode.optional Decode.string (fields.get? "value_key")
      values := ← Decode.optional (Decode.list .ok) (fields.get? "values")
      listKey := ← Decode.optional Decode.string (fields.get? "list_key")
      cast := ← Decode.optional Decode.cast (fields.get? "cast") }
  if fields.overlong then throw .malformed
  return check

/-- Unknown fields are ignored. The fields of a table are read in the order of their names, so
the record kinds come first; an unknown kind is the one fault that is reported apart. -/
def RuleConfig.ofJson (json : Json) : Decode.Result RuleConfig := do
  let fields ← Decode.fields ["priority", "status_value", "status_value_key", "note", "combine",
    "apply_to", "checks"] json
  let kinds := Decode.optional (Decode.list Decode.recordKind) (fields.get? "apply_to")
  if fields.byName then discard kinds
  let rule : RuleConfig :=
    { priority := ← Decode.withDefault 999 Decode.integer (fields.get? "priority")
      statusValue := ← Decode.optional Decode.string (fields.get? "status_value")
      statusValueKey := ← Decode.optional Decode.string (fields.get? "status_value_key")
      note := ← Decode.withDefault "" Decode.string (fields.get? "note")
      combine := ← Decode.withDefault .and Decode.combine (fields.get? "combine")
      applyTo := ← kinds
      checks := ← Decode.withDefault [] (Decode.list CheckConfig.ofJson) (fields.get? "checks") }
  if fields.overlong then throw .malformed
  return rule

namespace Encode

def optional (item : α → Json) : Option α → Json
  | none => .null
  | some a => item a

def combine : Combine → Json
  | .and => .string "and"
  | .or => .string "or"

def cast : Cast → Json
  | .int => .string "int"
  | .float => .string "float"
  | .text => .string "str"

def recordKind (kind : RecordKind) : Json := .string kind.code

end Encode

/-- Every field is written. -/
def CheckConfig.toJson (check : CheckConfig) : Json :=
  .ofFields [
    ("type", .string check.type),
    ("field", Encode.optional .string check.field),
    ("pattern", Encode.optional .string check.pattern),
    ("pattern_key", Encode.optional .string check.patternKey),
    ("value", Encode.optional id check.value),
    ("value_key", Encode.optional .string check.valueKey),
    ("values", Encode.optional .array check.values),
    ("list_key", Encode.optional .string check.listKey),
    ("cast", Encode.optional Encode.cast check.cast)]

/-- Every field is written. -/
def RuleConfig.toJson (rule : RuleConfig) : Json :=
  .ofFields [
    ("priority", .int rule.priority),
    ("status_value", Encode.optional .string rule.statusValue),
    ("status_value_key", Encode.optional .string rule.statusValueKey),
    ("note", .string rule.note),
    ("combine", Encode.combine rule.combine),
    ("apply_to", Encode.optional (fun kinds => .array (kinds.map Encode.recordKind)) rule.applyTo),
    ("checks", .array (rule.checks.map (·.toJson)))]

namespace ConfigTree

/-- The rules of a section; entries that are no rules are left out. -/
def ruleSection (tree : ConfigTree) (sectionPath : String) : List RuleConfig :=
  ((tree.conditions? sectionPath).getD []).filterMap fun entry => (RuleConfig.ofJson entry).toOption

end ConfigTree

end PurchaseStatus
