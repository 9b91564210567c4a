import PurchaseStatus.Decimal.Style

namespace PurchaseStatus

/-- A value of a configuration document. Fields stand in the order of their names, each name
once; integers have sixty-four bits, with or without a sign. -/
inductive Json where
  | null
  | bool (value : Bool)
  | int (value : Int)
  | float (value : Float)
  | string (value : String)
  | array (items : List Json)
  | object (fields : List (String × Json))

namespace Json

/-- Numbers of a configuration are written with a sign on every exponent. -/
def numberStyle : Decimal.Style := ⟨-5, 15, true, "null", "null"⟩

/-- Adds a field at its place, or replaces the one of that name. -/
def insertField (name : String) (value : Json) : List (String × Json) → List (String × Json)
  | [] => [(name, value)]
  | (other, old) :: rest =>
    if name = other then (name, value) :: rest
    else if name < other then (name, value) :: (other, old) :: rest
    else (other, old) :: insertField name value rest

/-- The object of the given fields; the last of a name counts. -/
def ofFields (fields : List (String × Json)) : Json :=
  .object (fields.foldl (fun sorted (name, value) => insertField name value sorted) [])

def fieldOf? (fields : List (String × Json)) (name : String) : Option Json :=
  (fields.find? fun field => field.1 == name).map (·.2)

/-- The field of an object; nothing for any other value. -/
def field? : Json → String → Option Json
  | .object fields, name => fieldOf? fields name
  | _, _ => none

def isNull : Json → Bool
  | .null => true
  | _ => false

/-- The text of a scalar, as it stands in a cell. Null, lists and tables have none. -/
def text? : Json → Option String
  | .string value => some value
  | .int value => some (toString value)
  | .float value => some (numberStyle.render value)
  | .bool value => some (if value then "true" else "false")
  | .null | .array _ | .object _ => none

end Json

end PurchaseStatus
