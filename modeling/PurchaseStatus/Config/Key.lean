import PurchaseStatus.Decimal.Reading
import PurchaseStatus.Json.Basic
import PurchaseStatus.Unicode.LowerCase

namespace PurchaseStatus

/-- A step into a document: to a field of a table or to an item of a list. -/
inductive KeyStep where
  | field (name : String)
  /-- A negative index counts from the end. -/
  | item (index : Int)
  deriving DecidableEq, Repr

/-- The way into a document that a top-level key describes. -/
structure KeyPath where
  first : String
  rest : List KeyStep
  deriving DecidableEq, Repr

namespace KeyPath

def isNameChar (c : Char) : Bool := c.isAlphanum || c == ' ' || c == '_' || c == '-'

def isBlankChar (c : Char) : Bool := c == ' ' || c == '\t'

/-- An index, with blanks around it, up to the closing bracket. -/
def index? (cs : List Char) : Option (Int × List Char) :=
  let (negative, unsigned) := match cs.dropWhile isBlankChar with
    | '-' :: rest => (true, rest)
    | rest => (false, rest)
  let (digits, rest) := Decimal.spanDigits unsigned
  let size : Int := Decimal.ofDigits digits
  let index := if negative then -size else size
  match rest.dropWhile isBlankChar with
  | ']' :: rest =>
    if digits.isEmpty || !decide (Decimal.IsInt64 index) then none else some (index, rest)
  | _ => none

/-- The steps `.name` and `[index]` up to the end of the key. -/
def steps? : Nat → List Char → Option (List KeyStep)
  | _, [] => some []
  | 0, _ => none
  | fuel + 1, '.' :: cs =>
    match cs.span isNameChar with
    | ([], _) => none
    | (name, rest) => (steps? fuel rest).map (.field (String.ofList name) :: ·)
  | fuel + 1, '[' :: cs => do
    let (index, rest) ← index? cs
    return .item index :: (← steps? fuel rest)
  | _, _ => none

/-- Reads names and indices; a key of any other form is no path. -/
def read? (key : String) : Option KeyPath :=
  match key.toList.span isNameChar with
  | ([], _) => none
  | (name, rest) => (steps? rest.length rest).map (⟨String.ofList name, ·⟩)

end KeyPath

namespace Json

/-- The fields of a table. What is no table is taken for an empty one. -/
def fieldsOf : Json → List (String × Json)
  | object fields => fields
  | _ => []

/-- The items of a list. What is no list is taken for an empty one. -/
def itemsOf : Json → List Json
  | array items => items
  | _ => []

/-- Puts a value in the place of the item at an index, which is made where it is missing. -/
def modifyItem (index : Int) (f : Json → Json) (value : Json) : Json :=
  let items := value.itemsOf
  let position := if 0 ≤ index then index.toNat else (items.length + index).toNat
  let padded := items ++ List.replicate (position + 1 - items.length) null
  array (padded.modify position f)

mutual

/-- Enters a field into a table under its name in lower case. A table is entered field by field
into the one that stands there; anything else replaces what stands there. -/
def enterField (name : String) (table : Json) : Json → Json
  | object fields =>
    let key := Unicode.lower name
    let target := (fieldOf? table.fieldsOf key).getD (object [])
    object (insertField key (enterFields target fields) table.fieldsOf)
  | value => object (insertField (Unicode.lower name) value table.fieldsOf)

def enterFields (table : Json) : List (String × Json) → Json
  | [] => table
  | (name, value) :: rest => enterFields (enterField name table value) rest

end

/-- Enters a value behind the steps. -/
def enterAt (value : Json) : KeyStep → List KeyStep → Json → Json
  | .field name, [], root => enterField name root value
  | .item index, [], root => modifyItem index (fun _ => value) root
  | .field name, next :: rest, root =>
    let key := Unicode.lower name
    let target := (fieldOf? root.fieldsOf key).getD null
    object (insertField key (enterAt value next rest target) root.fieldsOf)
  | .item index, next :: rest, root => modifyItem index (enterAt value next rest) root

/-- Enters a top-level field, behind the path that its key describes if it does. -/
def enterTop (root : Json) (field : String × Json) : Json :=
  match KeyPath.read? field.1 with
  | some path => enterAt field.2 (.field path.first) path.rest root
  | none => enterField field.1 root field.2

/-- The document of the given top-level fields, its names in lower case. Tables inside of lists
keep their names. -/
def ofTopFields (fields : List (String × Json)) : Json := fields.foldl enterTop (object [])

end Json

end PurchaseStatus
