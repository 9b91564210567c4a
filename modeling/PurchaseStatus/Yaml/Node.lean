import PurchaseStatus.Decimal.Reading
import PurchaseStatus.Json.Basic

namespace PurchaseStatus.Yaml

/-- What was written, before plain texts are read as values and aliases are replaced. -/
inductive Node where
  /-- Nothing stands where a value could. -/
  | missing
  | plain (text : String)
  /-- A text in quotes or in a block; it stands for itself. -/
  | text (text : String)
  | alias (name : String)
  | sequence (items : List Node)
  | mapping (entries : List (Node × Node))
  | anchored (name : String) (node : Node)
  | tagged (tag : String) (node : Node)

/-- The digits of a number in another base behind its mark, with a sign if there is one. -/
def based? (base : Nat) (cs : List Char) : Option Int := do
  let (negative, digits) := Decimal.splitSign cs
  let values ← digits.mapM fun c =>
    (if c.isDigit then some (c.toNat - '0'.toNat)
     else if 'a' ≤ c.toLower ∧ c.toLower ≤ 'f' then some (c.toLower.toNat - 'a'.toNat + 10)
     else none).filter (· < base)
  if values.isEmpty then none
  let size : Nat := values.foldl (fun n digit => base * n + digit) 0
  let value : Int := if negative then -size else size
  if Decimal.IsInt64 value then return value else none

/-- An integer: in base ten, or behind `0x` or `0o` in base sixteen or eight. One more plus sign may
stand in front of any decimal. -/
def integer? (text : String) : Option Int :=
  let base := match text.toList with
    | '0' :: 'x' :: cs => based? 16 cs
    | '0' :: 'o' :: cs => based? 8 cs
    | '+' :: cs => Decimal.integer? (String.ofList cs)
    | _ => none
  base.or (Decimal.integer? text)

/-- The spellings of infinity and of no number that have a point or a case of their own. -/
def specialFloats : List String := [
  ".inf", ".Inf", ".INF", "+.inf", "+.Inf", "+.INF", "-.inf", "-.Inf", "-.INF", ".nan", ".NAN"]

/-- The value of a plain text. The special floats are numbers that have no value here. -/
def ofPlain? (text : String) : Option Json :=
  match integer? text with
  | some value => some (.int value)
  | none =>
    if text = "~" ∨ text = "null" then some .null
    else if text = "true" then some (.bool true)
    else if text = "false" then some (.bool false)
    else if text ∈ specialFloats then none
    else
      match Decimal.float? text with
      | some value => some (.float value)
      | none => some (.string text)

/-- The value of a plain text with a tag. A text that the tag does not fit is null. -/
def ofTagged? (tag text : String) : Option Json :=
  match tag with
  | "!!bool" =>
    some (if text = "true" then .bool true else if text = "false" then .bool false else .null)
  | "!!int" => some ((Decimal.integer? text).elim .null .int)
  | "!!float" =>
    if text ∈ specialFloats then none else some ((Decimal.float? text).elim .null .float)
  | "!!null" => some .null
  | _ => some (.string text)

/-- A key is a text or an integer. -/
def keyText? : Json → Option String
  | .string text => some text
  | .int value => some (toString value)
  | _ => none

/-- The values of the anchors so far. -/
abbrev Anchors := List (String × Json)

mutual

/-- The value of a node, and the anchors with those in it. An alias stands for the latest anchor of
its name. -/
def Node.value? (anchors : Anchors) : Node → Option (Json × Anchors)
  | .missing => some (.null, anchors)
  | .plain text => (ofPlain? text).map (·, anchors)
  | .text text => some (.string text, anchors)
  | .alias name => (anchors.lookup name).map (·, anchors)
  | .sequence items => (items? anchors items).map fun (items, anchors) => (.array items, anchors)
  | .mapping entries =>
    (entries? anchors entries).map fun (fields, anchors) => (.ofFields fields, anchors)
  | .anchored name .missing => some (.string "", (name, .string "") :: anchors)
  | .anchored name node => (node.value? anchors).map fun (value, anchors) =>
      (value, (name, value) :: anchors)
  | .tagged tag .missing => (ofTagged? tag "").map (·, anchors)
  | .tagged tag (.plain text) => (ofTagged? tag text).map (·, anchors)
  | .tagged _ node => node.value? anchors

def items? (anchors : Anchors) : List Node → Option (List Json × Anchors)
  | [] => some ([], anchors)
  | node :: rest => do
    let (value, anchors) ← node.value? anchors
    let (values, anchors) ← items? anchors rest
    return (value :: values, anchors)

def entries? (anchors : Anchors) : List (Node × Node) → Option (List (String × Json) × Anchors)
  | [] => some ([], anchors)
  | (key, node) :: rest => do
    let (key, anchors) ← key.value? anchors
    let name ← keyText? key
    let (value, anchors) ← node.value? anchors
    let (fields, anchors) ← entries? anchors rest
    return ((name, value) :: fields, anchors)

end

end PurchaseStatus.Yaml
