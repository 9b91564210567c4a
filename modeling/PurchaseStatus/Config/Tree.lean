import PurchaseStatus.Json.Basic
import PurchaseStatus.Text.AsciiCase

namespace PurchaseStatus

/-- The segments of a dotted path; a path without dots is one segment. -/
def pathSegments : List Char → List (List Char)
  | [] => [[]]
  | c :: cs =>
    if c = '.' then [] :: pathSegments cs
    else
      match pathSegments cs with
      | segment :: rest => (c :: segment) :: rest
      | [] => [[c]]

/-- The nested document that holds the rule sections and the vocabulary they refer to. -/
structure ConfigTree where
  root : Json

namespace ConfigTree

def empty : ConfigTree := ⟨.null⟩

def segments (path : String) : List String := (pathSegments path.toList).map String.ofList

/-- The value under a segment: the exact name first, then the first name that differs only in
case. Null counts as missing. -/
def childOf? (fields : List (String × Json)) (segment : String) : Option Json :=
  ((Json.fieldOf? fields segment).filter fun value => !value.isNull).or
    ((fields.find? fun (name, value) => Text.eqIgnoreCase name segment && !value.isNull).map (·.2))

/-- Follows the segments down; only tables can be entered. -/
def walk? : List String → Json → Option Json
  | [], value => some value
  | segment :: rest, .object fields => (childOf? fields segment).bind (walk? rest)
  | _ :: _, _ => none

/-- The paths whose lists, one after the other, make up the value of a composite path. -/
def compositeParts? (path : String) : Option (List String) :=
  if path = "spx.asset_suppliers" then some ["spx.kiosk_suppliers", "spx.locker_suppliers"] else none

def direct? (tree : ConfigTree) (path : String) : Option Json := walk? (segments path) tree.root

/-- A list counts as its items, any other value as one item. -/
def itemsOf : Json → List Json
  | .array items => items
  | value => [value]

/-- The items of all the paths; nothing if one of them is missing. -/
def merged? (tree : ConfigTree) : List String → Option (List Json)
  | [] => some []
  | path :: rest => do
    let value ← tree.direct? path
    let more ← merged? tree rest
    return itemsOf value ++ more

/-- What a reference points to. -/
def resolve? (tree : ConfigTree) (path : String) : Option Json :=
  match compositeParts? path with
  | some parts => (tree.merged? parts).map .array
  | none => tree.direct? path

/-- The text of the scalar that a reference points to. -/
def resolveText? (tree : ConfigTree) (path : String) : Option String :=
  (tree.resolve? path).bind Json.text?

/-- The texts of the scalars in the list that a reference points to. A scalar is a list of one;
a table is none. -/
def resolveList? (tree : ConfigTree) (path : String) : Option (List String) :=
  (tree.resolve? path).bind fun value =>
    match value with
    | .array items => some (items.filterMap Json.text?)
    | scalar => scalar.text?.map ([·])

/-- The entries of a rule section, which stand in its list `conditions`. -/
def conditions? (tree : ConfigTree) (sectionPath : String) : Option (List Json) :=
  match tree.direct? sectionPath with
  | some (.object fields) =>
    match Json.fieldOf? fields "conditions" with
    | some (.array entries) => some entries
    | _ => none
  | _ => none

/-- At the path stands a rule section with these entries: a table with a list of them in its field
`conditions`, the name spelled just so. -/
def Lists (tree : ConfigTree) (sectionPath : String) (entries : List Json) : Prop :=
  ∃ fields, tree.direct? sectionPath = some (.object fields) ∧
    Json.fieldOf? fields "conditions" = some (.array entries)

variable {tree : ConfigTree} {sectionPath : String}

theorem conditions?_eq_some_iff {entries : List Json} :
    tree.conditions? sectionPath = some entries ↔ tree.Lists sectionPath entries := by
  unfold conditions?
  constructor
  · intro h
    split at h
    · rename_i fields hsection
      split at h
      · rename_i found hfound
        cases h
        exact ⟨fields, hsection, hfound⟩
      · cases h
    · cases h
  · rintro ⟨fields, hsection, hfound⟩
    simp only [hsection, hfound]

/-- Without a section, or without a list in it, there are no entries. -/
theorem conditions?_eq_none_iff :
    tree.conditions? sectionPath = none ↔ ∀ entries, ¬tree.Lists sectionPath entries := by
  simp only [← conditions?_eq_some_iff, Option.eq_none_iff_forall_ne_some, ne_eq]

end ConfigTree

end PurchaseStatus
