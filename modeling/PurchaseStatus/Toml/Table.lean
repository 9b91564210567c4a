import PurchaseStatus.Json.Basic

namespace PurchaseStatus.Toml

/-- How a table came about: under a header of its own, above such a header, or by a dotted key. -/
inductive Origin where
  | header
  | aboveHeader
  | dottedKey
  deriving DecidableEq, Repr

/-- What stands under a key. -/
inductive Entry where
  | value (value : Json)
  | table (origin : Origin) (entries : List (String × Entry))
  /-- The tables of one header in double brackets; the latest stands in front. -/
  | tables (latest : List (String × Entry)) (earlier : List (List (String × Entry)))

abbrev Entries := List (String × Entry)

/-- A value and the dotted key that it has in its table. -/
structure Pair where
  key : List String
  value : Json

/-- A header with the pairs below it. -/
structure Block where
  /-- Whether the header stands in double brackets. -/
  repeated : Bool
  path : List String
  pairs : List Pair

namespace Entries

def get? (entries : Entries) (key : String) : Option Entry := entries.lookup key

def put (entries : Entries) (key : String) (entry : Entry) : Entries :=
  (key, entry) :: entries.filter (·.1 != key)

/-- Writes a value under a dotted key. A table that a header has defined is not entered, and only
one that a dotted key has made takes values behind dots. `direct` tells whether this table takes a
value at once. -/
def assign? (value : Json) : Bool → List String → Entries → Option Entries
  | _, [], _ => none
  | direct, [key], entries =>
    if direct && (entries.get? key).isNone then some (entries.put key (.value value)) else none
  | _, key :: next :: rest, entries =>
    match entries.get? key with
    | none => (assign? value true (next :: rest) []).map fun inner =>
        entries.put key (.table .dottedKey inner)
    | some (.value _) | some (.table .header _) => none
    | some (.table origin inner) =>
      (assign? value (origin == .dottedKey) (next :: rest) inner).map fun inner =>
        entries.put key (.table origin inner)
    | some (.tables latest earlier) => (assign? value false (next :: rest) latest).map fun latest =>
        entries.put key (.tables latest earlier)

/-- Writes the pairs below one header, each key once. -/
def assignAll? (entries : Entries) (pairs : List Pair) : Option Entries :=
  pairs.foldlM (fun entries pair => entries.assign? pair.value true pair.key) entries

/-- Opens the table of a header and writes the pairs below it. No table has two headers. -/
def openTable? (pairs : List Pair) (key : String) (parent : Entries) : Option Entries :=
  match parent.get? key with
  | none => (assignAll? [] pairs).map fun entries => parent.put key (.table .header entries)
  | some (.table .aboveHeader inner) =>
    (assignAll? inner pairs).map fun entries => parent.put key (.table .header entries)
  | some _ => none

/-- Adds a table to those of a header in double brackets. -/
def addTable? (pairs : List Pair) (key : String) (parent : Entries) : Option Entries :=
  match parent.get? key with
  | none => (assignAll? [] pairs).map fun entries => parent.put key (.tables entries [])
  | some (.tables latest earlier) =>
    (assignAll? [] pairs).map fun entries => parent.put key (.tables entries (latest :: earlier))
  | some _ => none

/-- Follows the path of a header down to its last key. Tables that are missing are made, and of
repeated tables the latest is entered. -/
def descend? (finish : String → Entries → Option Entries) : List String → Entries → Option Entries
  | [], _ => none
  | [key], entries => finish key entries
  | key :: next :: rest, entries =>
    match entries.get? key with
    | none => (descend? finish (next :: rest) []).map fun inner =>
        entries.put key (.table .aboveHeader inner)
    | some (.table origin inner) => (descend? finish (next :: rest) inner).map fun inner =>
        entries.put key (.table origin inner)
    | some (.tables latest earlier) => (descend? finish (next :: rest) latest).map fun latest =>
        entries.put key (.tables latest earlier)
    | some (.value _) => none

def addBlock? (entries : Entries) (block : Block) : Option Entries :=
  if block.repeated then descend? (addTable? block.pairs) block.path entries
  else descend? (openTable? block.pairs) block.path entries

end Entries

mutual

def Entry.toJson : Entry → Json
  | .value value => value
  | .table _ entries => .ofFields (fieldsOfEntries entries)
  | .tables latest earlier =>
    .array ((Json.ofFields (fieldsOfEntries latest) :: tablesOfEntries earlier).reverse)

def fieldsOfEntries : List (String × Entry) → List (String × Json)
  | [] => []
  | (key, entry) :: rest => (key, entry.toJson) :: fieldsOfEntries rest

def tablesOfEntries : List (List (String × Entry)) → List Json
  | [] => []
  | entries :: rest => .ofFields (fieldsOfEntries entries) :: tablesOfEntries rest

end

def Entries.toJson (entries : Entries) : Json := .ofFields (fieldsOfEntries entries)

/-- The table of pairs between braces. -/
def tableOfPairs? (pairs : List Pair) : Option Json :=
  (Entries.assignAll? [] pairs).map Entries.toJson

/-- The document of the pairs above all headers and of the blocks below them. -/
def documentOf? (top : List Pair) (blocks : List Block) : Option Json := do
  let entries ← Entries.assignAll? [] top
  return (← blocks.foldlM Entries.addBlock? entries).toJson

end PurchaseStatus.Toml
