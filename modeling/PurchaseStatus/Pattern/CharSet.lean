import PurchaseStatus.Text.Space
import PurchaseStatus.Unicode.CaseFold
import PurchaseStatus.Unicode.Category
import PurchaseStatus.Unicode.DecimalDigit
import PurchaseStatus.Unicode.Property
import PurchaseStatus.Unicode.Script

namespace PurchaseStatus.Pattern

/-- A set of characters that has a name. -/
inductive NamedSet where
  | any
  | ascii
  | assigned
  | decimalDigit
  | space
  | word
  | category (letters : String)
  | script (letters : String)
  | property (name : String)
  deriving DecidableEq, Repr

namespace NamedSet

def contains : NamedSet → Char → Bool
  | any, _ => true
  | ascii, c => c.toNat < 128
  | assigned, c => Unicode.category c != "Cn"
  | decimalDigit, c => Unicode.isDecimalDigit c
  | space, c => Text.isSpace c
  | word, c => Unicode.isWord c
  | category letters, c => Unicode.inCategory letters c
  | script letters, c => Unicode.script c == letters
  | property name, c =>
    match Unicode.propertyNames.lookup name with
    | some ranges => ranges.contains c.toNat
    | none => false

/-- Names are compared without separators, case and a leading `is`; what is not ASCII is
dropped. -/
def normalize (name : String) : String :=
  let cs := name.toList
  let (stripped, rest) := match cs with
    | i :: s :: rest => if i.toLower = 'i' ∧ s.toLower = 's' then (true, rest) else (false, cs)
    | _ => (false, cs)
  let kept := rest.filter fun c => c.toNat < 128 && c != ' ' && c != '_' && c != '-'
  let kept := kept.map Char.toLower
  if stripped ∧ kept = ['c'] then "isc" else String.ofList kept

def category? (name : String) : Option NamedSet :=
  match name with
  | "any" => some any
  | "ascii" => some ascii
  | "assigned" => some assigned
  | _ => (Unicode.categoryNames.lookup name).map category

def script? (name : String) : Option NamedSet := (Unicode.scriptNames.lookup name).map script

def property? (name : String) : Option NamedSet :=
  if name = "whitespace" ∨ name = "wspace" ∨ name = "space" then some space
  else if (Unicode.propertyNames.lookup name).isSome then some (property name)
  else none

/-- A property, a general category or a script. Three names that belong to a property of values
as well always mean the category. -/
def ofName? (name : String) : Option NamedSet :=
  let name := normalize name
  let first := if name = "cf" ∨ name = "sc" ∨ name = "lc" then none else property? name
  first.or ((category? name).or (script? name))

/-- The value of a property that takes one. Script extensions are read as scripts. -/
def ofValue? (property value : String) : Option NamedSet :=
  match normalize property with
  | "gc" | "generalcategory" => category? (normalize value)
  | "sc" | "script" | "scx" | "scriptextensions" => script? (normalize value)
  | _ => none

end NamedSet

/-- A set of characters as it is put together in a pattern. -/
inductive CharSet where
  | empty
  | range (first last : Char)
  | named (set : NamedSet)
  | union (a b : CharSet)
  | inter (a b : CharSet)
  | difference (a b : CharSet)
  | symmetricDifference (a b : CharSet)
  | complement (a : CharSet)
  /-- Every character that differs from a member in case only. -/
  | folded (a : CharSet)
  /-- The same for the letters of ASCII alone. -/
  | asciiFolded (a : CharSet)
  deriving DecidableEq, Repr

namespace CharSet

def contains : CharSet → Char → Bool
  | empty, _ => false
  | range first last, c => first ≤ c && c ≤ last
  | named set, c => set.contains c
  | union a b, c => a.contains c || b.contains c
  | inter a b, c => a.contains c && b.contains c
  | difference a b, c => a.contains c && !b.contains c
  | symmetricDifference a b, c => a.contains c != b.contains c
  | complement a, c => !a.contains c
  | folded a, c => (Unicode.caseVariants c).any a.contains
  | asciiFolded a, c => a.contains c || a.contains c.toLower || a.contains c.toUpper

def single (c : Char) : CharSet := .range c c

def ofRanges (ranges : List (Char × Char)) : CharSet :=
  ranges.foldl (fun set (first, last) => .union set (.range first last)) .empty

/-- The sets that have a name between `[:` and `:]`. -/
def asciiClasses : List (String × List (Char × Char)) := [
  ("alnum", [('0', '9'), ('A', 'Z'), ('a', 'z')]),
  ("alpha", [('A', 'Z'), ('a', 'z')]),
  ("ascii", [('\x00', '\x7f')]),
  ("blank", [('\t', '\t'), (' ', ' ')]),
  ("cntrl", [('\x00', '\x1f'), ('\x7f', '\x7f')]),
  ("digit", [('0', '9')]),
  ("graph", [('!', '~')]),
  ("lower", [('a', 'z')]),
  ("print", [(' ', '~')]),
  ("punct", [('!', '/'), (':', '@'), ('[', '\x60'), ('\x7b', '~')]),
  ("space", [('\t', '\r'), (' ', ' ')]),
  ("upper", [('A', 'Z')]),
  ("word", [('0', '9'), ('A', 'Z'), ('_', '_'), ('a', 'z')]),
  ("xdigit", [('0', '9'), ('A', 'F'), ('a', 'f')])]

def asciiClass? (name : String) : Option CharSet := (asciiClasses.lookup name).map ofRanges

end CharSet

end PurchaseStatus.Pattern
