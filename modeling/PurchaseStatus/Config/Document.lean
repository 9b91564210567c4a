import PurchaseStatus.Config.Key
import PurchaseStatus.Config.Tree
import PurchaseStatus.Json.Reader
import PurchaseStatus.Toml.Reader
import PurchaseStatus.Yaml.Reader

namespace PurchaseStatus

/-- The formats in which a configuration may be written. -/
inductive DocumentFormat where
  | toml
  | yaml
  | json
  deriving DecidableEq, Repr

namespace DocumentFormat

def ofExtension? (extension : String) : Option DocumentFormat :=
  [("toml", toml), ("yaml", yaml), ("yml", yaml), ("json", json)].lookup extension

def extensions : List String := ["toml", "json", "yaml", "yml"]

def read? : DocumentFormat → String → Option Json
  | toml => Toml.read?
  | yaml => Yaml.read?
  | json => Json.read?

end DocumentFormat

/-- Why a configuration could not be loaded. -/
inductive LoadError where
  | source
  | file (path : String)
  deriving DecidableEq, Repr

def LoadError.message : LoadError → String
  | source => "Failed to parse configuration"
  | file path => s!"Failed to load configuration from {path}"

namespace Json

/-- A number as a document holds it: an integer has sixty-four bits with a sign, a larger one is a
float, and what is not finite is null. -/
def settledNumber : Json → Json
  | int value => if Decimal.IsInt64 value then int value else float (Float.ofInt value)
  | float value => if value.isFinite then float value else null
  | other => other

mutual

/-- The value with all its numbers as a document holds them. -/
def settled : Json → Json
  | array items => array (settledItems items)
  | object fields => object (settledFields fields)
  | other => other.settledNumber

def settledItems : List Json → List Json
  | [] => []
  | item :: rest => item.settled :: settledItems rest

def settledFields : List (String × Json) → List (String × Json)
  | [] => []
  | (name, value) :: rest => (name, value.settled) :: settledFields rest

end

end Json

namespace ConfigTree

/-- The tree of a document, which must be a table. -/
def ofDocument? : Json → Option ConfigTree
  | .object fields => some ⟨(Json.ofTopFields fields).settled⟩
  | _ => none

def ofSource? (format : DocumentFormat) (source : String) : Option ConfigTree :=
  (format.read? source).bind ofDocument?

/-- Reads a configuration in a given format. -/
def read (format : DocumentFormat) (source : String) : Except LoadError ConfigTree :=
  match ofSource? format source with
  | some tree => .ok tree
  | none => .error .source

/-- What follows the last dot of a file's name; a name that begins with its only dot has no
extension. -/
def extension? (path : String) : Option String :=
  let name := path.toList.reverse.takeWhile (· != '/')
  match name.span (· != '.') with
  | (extension, '.' :: _ :: _) => some (String.ofList extension.reverse)
  | _ => none

/-- The text of a file without a byte order mark. -/
def fileText (contents : String) : String :=
  match contents.toList with
  | '\uFEFF' :: rest => String.ofList rest
  | _ => contents

/-- Reads the configuration in a file, whose extension tells the format. -/
def ofFile (path contents : String) : Except LoadError ConfigTree :=
  match ((extension? path).bind DocumentFormat.ofExtension?).bind
      (ofSource? · (fileText contents)) with
  | some tree => .ok tree
  | none => .error (.file path)

end ConfigTree

end PurchaseStatus
