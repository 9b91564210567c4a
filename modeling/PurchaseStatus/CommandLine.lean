import PurchaseStatus.Config.Document
import PurchaseStatus.Listing

namespace PurchaseStatus

/-- What the command `rules` is asked to list. -/
structure ListingRequest where
  config : String
  sectionPath : String := "erm_status_rules"
  deriving DecidableEq, Repr

namespace ListingRequest

/-- What the options name, so far. Each may be given once. -/
structure Options where
  config : Option String := none
  sectionPath : Option String := none
  logLevel : Option String := none

/-- A value must not look like an option; a dash alone does not. -/
def isValue (text : String) : Bool := !text.startsWith "-" || text == "-"

def set? (options : Options) (name value : String) : Option Options :=
  match name with
  | "--config" | "-c" =>
    if options.config.isSome then none else some { options with config := some value }
  | "--section" | "-s" =>
    if options.sectionPath.isSome then none else some { options with sectionPath := some value }
  | "--log-level" =>
    if options.logLevel.isSome then none else some { options with logLevel := some value }
  | _ => none

/-- Splits `--name=value`. -/
def splitLong? (text : String) : Option (String × String) :=
  match text.toList.span (· != '=') with
  | ('-' :: '-' :: name, '=' :: value) => some ("--" ++ String.ofList name, String.ofList value)
  | _ => none

def options? (options : Options) : List String → Option Options
  | [] => some options
  | text :: rest =>
    match splitLong? text with
    | some (name, value) => (set? options name value).bind (options? · rest)
    | none =>
      match rest with
      | value :: rest => if isValue value then (set? options text value).bind (options? · rest) else none
      | [] => none

/-- Reads the arguments: the command `rules` among options, with a configuration file. -/
def ofArguments? (arguments : List String) : Option ListingRequest :=
  match arguments.span (· != "rules") with
  | (global, _ :: rest) => do
    let options ← options? {} (global ++ rest)
    let config ← options.config
    let request : ListingRequest := { config }
    return { request with sectionPath := options.sectionPath.getD request.sectionPath }
  | (_, []) => none

end ListingRequest

/-- What a run of the command line ends with. -/
structure CommandOutcome where
  exitCode : Nat
  output : List String := []
  error : List String := []

namespace CommandOutcome

def usage : CommandOutcome :=
  ⟨2, [], ["Usage: purchase-status [--log-level LEVEL] rules --config FILE [--section SECTION]"]⟩

/-- Lists a section of the configuration in a file that was found, with its path and its contents, or
says that there is no configuration. -/
def ofRequest (request : ListingRequest) (found : Option (String × String)) : CommandOutcome :=
  match found.bind fun (path, contents) => (ConfigTree.ofFile path contents).toOption with
  | some tree => ⟨0, tree.listing request.sectionPath, []⟩
  | none => ⟨1, [], [s!"Error: {(LoadError.file request.config).message}"]⟩

end CommandOutcome

end PurchaseStatus
