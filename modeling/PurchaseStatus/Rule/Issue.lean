import PurchaseStatus.Rule.Basic

namespace PurchaseStatus

/-- What is wrong with a rule section or with one of its entries. -/
inductive IssueCause where
  | missingSection
  | malformedRule (error : DecodeError)
  | unresolvedStatus (key : String)
  | noStatus
  | noChecks
  | notBuiltIn (type : String)
  | noField (type : String)
  | invalidPattern (pattern : String)
  | unresolvedReference (key : String)
  deriving DecidableEq, Repr

def IssueCause.message : IssueCause → String
  | missingSection => "section or its conditions list is missing"
  | malformedRule (.unknownKind unknown) => s!"malformed rule: {unknown.message}"
  | malformedRule .malformed => "malformed rule"
  | unresolvedStatus key => s!"status_value_key '{key}' does not resolve"
  | noStatus => "rule has neither status_value nor status_value_key"
  | noChecks => "rule has no checks"
  | notBuiltIn type =>
    s!"check type '{type}' is not built in and only matches through a prebuilt mask"
  | noField type => s!"check '{type}' needs a field"
  | invalidPattern pattern => s!"invalid pattern '{pattern}'"
  | unresolvedReference key => s!"reference '{key}' does not resolve"

/-- A problem of a section, or of the entry at an index. -/
structure Issue where
  sectionPath : String
  index : Option Nat
  cause : IssueCause
  deriving DecidableEq, Repr

def Issue.message (issue : Issue) : String := issue.cause.message

/-- The issue with the place where it stands. -/
def Issue.display (issue : Issue) : String :=
  match issue.index with
  | some index => s!"{issue.sectionPath}[{index}]: {issue.message}"
  | none => s!"{issue.sectionPath}: {issue.message}"

namespace CheckConfig

def references (config : CheckConfig) : List String :=
  [config.patternKey, config.valueKey, config.listKey].filterMap id

def issues (config : CheckConfig) (tree : ConfigTree) : List IssueCause :=
  (if isKnownType config.type then [] else [.notBuiltIn config.type]) ++
  (if needsField config.type && config.field.isNone then [.noField config.type] else []) ++
  (match config.pattern with
    | some pattern => if (Pattern.compile? pattern).isNone then [.invalidPattern pattern] else []
    | none => []) ++
  (config.references.filter fun key => (tree.resolve? key).isNone).map .unresolvedReference

end CheckConfig

namespace RuleConfig

def statusIssues (config : RuleConfig) (tree : ConfigTree) : List IssueCause :=
  match config.statusValue, config.statusValueKey with
  | some _, _ => []
  | none, some key => if (tree.resolveText? key).isNone then [.unresolvedStatus key] else []
  | none, none => [.noStatus]

def issues (config : RuleConfig) (tree : ConfigTree) : List IssueCause :=
  config.statusIssues tree ++
  (if config.checks.isEmpty then [.noChecks] else []) ++
  config.checks.flatMap (·.issues tree)

end RuleConfig

namespace ConfigTree

/-- The problems of one entry. -/
def entryIssues (tree : ConfigTree) (entry : Json) : List IssueCause :=
  match RuleConfig.ofJson entry with
  | .ok rule => rule.issues tree
  | .error error => [.malformedRule error]

def indexedIssues (tree : ConfigTree) (sectionPath : String) : Nat → List Json → List Issue
  | _, [] => []
  | index, entry :: rest =>
    (tree.entryIssues entry).map (⟨sectionPath, some index, ·⟩) ++
      indexedIssues tree sectionPath (index + 1) rest

/-- Every problem of a section, in the order of its entries. -/
def sectionIssues (tree : ConfigTree) (sectionPath : String) : List Issue :=
  match tree.conditions? sectionPath with
  | none => [⟨sectionPath, none, .missingSection⟩]
  | some entries => tree.indexedIssues sectionPath 0 entries

end ConfigTree

end PurchaseStatus
