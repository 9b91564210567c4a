import PurchaseStatus.Engine.Basic
import PurchaseStatus.Rule.Issue

namespace PurchaseStatus

namespace Text

/-- Blanks in front of a text up to a width in characters. -/
def padStart (width : Nat) (text : String) : String :=
  String.ofList (List.replicate (width - text.length) ' ' ++ text.toList)

/-- Blanks behind a text up to a width in characters. -/
def padEnd (width : Nat) (text : String) : String :=
  String.ofList (text.toList ++ List.replicate (width - text.length) ' ')

end Text

def Combine.word : Combine → String
  | and => "and"
  | or => "or"

namespace Rule

def kindsText (rule : Rule) : String :=
  ",".intercalate ((rule.applyTo.getD [.order, .request]).map RecordKind.code)

def line (rule : Rule) : String :=
  let priority := Text.padStart 5 (toString rule.priority)
  let status := Text.padEnd 24 (rule.status.getD "<unresolved>")
  let checks := ", ".intercalate (rule.checks.map Check.name)
  s!"  {priority}  {status} [{rule.kindsText}] {rule.combine.word} {checks} ({rule.note})"

end Rule

namespace ConfigTree

/-- How many issues there are, if any. -/
def issueCount (issues : List Issue) : String :=
  if issues.isEmpty then "No configuration issues" else s!"{issues.length} configuration issues:"

/-- A section as it is listed: its rules in the order of their application, then its issues. -/
def listing (tree : ConfigTree) (sectionPath : String) : List String :=
  let rules := (Engine.ofSection tree sectionPath).rules
  let issues := tree.sectionIssues sectionPath
  s!"Section '{sectionPath}': {rules.length} rules" :: rules.map Rule.line ++
    issueCount issues :: issues.map fun issue => "  " ++ issue.display

end ConfigTree

end PurchaseStatus
