import PurchaseStatus.Check.Basic

namespace PurchaseStatus

/-- A rule with its references resolved and its checks compiled. -/
structure Rule where
  id : String
  priority : Int
  /-- Missing when the reference did not resolve; such a rule labels nothing. -/
  status : Option String
  note : String
  combine : Combine
  /-- The kinds of records that the rule is for; all of them when there is no list. -/
  applyTo : Option (List RecordKind)
  checks : List Check

namespace Rule

/-- The literal status, or else the text that is referred to. -/
def statusOf? (config : RuleConfig) (tree : ConfigTree) : Option String :=
  match config.statusValue, config.statusValueKey with
  | some status, _ => some status
  | none, some key => tree.resolveText? key
  | none, none => none

/-- Rules are told apart by priority and status, or by the reference that gave none. -/
def idOf (config : RuleConfig) (status : Option String) : String :=
  let label := (status.or config.statusValueKey).getD "unresolved"
  s!"priority_{config.priority}_{label}"

def compile (config : RuleConfig) (tree : ConfigTree) : Rule :=
  let status := statusOf? config tree
  { id := idOf config status
    priority := config.priority
    status := status
    note := config.note
    combine := config.combine
    applyTo := config.applyTo
    checks := config.checks.map (·.compile tree) }

def appliesTo (rule : Rule) (kind : RecordKind) : Bool := rule.applyTo.all (·.contains kind)

/-- The status that the rule gives to records of a kind. A rule for other kinds gives none, nor
does one without a status or without checks. -/
def labelFor? (rule : Rule) (kind : RecordKind) : Option String :=
  if rule.appliesTo kind && !rule.checks.isEmpty then rule.status else none

end Rule

/-- A label for the rows that no rule claimed. -/
structure Fallback where
  status : String
  note : String
  /-- Without a check, every row that is still unset. -/
  check : Option Check

/-- A fallback as a rule behind all others. -/
def Fallback.toRule (fallback : Fallback) : Rule :=
  { id := s!"fallback_{fallback.status}"
    priority := Decimal.int64Max
    status := some fallback.status
    note := fallback.note
    combine := .and
    applyTo := none
    checks := [fallback.check.getD .always] }

end PurchaseStatus
