import PurchaseStatus.Engine.Labeling

namespace PurchaseStatus

variable {n : Nat}

/-- What the checks of a run may read besides the batch. It outlives the run. -/
structure RuleContext where
  date : Option Int := none
  entity : Option String := none
  masks : Registry := ∅

/-- Rows labelled per rule, in the order in which the rules were first evaluated. -/
abbrev RuleStats := Named Nat

/-- Adds rows to those of a rule. -/
def RuleStats.add (stats : RuleStats) (id : String) (count : Nat) : RuleStats :=
  Named.update stats id fun old => old.getD 0 + count

/-- What one run did: each evaluated rule with the rows it labelled, and the rows left unset. -/
structure RunReport where
  hits : List (String × Nat)
  unlabeled : Nat
  deriving DecidableEq

def RunReport.stats (report : RunReport) : RuleStats :=
  report.hits.foldl (fun stats (id, count) => stats.add id count) ∅

/-- The outcome of a run. -/
structure Run (n : Nat) where
  batch : Batch n
  context : RuleContext
  report : RunReport

def Run.stats (run : Run n) : RuleStats := run.report.stats

/-- Rules in the order of their application, and the configuration that their checks read. -/
structure Engine where
  sectionPath : String
  config : ConfigTree
  rules : List Rule

namespace Engine

/-- Rules apply in ascending priority, those of one priority in the order of declaration. -/
def byPriority (rules : List Rule) : List Rule := sortBy (fun a b => a.priority ≤ b.priority) rules

def ofRules (config : ConfigTree) (sectionPath : String) (rules : List RuleConfig) : Engine :=
  { sectionPath, config, rules := byPriority (rules.map (Rule.compile · config)) }

/-- The engine of a section of the configuration. -/
def ofSection (config : ConfigTree) (sectionPath : String) : Engine :=
  ofRules config sectionPath (config.ruleSection sectionPath)

def ruleIds (engine : Engine) : List String := engine.rules.map (·.id)

def task (engine : Engine) (statusColumn : String) (context : RuleContext) (kind : RecordKind)
    (refresh : Bool) : LabelingTask :=
  { config := engine.config, statusColumn, kind, date := context.date, entity := context.entity, refresh }

/-- Labels the unset rows by the first rule of a list that matches them. -/
def run (engine : Engine) (rules : List Rule) (batch : Batch n) (statusColumn : String)
    (context : RuleContext) (kind : RecordKind) (refresh : Bool) : Run n :=
  let task := engine.task statusColumn context kind refresh
  let final := (Labeling.start task batch context.masks).applyAll task rules
  { batch := final.batch
    context := { context with masks := final.masks }
    report := { hits := final.hits, unlabeled := final.unset.count } }

/-- Applies the rules of the engine to the rows whose status is unset. -/
def applyRules (engine : Engine) (batch : Batch n) (statusColumn : String) (context : RuleContext)
    (kind : RecordKind) (refresh : Bool) : Run n :=
  engine.run engine.rules batch statusColumn context kind refresh

/-- Applies terminal labels, in order, to the rows that are still unset. -/
def applyFallbacks (engine : Engine) (batch : Batch n) (statusColumn : String)
    (context : RuleContext) (kind : RecordKind) (fallbacks : List Fallback) : Run n :=
  engine.run (fallbacks.map Fallback.toRule) batch statusColumn context kind true

end Engine

end PurchaseStatus
