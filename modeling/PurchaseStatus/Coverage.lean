import PurchaseStatus.Decimal.Style
import PurchaseStatus.Engine.Basic

namespace PurchaseStatus

/-- A counter of sixty-four bits is read as the number that it holds. -/
instance coeUInt64Nat : Coe UInt64 Nat := ⟨UInt64.toNat⟩

/-- The rows that each rule has labelled in all runs so far. Counters have sixty-four bits and wrap. -/
structure Coverage where
  hits : Named UInt64 := ∅

/-- Which of some rules have labelled a row, and the counters of all rules. -/
structure CoverageReport where
  total : Nat
  covered : Nat
  uncovered : List String
  percentage : Float
  hits : Named UInt64

namespace Coverage

def record (coverage : Coverage) (id : String) (count : Nat) : Coverage :=
  ⟨coverage.hits.update id fun old => old.getD 0 + UInt64.ofNat count⟩

/-- Takes in the evaluated rules of a run. -/
def recordRun (coverage : Coverage) (report : RunReport) : Coverage :=
  report.hits.foldl (fun coverage (id, count) => coverage.record id count) coverage

/-- The counter of an id; zero where it is absent. -/
def hitsOf (coverage : Coverage) (id : String) : UInt64 := (coverage.hits.get? id).getD 0

/-- A rule is covered once it has labelled a row. -/
def report (coverage : Coverage) (ids : List String) : CoverageReport :=
  let uncovered := ids.filter fun id => coverage.hitsOf id == 0
  let covered := ids.length - uncovered.length
  { total := ids.length
    covered
    uncovered
    percentage :=
      if ids.isEmpty then 0 else Float.ofNat covered / Float.ofNat ids.length * 100
    hits := coverage.hits }

end Coverage

/-- One line for the whole and one for each rule that is not covered. -/
def CoverageReport.render (report : CoverageReport) : String :=
  s!"Rule coverage: {report.covered}/{report.total} ({Decimal.onePlace report.percentage}%)\n" ++
    String.join (report.uncovered.map fun id => s!"  never matched: {id}\n")

end PurchaseStatus
