namespace PurchaseStatus

/-- How a step ended, or where it stands. -/
inductive StepStatus where
  | pending
  | running
  | success
  | failed
  | skipped
  deriving DecidableEq, Repr

def StepStatus.text : StepStatus → String
  | pending => "PENDING"
  | running => "RUNNING"
  | success => "SUCCESS"
  | failed => "FAILED"
  | skipped => "SKIPPED"

end PurchaseStatus
