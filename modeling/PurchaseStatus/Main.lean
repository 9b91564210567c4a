import PurchaseStatus.CommandLine

namespace PurchaseStatus

/-- The file that a path names, with its contents. Where there is none, an extension may be left
out of the path. -/
def findFile (path : String) : IO (Option (String × String)) := do
  for candidate in path :: DocumentFormat.extensions.map (path ++ "." ++ ·) do
    match ← (IO.FS.readFile candidate).toBaseIO with
    | .ok contents => return some (candidate, contents)
    | .error _ => pure ()
  return none

def outcomeOf (arguments : List String) : IO CommandOutcome := do
  match ListingRequest.ofArguments? arguments with
  | some request => return .ofRequest request (← findFile request.config)
  | none => return .usage

end PurchaseStatus

def main (arguments : List String) : IO UInt32 := do
  let outcome ← PurchaseStatus.outcomeOf arguments
  outcome.output.forM IO.println
  outcome.error.forM IO.eprintln
  return outcome.exitCode.toUInt32
