import PurchaseStatus.Pattern.Syntax

namespace PurchaseStatus.Pattern

/-- A set of places in a text of `n` characters: one bit for each of its `n + 1` places. -/
abbrev Places := List Bool

def Places.union (a b : Places) : Places := List.zipWith (· || ·) a b

/-- The neighbours of every place of a text. -/
def neighbours (cs : List Char) : List (Option Char × Option Char) :=
  List.zip (none :: cs.map some) (cs.map some ++ [none])

/-- Adds what a step reaches until nothing new comes, at most `fuel` times. -/
def closure (step : Places → Places) : Nat → Places → Places
  | 0, reached => reached
  | fuel + 1, reached =>
    let more := reached.union (step reached)
    if more = reached then reached else closure step fuel more

/-- Adds what up to `fuel` steps reach. -/
def upTo (step : Places → Places) : Nat → Places → Places
  | 0, reached => reached
  | fuel + 1, reached => reached.union (upTo step fuel (step reached))

/-- The places where a match ends that begins at one of the given places. A text of `n`
characters has `n + 1` places, so as many rounds exhaust a repetition without bound. -/
def Node.finishes (cs : List Char) : Node → Places → Places
  | .empty, places => places
  | .set chars, places => false :: List.zipWith (fun here c => here && chars.contains c) places cs
  | .place condition, places =>
    List.zipWith (fun here (before, after) => here && condition.holds before after) places
      (neighbours cs)
  | .seq a b, places => b.finishes cs (a.finishes cs places)
  | .alt a b, places => (a.finishes cs places).union (b.finishes cs places)
  | .times a least most, places =>
    let reached := Nat.repeat (a.finishes cs) least places
    match most with
    | none => closure (a.finishes cs) (cs.length + 1) reached
    | some most => upTo (a.finishes cs) (most - least) reached

/-- Whether a match begins somewhere in the text. -/
def Node.isFound (node : Node) (cs : List Char) : Bool :=
  (node.finishes cs (List.replicate (cs.length + 1) true)).any id

end PurchaseStatus.Pattern
