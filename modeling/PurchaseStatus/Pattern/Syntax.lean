import PurchaseStatus.Pattern.CharSet

namespace PurchaseStatus.Pattern

/-- A condition on the place between two characters. -/
inductive Place where
  | start
  | finish
  | lineStart
  | lineFinish
  /-- Lines that end in a line feed, a carriage return or both. -/
  | anyLineStart
  | anyLineFinish
  | wordBoundary (ascii : Bool)
  | noWordBoundary (ascii : Bool)
  | wordStart (ascii : Bool)
  | wordFinish (ascii : Bool)
  | wordStartHalf (ascii : Bool)
  | wordFinishHalf (ascii : Bool)
  deriving DecidableEq, Repr

/-- What a pattern means, its flags worked into it. Whether a repetition is greedy has no say in
whether there is a match, so it is not kept. -/
inductive Node where
  | empty
  | set (chars : CharSet)
  | place (place : Place)
  | seq (a b : Node)
  | alt (a b : Node)
  /-- From `least` to `most` times; without `most`, any number from `least` on. -/
  | times (a : Node) (least : Nat) (most : Option Nat)
  deriving DecidableEq, Repr

namespace Node

def ofItems (items : List Node) : Node := items.foldr .seq .empty

def ofBranches : List Node → Node
  | [] => .empty
  | [branch] => branch
  | branch :: rest => .alt branch (ofBranches rest)

end Node

def isWordIn (ascii : Bool) (c : Char) : Bool :=
  if ascii then c.isAlphanum || c == '_' else Unicode.isWord c

/-- Whether the condition holds between these neighbours; at an end of the text there is none. -/
def Place.holds (place : Place) (before after : Option Char) : Bool :=
  let word (ascii : Bool) (c : Option Char) := c.any (isWordIn ascii)
  match place with
  | start => before.isNone
  | finish => after.isNone
  | lineStart => before.all (· == '\n')
  | lineFinish => after.all (· == '\n')
  | anyLineStart =>
    before.all (· == '\n') || (before == some '\r' && after != some '\n')
  | anyLineFinish =>
    after.all (· == '\r') || (after == some '\n' && before != some '\r')
  | wordBoundary ascii => word ascii before != word ascii after
  | noWordBoundary ascii => word ascii before == word ascii after
  | wordStart ascii => !word ascii before && word ascii after
  | wordFinish ascii => word ascii before && !word ascii after
  | wordStartHalf ascii => !word ascii before
  | wordFinishHalf ascii => !word ascii after

end PurchaseStatus.Pattern
