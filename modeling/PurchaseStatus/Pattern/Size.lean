import PurchaseStatus.Pattern.Syntax

namespace PurchaseStatus.Pattern

/-- What a named set costs. The word characters have by far the most ranges. -/
def NamedSet.size : NamedSet → Nat
  | ascii => 1
  | any | space => 10
  | decimalDigit => 40
  | word => 600
  | assigned | category _ | script _ | property _ => 40

/-- What a set costs: a byte of a character one, and so does any set within ASCII. -/
def CharSet.size : CharSet → Nat
  | empty => 1
  | range first last =>
    if first = last then first.utf8Size else if last.toNat < 128 then 1 else 2 * last.utf8Size
  | named set => set.size
  | union a b | inter a b | difference a b | symmetricDifference a b => max a.size b.size
  | complement a => a.size + 10
  | folded a | asciiFolded a => a.size

namespace Node

/-- Whether every match is empty. Such a node repeated is the node itself, or nothing at all. -/
def isWidthless : Node → Bool
  | empty | place _ => true
  | set _ => false
  | seq a b | alt a b => a.isWidthless && b.isWidthless
  | times a _ most => a.isWidthless || most == some 0

/-- The node repeated, not more often than makes a difference. -/
def repeated (a : Node) (least : Nat) (most : Option Nat) : Node :=
  if a.isWidthless then .times a (min least 1) (some (min (most.getD 1) 1)) else .times a least most

/-- What a pattern costs with its repetitions written out. -/
def size : Node → Nat
  | empty | place _ => 1
  | set chars => chars.size
  | seq a b => a.size + b.size
  | alt a b => a.size + b.size + 1
  | times a least none => max least 1 * a.size + 1
  | times a least (some most) => least * a.size + (most - least) * (a.size + 1) + 1

/-- Ten mebibytes, at thirty-two bytes apiece. -/
def sizeLimit : Nat := 10 * 1024 * 1024 / 32

end Node

end PurchaseStatus.Pattern
