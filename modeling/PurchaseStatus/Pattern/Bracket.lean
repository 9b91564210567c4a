import PurchaseStatus.Pattern.Primitive

namespace PurchaseStatus.Pattern

/-- A primitive between brackets. -/
def bracketPrimitive? (flags : Flags) : List Char → Option (Primitive × List Char)
  | [] => none
  | '\\' :: cs => escape? flags cs
  | c :: cs => some (.literal c false, cs)

/-- A character that stands for itself between brackets. Without Unicode it is one of ASCII. -/
def Flags.bracketLiteral? (flags : Flags) : Primitive → Option Char
  | .literal c _ => if flags.unicode || c.toNat < 128 then some c else none
  | _ => none

/-- The set that a primitive stands for between brackets. A single character is closed under
case only with the whole bracket, a named class at once. -/
def Flags.bracketSet? (flags : Flags) : Primitive → Option CharSet
  | .literal c byte => (flags.bracketLiteral? (.literal c byte)).map .single
  | .named set negated =>
    if flags.unicode then flags.finishSet? negated (.named set) else none
  | .letter set negated => flags.letterSet? set negated
  | .anyChar | .place _ => none

/-- A range, or a primitive alone. A hyphen before `]` or before another hyphen makes no
range. -/
def bracketItem? (flags : Flags) (cs : List Char) : Option (CharSet × List Char) := do
  let (first, rest) ← bracketPrimitive? flags cs
  match flags.skip rest with
  | [] => none
  | '-' :: rest =>
    match flags.skip rest with
    | [] => none
    | c :: after =>
      if c = ']' ∨ c = '-' then
        return (← flags.bracketSet? first, '-' :: rest)
      let (last, rest) ← bracketPrimitive? flags (c :: after)
      let first ← flags.bracketLiteral? first
      let last ← flags.bracketLiteral? last
      if first ≤ last then return (.range first last, rest) else none
  | rest => return (← flags.bracketSet? first, rest)

/-- A class such as `[:alpha:]`, behind its opening bracket; nothing where the text is none. -/
def asciiClass? (flags : Flags) : List Char → Option (Option CharSet × List Char)
  | ':' :: cs =>
    let (negated, cs) := match cs with
      | '^' :: cs => (true, cs)
      | cs => (false, cs)
    match cs.span (· != ':') with
    | (name, ':' :: ']' :: rest) =>
      (CharSet.asciiClass? (String.ofList name)).map fun set => (flags.finishSet? negated set, rest)
    | _ => none
  | _ => none

/-- How two sets are joined between brackets. -/
inductive SetOperator where
  | inter
  | difference
  | symmetricDifference

def SetOperator.apply : SetOperator → CharSet → CharSet → CharSet
  | inter => .inter
  | difference => .difference
  | symmetricDifference => .symmetricDifference

/-- Operators bind from left to right; both sides are closed under case first. -/
def Flags.join (flags : Flags) (left : Option (SetOperator × CharSet)) (right : CharSet) : CharSet :=
  match left with
  | none => right
  | some (operator, left) =>
    let close (set : CharSet) : CharSet :=
      if !flags.ignoreCase then set
      else if flags.unicode then .folded set else .asciiFolded set
    operator.apply (close left) (close right)

/-- Hyphens, or a closing bracket, at the start of a class stand for themselves. -/
def leadingItems (flags : Flags) : Nat → Bool → List Char → CharSet × List Char
  | 0, _, cs => (.empty, cs)
  | fuel + 1, any, cs =>
    match cs with
    | '-' :: rest =>
      let (set, rest) := leadingItems flags fuel true (flags.skip rest)
      (.union (.single '-') set, rest)
    | ']' :: rest => if any then (.empty, cs) else (.single ']', flags.skip rest)
    | _ => (.empty, cs)

mutual

/-- A class, behind its opening bracket. -/
def bracket? (flags : Flags) : Nat → List Char → Option (CharSet × List Char)
  | 0, _ => none
  | fuel + 1, cs => do
    let (negated, cs) := match flags.skip cs with
      | '^' :: cs => (true, flags.skip cs)
      | cs => (false, cs)
    let (leading, cs) := leadingItems flags (cs.length + 1) false cs
    let (set, rest) ← bracketRest? flags fuel none leading cs
    return (← flags.finishSet? negated set, rest)

/-- The rest of a class: what is joined already, and what is read since the last operator. -/
def bracketRest? (flags : Flags) :
    Nat → Option (SetOperator × CharSet) → CharSet → List Char → Option (CharSet × List Char)
  | 0, _, _, _ => none
  | fuel + 1, left, read, cs =>
    match flags.skip cs with
    | [] => none
    | '[' :: cs =>
      match asciiClass? flags cs with
      | some (set, rest) => do bracketRest? flags fuel left (.union read (← set)) rest
      | none => do
        let (set, rest) ← bracket? flags fuel cs
        bracketRest? flags fuel left (.union read set) rest
    | ']' :: rest => some (flags.join left read, rest)
    | '&' :: '&' :: rest => bracketRest? flags fuel (some (.inter, flags.join left read)) .empty rest
    | '-' :: '-' :: rest =>
      bracketRest? flags fuel (some (.difference, flags.join left read)) .empty rest
    | '~' :: '~' :: rest =>
      bracketRest? flags fuel (some (.symmetricDifference, flags.join left read)) .empty rest
    | cs => do
      let (set, rest) ← bracketItem? flags cs
      bracketRest? flags fuel left (.union read set) rest

end

end PurchaseStatus.Pattern
