import PurchaseStatus.Pattern.Bracket
import PurchaseStatus.Pattern.Search
import PurchaseStatus.Pattern.Size

namespace PurchaseStatus.Pattern

/-- The letters of flags, with whether a hyphen stood before them, up to `:` or `)`. Each letter
and the hyphen may stand once, and a letter must follow the hyphen. -/
def flagLetters? : Bool → List Char → List Char → Option (List (Char × Bool) × Char × List Char)
  | _, _, [] => none
  | off, seen, c :: cs =>
    if c = ':' ∨ c = ')' then
      if seen.head? = some '-' then none else some ([], c, cs)
    else if seen.contains c then none
    else if c = '-' then flagLetters? true (c :: seen) cs
    else if ['i', 'm', 's', 'U', 'u', 'R', 'x'].contains c then
      (flagLetters? off (c :: seen) cs).map fun (letters, last, rest) => ((c, !off) :: letters, last, rest)
    else none

def Flags.switch (flags : Flags) : Char × Bool → Flags
  | ('i', on) => { flags with ignoreCase := on }
  | ('m', on) => { flags with multiLine := on }
  | ('s', on) => { flags with dotAll := on }
  | ('U', on) => { flags with swapGreed := on }
  | ('u', on) => { flags with unicode := on }
  | ('R', on) => { flags with anyLineEnd := on }
  | ('x', on) => { flags with verbose := on }
  | _ => flags

def isNameStart (c : Char) : Bool := c == '_' || Unicode.isAlphabetic c

def isNameChar (c : Char) : Bool :=
  isNameStart c || c == '.' || c == '[' || c == ']' || (Unicode.category c).startsWith "N"

/-- The name of a group up to `>`. -/
def groupName? (cs : List Char) : Option (String × List Char) :=
  match cs.span (· != '>') with
  | (first :: name, '>' :: rest) =>
    if isNameStart first && name.all isNameChar then some (String.ofList (first :: name), rest)
    else none
  | _ => none

/-- How a parenthesis opens. -/
inductive Opening where
  /-- Flags for the rest of the enclosing group. -/
  | switch (flags : Flags)
  /-- A group with flags of its own, and the names of groups so far. -/
  | group (flags : Flags) (names : List String)

/-- What follows an opening parenthesis. Looking around is refused, as is a name that was given
before. -/
def opening? (flags : Flags) (names : List String) (cs : List Char) : Option (Opening × List Char) :=
  let named (rest : List Char) : Option (Opening × List Char) := do
    let (name, rest) ← groupName? rest
    if names.contains name then none else return (.group flags (name :: names), rest)
  match flags.skip cs with
  | '?' :: '=' :: _ | '?' :: '!' :: _ => none
  | '?' :: '<' :: '=' :: _ | '?' :: '<' :: '!' :: _ => none
  | '?' :: 'P' :: '<' :: rest => named rest
  | '?' :: '<' :: rest => named rest
  | '?' :: rest => do
    let (letters, last, rest) ← flagLetters? false [] rest
    let switched := letters.foldl Flags.switch flags
    if last = ':' then return (.group switched names, rest)
    else if letters.isEmpty then none
    else return (.switch switched, rest)
  | rest => some (.group flags names, rest)

/-- A decimal count with blanks around it. -/
def count? (flags : Flags) (cs : List Char) : Option Nat × List Char :=
  let cs := cs.dropWhile Text.isSpace
  let rec digits : Nat → List Char → List Char × List Char
    | 0, cs => ([], cs)
    | fuel + 1, cs =>
      match cs with
      | c :: rest =>
        if c.isDigit then
          let (more, rest) := digits fuel (flags.skip rest)
          (c :: more, rest)
        else ([], cs)
      | [] => ([], [])
  let (run, rest) := digits cs.length cs
  let rest := flags.skip (rest.dropWhile Text.isSpace)
  let value := Nat.ofDigitChars 10 run 0
  (if run.isEmpty || 0x100000000 ≤ value then none else some value, rest)

/-- The bounds of a repetition, behind its opening brace. -/
def bounds? (flags : Flags) (cs : List Char) : Option (Nat × Option Nat × List Char) := do
  let (least, rest) := count? flags (flags.skip cs)
  let least ← least
  let (most, rest) ← match rest with
    | ',' :: rest =>
      match flags.skip rest with
      | [] => none
      | '\x7d' :: rest => some (none, '\x7d' :: rest)
      | rest =>
        let (most, rest) := count? flags rest
        most.map fun most => (some most, rest)
    | rest => some (some least, rest)
  match rest with
  | '\x7d' :: rest => if most.all (least ≤ ·) then return (least, most, flags.skip rest) else none
  | _ => none

def dropLazy : List Char → List Char
  | '?' :: cs => cs
  | cs => cs

/-- Repeats the item read last. Only a real item can be repeated: flags and the start of a branch
cannot. -/
def repeatLast? (least : Nat) (most : Option Nat) : List (Option Node) → Option (List (Option Node))
  | some item :: items => some (some (item.repeated least most) :: items)
  | _ => none

def branchOf (items : List (Option Node)) : Node := Node.ofItems (items.reverse.filterMap id)

def finishBody (branches : List Node) (items : List (Option Node)) : Node :=
  Node.ofBranches (branchOf items :: branches).reverse

/-- The body of a group or of the whole pattern, up to a closing parenthesis or the end. Branches
and items are held in reverse; a missing item stands for flags. -/
def body? : Nat → Flags → List String → List Node → List (Option Node) → List Char →
    Option (Node × List String × List Char)
  | 0, _, _, _, _, _ => none
  | fuel + 1, flags, names, branches, items, cs =>
    match flags.skip cs with
    | [] => some (finishBody branches items, names, [])
    | ')' :: rest => some (finishBody branches items, names, ')' :: rest)
    | '|' :: rest => body? fuel flags names (branchOf items :: branches) [] rest
    | '(' :: rest => do
      match ← opening? flags names rest with
      | (.switch flags, rest) => body? fuel flags names branches (none :: items) rest
      | (.group inner names, rest) =>
        let (node, names, rest) ← body? fuel inner names [] [] rest
        match rest with
        | ')' :: rest => body? fuel flags names branches (some node :: items) rest
        | _ => none
    | '[' :: rest => do
      let (set, rest) ← bracket? flags (2 * rest.length + 2) rest
      body? fuel flags names branches (some (.set set) :: items) rest
    | '?' :: rest => do
      body? fuel flags names branches (← repeatLast? 0 (some 1) items) (dropLazy rest)
    | '*' :: rest => do
      body? fuel flags names branches (← repeatLast? 0 none items) (dropLazy rest)
    | '+' :: rest => do
      body? fuel flags names branches (← repeatLast? 1 none items) (dropLazy rest)
    | '\x7b' :: rest => do
      let (least, most, rest) ← bounds? flags rest
      body? fuel flags names branches (← repeatLast? least most items) (dropLazy rest)
    | cs => do
      let (primitive, rest) ← primitive? flags cs
      let node ← flags.primitiveNode? primitive
      body? fuel flags names branches (some node :: items) rest

/-- Reads a whole pattern. One that grows too large when its repetitions are written out is refused. -/
def read? (source : String) : Option Node := do
  let cs := source.toList
  let (node, _, rest) ← body? (cs.length + 1) {} [] [] [] cs
  if rest.isEmpty && node.size ≤ Node.sizeLimit then return node else none

end PurchaseStatus.Pattern

namespace PurchaseStatus

/-- A regular expression that has been read. -/
structure Pattern where
  source : String
  node : Pattern.Node

namespace Pattern

/-- The pattern of a text; nothing when the text is none. -/
def compile? (source : String) : Option Pattern := (read? source).map fun node => ⟨source, node⟩

/-- Whether the pattern matches somewhere in the text. -/
def isFoundIn (pattern : Pattern) (text : String) : Bool := pattern.node.isFound text.toList

end Pattern

end PurchaseStatus
