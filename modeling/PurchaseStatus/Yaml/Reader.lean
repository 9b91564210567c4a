import PurchaseStatus.Yaml.Node
import PurchaseStatus.Yaml.Scalar

namespace PurchaseStatus.Yaml

def isNameChar (c : Char) : Bool := !isBlank c && c != '\n' && !isFlowMark c

/-- The anchor and the tag in front of a node. -/
structure Properties where
  anchor : Option String := none
  tag : Option String := none

def Properties.apply (properties : Properties) (node : Node) : Node :=
  let tagged := properties.tag.elim node fun tag => .tagged tag node
  properties.anchor.elim tagged fun anchor => .anchored anchor tagged

/-- A name behind its mark. -/
def name? (here : Cursor) : Option (String × Cursor) :=
  match here.rest.tail.takeWhile isNameChar with
  | [] => none
  | name => some (String.ofList name, here.skipMany (name.length + 1))

/-- At most one anchor and one tag, with the blanks behind them. -/
def properties? : Nat → Properties → Cursor → Option (Properties × Cursor)
  | 0, _, _ => none
  | fuel + 1, properties, here =>
    match here.rest with
    | '&' :: _ =>
      if properties.anchor.isSome then none else do
      let (name, after) ← name? here
      properties? fuel { properties with anchor := some name } after.skipBlanks
    | '!' :: rest =>
      if properties.tag.isSome then none
      else
        let tag := '!' :: rest.takeWhile isNameChar
        properties? fuel { properties with tag := some (String.ofList tag) }
          (here.skipMany tag.length).skipBlanks
    | _ => some (properties, here)

def readProperties? (here : Cursor) : Option (Properties × Cursor) := properties? 3 {} here

/-- A text or an alias. -/
def scalar? (place : Place) (here : Cursor) : Option (Node × Cursor) :=
  match here.rest with
  | '*' :: _ => (name? here).map fun (name, after) => (.alias name, after)
  | '"' :: _ | '\'' :: _ => (quoted? here).map fun (text, after) => (.text text, after)
  | _ => (plain? place here).map fun (text, after) => (.plain text, after)

/-- A key with its colon, both on this line. -/
def key? (here : Cursor) : Option (Node × Cursor) := do
  let (properties, start) ← readProperties? here
  let (node, after) ← scalar? .key start
  let crossed := (here.rest.take (here.rest.length - after.rest.length)).contains '\n'
  let colon := after.skipBlanks
  match colon.rest with
  | ':' :: rest => if crossed || !endsToken rest then none else some (properties.apply node, colon.skip)
  | _ => none

mutual

/-- A node between brackets, or a whole list or table in them. -/
def flowNode? : Nat → Cursor → Option (Node × Cursor)
  | 0, _ => none
  | fuel + 1, here => do
    let (properties, start) ← readProperties? here
    let start := start.toToken
    let (node, after) ← match start.rest with
      | '[' :: _ => (flowItems? fuel start.skip.toToken).map fun (items, after) =>
          (Node.sequence items, after)
      | '{' :: _ => (flowEntries? fuel start.skip.toToken).map fun (entries, after) =>
          (Node.mapping entries, after)
      | _ => scalar? .flow start
    return (properties.apply node, after)

/-- What follows the key of an entry between brackets. -/
def flowValue? : Nat → Cursor → Option (Node × Cursor)
  | 0, _ => none
  | fuel + 1, here =>
    match here.toToken.rest with
    | ':' :: _ =>
      let next := here.toToken.skip.toToken
      match next.rest with
      | ',' :: _ | ']' :: _ | '}' :: _ => some (.missing, next)
      | _ => flowNode? fuel next
    | _ => some (.missing, here)

/-- The items of a list up to its bracket. An item with a colon is a table of one entry, and a comma
may stand behind the last item. -/
def flowItems? : Nat → Cursor → Option (List Node × Cursor)
  | 0, _ => none
  | fuel + 1, here =>
    match here.rest with
    | ']' :: _ => some ([], here.skip)
    | _ => do
      let (first, after) ← flowNode? fuel here
      let after := after.toToken
      let (item, after) ←
        if after.rest.head? == some ':' then
          (flowValue? fuel after).map fun (value, after) => (Node.mapping [(first, value)], after.toToken)
        else some (first, after)
      match after.rest with
      | ',' :: _ =>
        let (items, after) ← flowItems? fuel after.skip.toToken
        return (item :: items, after)
      | ']' :: _ => return ([item], after.skip)
      | _ => none

/-- The entries of a table up to its brace. A key alone has no value, and a comma may stand behind
the last entry. -/
def flowEntries? : Nat → Cursor → Option (List (Node × Node) × Cursor)
  | 0, _ => none
  | fuel + 1, here =>
    match here.rest with
    | '}' :: _ => some ([], here.skip)
    | _ => do
      let (key, after) ← flowNode? fuel here
      let (value, after) ← flowValue? fuel after
      let after := after.toToken
      match after.rest with
      | ',' :: _ =>
        let (entries, after) ← flowEntries? fuel after.skip.toToken
        return ((key, value) :: entries, after)
      | '}' :: _ => return ([(key, value)], after.skip)
      | _ => none

end

/-- A node that begins on this line and is neither a table nor a list in lines. The cursor is then at
the next token, on a line of its own. -/
def inlineNode? (least : Nat) (here : Cursor) : Option (Node × Cursor) :=
  match here.rest with
  | '|' :: _ | '>' :: _ => (block? least here).map fun (text, after) => (.text text, after.toToken)
  | '[' :: _ | '{' :: _ => do
    let (node, after) ← flowNode? (2 * here.rest.length + 2) here
    return (node, ← after.nextLine?)
  | _ => do
    let (node, after) ← scalar? (.block least) here
    return (node, ← after.nextLine?)

mutual

/-- A node at a token, where it may be a table or a list in lines. Further lines stand at the given
column or behind it. -/
def blockNode? : Nat → Nat → Cursor → Option (Node × Cursor)
  | 0, _, _ => none
  | fuel + 1, least, here =>
    if here.isAtDash then
      (dashes? fuel here.column here).map fun (items, after) => (.sequence items, after)
    else if (key? here).isSome then
      (keys? fuel here.column here).map fun (entries, after) => (.mapping entries, after)
    else do
      let (properties, start) ← readProperties? here
      let (node, after) ←
        if start.rest.length = here.rest.length then inlineNode? least here
        else if start.isAtLineEnd then lowerNode? fuel least false start
        else inlineNode? least start
      return (properties.apply node, after)

/-- A node on the lines below, at the given column or behind it; where there is none, nothing. A list
may begin one column before that where `outdent` allows it. -/
def lowerNode? : Nat → Nat → Bool → Cursor → Option (Node × Cursor)
  | 0, _, _, _ => none
  | fuel + 1, least, outdent, here =>
    let next := here.toToken
    if next.isAtEnd || next.isAtDocumentEnd then some (.missing, next)
    else if least ≤ next.column then blockNode? fuel least next
    else if outdent && next.column + 1 = least && next.isAtDash then blockNode? fuel least next
    else some (.missing, next)

/-- The items of a list whose dashes stand in one column. -/
def dashes? : Nat → Nat → Cursor → Option (List Node × Cursor)
  | 0, _, _ => none
  | fuel + 1, column, here => do
    let start := here.skip.skipBlanks
    let (item, after) ←
      if start.isAtLineEnd then lowerNode? fuel (column + 1) false start
      else blockNode? fuel (column + 1) start
    if after.column = column && after.isAtDash then
      let (items, after) ← dashes? fuel column after
      return (item :: items, after)
    return ([item], after)

/-- The entries of a table whose keys stand in one column. -/
def keys? : Nat → Nat → Cursor → Option (List (Node × Node) × Cursor)
  | 0, _, _ => none
  | fuel + 1, column, here => do
    let (key, colon) ← key? here
    let start := colon.skipBlanks
    let (properties, start) ← readProperties? start
    let (value, after) ←
      if start.isAtLineEnd then lowerNode? fuel (column + 1) true start
      else inlineNode? (column + 1) start
    let entry := (key, properties.apply value)
    if after.column = column && !after.isAtEnd && !after.isAtDocumentEnd then
      let (entries, after) ← keys? fuel column after
      return (entry :: entries, after)
    return ([entry], after)

end

/-- Skips the directives in front of a document. -/
def skipDirectives : Nat → Cursor → Cursor
  | 0, here => here
  | fuel + 1, here =>
    if here.column = 0 && here.rest.head? == some '%' then
      skipDirectives fuel (here.skipWhile (· != '\n')).toToken
    else here

/-- The node of a document behind its mark. -/
def documentNode? (here : Cursor) : Option (Node × Cursor) := do
  let start := here.skipBlanks
  let (properties, start) ← readProperties? start
  let fuel := 4 * start.rest.length + 4
  let (node, after) ←
    if start.isAtLineEnd then lowerNode? fuel 0 false start else inlineNode? 0 start
  return (properties.apply node, after)

/-- Whether nothing but marks of its end follows a document. -/
def isFinished : Nat → Cursor → Bool
  | 0, _ => false
  | fuel + 1, here =>
    here.isAtEnd || (here.isAtMarker "..." && isFinished fuel (here.skipMany 3).toToken)

/-- Reads the one document of a source. Without a document there is an empty table. -/
def read? (source : String) : Option Json := do
  let start := (Cursor.start source).toToken
  let fuel := start.rest.length + 1
  if isFinished fuel start then return .object []
  let first := skipDirectives fuel start
  let (node, after) ←
    if first.isAtMarker "---" then documentNode? (first.skipMany 3)
    else if first.rest.length < start.rest.length then none
    else blockNode? (4 * first.rest.length + 4) 0 first
  if isFinished fuel after then return (← node.value? []).1 else none

end PurchaseStatus.Yaml
