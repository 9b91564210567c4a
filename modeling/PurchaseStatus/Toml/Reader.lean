import PurchaseStatus.Toml.DateTime
import PurchaseStatus.Toml.Number
import PurchaseStatus.Toml.Quoted
import PurchaseStatus.Toml.Table

namespace PurchaseStatus.Toml

def isKeyChar (c : Char) : Bool := c.isAlphanum || c == '_' || c == '-'

/-- One part of a key, bare or in quotes. -/
def keyPart? (cs : List Char) : Option (String × List Char) :=
  match cs.span isKeyChar with
  | ([], _) => singleLine? cs
  | (bare, rest) => some (String.ofList bare, rest)

/-- Keys and values nest at most this deep. -/
def maxDepth : Nat := 79

/-- A key: parts with dots between them, blanks around each. -/
def key? : Nat → List Char → Option (List String × List Char)
  | 0, _ => none
  | depth + 1, cs => do
    let (part, rest) ← keyPart? (skipBlanks cs)
    match skipBlanks rest with
    | '.' :: rest =>
      let (parts, rest) ← key? depth rest
      return (part :: parts, rest)
    | rest => return ([part], rest)

/-- What follows a comment on its line. A comment holds no control characters. -/
def skipComment (cs : List Char) : List Char :=
  match cs with
  | '#' :: rest => rest.dropWhile isTextChar
  | cs => cs

/-- Skips blanks, line breaks and comments. -/
def skipLines : Nat → List Char → List Char
  | 0, cs => cs
  | fuel + 1, cs =>
    match skipBlanks cs with
    | '#' :: rest => skipLines fuel (rest.dropWhile isTextChar)
    | rest =>
      match lineBreak? rest with
      | some rest => skipLines fuel rest
      | none => rest

def skipAll (cs : List Char) : List Char := skipLines (cs.length + 1) cs

def keyword? (word : String) (value : Json) (cs : List Char) : Option (Json × List Char) :=
  if word.toList.isPrefixOf cs then some (value, cs.drop word.length) else none

/-- A value without parts. -/
def scalar? (cs : List Char) : Option (Json × List Char) :=
  match cs with
  | '"' :: _ | '\'' :: _ => (quoted? cs).map fun (text, rest) => (.string text, rest)
  | 't' :: _ => keyword? "true" (.bool true) cs
  | 'f' :: _ => keyword? "false" (.bool false) cs
  | _ =>
    match moment? cs with
    | some (text, rest) => some (.string text, rest)
    | none => number? cs

mutual

/-- One value. `depth` bounds the nesting of lists and tables. -/
def value? : Nat → Nat → List Char → Option (Json × List Char)
  | 0, _, _ => none
  | fuel + 1, depth, '[' :: cs =>
    if depth = 0 then none
    else (items? fuel (depth - 1) cs).map fun (items, rest) => (.array items, rest)
  | fuel + 1, depth, '{' :: cs =>
    if depth = 0 then none else do
    let (pairs, rest) ← pairs? fuel (depth - 1) cs
    return (← tableOfPairs? pairs, rest)
  | _, _, cs => scalar? cs

/-- The items of a list up to its end. A comma may stand behind the last one. -/
def items? : Nat → Nat → List Char → Option (List Json × List Char)
  | 0, _, _ => none
  | fuel + 1, depth, cs =>
    match skipAll cs with
    | ']' :: rest => some ([], rest)
    | cs => do
      let (item, rest) ← value? fuel depth cs
      match skipAll rest with
      | ',' :: rest =>
        let (items, rest) ← items? fuel depth rest
        return (item :: items, rest)
      | ']' :: rest => return ([item], rest)
      | _ => none

/-- The pairs between braces, on one line and without a comma behind the last one. -/
def pairs? : Nat → Nat → List Char → Option (List Pair × List Char)
  | 0, _, _ => none
  | fuel + 1, depth, cs =>
    match skipBlanks cs with
    | '}' :: rest => some ([], rest)
    | cs => morePairs? fuel depth cs

def morePairs? : Nat → Nat → List Char → Option (List Pair × List Char)
  | 0, _, _ => none
  | fuel + 1, depth, cs => do
    let (key, rest) ← key? maxDepth cs
    match rest with
    | '=' :: rest =>
      let (value, rest) ← value? fuel depth (skipBlanks rest)
      match skipBlanks rest with
      | ',' :: rest =>
        let (pairs, rest) ← morePairs? fuel depth rest
        return (⟨key, value⟩ :: pairs, rest)
      | '}' :: rest => return ([⟨key, value⟩], rest)
      | _ => none
    | _ => none

end

/-- The end of a line, with a comment if there is one. -/
def endOfLine? (cs : List Char) : Option (List Char) :=
  match skipComment (skipBlanks cs) with
  | [] => some []
  | rest => lineBreak? rest

/-- A line `key = value`. -/
def pair? (cs : List Char) : Option (Pair × List Char) := do
  let (key, rest) ← key? maxDepth cs
  match rest with
  | '=' :: rest =>
    let (value, rest) ← value? (2 * rest.length + 2) maxDepth (skipBlanks rest)
    return (⟨key, value⟩, ← endOfLine? rest)
  | _ => none

/-- A header in single or double brackets. -/
def header? : List Char → Option (Bool × List String × List Char)
  | '[' :: '[' :: cs => do
    let (path, rest) ← key? maxDepth cs
    match rest with
    | ']' :: ']' :: rest => return (true, path, ← endOfLine? rest)
    | _ => none
  | '[' :: cs => do
    let (path, rest) ← key? maxDepth cs
    match rest with
    | ']' :: rest => return (false, path, ← endOfLine? rest)
    | _ => none
  | _ => none

/-- Pairs up to the next header or the end. -/
def pairLines? : Nat → List Char → Option (List Pair × List Char)
  | 0, _ => none
  | fuel + 1, cs =>
    match skipAll cs with
    | [] => some ([], [])
    | '[' :: rest => some ([], '[' :: rest)
    | cs => do
      let (pair, rest) ← pair? cs
      let (pairs, rest) ← pairLines? fuel rest
      return (pair :: pairs, rest)

/-- Headers, each with the pairs below it. -/
def blocks? : Nat → List Char → Option (List Block)
  | 0, _ => none
  | _, [] => some []
  | fuel + 1, cs => do
    let (repeated, path, rest) ← header? cs
    let (pairs, rest) ← pairLines? (rest.length + 1) rest
    return ⟨repeated, path, pairs⟩ :: (← blocks? fuel rest)

/-- Reads a document. A byte order mark in front of it is skipped. -/
def read? (source : String) : Option Json := do
  let cs := match source.toList with
    | '\uFEFF' :: cs => cs
    | cs => cs
  let (top, rest) ← pairLines? (cs.length + 1) cs
  documentOf? top (← blocks? (rest.length + 1) rest)

end PurchaseStatus.Toml
