import PurchaseStatus.Json.Reader
import PurchaseStatus.Yaml.Cursor

namespace PurchaseStatus.Yaml

/-- What a run of white space between two words becomes: blanks alone stay, one line break is a
blank, and of several the first is dropped. -/
def folded (space : List Char) : List Char :=
  match (space.filter (· == '\n')).length with
  | 0 => space
  | 1 => [' ']
  | breaks + 2 => List.replicate (breaks + 1) '\n'

/-- Where a plain text may stand. -/
inductive Place where
  /-- In a block, its further lines at this column or behind it. -/
  | block (column : Nat)
  /-- On the rest of the line, as a key. -/
  | key
  /-- Between brackets. -/
  | flow
  deriving DecidableEq, Repr

def Place.isFlow : Place → Bool
  | flow => true
  | block _ | key => false

/-- Whether a plain text ends before these characters. -/
def endsPlain (place : Place) : List Char → Bool
  | [] => true
  | ':' :: rest => endsToken rest || (place.isFlow && rest.head?.any isFlowMark)
  | c :: _ => place.isFlow && isFlowMark c

/-- One word of a plain text. -/
def plainWord (place : Place) : Nat → Cursor → List Char × Cursor
  | 0, here => ([], here)
  | fuel + 1, here =>
    match here.rest with
    | [] => ([], here)
    | c :: _ =>
      if isBlank c || c == '\n' || endsPlain place here.rest then ([], here)
      else
        let (word, after) := plainWord place fuel here.skip
        (c :: word, after)

def isSpaceChar (c : Char) : Bool := isBlank c || c == '\n'

/-- Whether a plain text goes on at the next word. -/
def continuesPlain (place : Place) (space : List Char) (next : Cursor) : Bool :=
  !next.isAtEnd && next.rest.head? != some '#' && !endsPlain place next.rest &&
    !next.isAtDocumentEnd &&
  match place with
  | .block column => !space.contains '\n' || column ≤ next.column
  | .key => !space.contains '\n'
  | .flow => true

/-- The words of a plain text. The cursor stays behind the last one. -/
def plainWords (place : Place) : Nat → Cursor → List Char × Cursor
  | 0, here => ([], here)
  | fuel + 1, here =>
    let (word, after) := plainWord place (here.rest.length + 1) here
    let space := after.rest.takeWhile isSpaceChar
    let next := after.skipMany space.length
    if !space.isEmpty && continuesPlain place space next then
      let (more, last) := plainWords place fuel next
      (word ++ folded space ++ more, last)
    else (word, after)

/-- The marks with which no plain text begins. -/
def reservedMarks : List Char := ['#', '&', '*', '!', '\'', '"', '%', '@', '`']

/-- Whether a plain text may begin with these characters. -/
def startsPlain (place : Place) : List Char → Bool
  | [] => false
  | c :: rest =>
    if c == '-' then !endsToken rest
    else if c == ':' || c == '?' then !place.isFlow && !endsToken rest
    else if c == '|' || c == '>' then place.isFlow
    else !isFlowMark c && !isSpaceChar c && !reservedMarks.contains c

/-- A plain text. -/
def plain? (place : Place) (here : Cursor) : Option (String × Cursor) :=
  if !startsPlain place here.rest || here.isAtDocumentEnd then none
  else
    let (text, after) := plainWords place (here.rest.length + 1) here
    some (String.ofList text, after)

/-- The character of so many hexadecimal digits. -/
def codePoint? (digits : Nat) (here : Cursor) : Option (Char × Cursor) := do
  let read := here.rest.take digits
  let values ← read.mapM Json.hexDigit?
  let code := values.foldl (fun n digit => 16 * n + digit) 0
  if read.length = digits ∧ code.isValidChar then
    return (Char.ofNat code, here.skipMany digits)
  else none

/-- The characters that an escape of one letter stands for. -/
def escapes : List (Char × Char) := [
  ('0', '\x00'), ('a', '\x07'), ('b', '\x08'), ('t', '\t'), ('\t', '\t'), ('n', '\n'), ('v', '\x0b'),
  ('f', '\x0c'), ('r', '\r'), ('e', '\x1b'), (' ', ' '), ('"', '"'), ('\'', '\''), ('\\', '\\'),
  ('N', '\u0085'), ('_', '\u00a0'), ('L', '\u2028'), ('P', '\u2029')]

/-- What follows a backslash that does not end its line. -/
def escape? (here : Cursor) : Option (Char × Cursor) :=
  match here.rest with
  | [] => none
  | 'x' :: _ => codePoint? 2 here.skip
  | 'u' :: _ => codePoint? 4 here.skip
  | 'U' :: _ => codePoint? 8 here.skip
  | c :: _ => (escapes.lookup c).map (·, here.skip)

/-- What a run of white space in quotes becomes. Behind a line break that is escaped, further line
breaks stay. -/
def quotedSpace (escaped : Bool) (space : List Char) : List Char :=
  if escaped then space.filter (· == '\n') else folded space

/-- A text up to its closing quote. In double quotes a backslash escapes, in single quotes only a
second quote does. `escaped` tells whether an escaped line break comes before. -/
def quotedBody? (quote : Char) : Nat → Bool → Cursor → Option (List Char × Cursor)
  | 0, _, _ => none
  | fuel + 1, escaped, here =>
    if here.isAtDocumentEnd then none else
    match here.rest with
    | [] => none
    | c :: rest =>
      if isSpaceChar c then
        let space := here.rest.takeWhile isSpaceChar
        (quotedBody? quote fuel false (here.skipMany space.length)).map fun (text, after) =>
          (quotedSpace escaped space ++ text, after)
      else if c == quote then
        if quote == '\'' && rest.head? == some '\'' then
          (quotedBody? quote fuel false (here.skipMany 2)).map fun (text, after) => ('\'' :: text, after)
        else some ([], here.skip)
      else if c == '\\' && quote == '"' then
        if rest.head? == some '\n' then quotedBody? quote fuel true (here.skipMany 2)
        else do
          let (c, after) ← escape? here.skip
          let (text, after) ← quotedBody? quote fuel false after
          return (c :: text, after)
      else (quotedBody? quote fuel false here.skip).map fun (text, after) => (c :: text, after)

/-- A text in single or double quotes. -/
def quoted? (here : Cursor) : Option (String × Cursor) :=
  match here.rest with
  | quote :: rest =>
    if quote == '"' || quote == '\'' then
      (quotedBody? quote (rest.length + 1) false here.skip).map fun (text, after) =>
        (String.ofList text, after)
    else none
  | [] => none

/-- What is kept of the line breaks at the end of a block of text. -/
inductive Chomping where
  | strip
  | clip
  | keep
  deriving DecidableEq, Repr

/-- What stands between the mark of a block and the end of its line. -/
structure BlockHeader where
  chomping : Chomping := .clip
  /-- How far the text is indented, where that is given. -/
  indent : Option Nat := none
  deriving DecidableEq, Repr

def BlockHeader.read? : List Char → BlockHeader → Option BlockHeader
  | [], header => some header
  | c :: cs, header =>
    if (c = '+' ∨ c = '-') ∧ header.chomping = .clip then
      read? cs { header with chomping := if c = '+' then .keep else .strip }
    else if c.isDigit ∧ c ≠ '0' ∧ header.indent.isNone then
      read? cs { header with indent := some (c.toNat - '0'.toNat) }
    else none

/-- The lines up to each line feed, and what follows the last one. -/
def linesOf : List Char → List (List Char)
  | [] => [[]]
  | c :: cs =>
    match linesOf cs with
    | line :: lines => if c = '\n' then [] :: line :: lines else (c :: line) :: lines
    | [] => [[c]]

def indentOf (line : List Char) : Nat := (line.takeWhile (· == ' ')).length

def isEmptyLine (line : List Char) : Bool := line.all (· == ' ')

/-- The column of a block of text: the widest indentation up to its first line that is not empty, and
at least the given one. -/
def detectIndent (least : Nat) (lines : List (List Char)) : Nat :=
  let empty := lines.takeWhile isEmptyLine
  let first := (lines.drop empty.length).head?
  (empty ++ first.toList).foldl (fun widest line => max widest (indentOf line)) (max least 1)

/-- The lines that belong to a block of text at a column, without their indentation. -/
def blockLines (indent : Nat) : List (List Char) → List (List Char)
  | [] => []
  | line :: rest =>
    if indent ≤ indentOf line then line.drop indent :: blockLines indent rest
    else if isEmptyLine line then [] :: blockLines indent rest
    else []

def isIndented (line : List Char) : Bool := line.head?.any isBlank

/-- What joins two lines with empty lines between them. In a folded text a single break is a blank,
save next to a line that is indented further. -/
def blockBreak (literal : Bool) (before after : List Char) (empty : Nat) : List Char :=
  if literal || isIndented before || isIndented after then List.replicate (empty + 1) '\n'
  else if empty = 0 then [' ']
  else List.replicate empty '\n'

/-- The lines behind one that is not empty, up to the last such line. -/
def joinBlock (literal : Bool) (before : List Char) : Nat → List (List Char) → List Char
  | _, [] => []
  | empty, line :: rest =>
    if line.isEmpty then joinBlock literal before (empty + 1) rest
    else blockBreak literal before line empty ++ line ++ joinBlock literal line 0 rest

/-- The text of lines that all end in a break, save the last one where `isOpen` says so. Breaks in
front of the first line stay; those behind the last are chomped. -/
def blockText (literal : Bool) (chomping : Chomping) (isOpen : Bool) (lines : List (List Char)) :
    List Char :=
  let leading := lines.takeWhile List.isEmpty
  match lines.drop leading.length with
  | [] => if chomping = .keep then List.replicate leading.length '\n' else []
  | first :: rest =>
    let last := if isOpen then 0 else 1
    let tail := match chomping with
      | .strip => 0
      | .clip => last
      | .keep => last + (rest.reverse.takeWhile List.isEmpty).length
    List.replicate leading.length '\n' ++ first ++ joinBlock literal first 0 rest ++
      List.replicate tail '\n'

/-- A text in a block, literal behind a bar and folded behind an angle. Its lines are indented by
the given column or more. -/
def block? (least : Nat) (here : Cursor) : Option (String × Cursor) := do
  let mark ← here.rest.head?
  if mark ≠ '|' ∧ mark ≠ '>' then none
  let signs := here.rest.tail.takeWhile fun c => c == '+' || c == '-' || c.isDigit
  let header ← BlockHeader.read? signs {}
  let after := (here.skipMany (signs.length + 1)).skipBlanks
  if !after.isAtLineEnd then none
  let lines := linesOf ((after.rest.dropWhile (· != '\n')).drop 1)
  let indent := match header.indent with
    | some width => (least - 1) + width
    | none => detectIndent least lines
  let taken := blockLines indent lines
  let text isOpen taken := String.ofList (blockText (mark == '|') header.chomping isOpen taken)
  if taken.length < lines.length then
    return (text false taken, ⟨List.intercalate ['\n'] (lines.drop taken.length), 0⟩)
  match taken.getLast? with
  | some [] => return (text false taken.dropLast, ⟨[], 0⟩)
  | _ => return (text true taken, ⟨[], 0⟩)

end PurchaseStatus.Yaml
