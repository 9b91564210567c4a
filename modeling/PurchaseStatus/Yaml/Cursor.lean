namespace PurchaseStatus.Yaml

/-- What is left of a source, and the column where it begins. Line breaks are line feeds. -/
structure Cursor where
  rest : List Char
  column : Nat
  deriving DecidableEq

/-- A carriage return, alone or before a line feed, is a line break like any other. -/
def unifyBreaks : List Char → List Char
  | [] => []
  | '\r' :: '\n' :: cs => '\n' :: unifyBreaks cs
  | '\r' :: cs => '\n' :: unifyBreaks cs
  | c :: cs => c :: unifyBreaks cs

def isBlank (c : Char) : Bool := c == ' ' || c == '\t'

/-- Whether a token may end before these characters. -/
def endsToken : List Char → Bool
  | [] => true
  | c :: _ => isBlank c || c == '\n'

/-- The characters that structure lists and tables between brackets. -/
def isFlowMark (c : Char) : Bool := c == ',' || c == '[' || c == ']' || c == '{' || c == '}'

namespace Cursor

def start (source : String) : Cursor := ⟨unifyBreaks source.toList, 0⟩

/-- The cursor behind the first character. -/
def skip (here : Cursor) : Cursor :=
  match here.rest with
  | [] => here
  | c :: cs => ⟨cs, if c = '\n' then 0 else here.column + 1⟩

def skipMany : Nat → Cursor → Cursor
  | 0, here => here
  | count + 1, here => skipMany count here.skip

/-- Skips the characters that satisfy `p`. -/
def skipWhile (p : Char → Bool) (here : Cursor) : Cursor :=
  skipMany (here.rest.takeWhile p).length here

def skipBlanks (here : Cursor) : Cursor := here.skipWhile isBlank

def isAtEnd (here : Cursor) : Bool := here.rest.isEmpty

/-- Whether nothing or only a comment is left on the line. -/
def isAtLineEnd (here : Cursor) : Bool := here.rest.head?.all fun c => c == '\n' || c == '#'

/-- Skips blanks, line breaks and comments. -/
def skipSpace : Nat → Cursor → Cursor
  | 0, here => here
  | fuel + 1, here =>
    let next := here.skipBlanks
    match next.rest with
    | '\n' :: _ => skipSpace fuel next.skip
    | '#' :: _ => skipSpace fuel (next.skipWhile (· != '\n'))
    | _ => next

/-- The cursor at the next token. -/
def toToken (here : Cursor) : Cursor := skipSpace (here.rest.length + 1) here

/-- The cursor at the next token, where the rest of the line holds nothing but a comment. -/
def nextLine? (here : Cursor) : Option Cursor :=
  if here.skipBlanks.isAtLineEnd then some here.toToken else none

/-- Whether a document begins or ends here. -/
def isAtMarker (mark : String) (here : Cursor) : Bool :=
  here.column = 0 && mark.toList.isPrefixOf here.rest && endsToken (here.rest.drop 3)

def isAtDocumentEnd (here : Cursor) : Bool := here.isAtMarker "---" || here.isAtMarker "..."

/-- Whether an entry of a list begins here. -/
def isAtDash (here : Cursor) : Bool :=
  here.rest.head? == some '-' && endsToken (here.rest.drop 1) && !here.isAtMarker "---"

end Cursor

end PurchaseStatus.Yaml
