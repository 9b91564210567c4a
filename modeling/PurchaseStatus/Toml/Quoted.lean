import PurchaseStatus.Json.Reader

namespace PurchaseStatus.Toml

/-- Tabs and everything that is printable or not ASCII. -/
def isTextChar (c : Char) : Bool := c == '\t' || (32 ≤ c.toNat && c.toNat != 127)

/-- A line break, as a line feed alone or behind a carriage return. -/
def lineBreak? : List Char → Option (List Char)
  | '\n' :: cs => some cs
  | '\r' :: '\n' :: cs => some cs
  | _ => none

def isBlankChar (c : Char) : Bool := c == ' ' || c == '\t'

def skipBlanks (cs : List Char) : List Char := cs.dropWhile isBlankChar

/-- The character of so many hexadecimal digits. -/
def codePoint? (digits : Nat) (cs : List Char) : Option (Char × List Char) := do
  let read := cs.take digits
  let values ← read.mapM Json.hexDigit?
  let code := values.foldl (fun n digit => 16 * n + digit) 0
  if read.length = digits ∧ code.isValidChar then return (Char.ofNat code, cs.drop digits) else none

/-- What follows a backslash. -/
def escape? : List Char → Option (Char × List Char)
  | 'b' :: cs => some ('\x08', cs)
  | 't' :: cs => some ('\t', cs)
  | 'n' :: cs => some ('\n', cs)
  | 'f' :: cs => some ('\x0c', cs)
  | 'r' :: cs => some ('\r', cs)
  | '"' :: cs => some ('"', cs)
  | '\\' :: cs => some ('\\', cs)
  | 'u' :: cs => codePoint? 4 cs
  | 'U' :: cs => codePoint? 8 cs
  | _ => none

/-- A text on one line up to its quote; `read` holds what was read so far in reverse. -/
def basicBody? : Nat → List Char → List Char → Option (String × List Char)
  | 0, _, _ => none
  | _ + 1, _, [] => none
  | fuel + 1, read, c :: cs =>
    if c = '"' then some (String.ofList read.reverse, cs)
    else if c = '\\' then do
      let (c, cs) ← escape? cs
      basicBody? fuel (c :: read) cs
    else if isTextChar c then basicBody? fuel (c :: read) cs
    else none

/-- A text on one line without escapes. -/
def literalBody? (cs : List Char) : Option (String × List Char) :=
  match cs.span fun c => c != '\'' && isTextChar c with
  | (read, '\'' :: rest) => some (String.ofList read, rest)
  | _ => none

/-- What a backslash at the end of a line joins: all white space up to the next character. -/
def joinedLine? (cs : List Char) : Option (List Char) :=
  (lineBreak? (skipBlanks cs)).map fun rest =>
    rest.dropWhile fun c => isBlankChar c || c == '\n' || c == '\r'

/-- The end of a text in triple quotes. Up to two quotes in front of it belong to the text. -/
def closing? (quote : Char) (cs : List Char) : Option (List Char × List Char) :=
  let quotes := cs.takeWhile (· == quote)
  let count := min 5 quotes.length
  if count < 3 then none else some (List.replicate (count - 3) quote, cs.drop count)

/-- A text over several lines up to its triple quotes. -/
def multiLineBody? (quote : Char) : Nat → List Char → List Char → Option (String × List Char)
  | 0, _, _ => none
  | _ + 1, _, [] => none
  | fuel + 1, read, c :: cs =>
    match closing? quote (c :: cs) with
    | some (quotes, rest) => some (String.ofList (read.reverse ++ quotes), rest)
    | none =>
      match lineBreak? (c :: cs) with
      | some rest => multiLineBody? quote fuel ('\n' :: read) rest
      | none =>
        if c = '\\' ∧ quote = '"' then
          match joinedLine? cs with
          | some rest => multiLineBody? quote fuel read rest
          | none => do
            let (c, cs) ← escape? cs
            multiLineBody? quote fuel (c :: read) cs
        else if isTextChar c then multiLineBody? quote fuel (c :: read) cs
        else none

/-- A line break directly behind the opening quotes is no part of the text. -/
def multiLine? (quote : Char) (cs : List Char) : Option (String × List Char) :=
  multiLineBody? quote (cs.length + 1) [] ((lineBreak? cs).getD cs)

/-- A text on one line, in either kind of quotes. -/
def singleLine? : List Char → Option (String × List Char)
  | '"' :: cs => basicBody? (cs.length + 1) [] cs
  | '\'' :: cs => literalBody? cs
  | _ => none

/-- A text in any kind of quotes. -/
def quoted? : List Char → Option (String × List Char)
  | '"' :: '"' :: '"' :: cs => multiLine? '"' cs
  | '\'' :: '\'' :: '\'' :: cs => multiLine? '\'' cs
  | cs => singleLine? cs

end PurchaseStatus.Toml
