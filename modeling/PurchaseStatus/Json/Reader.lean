import PurchaseStatus.Json.Basic
import PurchaseStatus.Decimal.Reading

namespace PurchaseStatus.Json

open Decimal

def isBlankChar (c : Char) : Bool := c == ' ' || c == '\n' || c == '\t' || c == '\r'

def skipBlanks (cs : List Char) : List Char := cs.dropWhile isBlankChar

def hexDigit? (c : Char) : Option Nat :=
  if c.isDigit then some (c.toNat - '0'.toNat)
  else if 'a' ≤ c ∧ c ≤ 'f' then some (c.toNat - 'a'.toNat + 10)
  else if 'A' ≤ c ∧ c ≤ 'F' then some (c.toNat - 'A'.toNat + 10)
  else none

def fourHex? : List Char → Option (Nat × List Char)
  | a :: b :: c :: d :: rest => do
    let a ← hexDigit? a
    let b ← hexDigit? b
    let c ← hexDigit? c
    let d ← hexDigit? d
    return (a * 4096 + b * 256 + c * 16 + d, rest)
  | _ => none

def isSurrogate (code : Nat) : Bool := 0xD800 ≤ code && code < 0xE000

/-- What follows `\u`: one code point, or the two halves of one. A half alone is refused. -/
def unicodeEscape? (cs : List Char) : Option (Char × List Char) := do
  let (high, rest) ← fourHex? cs
  if !isSurrogate high then return (Char.ofNat high, rest)
  if 0xDC00 ≤ high then none
  match rest with
  | '\\' :: 'u' :: rest =>
    let (low, rest) ← fourHex? rest
    if 0xDC00 ≤ low ∧ low < 0xE000 then
      return (Char.ofNat (0x10000 + (high - 0xD800) * 1024 + (low - 0xDC00)), rest)
    else none
  | _ => none

/-- What follows a backslash. -/
def escape? : List Char → Option (Char × List Char)
  | '"' :: cs => some ('"', cs)
  | '\\' :: cs => some ('\\', cs)
  | '/' :: cs => some ('/', cs)
  | 'b' :: cs => some ('\x08', cs)
  | 'f' :: cs => some ('\x0c', cs)
  | 'n' :: cs => some ('\n', cs)
  | 'r' :: cs => some ('\r', cs)
  | 't' :: cs => some ('\t', cs)
  | 'u' :: cs => unicodeEscape? cs
  | _ => none

/-- The characters up to the closing quote, read so far in reverse. -/
def stringBody? : Nat → List Char → List Char → Option (String × List Char)
  | 0, _, _ => none
  | _ + 1, _, [] => none
  | fuel + 1, read, c :: cs =>
    if c = '"' then some (String.ofList read.reverse, cs)
    else if c = '\\' then do
      let (c, cs) ← escape? cs
      stringBody? fuel (c :: read) cs
    else if c.toNat < 32 then none
    else stringBody? fuel (c :: read) cs

def fraction? : List Char → Option (List Char × List Char)
  | '.' :: cs =>
    match spanDigits cs with
    | ([], _) => none
    | (digits, rest) => some (digits, rest)
  | cs => some ([], cs)

/-- A number without a point or an exponent that fits is an integer, save negative zero; every
other one is a float and must be finite. -/
def number? (cs : List Char) : Option (Json × List Char) := do
  let (negative, cs) := match cs with
    | '-' :: cs => (true, cs)
    | cs => (false, cs)
  let (whole, rest) := spanDigits cs
  if whole.isEmpty || (whole.head? == some '0' && 1 < whole.length) then none
  let (fraction, after) ← fraction? rest
  let marked := match after with
    | c :: _ => c == 'e' || c == 'E'
    | [] => false
  let (exponent, after) ← if marked then exponent? after else some (0, after)
  let value : Int := if negative then -(ofDigits whole : Int) else ofDigits whole
  if fraction.isEmpty && !marked && !(negative && value == 0) && int64Min ≤ value &&
      value < 0x10000000000000000 then
    return (.int value, after)
  let size := scale (ofDigits (whole ++ fraction)) (exponent - fraction.length)
  if size.isInf then none
  return (.float (if negative then -size else size), after)

def keyword? (word : String) (value : Json) (cs : List Char) : Option (Json × List Char) :=
  if word.toList.isPrefixOf cs then some (value, cs.drop word.length) else none

mutual

/-- One value after blanks. `depth` bounds the nesting of lists and objects. -/
def value? : Nat → Nat → List Char → Option (Json × List Char)
  | 0, _, _ => none
  | fuel + 1, depth, cs =>
    match skipBlanks cs with
    | '"' :: cs => (stringBody? (cs.length + 1) [] cs).map fun (s, rest) => (.string s, rest)
    | '[' :: cs =>
      if depth = 0 then none else
      match skipBlanks cs with
      | ']' :: rest => some (.array [], rest)
      | cs => (items? fuel (depth - 1) cs).map fun (items, rest) => (.array items, rest)
    | '{' :: cs =>
      if depth = 0 then none else
      match skipBlanks cs with
      | '}' :: rest => some (.object [], rest)
      | cs => (fields? fuel (depth - 1) cs).map fun (fields, rest) => (ofFields fields, rest)
    | 't' :: cs => keyword? "rue" (.bool true) cs
    | 'f' :: cs => keyword? "alse" (.bool false) cs
    | 'n' :: cs => keyword? "ull" .null cs
    | cs => number? cs

/-- The items of a list up to its end, at least one. -/
def items? : Nat → Nat → List Char → Option (List Json × List Char)
  | 0, _, _ => none
  | fuel + 1, depth, cs => do
    let (item, rest) ← value? fuel depth cs
    match skipBlanks rest with
    | ',' :: rest =>
      let (items, rest) ← items? fuel depth rest
      return (item :: items, rest)
    | ']' :: rest => return ([item], rest)
    | _ => none

/-- The fields of an object up to its end, at least one. -/
def fields? : Nat → Nat → List Char → Option (List (String × Json) × List Char)
  | 0, _, _ => none
  | fuel + 1, depth, cs =>
    match skipBlanks cs with
    | '"' :: cs => do
      let (name, rest) ← stringBody? (cs.length + 1) [] cs
      match skipBlanks rest with
      | ':' :: rest =>
        let (value, rest) ← value? fuel depth rest
        match skipBlanks rest with
        | ',' :: rest =>
          let (fields, rest) ← fields? fuel depth rest
          return ((name, value) :: fields, rest)
        | '}' :: rest => return ([(name, value)], rest)
        | _ => none
      | _ => none
    | _ => none

end

/-- Lists and objects nest at most this deep. -/
def maxDepth : Nat := 127

/-- Reads a whole document; nothing may follow the value but blanks. -/
def read? (source : String) : Option Json := do
  let cs := source.toList
  let (value, rest) ← value? (2 * cs.length + 2) maxDepth cs
  if (skipBlanks rest).isEmpty then return value else none

end PurchaseStatus.Json
