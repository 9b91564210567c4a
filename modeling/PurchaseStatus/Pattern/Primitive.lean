import PurchaseStatus.Pattern.Syntax

namespace PurchaseStatus.Pattern

/-- What the letters in `(?…)` switch. -/
structure Flags where
  ignoreCase : Bool := false
  multiLine : Bool := false
  dotAll : Bool := false
  swapGreed : Bool := false
  unicode : Bool := true
  anyLineEnd : Bool := false
  /-- Blanks and comments in the pattern do not count. -/
  verbose : Bool := false

/-- Leaves out blanks and comments; `inComment` tells where it starts. -/
def skipVerbose : Bool → List Char → List Char
  | _, [] => []
  | true, c :: cs => skipVerbose (c != '\n') cs
  | false, c :: cs =>
    if Text.isSpace c then skipVerbose false cs
    else if c = '#' then skipVerbose true cs
    else c :: cs

def Flags.skip (flags : Flags) (cs : List Char) : List Char :=
  if flags.verbose then skipVerbose false cs else cs

/-- The smallest parts of a pattern. -/
inductive Primitive where
  /-- `byte` tells a character written as two hexadecimal digits. -/
  | literal (c : Char) (byte : Bool)
  | named (set : NamedSet) (negated : Bool)
  /-- A class of one letter, `\d`, `\s` or `\w`. -/
  | letter (set : NamedSet) (negated : Bool)
  | anyChar
  | place (place : Place)

def hexValue? (c : Char) : Option Nat :=
  if c.isDigit then some (c.toNat - '0'.toNat)
  else if 'a' ≤ c ∧ c ≤ 'f' then some (c.toNat - 'a'.toNat + 10)
  else if 'A' ≤ c ∧ c ≤ 'F' then some (c.toNat - 'A'.toNat + 10)
  else none

/-- The character of a code point, if it has one. -/
def charOf? (code : Nat) : Option Char := if code.isValidChar then some (Char.ofNat code) else none

/-- Exactly so many hexadecimal digits. -/
def hexDigits? (flags : Flags) : Nat → Nat → List Char → Option (Nat × List Char)
  | 0, code, cs => some (code, cs)
  | _ + 1, _, [] => none
  | count + 1, code, c :: cs => do
    let digit ← hexValue? c
    hexDigits? flags count (16 * code + digit) (flags.skip cs)

/-- The characters up to a closing brace, blanks left out where they do not count. -/
def braced? (flags : Flags) : Nat → List Char → Option (List Char × List Char)
  | 0, _ => none
  | fuel + 1, cs =>
    match flags.skip cs with
    | [] => none
    | '\x7d' :: rest => some ([], rest)
    | c :: rest => (braced? flags fuel rest).map fun (inner, rest) => (c :: inner, rest)

def hexCode? (flags : Flags) (digits : Nat) (cs : List Char) : Option (Primitive × List Char) :=
  match flags.skip cs with
  | '\x7b' :: rest => do
    let (inner, rest) ← braced? flags (rest.length + 1) rest
    if inner.isEmpty then none
    let code ← inner.foldlM (fun code c => (hexValue? c).map (16 * code + ·)) 0
    let c ← charOf? code
    return (.literal c false, flags.skip rest)
  | rest => do
    let (code, rest) ← hexDigits? flags digits 0 rest
    let c ← charOf? code
    return (.literal c (digits == 2), rest)

/-- Splits at the first occurrence of a mark. -/
def splitMark? (mark : List Char) : List Char → Option (List Char × List Char)
  | [] => none
  | c :: cs =>
    if mark.isPrefixOf (c :: cs) then some ([], (c :: cs).drop mark.length)
    else (splitMark? mark cs).map fun (before, after) => (c :: before, after)

/-- The name of a class in braces, or a property with its value; `!=` turns it round. -/
def bracedClass? (inner : List Char) : Option (NamedSet × Bool) :=
  let value (parts : List Char × List Char) (negated : Bool) :=
    (NamedSet.ofValue? (String.ofList parts.1) (String.ofList parts.2)).map fun set => (set, negated)
  match splitMark? ['!', '='] inner, splitMark? [':'] inner, splitMark? ['='] inner with
  | some parts, _, _ => value parts true
  | none, some parts, _ => value parts false
  | none, none, some parts => value parts false
  | none, none, none => (NamedSet.ofName? (String.ofList inner)).map fun set => (set, false)

def unicodeClass? (flags : Flags) (negated : Bool) (cs : List Char) :
    Option (Primitive × List Char) :=
  match flags.skip cs with
  | [] => none
  | '\x7b' :: rest => do
    let (inner, rest) ← braced? flags (rest.length + 1) rest
    let (set, turned) ← bracedClass? inner
    return (.named set (negated != turned), rest)
  | '\\' :: _ => none
  | c :: rest => do
    let set ← NamedSet.ofName? (String.ofList [c])
    return (.named set negated, flags.skip rest)

def isBoundaryLetter (c : Char) : Bool := c.isAlpha || c == '-'

/-- The word in braces behind `\b`. Braces that hold no word are left for a repetition. -/
def boundaryName? (flags : Flags) (cs : List Char) : Option (Option (String × List Char)) :=
  match flags.skip cs with
  | [] => none
  | c :: rest =>
    if !isBoundaryLetter c then some none else do
    let (inner, rest) ← braced? flags (rest.length + 2) (c :: rest)
    if inner.all isBoundaryLetter then return some (String.ofList inner, rest) else none

def wordBoundary? (flags : Flags) (cs : List Char) : Option (Primitive × List Char) :=
  let ascii := !flags.unicode
  let plain := (Primitive.place (.wordBoundary ascii), cs)
  match cs with
  | '\x7b' :: inner => do
    match ← boundaryName? flags inner with
    | none => return plain
    | some ("start", rest) => return (.place (.wordStart ascii), rest)
    | some ("end", rest) => return (.place (.wordFinish ascii), rest)
    | some ("start-half", rest) => return (.place (.wordStartHalf ascii), rest)
    | some ("end-half", rest) => return (.place (.wordFinishHalf ascii), rest)
    | some _ => none
  | _ => some plain

/-- What follows a backslash. Letters and digits that mean nothing are refused, and so are
references to groups. -/
def escape? (flags : Flags) : List Char → Option (Primitive × List Char)
  | [] => none
  | c :: cs =>
    let ascii := !flags.unicode
    match c with
    | 'x' => hexCode? flags 2 cs
    | 'u' => hexCode? flags 4 cs
    | 'U' => hexCode? flags 8 cs
    | 'p' => unicodeClass? flags false cs
    | 'P' => unicodeClass? flags true cs
    | 'd' => some (.letter .decimalDigit false, cs)
    | 'D' => some (.letter .decimalDigit true, cs)
    | 's' => some (.letter .space false, cs)
    | 'S' => some (.letter .space true, cs)
    | 'w' => some (.letter .word false, cs)
    | 'W' => some (.letter .word true, cs)
    | 'a' => some (.literal '\x07' false, cs)
    | 'f' => some (.literal '\x0c' false, cs)
    | 't' => some (.literal '\t' false, cs)
    | 'n' => some (.literal '\n' false, cs)
    | 'r' => some (.literal '\r' false, cs)
    | 'v' => some (.literal '\x0b' false, cs)
    | 'A' => some (.place .start, cs)
    | 'z' => some (.place .finish, cs)
    | 'b' => wordBoundary? flags cs
    | 'B' => some (.place (.noWordBoundary ascii), cs)
    | '<' => some (.place (.wordStart ascii), cs)
    | '>' => some (.place (.wordFinish ascii), cs)
    | c => if c.toNat < 128 && !c.isAlphanum then some (.literal c false, cs) else none

/-- Closes a set under case where the flag asks for it, then complements it. Without Unicode a
complement would hold single bytes of longer characters and is refused. -/
def Flags.finishSet? (flags : Flags) (negated : Bool) (set : CharSet) : Option CharSet :=
  let set :=
    if !flags.ignoreCase then set
    else if flags.unicode then .folded set else .asciiFolded set
  if !negated then some set
  else if flags.unicode then some (.complement set) else none

/-- The class of a letter, which is never closed under case. -/
def Flags.letterSet? (flags : Flags) (set : NamedSet) (negated : Bool) : Option CharSet :=
  let chars : CharSet := if flags.unicode then .named set else .inter (.named set) (.named .ascii)
  { flags with ignoreCase := false }.finishSet? negated chars

/-- Without Unicode a character of two digits must be one of ASCII, as bytes of longer
characters cannot stand alone. -/
def Flags.literalSet? (flags : Flags) (c : Char) (byte : Bool) : Option CharSet :=
  if flags.unicode then flags.finishSet? false (.single c)
  else if c.toNat < 128 then flags.finishSet? false (.single c)
  else if byte then none
  else some (.single c)

def Flags.anyCharSet? (flags : Flags) : Option CharSet :=
  if !flags.unicode then none
  else if flags.dotAll then some (.named .any)
  else if flags.anyLineEnd then some (.complement (.union (.single '\n') (.single '\r')))
  else some (.complement (.single '\n'))

/-- The node of a primitive outside brackets. -/
def Flags.primitiveNode? (flags : Flags) : Primitive → Option Node
  | .literal c byte => (flags.literalSet? c byte).map .set
  | .named set negated =>
    if flags.unicode then (flags.finishSet? negated (.named set)).map .set else none
  | .letter set negated => (flags.letterSet? set negated).map .set
  | .anyChar => flags.anyCharSet?.map .set
  | .place place => some (.place place)

def Flags.linePlace (flags : Flags) (whole line anyLine : Place) : Primitive :=
  .place (if !flags.multiLine then whole else if flags.anyLineEnd then anyLine else line)

/-- One primitive outside brackets. -/
def primitive? (flags : Flags) : List Char → Option (Primitive × List Char)
  | [] => none
  | '\\' :: cs => escape? flags cs
  | '.' :: cs => some (.anyChar, cs)
  | '^' :: cs => some (flags.linePlace .start .lineStart .anyLineStart, cs)
  | '$' :: cs => some (flags.linePlace .finish .lineFinish .anyLineFinish, cs)
  | c :: cs => some (.literal c false, cs)

end PurchaseStatus.Pattern
