namespace PurchaseStatus.Unicode

/-- The parts of a list between separators. -/
def splitAt (sep : Char) : List Char → List (List Char)
  | [] => [[]]
  | c :: cs =>
    if c = sep then [] :: splitAt sep cs
    else
      match splitAt sep cs with
      | part :: parts => (c :: part) :: parts
      | [] => [[c]]

def fields (sep : Char) (text : String) : List String := (splitAt sep text.toList).map String.ofList

/-- The parts of a text between blanks and line breaks. -/
def words (text : String) : List String :=
  (fields ' ' (String.ofList (text.toList.map fun c => if c = '\n' then ' ' else c))).filter (· != "")

/-- A number in upper-case hexadecimal digits. -/
def hexNumber (text : String) : Nat :=
  text.toList.foldl
    (fun n c => 16 * n + if c.isDigit then c.toNat - '0'.toNat else c.toNat - 'A'.toNat + 10) 0

/-- A set of code points, as ascending ranges with both ends. -/
structure Ranges where
  ranges : List (Nat × Nat)

/-- Reads ranges such as `41-5A` and single code points, with white space between them. -/
def Ranges.read (text : String) : Ranges :=
  ⟨(words text).map fun range =>
    match fields '-' range with
    | [first, last] => (hexNumber first, hexNumber last)
    | _ => (hexNumber range, hexNumber range)⟩

def containsCode (code : Nat) : List (Nat × Nat) → Bool
  | [] => false
  | (first, last) :: rest => if code ≤ last then first ≤ code else containsCode code rest

def Ranges.contains (set : Ranges) (code : Nat) : Bool := containsCode code set.ranges

/-- A partition of the code points into labelled runs, each given by its first. -/
structure Runs where
  runs : List (Nat × String)

/-- Reads runs such as `41Lu`, whose labels have the given length. -/
def Runs.read (width : Nat) (text : String) : Runs :=
  ⟨(words text).map fun run =>
    let cs := run.toList
    let digits := cs.length - width
    (hexNumber (String.ofList (cs.take digits)), String.ofList (cs.drop digits))⟩

def labelAt (code : Nat) (label : String) : List (Nat × String) → String
  | [] => label
  | (first, next) :: rest => if first ≤ code then labelAt code next rest else label

/-- The label of the run that a code point lies in. -/
def Runs.label (runs : Runs) (code : Nat) : String := labelAt code "" runs.runs

end PurchaseStatus.Unicode
