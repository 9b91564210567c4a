import PurchaseStatus.Check.Builtin
import PurchaseStatus.Pattern.Reader
import PurchaseStatus.Rule.Config
import PurchaseStatus.Sorting

namespace PurchaseStatus

/-- What an `equals` check compares with. -/
inductive Expected where
  | int (value : Int)
  | float (value : Float)
  | text (value : String)
  deriving DecidableEq

/-- The checks that read a configured field, each with its negation. -/
inductive Comparison where
  | contains
  | equals
  | inList
  | isNull
  deriving DecidableEq, Repr

namespace Comparison

def name : Comparison → Bool → String
  | contains, false => "contains"
  | contains, true => "not_contains"
  | equals, false => "equals"
  | equals, true => "not_equals"
  | inList, false => "in_list"
  | inList, true => "not_in_list"
  | isNull, false => "is_null"
  | isNull, true => "is_not_null"

/-- The comparison of a type name, and whether it is negated. -/
def ofName? (text : String) : Option (Comparison × Bool) :=
  [(contains, false), (contains, true), (equals, false), (equals, true), (inList, false),
    (inList, true), (isNull, false), (isNull, true)].find? fun (c, negate) => c.name negate == text

@[simp] theorem ofName?_name (c : Comparison) (negate : Bool) :
    ofName? (c.name negate) = some (c, negate) := by
  cases c <;> cases negate <;> rfl

theorem name_of_ofName? {text : String} {c : Comparison} {negate : Bool}
    (h : ofName? text = some (c, negate)) : c.name negate = text := by
  simpa using List.find?_some h

end Comparison

/-- A check with its references resolved. What could not be resolved or read is missing. -/
inductive Check where
  | contains (field : Option String) (pattern : Option Pattern) (negate : Bool)
  | equals (field : Option String) (expected : Option Expected) (negate : Bool)
  /-- The values are distinct and sorted, as only membership counts. -/
  | inList (field : Option String) (values : Option (List String)) (negate : Bool)
  | isNull (field : Option String) (negate : Bool)
  | builtin (builtin : Builtin)
  /-- Matches only through a mask registered under this name. -/
  | prebuilt (name : String)
  /-- Matches every row. -/
  | always

/-- Whether checks of this type compare a configured field. -/
def needsField (type : String) : Bool := (Comparison.ofName? type).isSome

/-- Whether the type is evaluated here, and not only through a registered mask. -/
def isKnownType (type : String) : Bool := needsField type || (Builtin.ofName? type).isSome

namespace CheckConfig

variable (config : CheckConfig) (tree : ConfigTree)

/-- The literal pattern, or else the text that is referred to. -/
def patternText? : Option String :=
  match config.pattern, config.patternKey with
  | some pattern, _ => some pattern
  | none, some key => tree.resolveText? key
  | none, none => none

def compiledPattern? : Option Pattern := (config.patternText? tree).bind Pattern.compile?

/-- The literal value, or else the one that is referred to. -/
def value? : Option Json :=
  match config.value, config.valueKey with
  | some value, _ => some value
  | none, some key => tree.resolve? key
  | none, none => none

/-- A float as an integer of sixty-four bits: the fraction is cut off, what is beyond the range
becomes the nearest end, and NaN is zero. -/
def saturated (x : Float) : Int :=
  match Decimal.Binary.ofFloat x with
  | .nan => 0
  | .infinite negative => if negative then Decimal.int64Min else Decimal.int64Max
  | finite => max Decimal.int64Min (min Decimal.int64Max (finite.truncate?.getD 0))

/-- A number as an integer; any other scalar by the text of one. -/
def intOf? (value : Json) (text : String) : Option Int :=
  match value with
  | .int i => some (min i Decimal.int64Max)
  | .float x => some (saturated x)
  | _ => Decimal.integer? (Text.trim text)

/-- The value as it is compared: by the cast, or as text. Lists and tables cannot be. -/
def expected? : Option Expected := do
  let value ← config.value? tree
  let text ← value.text?
  match config.cast with
  | some .int => (intOf? value text).map .int
  | some .float => (Decimal.float? (Text.trim text)).map .float
  | some .text | none => some (.text text)

/-- The texts of the scalars among the literal values, or else those of the list that is referred
to. -/
def members? : Option (List String) :=
  match config.values, config.listKey with
  | some values, _ => some (values.filterMap Json.text?)
  | none, some key => tree.resolveList? key
  | none, none => none

def compile : Check :=
  match Comparison.ofName? config.type with
  | some (.contains, negate) => .contains config.field (config.compiledPattern? tree) negate
  | some (.equals, negate) => .equals config.field (config.expected? tree) negate
  | some (.inList, negate) => .inList config.field ((config.members? tree).map distinctTexts) negate
  | some (.isNull, negate) => .isNull config.field negate
  | none =>
    match Builtin.ofName? config.type with
    | some builtin => .builtin builtin
    | none => .prebuilt config.type

end CheckConfig

/-- The type name, under which a mask may be registered. -/
def Check.name : Check → String
  | contains _ _ negate => Comparison.contains.name negate
  | equals _ _ negate => Comparison.equals.name negate
  | inList _ _ negate => Comparison.inList.name negate
  | isNull _ negate => Comparison.isNull.name negate
  | builtin b => b.name
  | prebuilt name => name
  | always => "always"

/-- A compiled check keeps the type name of its configuration. -/
theorem CheckConfig.name_compile (config : CheckConfig) (tree : ConfigTree) :
    (config.compile tree).name = config.type := by
  unfold compile
  split
  case h_5 =>
    split
    · rename_i h
      exact Builtin.name_of_ofName? h
    · rfl
  all_goals rename_i h; exact Comparison.name_of_ofName? h

end PurchaseStatus
