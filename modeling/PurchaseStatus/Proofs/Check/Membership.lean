import PurchaseStatus.Proofs.Check.Negation
import PurchaseStatus.Proofs.Rule.References

namespace PurchaseStatus

variable {n : Nat}

/-- Texts, booleans, integers and floats. -/
def Json.isScalar : Json → Bool
  | .string _ | .bool _ | .int _ | .float _ => true
  | .null | .array _ | .object _ => false

/-- Only a scalar has a text. -/
theorem Json.isSome_text? (value : Json) : value.text?.isSome = value.isScalar := by
  cases value <;> rfl

/-- The texts of a list are those of the scalars in it. -/
theorem Json.mem_filterMap_text?_iff {items : List Json} {text : String} :
    text ∈ items.filterMap Json.text? ↔
      ∃ value ∈ items, value.isScalar = true ∧ value.text? = some text := by
  rw [List.mem_filterMap]
  refine exists_congr fun value => and_congr_right fun _ => ?_
  rw [iff_and_self]
  intro htext
  rw [← isSome_text?, htext, Option.isSome_some]

namespace CheckConfig

variable (check : CheckConfig) (tree : ConfigTree) (input : CheckInput n)

/-- The operands for a comparison with one value, as texts. -/
def withValue (value : Json) : CheckConfig := { check with value := some value, cast := none }

/-- The operands for a comparison with the values of a list. -/
def withValues (values : List Json) : CheckConfig := { check with values := some values }

/-- The operands for a comparison with the values of a list that is referred to. -/
def withListKey (key : String) : CheckConfig := { check with values := none, listKey := some key }

/-- The column that the check compares, as text. -/
def texts? : Option (Texts n) := check.field.bind input.batch.text?

/-- Whether the comparison with one value, or its negation, can be evaluated and is true of a row. -/
def equalAt (negate : Bool) (value : Json) (row : Fin n) : Bool :=
  ((check.withValue value).maskAs? tree input (Comparison.equals.name negate)).any (·.get row)

/-- Equality with one value is equality with its text. -/
theorem matched?_withValue {value : Json} (hscalar : value.isScalar = true) :
    (check.withValue value).matched? tree input .equals =
      (check.texts? input).map (·.rowsWhere false fun text => value.text? == some text) := by
  obtain ⟨want, hwant⟩ := Option.isSome_iff_exists.1 (value.isSome_text?.trans hscalar)
  have hexpected : (check.withValue value).expected? tree = some (.text want) := by
    simp [expected?, value?, withValue, hwant]
  have hequal : (fun text => value.text? == some text) = (· == want) := by
    funext text
    rw [hwant, Option.some_beq_some, BEq.comm]
  simp only [matched?, hexpected, Option.bind_eq_bind, Option.bind_some, texts?, Option.map_bind, hequal]
  rfl

theorem members?_withValues (values : List Json) :
    (check.withValues values).members? tree = some (values.filterMap Json.text?) := rfl

/-- A key that names a list stands for the texts of its scalars. -/
theorem members?_withListKey {key : String} {values : List Json} (hlist : tree.literalList? key = some values) :
    (check.withListKey key).members? tree = some (values.filterMap Json.text?) := by
  have hmembers : (check.withListKey key).members? tree = tree.resolveList? key := rfl
  rw [hmembers, ConfigTree.resolveList?_eq, hlist, Option.map_some]

/-- Membership looks for the text of a cell among the members. -/
theorem matched?_inList {members : List String} (hmembers : check.members? tree = some members) :
    check.matched? tree input .inList = (check.texts? input).map (·.rowsWhere false members.contains) := by
  simp only [matched?, hmembers, Option.bind_eq_bind, Option.bind_some, texts?, Option.map_eq_bind,
    Option.bind_assoc]
  rfl

/-- A text is among those of a list if it is that of one value in it. -/
theorem elim_contains_iff {items : List Json} {cell : Option String} :
    cell.elim false (items.filterMap Json.text?).contains = true ↔
      ∃ value ∈ items, (cell.elim false fun text => value.text? == some text) = true := by
  cases cell with
  | none => simp
  | some text => simp

/-- Only the scalars of a list count, each once and in any order. -/
theorem rowsWhere_of_scalars {items others : List Json}
    (hscalars : ∀ value : Json, value.isScalar = true → (value ∈ others ↔ value ∈ items))
    (column : Texts n) : column.rowsWhere false (others.filterMap Json.text?).contains =
      column.rowsWhere false (items.filterMap Json.text?).contains := by
  have hcontains : (others.filterMap Json.text?).contains = (items.filterMap Json.text?).contains := by
    funext text
    rw [Bool.eq_iff_iff, List.contains_iff_mem, List.contains_iff_mem, Json.mem_filterMap_text?_iff,
      Json.mem_filterMap_text?_iff]
    refine exists_congr fun value => ?_
    constructor
    · rintro ⟨hmem, hscalar, htext⟩
      exact ⟨(hscalars value hscalar).1 hmem, hscalar, htext⟩
    · rintro ⟨hmem, hscalar, htext⟩
      exact ⟨(hscalars value hscalar).2 hmem, hscalar, htext⟩
  rw [hcontains]

/-- No masks are registered for the comparisons with one value or with those of a list. -/
def EqualitiesUnregistered : Prop :=
  ∀ negate, input.Unregistered (Comparison.equals.name negate) ∧
    input.Unregistered (Comparison.inList.name negate)

section Unregistered

variable {check tree input} (hfree : EqualitiesUnregistered input)

include hfree

/-- The check for one value as a mask of the texts in its column, the negated one included. -/
theorem maskAs?_withValue {value : Json} (hscalar : value.isScalar = true) (negate : Bool) :
    (check.withValue value).maskAs? tree input (Comparison.equals.name negate) =
      (check.texts? input).map fun column =>
        Check.negateIf negate (column.rowsWhere false fun text => value.text? == some text) := by
  rw [maskAs?_of_unregistered _ tree input (hfree negate).1, check.matched?_withValue tree input hscalar,
    Option.map_map]
  rfl

/-- The check for a list as a mask of the texts in the same column. -/
theorem maskAs?_inList {members : List String} (hmembers : check.members? tree = some members)
    (negate : Bool) : check.maskAs? tree input (Comparison.inList.name negate) =
      (check.texts? input).map fun column =>
        Check.negateIf negate (column.rowsWhere false members.contains) := by
  rw [maskAs?_of_unregistered _ tree input (hfree negate).2, check.matched?_inList tree input hmembers,
    Option.map_map]
  rfl

/-- Lists in which the same scalars stand, written out or referred to, make the same mask. -/
theorem maskAs?_inList_congr {other : CheckConfig} {items others : List Json}
    (hitems : check.members? tree = some (items.filterMap Json.text?))
    (hothers : other.members? tree = some (others.filterMap Json.text?))
    (hscalars : ∀ value : Json, value.isScalar = true → (value ∈ others ↔ value ∈ items))
    (hfield : other.field = check.field) (negate : Bool) :
    other.maskAs? tree input (Comparison.inList.name negate) =
      check.maskAs? tree input (Comparison.inList.name negate) := by
  rw [maskAs?_inList hfree hothers, maskAs?_inList hfree hitems]
  simp only [texts?, hfield, rowsWhere_of_scalars hscalars]

/-- What the check for one value says of a row. -/
theorem equalAt_of_texts? {column : Texts n} (hcolumn : check.texts? input = some column) {value : Json}
    (hscalar : value.isScalar = true) (negate : Bool) (row : Fin n) :
    check.equalAt tree input negate value row =
      (negate ^^ (column.get row).elim false fun text => value.text? == some text) := by
  rw [equalAt, maskAs?_withValue hfree hscalar, hcolumn, Option.map_some, Option.any_some,
    Check.get_negateIf, Series.get_rowsWhere]

/-- A check for a list that can be evaluated reads its column as text. -/
theorem exists_column_of_withValues {members : List Json} {negate : Bool} {mask : Mask n}
    (hmask : (check.withValues members).maskAs? tree input (Comparison.inList.name negate) = some mask) :
    ∃ column, check.texts? input = some column ∧ ∀ row, mask.get row =
      (negate ^^ (column.get row).elim false (members.filterMap Json.text?).contains) := by
  rw [maskAs?_inList hfree (check.members?_withValues tree members)] at hmask
  obtain ⟨column, hcolumn, rfl⟩ := Option.map_eq_some_iff.1 hmask
  refine ⟨column, hcolumn, fun row => ?_⟩
  rw [Check.get_negateIf, Series.get_rowsWhere]

end Unregistered

/-- A check for the members of a list, in terms of the checks for one value. It is there exactly if they
are, a row passes it if it passes one of them, and the negated check if it passes all of the negated
ones. -/
structure MembershipIsUnion (members : List Json) : Prop where
  absent_iff : ∀ (value : Json) (negate negate' : Bool), value.isScalar = true →
    ((check.withValues members).maskAs? tree input (Comparison.inList.name negate) = none ↔
      (check.withValue value).maskAs? tree input (Comparison.equals.name negate') = none)
  rows : ∀ mask, (check.withValues members).maskAs? tree input (Comparison.inList.name false) = some mask →
    ∀ row, mask.get row = true ↔ ∃ value ∈ members, check.equalAt tree input false value row = true
  negated_rows : ∀ mask,
    (check.withValues members).maskAs? tree input (Comparison.inList.name true) = some mask →
    ∀ row, mask.get row = true ↔ ∀ value ∈ members, check.equalAt tree input true value row = true
  /-- Neither order nor repetition counts, nor what is not a scalar. -/
  same_scalars : ∀ (others : List Json) (negate : Bool),
    (∀ value : Json, value.isScalar = true → (value ∈ others ↔ value ∈ members)) →
    (check.withValues others).maskAs? tree input (Comparison.inList.name negate) =
      (check.withValues members).maskAs? tree input (Comparison.inList.name negate)
  referred : ∀ (key : String) (others : List Json) (negate : Bool), tree.literalList? key = some others →
    (∀ value : Json, value.isScalar = true → (value ∈ others ↔ value ∈ members)) →
    (check.withListKey key).maskAs? tree input (Comparison.inList.name negate) =
      (check.withValues members).maskAs? tree input (Comparison.inList.name negate)

/-- Being in a list is being equal to one of its members, and not being in it is being equal to none.
Repetition and order of the members count for nothing, nor do members that are no scalars, and it makes
no difference whether the list is written out or a key names it. -/
theorem membership_isUnion {members : List Json} (hfree : EqualitiesUnregistered input)
    (hmembers : ∀ value ∈ members, value.isScalar = true) :
    check.MembershipIsUnion tree input members where
  absent_iff value negate negate' hscalar := by
    rw [maskAs?_inList hfree (check.members?_withValues tree members), maskAs?_withValue hfree hscalar,
      Option.map_eq_none_iff, Option.map_eq_none_iff]
    rfl
  rows mask hmask row := by
    obtain ⟨column, hcolumn, hrows⟩ := exists_column_of_withValues hfree hmask
    rw [hrows, Bool.false_xor, elim_contains_iff]
    refine exists_congr fun value => and_congr_right fun hmem => ?_
    rw [equalAt_of_texts? hfree hcolumn (hmembers value hmem), Bool.false_xor]
  negated_rows mask hmask row := by
    obtain ⟨column, hcolumn, hrows⟩ := exists_column_of_withValues hfree hmask
    rw [hrows, Bool.true_xor, Bool.not_eq_true', ← Bool.not_eq_true, elim_contains_iff, not_exists]
    refine forall_congr' fun value => ?_
    rw [not_and]
    refine forall_congr' fun hmem => ?_
    rw [equalAt_of_texts? hfree hcolumn (hmembers value hmem), Bool.true_xor, Bool.not_eq_true',
      Bool.not_eq_true]
  same_scalars others negate hscalars :=
    maskAs?_inList_congr hfree (check.members?_withValues tree members)
      (check.members?_withValues tree others) hscalars rfl negate
  referred key others negate hlist hscalars :=
    maskAs?_inList_congr hfree (check.members?_withValues tree members)
      (check.members?_withListKey tree hlist) hscalars rfl negate

def kinds : List Json := [.string "a", .int 3, .bool true]

/-- The same kinds, one of them twice, and what is not a scalar. -/
def listedKinds : List Json := [.bool true, .null, .int 3, .string "a", .array [.string "b"], .int 3]

def kindTree : ConfigTree := ⟨.object [("spx", .object [("kinds", .array listedKinds)])]⟩

def ofKind : CheckConfig := { type := "in_list", field := some "kind" }

/-- The mask is too short to count. -/
def typedItems : CheckInput 4 :=
  { batch := ⟨⟨[("kind", .text ⟨[some "3", none, some "true", some "b"], rfl⟩)]⟩⟩
    statusColumn := "status", date := none, entity := none, config := kindTree
    masks := ⟨[("in_list", [some true])]⟩ }

theorem membership_isUnion_kinds :
    EqualitiesUnregistered typedItems ∧ (∀ value ∈ kinds, value.isScalar = true) ∧
    ((ofKind.withListKey "spx.kinds").maskAs? kindTree typedItems "in_list").map (·.toList) =
      some [true, false, true, false] ∧
    (ofKind.withListKey "spx.kinds").maskAs? kindTree typedItems "not_in_list" =
      (ofKind.withValues kinds).maskAs? kindTree typedItems "not_in_list" := by
  have hnone : ∀ negate, typedItems.registered? (Comparison.equals.name negate) = none ∧
      typedItems.registered? (Comparison.inList.name negate) = none := by decide
  have hfree : EqualitiesUnregistered typedItems := fun negate =>
    ⟨(Check.registered?_eq_none_iff _ _).1 (hnone negate).1,
      (Check.registered?_eq_none_iff _ _).1 (hnone negate).2⟩
  have hscalar : ∀ value ∈ kinds, value.isScalar = true := by decide
  have hlisted : ∀ value : Json, value.isScalar = true → (value ∈ listedKinds ↔ value ∈ kinds) := by
    intro value hvalue
    cases value <;> simp_all [listedKinds, kinds, Json.isScalar]
  have hunion := membership_isUnion ofKind kindTree typedItems hfree hscalar
  exact ⟨hfree, hscalar, by decide, hunion.referred "spx.kinds" listedKinds true rfl hlisted⟩

end CheckConfig

end PurchaseStatus
