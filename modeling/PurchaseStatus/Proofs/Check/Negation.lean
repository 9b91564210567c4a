import PurchaseStatus.Proofs.Check.Locality
import PurchaseStatus.Proofs.Check.Reading
import PurchaseStatus.Proofs.Sorting

namespace PurchaseStatus

variable {n : Nat}

/-- Both masks are absent, or each row is in exactly one of them. -/
def Mask.Complementary (x y : Option (Mask n)) : Prop :=
  Option.Rel (fun a b : Mask n => ∀ row, b.get row = !a.get row) x y

theorem Mask.complementary_map_not (x : Option (Mask n)) : Complementary x (x.map Mask.not) := by
  cases x with
  | none => exact .none
  | some mask => exact .some mask.get_not

/-- A negation turns the answer for a row, if there is one. -/
theorem Check.get_negateIf (negate : Bool) (mask : Mask n) (row : Fin n) :
    (negateIf negate mask).get row = (negate ^^ mask.get row) := by
  cases negate with
  | false => simp [negateIf]
  | true => simp [negateIf]

/-- What a comparison makes of a null cell. -/
def Comparison.onNull : Comparison → Bool
  | contains | equals | inList => false
  | isNull => true

namespace CheckConfig

/-- The same operands under another type. -/
def withType (check : CheckConfig) (type : String) : CheckConfig := { check with type }

/-- The mask that the operands give under a type. -/
def maskAs? (check : CheckConfig) (tree : ConfigTree) (input : CheckInput n) (type : String) :
    Option (Mask n) := ((check.withType type).compile tree).evaluate? input

/-- The rows that a comparison with the operands is true of; nothing where an operand or the column is
missing. -/
def matched? (check : CheckConfig) (tree : ConfigTree) (input : CheckInput n) : Comparison → Option (Mask n)
  | .contains => do
    let column ← input.batch.text? (← check.field)
    return column.rowsWhere false (← check.compiledPattern? tree).isFoundIn
  | .equals => do Check.equalsMask? input (← check.field) (← check.expected? tree)
  | .inList => do
    let column ← input.batch.text? (← check.field)
    return column.rowsWhere false (← check.members? tree).contains
  | .isNull => do return (← input.batch.text? (← check.field)).unset

variable (check : CheckConfig) (tree : ConfigTree) (input : CheckInput n)

/-- The check that the operands of a comparison compile to. -/
def compared (comparison : Comparison) (negate : Bool) : Check :=
  match comparison with
  | .contains => .contains check.field (check.compiledPattern? tree) negate
  | .equals => .equals check.field (check.expected? tree) negate
  | .inList => .inList check.field ((check.members? tree).map distinctTexts) negate
  | .isNull => .isNull check.field negate

/-- The name of a comparison brings back the comparison. -/
theorem compile_withType (comparison : Comparison) (negate : Bool) :
    (check.withType (comparison.name negate)).compile tree = check.compared tree comparison negate := by
  have htype : Comparison.ofName? (check.withType (comparison.name negate)).type = some (comparison, negate) :=
    Comparison.ofName?_name comparison negate
  rw [compile, htype]
  cases comparison <;> rfl

/-- Sorting a list and dropping its repetitions loses no member. -/
theorem rowsWhere_distinctTexts (column : Texts n) (texts : List String) :
    column.rowsWhere false (distinctTexts texts).contains = column.rowsWhere false texts.contains := by
  have hcontains : (distinctTexts texts).contains = texts.contains := by
    funext text
    rw [Bool.eq_iff_iff, List.contains_iff_mem, List.contains_iff_mem, mem_distinctTexts]
  rw [hcontains]

/-- A comparison and its negation are of one and the same set of rows. -/
theorem compute?_compared (comparison : Comparison) (negate : Bool) :
    (check.compared tree comparison negate).compute? input =
      (check.matched? tree input comparison).map (Check.negateIf negate) := by
  -- the negation stands at the end of each chain of reads and is moved behind them
  cases comparison with
  | contains | equals | isNull =>
    simp only [compared, Check.compute?, matched?, Option.bind_eq_bind, Option.map_eq_bind,
      Option.bind_assoc]
    rfl
  | inList =>
    simp only [compared, Check.compute?, matched?, Option.bind_eq_bind, Option.map_eq_bind,
      Option.bind_assoc, Option.bind_some, Function.comp_apply, rowsWhere_distinctTexts]
    rfl

/-- Without a mask of its name, a comparison is evaluated by its own logic. -/
theorem maskAs?_of_unregistered {comparison : Comparison} {negate : Bool}
    (hfree : input.Unregistered (comparison.name negate)) :
    check.maskAs? tree input (comparison.name negate) =
      (check.matched? tree input comparison).map (Check.negateIf negate) := by
  have hname : ((check.withType (comparison.name negate)).compile tree).name = comparison.name negate :=
    name_compile _ tree
  rw [maskAs?, Check.evaluate?_of_unregistered (by rwa [hname]), compile_withType, compute?_compared]

/-- Nothing equals a null cell. -/
theorem get_equalsMask?_of_null {column : String} {expected : Expected} {mask : Mask n}
    (hmask : Check.equalsMask? input column expected = some mask) {row : Fin n}
    (hnull : input.batch.isNullAt column row = true) : mask.get row = false := by
  cases expected with
  | int want =>
    obtain ⟨integers, hintegers, rfl⟩ := Option.map_eq_some_iff.1 hmask
    rw [Series.get_rowsWhere, Batch.get_integers?_of_null hintegers hnull, Option.elim_none]
  | float want =>
    obtain ⟨numbers, hnumbers, rfl⟩ := Option.map_eq_some_iff.1 hmask
    rw [Series.get_rowsWhere, Batch.get_numbers?_of_null hnumbers hnull, Option.elim_none]
  | text want =>
    obtain ⟨texts, htexts, rfl⟩ := Option.map_eq_some_iff.1 hmask
    rw [Series.get_rowsWhere, Batch.get_text?_of_null htexts hnull, Option.elim_none]

/-- A null cell has no text in it, is equal to nothing and in no list. -/
theorem get_matched?_of_null {comparison : Comparison} {mask : Mask n}
    (hmask : check.matched? tree input comparison = some mask) {column : String} {row : Fin n}
    (hfield : check.field = some column) (hnull : input.batch.isNullAt column row = true) :
    mask.get row = comparison.onNull := by
  cases comparison with
  | contains =>
    simp only [matched?, hfield, Option.bind_eq_bind, Option.bind_some, Option.bind_eq_some_iff] at hmask
    obtain ⟨texts, htexts, pattern, _, hmask⟩ := hmask
    cases hmask
    rw [Series.get_rowsWhere, Batch.get_text?_of_null htexts hnull]
    rfl
  | equals =>
    simp only [matched?, hfield, Option.bind_eq_bind, Option.bind_some, Option.bind_eq_some_iff] at hmask
    obtain ⟨expected, _, hmask⟩ := hmask
    exact get_equalsMask?_of_null input hmask hnull
  | inList =>
    simp only [matched?, hfield, Option.bind_eq_bind, Option.bind_some, Option.bind_eq_some_iff] at hmask
    obtain ⟨texts, htexts, members, _, hmask⟩ := hmask
    cases hmask
    rw [Series.get_rowsWhere, Batch.get_text?_of_null htexts hnull]
    rfl
  | isNull =>
    simp only [matched?, hfield, Option.bind_eq_bind, Option.bind_some, Option.bind_eq_some_iff] at hmask
    obtain ⟨texts, htexts, hmask⟩ := hmask
    cases hmask
    rw [Texts.get_unset, Batch.get_text?_of_null htexts hnull]
    rfl

/-- A check that is written under the name of a built-in one is that one. -/
theorem maskAs?_builtin (b : Builtin) : check.maskAs? tree input b.name = b.evaluate? input := by
  have hcomparison : Comparison.ofName? b.name = none := by cases b <;> rfl
  have hcompile : (check.withType b.name).compile tree = .builtin b := by
    simp only [compile, withType, hcomparison, Builtin.ofName?_name]
  rw [maskAs?, hcompile, Check.evaluate?_builtin]

/-- A derived check negates what its base check evaluates to, a registered mask included. -/
theorem compute?_of_base? {derived base : Builtin} (hbase : derived.base? = some base) :
    derived.compute? input = (base.evaluate? input).map Mask.not := by
  cases derived <;> cases hbase <;> rfl

/-- How the masks of checks and of their negations go together: both are there or neither is, and each
row is in exactly one of them. -/
structure NegationsComplement : Prop where
  comparisons : ∀ comparison : Comparison, (∀ negate, input.Unregistered (comparison.name negate)) →
    Mask.Complementary (check.maskAs? tree input (comparison.name false))
      (check.maskAs? tree input (comparison.name true))
  /-- Null cells count as the opposite of what they are in the check itself. -/
  nullCells : ∀ (comparison : Comparison) (negate : Bool) (mask : Mask n) (column : String) (row : Fin n),
    input.Unregistered (comparison.name negate) →
    check.maskAs? tree input (comparison.name negate) = some mask →
    check.field = some column → input.batch.isNullAt column row = true →
    mask.get row = (negate ^^ comparison.onNull)
  derived : ∀ derived base : Builtin, derived.base? = some base → input.Unregistered derived.name →
    Mask.Complementary (check.maskAs? tree input base.name) (check.maskAs? tree input derived.name)

/-- A check and its negation are evaluated together, and each row belongs to exactly one of them. That
holds for the four comparisons, whatever they compare with, and for the two built-in checks that are
derived from another one, also where a mask is registered for that. -/
theorem negations_complement : check.NegationsComplement tree input where
  comparisons comparison hfree := by
    rw [maskAs?_of_unregistered check tree input (hfree false),
      maskAs?_of_unregistered check tree input (hfree true)]
    cases check.matched? tree input comparison with
    | none => exact .none
    | some matched => exact .some matched.get_not
  nullCells comparison negate mask column row hfree hmask hfield hnull := by
    rw [maskAs?_of_unregistered check tree input hfree] at hmask
    obtain ⟨matched, hmatched, rfl⟩ := Option.map_eq_some_iff.1 hmask
    rw [Check.get_negateIf, get_matched?_of_null check tree input hmatched hfield hnull]
  derived derived base hbase hfree := by
    rw [maskAs?_builtin, maskAs?_builtin, Builtin.evaluate?_of_unregistered hfree,
      compute?_of_base? input hbase]
    exact Mask.complementary_map_not _

/-- Operands for all four comparisons. -/
def operands : CheckConfig :=
  { type := "contains", field := some "item", pattern := some "a", value := some (.string "a"),
    values := some [.string "a", .string ""] }

/-- One mask is for the check that another negates, and one is too short to count. -/
def maskedItems : CheckInput 3 :=
  { batch := ⟨⟨[("item", .text ⟨[some "a", none, some ""], rfl⟩)]⟩⟩
    statusColumn := "status", date := none, entity := none, config := .empty
    masks := ⟨[("not_contains", [some true]), ("qty_matched", [some true, none, some false])]⟩ }

/-- Four items of which one is null, with a mask for the base check of one derived check and without
accounts for the other. -/
theorem negations_complement_items :
    operands.NegationsComplement .empty maskedItems ∧
    Mask.Complementary (operands.maskAs? .empty maskedItems "contains")
      (operands.maskAs? .empty maskedItems "not_contains") ∧
    (operands.maskAs? .empty maskedItems "not_contains").map (·.toList) = some [false, true, true] ∧
    (operands.maskAs? .empty maskedItems "is_not_null").map (·.toList) = some [true, false, false] ∧
    Mask.Complementary (operands.maskAs? .empty maskedItems "qty_matched")
      (operands.maskAs? .empty maskedItems "qty_not_matched") ∧
    (operands.maskAs? .empty maskedItems "qty_not_matched").map (·.toList) = some [false, true, true] ∧
    operands.maskAs? .empty maskedItems "not_fa" = none := by
  have hnone : ∀ negate, maskedItems.registered? (Comparison.contains.name negate) = none := by decide
  have hfree : ∀ negate, maskedItems.Unregistered (Comparison.contains.name negate) := fun negate =>
    (Check.registered?_eq_none_iff _ _).1 (hnone negate)
  have hderived : maskedItems.Unregistered Builtin.qtyNotMatched.name :=
    (Check.registered?_eq_none_iff _ _).1 (by decide)
  have hcomplement := operands.negations_complement .empty maskedItems
  exact ⟨hcomplement, hcomplement.comparisons .contains hfree, by decide, by decide,
    hcomplement.derived .qtyNotMatched .qtyMatched rfl hderived, by decide, by decide⟩

end CheckConfig

end PurchaseStatus
