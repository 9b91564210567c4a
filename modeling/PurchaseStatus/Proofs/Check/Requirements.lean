import PurchaseStatus.Check.Evaluation

namespace PurchaseStatus

variable {n : Nat}

/-- What a check may need of an input besides masks. -/
inductive Requirement where
  | text (column : String)
  | numbers (column : String)
  | integers (column : String)
  | date
  /-- The fixed-asset accounts of the entity. -/
  | accounts
  deriving DecidableEq, Repr

/-- The column that is needed, in whichever way it is read. -/
def Requirement.column? : Requirement → Option String
  | text column | numbers column | integers column => some column
  | date | accounts => none

/-- A column is there and can be read as asked, the date is given, the accounts are configured. -/
def Requirement.isMet (input : CheckInput n) : Requirement → Bool
  | text column => (input.batch.text? column).isSome
  | numbers column => (input.batch.numbers? column).isSome
  | integers column => (input.batch.integers? column).isSome
  | date => input.date.isSome
  | accounts => (input.config.resolveList? (Builtin.fixedAssetPath input.entity)).isSome

section Inputs

variable {m : Nat} {a : CheckInput n} {b : CheckInput m}

/-- Two inputs that meet the same needs meet them together. -/
theorem all_isMet_eq {needs : List Requirement} (h : ∀ need ∈ needs, need.isMet a = need.isMet b) :
    needs.all (·.isMet a) = needs.all (·.isMet b) := by
  rw [Bool.eq_iff_iff, List.all_eq_true, List.all_eq_true]
  exact forall₂_congr fun need hneed => by rw [h need hneed]

/-- Masks are looked for by name only. -/
theorem any_registered?_eq {names : List String}
    (h : ∀ name ∈ names, (a.registered? name).isSome = (b.registered? name).isSome) :
    names.any (fun name => (a.registered? name).isSome) = names.any fun name => (b.registered? name).isSome := by
  rw [Bool.eq_iff_iff, List.any_eq_true, List.any_eq_true]
  exact exists_congr fun name => and_congr_right fun hname => by rw [h name hname]

end Inputs

/-- A computation in two steps comes to a value if both steps do, provided that the second does so
whatever the first yields. -/
theorem isSome_bind_eq_and {α : Type u} {β : Type v} {a : Option α} {f : α → Option β} {b : Bool}
    (hf : ∀ x, (f x).isSome = b) : (a.bind f).isSome = (a.isSome && b) := by
  cases a with
  | none => rfl
  | some x => exact (hf x).trans (Bool.true_and b).symm

@[simp] theorem isSome_bind_some {α : Type u} {β : Type v} (a : Option α) (f : α → β) :
    (a.bind fun x => some (f x)).isSome = a.isSome := by
  cases a <;> rfl

namespace Builtin

/-- The check that a derived one negates. -/
def base? : Builtin → Option Builtin
  | qtyNotMatched => some qtyMatched
  | notFa => some isFa
  | _ => none

/-- What a built-in check reads, in the order in which it does. -/
def requirements : Builtin → List Requirement
  | noStatus | remarkCompleted | prNotIncomplete | notError => []
  | ermLeDate | ermGtDate => [.date, .integers Schema.expectedMonth]
  | ermInRange | outOfRange => [.integers Schema.expectedMonth, .text Schema.descriptionPeriod]
  | descErmLeDate | descErmGtDate => [.date, .text Schema.descriptionPeriod]
  | descErmNotError | formatError => [.text Schema.descriptionPeriod]
  | qtyMatched | qtyNotMatched =>
    [.text Schema.entryQuantity, .text Schema.receivedQuantity, .numbers Schema.entryQuantity,
      .numbers Schema.receivedQuantity]
  | notBilled => [.numbers Schema.entryBilledAmount]
  | hasBilling => [.numbers Schema.billedQuantity]
  | fullyBilled | hasUnpaid => [.numbers Schema.entryAmount, .numbers Schema.entryBilledAmount]
  | isFa | notFa => [.accounts, .text Schema.glAccount]

/-- The names under which a registered mask is taken for the check. -/
def maskNames (b : Builtin) : List String := b.name :: b.base?.toList.map name

variable (input : CheckInput n)

theorem isSome_monthAgainstDate? (compare : Int → Int → Bool) :
    (input.monthAgainstDate? compare).isSome =
      (input.date.isSome && (input.batch.integers? Schema.expectedMonth).isSome) :=
  isSome_bind_eq_and fun _ => isSome_bind_some _ _

theorem isSome_periodsWhere? (p : String → Bool) :
    (input.periodsWhere? p).isSome = (input.batch.text? Schema.descriptionPeriod).isSome :=
  Option.isSome_map

theorem isSome_monthsInPeriods? : input.monthsInPeriods?.isSome =
    ((input.batch.integers? Schema.expectedMonth).isSome &&
      (input.batch.text? Schema.descriptionPeriod).isSome) :=
  isSome_bind_eq_and fun _ => isSome_bind_some _ _

theorem isSome_unbilled? : input.unbilled?.isSome =
    ((input.batch.numbers? Schema.entryAmount).isSome &&
      (input.batch.numbers? Schema.entryBilledAmount).isSome) :=
  isSome_bind_eq_and fun _ => isSome_bind_some _ _

/-- The check for the sentinel reads a column that is read before. -/
theorem isSome_outOfRangeMask? : (outOfRangeMask? input).isSome =
    ((input.batch.integers? Schema.expectedMonth).isSome &&
      (input.batch.text? Schema.descriptionPeriod).isSome) := by
  have hperiods : (outOfRangeMask? input).isSome =
      (input.monthsInPeriods?.isSome && (input.batch.text? Schema.descriptionPeriod).isSome) :=
    isSome_bind_eq_and fun _ => isSome_bind_some _ _
  rw [hperiods, isSome_monthsInPeriods?, Bool.and_assoc, Bool.and_self]

/-- Quantities are read as text as well, so that those that are missing are told from those that are no
number. -/
theorem isSome_qtyMatchedMask? : (qtyMatchedMask? input).isSome =
    qtyMatched.requirements.all (·.isMet input) := by
  refine isSome_bind_eq_and fun entryTexts => ?_
  refine isSome_bind_eq_and fun receivedTexts => ?_
  refine isSome_bind_eq_and fun entries => ?_
  exact isSome_bind_eq_and fun received => rfl

/-- The accounts of the entity have to be configured. -/
theorem isSome_isFaMask? : (isFaMask? input).isSome = isFa.requirements.all (·.isMet input) := by
  refine isSome_bind_eq_and fun accounts => ?_
  exact isSome_bind_eq_and fun _ => rfl

/-- A built-in check can be evaluated by its own logic if all is there that it reads, and a derived
one also by a mask for its base check. -/
theorem isSome_compute? (b : Builtin) : (b.compute? input).isSome =
    (b.base?.any (fun base => (input.registered? base.name).isSome) ||
      b.requirements.all (·.isMet input)) := by
  cases b with
  | noStatus | remarkCompleted | prNotIncomplete | notError => rfl
  | ermLeDate | ermGtDate =>
    simp [compute?, base?, requirements, Requirement.isMet, isSome_monthAgainstDate?]
  | ermInRange =>
    simp [compute?, ermInRangeMask?, base?, requirements, Requirement.isMet, isSome_monthsInPeriods?]
  | outOfRange => simp [compute?, base?, requirements, Requirement.isMet, isSome_outOfRangeMask?]
  | descErmLeDate | descErmGtDate =>
    refine (isSome_bind_eq_and fun date => isSome_periodsWhere? input _).trans ?_
    simp [base?, requirements, Requirement.isMet]
  | descErmNotError | formatError =>
    simp [compute?, base?, requirements, Requirement.isMet, isSome_periodsWhere?]
  | qtyMatched => simp [compute?, base?, isSome_qtyMatchedMask?]
  | qtyNotMatched =>
    simp only [compute?, Option.isSome_map, Option.isSome_or, isSome_qtyMatchedMask?]
    rfl
  | notBilled => simp [compute?, notBilledMask?, base?, requirements, Requirement.isMet]
  | hasBilling => simp [compute?, hasBillingMask?, base?, requirements, Requirement.isMet]
  | fullyBilled | hasUnpaid => simp [compute?, base?, requirements, Requirement.isMet, isSome_unbilled?]
  | isFa => simp [compute?, base?, isSome_isFaMask?]
  | notFa =>
    simp only [compute?, Option.isSome_map, Option.isSome_or, isSome_isFaMask?]
    rfl

/-- A built-in check is evaluated by a mask under one of its names, or by what it needs. -/
theorem isSome_evaluate? (b : Builtin) : (b.evaluate? input).isSome =
    (b.maskNames.any (fun name => (input.registered? name).isSome) ||
      b.requirements.all (·.isMet input)) := by
  rw [evaluate?, Option.isSome_or, isSome_compute?, maskNames]
  cases b.base? <;> simp [Bool.or_assoc]

end Builtin

namespace Check

/-- What a check needs; nothing can be evaluated of one without its operands or of an unknown type. -/
def requirements? : Check → Option (List Requirement)
  | contains (some field) (some _) _ => some [.text field]
  | equals (some field) (some (.int _)) _ => some [.integers field]
  | equals (some field) (some (.float _)) _ => some [.numbers field]
  | equals (some field) (some (.text _)) _ => some [.text field]
  | inList (some field) (some _) _ => some [.text field]
  | isNull (some field) _ => some [.text field]
  | builtin b => some b.requirements
  | always => some []
  | _ => none

/-- The names under which a registered mask is taken for the check. -/
def maskNames : Check → List String
  | builtin b => b.maskNames
  | check => [check.name]

variable (input : CheckInput n) (check : Check)

/-- A comparison or an unknown type can be evaluated without a mask if all is there that it needs. -/
theorem isSome_compute?_of_not_builtin (hbuiltin : ∀ b, check ≠ builtin b) :
    (check.compute? input).isSome = check.requirements?.any (·.all (·.isMet input)) := by
  cases check with
  | builtin b => exact absurd rfl (hbuiltin b)
  | prebuilt _ | always => rfl
  | contains field pattern negate =>
    cases field <;> cases pattern <;> simp [compute?, requirements?, Requirement.isMet]
  | equals field expected negate =>
    cases field with
    | none => simp [compute?, requirements?]
    | some field =>
      rcases expected with _ | ⟨_ | _ | _⟩ <;>
        simp [compute?, equalsMask?, requirements?, Requirement.isMet]
  | inList field values negate =>
    cases field <;> cases values <;> simp [compute?, requirements?, Requirement.isMet]
  | isNull field negate => cases field <;> simp [compute?, requirements?, Requirement.isMet]

/-- A registered mask counts once: the check and its own logic would both take it. -/
theorem evaluate?_builtin (input : CheckInput n) (b : Builtin) :
    (Check.builtin b).evaluate? input = b.evaluate? input := by
  simp only [evaluate?, name, compute?, Builtin.evaluate?]
  cases input.registered? b.name with
  | none => rfl
  | some mask => rfl

/-- A check is evaluated by a mask or by what it needs. -/
theorem isSome_evaluate? : (check.evaluate? input).isSome =
    (check.maskNames.any (fun name => (input.registered? name).isSome) ||
      check.requirements?.any (·.all (·.isMet input))) := by
  cases check with
  | builtin b =>
    rw [evaluate?_builtin, Builtin.isSome_evaluate?]
    rfl
  | contains _ _ _ | equals _ _ _ | inList _ _ _ | isNull _ _ | prebuilt _ | always =>
    rw [evaluate?, Option.isSome_or, isSome_compute?_of_not_builtin input _ (by simp)]
    simp [maskNames]

/-- A check that cannot be evaluated: no mask of as many rows as the batch has is registered for it,
and it lacks an operand, a column, the date or the accounts. -/
structure Stuck : Prop where
  unregistered : ∀ name ∈ check.maskNames, ∀ bits, input.masks.get? name = some bits → bits.length ≠ n
  lacking : ∀ needs, check.requirements? = some needs → ∃ need ∈ needs, need.isMet input = false

/-- No mask is found under a name exactly if each one there has another number of slots than the batch
has rows. -/
theorem registered?_eq_none_iff (name : String) : input.registered? name = none ↔
    ∀ bits, input.masks.get? name = some bits → bits.length ≠ n := by
  simp only [CheckInput.registered?, Registry.maskFor?, Option.map_eq_none_iff, Option.bind_eq_none_iff,
    Series.ofList?, dite_eq_right_iff, reduceCtorEq, imp_false, ne_eq]

/-- The failure of a check has no other causes. -/
theorem evaluate?_eq_none_iff : check.evaluate? input = none ↔ check.Stuck input := by
  rw [← Option.isNone_iff_eq_none, ← Option.not_isSome, isSome_evaluate?, Bool.not_eq_true',
    Bool.or_eq_false_iff]
  constructor
  · rintro ⟨hmasks, hneeds⟩
    refine ⟨fun name hname => ?_, fun needs hsome => ?_⟩
    · rw [← registered?_eq_none_iff]
      simpa using List.any_eq_false.1 hmasks name hname
    · simpa [hsome] using hneeds
  · rintro ⟨hunregistered, hlacking⟩
    constructor
    · refine List.any_eq_false.2 fun name hname => ?_
      simp [(registered?_eq_none_iff input name).2 (hunregistered name hname)]
    · cases hneeds : check.requirements? with
      | none => rfl
      | some needs => simpa using hlacking needs hneeds

end Check

/-- A check that is written so that only a mask can stand for it: its type is unknown, or it compares
without a field, or with something that is absent, is not resolved or cannot be read. -/
def CheckConfig.Lacks (tree : ConfigTree) (check : CheckConfig) : Prop :=
  match Comparison.ofName? check.type with
  | some (.contains, _) => check.field = none ∨ check.compiledPattern? tree = none
  | some (.equals, _) => check.field = none ∨ check.expected? tree = none
  | some (.inList, _) => check.field = none ∨ check.members? tree = none
  | some (.isNull, _) => check.field = none
  | none => Builtin.ofName? check.type = none

/-- The checks that can never be evaluated without a mask, told from how they are written. -/
theorem CheckConfig.requirements?_compile_eq_none_iff (tree : ConfigTree) (check : CheckConfig) :
    (check.compile tree).requirements? = none ↔ check.Lacks tree := by
  unfold Lacks compile
  cases Comparison.ofName? check.type with
  | none => cases Builtin.ofName? check.type <;> simp [Check.requirements?]
  | some found =>
    obtain ⟨comparison, negate⟩ := found
    cases comparison with
    | contains =>
      cases check.field <;> cases check.compiledPattern? tree <;> simp [Check.requirements?]
    | equals =>
      cases check.field with
      | none => simp [Check.requirements?]
      | some field => rcases check.expected? tree with _ | ⟨_ | _ | _⟩ <;> simp [Check.requirements?]
    | inList => cases check.field <;> cases check.members? tree <;> simp [Check.requirements?]
    | isNull => cases check.field <;> simp [Check.requirements?]

/-- When a check cannot be evaluated as it is written. -/
theorem CheckConfig.stuck_compile_iff (tree : ConfigTree) (check : CheckConfig) (input : CheckInput n) :
    (check.compile tree).Stuck input ↔
      (∀ name ∈ (check.compile tree).maskNames, ∀ bits,
        input.masks.get? name = some bits → bits.length ≠ n) ∧
      (check.Lacks tree ∨ ∃ needs, (check.compile tree).requirements? = some needs ∧
        ∃ need ∈ needs, need.isMet input = false) := by
  rw [← requirements?_compile_eq_none_iff]
  constructor
  · rintro ⟨hunregistered, hlacking⟩
    refine ⟨hunregistered, ?_⟩
    cases hneeds : (check.compile tree).requirements? with
    | none => exact .inl rfl
    | some needs => exact .inr ⟨needs, rfl, hlacking needs hneeds⟩
  · rintro ⟨hunregistered, hlacks | ⟨needs, hneeds, hunmet⟩⟩
    · refine ⟨hunregistered, fun needs hsome => ?_⟩
      rw [hlacks] at hsome
      cases hsome
    · refine ⟨hunregistered, fun others hothers => ?_⟩
      rw [hneeds] at hothers
      cases hothers
      exact hunmet

end PurchaseStatus
