import PurchaseStatus.Proofs.Check.Locality
import PurchaseStatus.Proofs.Rule.References
import PurchaseStatus.Proofs.Rule.Validation

namespace PurchaseStatus

namespace Check

variable {n : Nat}

/-- Whether a comparison has its field and its operand; other checks need neither. -/
def usable : Check → Bool
  | contains field pattern _ => field.isSome && pattern.isSome
  | equals field expected _ => field.isSome && expected.isSome
  | inList field values _ => field.isSome && values.isSome
  | isNull field _ => field.isSome
  | builtin _ | prebuilt _ | always => true

/-- A text column reads as anything that a check may expect. -/
theorem isSome_equalsMask?_of_text {input : CheckInput n} {field : String} {values : Texts n}
    (htext : input.batch.cells? field = some (.text values)) (expected : Expected) :
    (equalsMask? input field expected).isSome = true := by
  cases expected <;>
    simp [equalsMask?, Batch.integers?, Batch.numbers?, Batch.text?, htext, Cells.numbers?, Cells.text?]

/-- On a text column a comparison is evaluated exactly when it lacks nothing. -/
theorem isSome_compute?_eq_usable {input : CheckInput n} {check : Check} {field : String}
    {values : Texts n} (hfield : check.field? = some field)
    (htext : input.batch.cells? field = some (.text values)) :
    (check.compute? input).isSome = check.usable := by
  have hread : input.batch.text? field = some values := by simp [Batch.text?, htext, Cells.text?]
  cases check with
  | builtin _ | prebuilt _ | always => cases hfield
  | contains own pattern negate =>
    cases (hfield : own = some field)
    cases pattern <;> simp [compute?, usable, hread]
  | equals own expected negate =>
    cases (hfield : own = some field)
    cases expected with
    | none => simp [compute?, usable]
    | some expected =>
      obtain ⟨mask, hmask⟩ := Option.isSome_iff_exists.1 (isSome_equalsMask?_of_text htext expected)
      simp [compute?, usable, hmask]
  | inList own values negate =>
    cases (hfield : own = some field)
    cases values <;> simp [compute?, usable, hread]
  | isNull own negate =>
    cases (hfield : own = some field)
    simp [compute?, usable, hread]

end Check

namespace CheckConfig

variable (tree : ConfigTree) (check : CheckConfig)

/-- A check about which nothing is reported. -/
structure Unreported : Prop where
  known : isKnownType check.type = true
  field : needsField check.type = true → check.field ≠ none
  pattern : ∀ pattern, check.pattern = some pattern → Pattern.compile? pattern ≠ none
  references : ∀ key ∈ check.references, tree.resolve? key ≠ none

/-- How the operand of a comparison can be missing although nothing is reported: there is neither a
literal nor a reference, or what is there cannot be read as the comparison asks. -/
inductive Overlooked : Comparison → Prop
  | noPattern (hliteral : check.pattern = none) (hkey : check.patternKey = none) : Overlooked .contains
  | patternNotScalar {key : String} {value : Json} (hliteral : check.pattern = none)
      (hkey : check.patternKey = some key) (htarget : tree.resolve? key = some value)
      (htext : value.text? = none) : Overlooked .contains
  | patternInvalid {key text : String} (hliteral : check.pattern = none)
      (hkey : check.patternKey = some key) (htext : tree.resolveText? key = some text)
      (hinvalid : Pattern.compile? text = none) : Overlooked .contains
  | noValue (hliteral : check.value = none) (hkey : check.valueKey = none) : Overlooked .equals
  | valueNotScalar {value : Json} (hvalue : check.value? tree = some value)
      (htext : value.text? = none) : Overlooked .equals
  | valueNotInt {value : Json} {text : String} (hcast : check.cast = some .int)
      (hvalue : check.value? tree = some value) (htext : value.text? = some text)
      (hint : intOf? value text = none) : Overlooked .equals
  | valueNotFloat {value : Json} {text : String} (hcast : check.cast = some .float)
      (hvalue : check.value? tree = some value) (htext : value.text? = some text)
      (hfloat : Decimal.float? (Text.trim text) = none) : Overlooked .equals
  | noValues (hliteral : check.values = none) (hkey : check.listKey = none) : Overlooked .inList
  | listIsTable {key : String} {fields : List (String × Json)} (hliteral : check.values = none)
      (hkey : check.listKey = some key) (htarget : tree.resolve? key = some (.object fields)) :
      Overlooked .inList

variable {tree check}

/-- A check without issues is not reported on any account. -/
theorem unreported_of_issues_eq_nil (h : check.issues tree = []) : check.Unreported tree := by
  have hnone : ∀ cause, cause ∉ check.issues tree := by simp [h]
  simp only [mem_issues] at hnone
  refine ⟨?_, fun hneeds hfield => ?_, fun pattern hpattern hcompile => ?_, fun key hkey hresolve => ?_⟩
  · by_contra hknown
    exact hnone _ (.inl ⟨by simpa using hknown, rfl⟩)
  · exact hnone _ (.inr (.inl ⟨hneeds, hfield, rfl⟩))
  · exact hnone _ (.inr (.inr (.inl ⟨pattern, hpattern, hcompile, rfl⟩)))
  · exact hnone _ (.inr (.inr (.inr ⟨key, hkey, hresolve, rfl⟩)))

namespace Unreported

variable (h : check.Unreported tree)

include h

/-- Every reference of a check without issues leads somewhere. -/
theorem exists_target (key : String) (hkey : key ∈ check.references) :
    ∃ value, tree.resolve? key = some value :=
  Option.ne_none_iff_exists'.1 (h.references key hkey)

/-- An unreported check has no pattern exactly if that was overlooked. -/
theorem compiledPattern?_eq_none_iff :
    check.compiledPattern? tree = none ↔ check.Overlooked tree .contains := by
  unfold compiledPattern? patternText?
  cases hliteral : check.pattern with
  | some pattern =>
    refine iff_of_false (by simpa using h.pattern pattern hliteral) fun hoverlooked => ?_
    cases hoverlooked with
    | noPattern hnone _ | patternNotScalar hnone _ _ _ | patternInvalid hnone _ _ _ =>
      cases hliteral.symm.trans hnone
  | none =>
    cases hkey : check.patternKey with
    | none => exact iff_of_true rfl (.noPattern hliteral hkey)
    | some key =>
      obtain ⟨value, hvalue⟩ := h.exists_target key (by simp [CheckConfig.references, hkey])
      cases htext : value.text? with
      | none =>
        refine iff_of_true ?_ (.patternNotScalar hliteral hkey hvalue htext)
        simp [ConfigTree.resolveText?, hvalue, htext]
      | some text =>
        have hresolved : tree.resolveText? key = some text := by
          simp [ConfigTree.resolveText?, hvalue, htext]
        simp only [hresolved, Option.bind_some]
        constructor
        · exact .patternInvalid hliteral hkey hresolved
        · intro hoverlooked
          cases hoverlooked with
          | noPattern _ hnone => cases hkey.symm.trans hnone
          | patternNotScalar _ hkey' htarget hnone =>
            cases hkey.symm.trans hkey'
            cases hvalue.symm.trans htarget
            cases htext.symm.trans hnone
          | patternInvalid _ hkey' htarget hinvalid =>
            cases hkey.symm.trans hkey'
            cases hresolved.symm.trans htarget
            exact hinvalid

/-- An unreported check has no value to compare with exactly if that was overlooked. -/
theorem expected?_eq_none_iff :
    check.expected? tree = none ↔ check.Overlooked tree .equals := by
  cases hvalue : check.value? tree with
  | none =>
    refine iff_of_true (by simp [expected?, hvalue]) ?_
    unfold value? at hvalue
    cases hliteral : check.value with
    | some value => simp [hliteral] at hvalue
    | none =>
      cases hkey : check.valueKey with
      | none => exact .noValue hliteral hkey
      | some key =>
        obtain ⟨value, htarget⟩ := h.exists_target key (by simp [CheckConfig.references, hkey])
        simp [hliteral, hkey, htarget] at hvalue
  | some value =>
    cases htext : value.text? with
    | none => exact iff_of_true (by simp [expected?, hvalue, htext]) (.valueNotScalar hvalue htext)
    | some text =>
      constructor
      · intro hnone
        cases hcast : check.cast with
        | none => simp [expected?, hvalue, htext, hcast] at hnone
        | some cast =>
          cases cast with
          | int => exact .valueNotInt hcast hvalue htext (by simpa [expected?, hvalue, htext, hcast] using hnone)
          | float =>
            exact .valueNotFloat hcast hvalue htext (by simpa [expected?, hvalue, htext, hcast] using hnone)
          | text => simp [expected?, hvalue, htext, hcast] at hnone
      · intro hoverlooked
        cases hoverlooked with
        | noValue hliteral hkey => simp [value?, hliteral, hkey] at hvalue
        | valueNotScalar hvalue' hnone =>
          cases hvalue.symm.trans hvalue'
          cases htext.symm.trans hnone
        | valueNotInt hcast hvalue' htext' hint =>
          cases hvalue.symm.trans hvalue'
          cases htext.symm.trans htext'
          simp [expected?, hvalue, htext, hcast, hint]
        | valueNotFloat hcast hvalue' htext' hfloat =>
          cases hvalue.symm.trans hvalue'
          cases htext.symm.trans htext'
          simp [expected?, hvalue, htext, hcast, hfloat]

/-- An unreported check has no members exactly if that was overlooked. -/
theorem members?_eq_none_iff :
    check.members? tree = none ↔ check.Overlooked tree .inList := by
  unfold members?
  cases hliteral : check.values with
  | some values =>
    refine iff_of_false (by simp) fun hoverlooked => ?_
    cases hoverlooked with
    | noValues hnone _ | listIsTable hnone _ _ => cases hliteral.symm.trans hnone
  | none =>
    cases hkey : check.listKey with
    | none => exact iff_of_true rfl (.noValues hliteral hkey)
    | some key =>
      obtain ⟨value, hvalue⟩ := h.exists_target key (by simp [CheckConfig.references, hkey])
      constructor
      · intro hnone
        -- any other target is a list, or a scalar that counts as a list of one
        cases value with
        | object fields => exact .listIsTable hliteral hkey hvalue
        | null => exact absurd hvalue (tree.resolve?_ne_null key)
        | bool _ | int _ | float _ | string _ | array _ =>
          simp [ConfigTree.resolveList?, hvalue, Json.text?] at hnone
      · intro hoverlooked
        cases hoverlooked with
        | noValues _ hnone => cases hkey.symm.trans hnone
        | listIsTable _ hkey' htarget =>
          cases hkey.symm.trans hkey'
          simp [ConfigTree.resolveList?, htarget, Json.text?]

/-- A comparison without issues has a column. -/
theorem exists_field {comparison : Comparison} {negate : Bool}
    (htype : Comparison.ofName? check.type = some (comparison, negate)) :
    ∃ field, check.field = some field := by
  have hneeds : needsField check.type = true := by simp [needsField, htype]
  exact Option.ne_none_iff_exists'.1 (h.field hneeds)

/-- Where nothing is reported of a comparison, it has its field, and only what is overlooked can be
missing. -/
theorem usable_compile_iff {comparison : Comparison} {negate : Bool}
    (htype : Comparison.ofName? check.type = some (comparison, negate)) :
    (check.compile tree).usable = true ↔ ¬check.Overlooked tree comparison := by
  obtain ⟨field, hfield⟩ := h.exists_field htype
  cases comparison with
  | contains =>
    rw [← h.compiledPattern?_eq_none_iff]
    simp [compile, htype, Check.usable, hfield, Option.isSome_iff_ne_none]
  | equals =>
    rw [← h.expected?_eq_none_iff]
    simp [compile, htype, Check.usable, hfield, Option.isSome_iff_ne_none]
  | inList =>
    rw [← h.members?_eq_none_iff]
    simp [compile, htype, Check.usable, hfield, Option.isSome_iff_ne_none]
  | isNull =>
    refine iff_of_true (by simp [compile, htype, Check.usable, hfield]) fun hoverlooked => ?_
    cases hoverlooked

end Unreported

/-- A comparison reads the column that it names. -/
theorem field?_compile {comparison : Comparison} {negate : Bool}
    (htype : Comparison.ofName? check.type = some (comparison, negate)) :
    (check.compile tree).field? = check.field := by
  cases comparison <;> simp [compile, htype, Check.field?]

/-- What an empty report guarantees of a comparison: its field is there, it lacks its operand only in
the ways that are overlooked, and if it does not, it is evaluated wherever its field is a text
column. -/
structure Vetted (tree : ConfigTree) (check : CheckConfig) (comparison : Comparison) : Prop where
  field : check.field.isSome = true
  usable : (check.compile tree).usable = true ↔ ¬check.Overlooked tree comparison
  evaluated : ∀ {n : Nat} (input : CheckInput n) (field : String) (values : Texts n),
    check.field = some field → input.batch.cells? field = some (.text values) →
    (((check.compile tree).evaluate? input).isSome = true ↔
      (input.registered? check.type).isSome = true ∨ ¬check.Overlooked tree comparison)

/-- An unreported comparison is sound but for an operand that was overlooked. -/
theorem Unreported.vetted (h : check.Unreported tree) {comparison : Comparison} {negate : Bool}
    (htype : Comparison.ofName? check.type = some (comparison, negate)) :
    check.Vetted tree comparison where
  field := by
    obtain ⟨field, hfield⟩ := h.exists_field htype
    simp [hfield]
  usable := h.usable_compile_iff htype
  evaluated input field values hfield htext := by
    have hcompute : ((check.compile tree).compute? input).isSome = (check.compile tree).usable :=
      Check.isSome_compute?_eq_usable ((field?_compile htype).trans hfield) htext
    unfold Check.evaluate?
    rw [Option.isSome_or, Bool.or_eq_true, hcompute, name_compile, h.usable_compile_iff htype]

end CheckConfig

namespace ConfigTree

variable {tree : ConfigTree} {sectionPath : String}

/-- Without reports there are none about any rule that is loaded. -/
theorem issues_eq_nil_of_sectionIssues_eq_nil (h : tree.sectionIssues sectionPath = [])
    {rule : RuleConfig} (hrule : rule ∈ tree.ruleSection sectionPath) : rule.issues tree = [] := by
  unfold ruleSection at hrule
  cases hentries : tree.conditions? sectionPath with
  | none => simp [hentries] at hrule
  | some entries =>
    rw [hentries, Option.getD_some, List.mem_filterMap] at hrule
    obtain ⟨entry, hentry, hrule⟩ := hrule
    obtain ⟨index, hindex⟩ := List.mem_iff_getElem?.1 hentry
    have hcauses := causesAt_sectionIssues (conditions?_eq_some_iff.1 hentries) index
    rw [h, hindex, Option.elim_some] at hcauses
    cases hread : RuleConfig.ofJson entry with
    | error error => simp [hread, Except.toOption] at hrule
    | ok read =>
      cases (by simpa [hread, Except.toOption] using hrule : read = rule)
      rw [← tree.entryIssues_of_ok hread, ← hcauses]
      rfl

/-- What an empty report guarantees of the rules of a section: each has a status and checks, each
check is evaluated by itself, and a comparison lacks its operand only in the ways that are
overlooked. -/
theorem checks_of_no_issues (h : tree.sectionIssues sectionPath = []) :
    ∀ rule ∈ tree.ruleSection sectionPath,
      (Rule.compile rule tree).status.isSome = true ∧
      (Rule.compile rule tree).checks ≠ [] ∧
      ∀ check ∈ rule.checks,
        (∀ name, check.compile tree ≠ .prebuilt name) ∧
        ∀ comparison negate, Comparison.ofName? check.type = some (comparison, negate) →
          check.Vetted tree comparison := by
  intro rule hrule
  have hissues := issues_eq_nil_of_sectionIssues_eq_nil h hrule
  have hreported := Rule.reportedBy_compile rule tree
  rw [hissues] at hreported
  have hchecks : ∀ check ∈ rule.checks, check.Unreported tree := by
    intro check hcheck
    refine CheckConfig.unreported_of_issues_eq_nil (List.eq_nil_iff_forall_not_mem.2 fun cause hcause => ?_)
    have hmem : cause ∈ rule.issues tree := RuleConfig.mem_issues.2 (.inr (.inr ⟨check, hcheck, hcause⟩))
    simp [hissues] at hmem
  refine ⟨?_, ?_, fun check hcheck => ⟨fun name hname => ?_, fun comparison negate htype => ?_⟩⟩
  · rw [Option.isSome_iff_ne_none, ne_eq, hreported.status]
    simp
  · rw [ne_eq, hreported.checks]
    simp
  · have hunknown : isKnownType check.type = false := (CheckConfig.compile_eq_prebuilt_iff.1 hname).1
    cases (hchecks check hcheck).known.symm.trans hunknown
  · exact (hchecks check hcheck).vetted htype

/-- A check that refers to a list. -/
def memberCheck : CheckConfig :=
  { type := "in_list", field := some "item", values := some [.string "a"] }

/-- The text that it refers to is no pattern. -/
def brokenCheck : CheckConfig :=
  { type := "contains", field := some "item", patternKey := some "spx.bad" }

def carelessRule : RuleConfig := { statusValue := some "done", checks := [memberCheck, brokenCheck] }

def careless : ConfigTree := ⟨.object [
  ("spx", .object [("bad", .string "(")]),
  ("stage", .object [("conditions", .array [.object [
    ("status_value", .string "done"),
    ("checks", .array [
      .object [("type", .string "in_list"), ("field", .string "item"), ("values", .array [.string "a"])],
      .object [("type", .string "contains"), ("field", .string "item"),
        ("pattern_key", .string "spx.bad")]])]])])]⟩

/-- Nothing is reported of the two checks, and only one of them lacks nothing. -/
theorem checks_of_no_issues_careless :
    careless.sectionIssues "stage" = [] ∧ carelessRule ∈ careless.ruleSection "stage" ∧
    ¬memberCheck.Overlooked careless .inList ∧ brokenCheck.Overlooked careless .contains := by
  have hclean : careless.sectionIssues "stage" = [] := rfl
  have hrule : carelessRule ∈ careless.ruleSection "stage" := List.mem_singleton.2 rfl
  obtain ⟨_, _, hchecks⟩ := checks_of_no_issues hclean carelessRule hrule
  have hmember : memberCheck.Vetted careless .inList :=
    (hchecks memberCheck (by simp [carelessRule])).2 .inList false rfl
  have hbroken : brokenCheck.Vetted careless .contains :=
    (hchecks brokenCheck (by simp [carelessRule])).2 .contains false rfl
  refine ⟨hclean, hrule, hmember.usable.1 rfl, ?_⟩
  by_contra hnone
  cases hbroken.usable.2 hnone

/-- An empty report does not mean that all checks have what they compare with. -/
theorem not_forall_usable_of_no_issues :
    ¬∀ (tree : ConfigTree) (sectionPath : String), tree.sectionIssues sectionPath = [] →
      ∀ rule ∈ tree.ruleSection sectionPath, ∀ check ∈ (Rule.compile rule tree).checks,
        check.usable = true := by
  intro h
  have hrule : carelessRule ∈ careless.ruleSection "stage" := List.mem_singleton.2 rfl
  have hcheck : .contains (some "item") none false ∈ (Rule.compile carelessRule careless).checks :=
    List.mem_cons_of_mem _ (List.mem_singleton.2 rfl)
  cases h careless "stage" rfl carelessRule hrule _ hcheck

end ConfigTree

end PurchaseStatus
