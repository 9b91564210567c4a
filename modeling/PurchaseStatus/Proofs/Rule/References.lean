import PurchaseStatus.Rule.Basic
import Mathlib.Data.List.Forall2

namespace PurchaseStatus

namespace ConfigTree

/-- The list that can be written in the place of a reference: the items of a list, or the scalar as
the one item. -/
def literalList? (tree : ConfigTree) (path : String) : Option (List Json) :=
  (tree.resolve? path).bind fun value =>
    match value with
    | .array items => some items
    | scalar => scalar.text?.map fun _ => [scalar]

/-- A reference to a list means the texts of the scalars in it. -/
theorem resolveList?_eq (tree : ConfigTree) (path : String) :
    tree.resolveList? path = (tree.literalList? path).map (·.filterMap Json.text?) := by
  unfold resolveList? literalList?
  cases tree.resolve? path with
  | none => rfl
  | some value => cases value <;> simp [Json.text?]

/-- What the first tree resolves, the second resolves to the same. -/
def Within (other tree : ConfigTree) : Prop :=
  ∀ path value, other.resolve? path = some value → tree.resolve? path = some value

namespace Within

theorem refl (tree : ConfigTree) : tree.Within tree := fun _ _ h => h

variable {other tree : ConfigTree} (h : other.Within tree)

include h

/-- What is not found in a tree is not found within it. -/
theorem bind_resolve?_eq_none {path : String} {f : Json → Option α}
    (hnone : (tree.resolve? path).bind f = none) : (other.resolve? path).bind f = none := by
  cases hother : other.resolve? path with
  | none => rfl
  | some value =>
    rw [h path value hother] at hnone
    exact hnone

/-- A path that leads nowhere in a tree leads nowhere within it. -/
theorem resolve?_eq_none {path : String} (hnone : tree.resolve? path = none) :
    other.resolve? path = none := by
  cases hother : other.resolve? path with
  | none => rfl
  | some value =>
    rw [h path value hother] at hnone
    cases hnone

end Within

/-- A path has a segment, be it an empty one. -/
theorem pathSegments_ne_nil (path : List Char) : pathSegments path ≠ [] := by
  cases path with
  | nil => simp [pathSegments]
  | cons c cs =>
    rw [pathSegments]
    split
    · simp
    · split <;> simp

theorem segments_ne_nil (path : String) : segments path ≠ [] := by
  simp [segments, pathSegments_ne_nil]

/-- Nothing resolves where there is no configuration. -/
theorem resolve?_empty (path : String) : empty.resolve? path = none := by
  have hdirect : ∀ path, empty.direct? path = none := by
    intro path
    unfold direct?
    cases hsegments : segments path with
    | nil => exact absurd hsegments (segments_ne_nil path)
    | cons segment rest => rfl
  unfold resolve? compositeParts?
  split
  · rename_i parts hparts
    split at hparts
    · cases hparts
      simp [merged?, hdirect]
    · cases hparts
  · exact hdirect path

/-- What is found under a segment stands in the table under that name up to case, and is not null. -/
theorem exists_field_of_childOf? {fields : List (String × Json)} {segment : String} {child : Json}
    (h : childOf? fields segment = some child) :
    ∃ name, (name, child) ∈ fields ∧ Text.eqIgnoreCase name segment = true ∧ child.isNull = false := by
  rcases Option.or_eq_some_iff.1 h with hexact | ⟨_, hsimilar⟩
  · obtain ⟨hfield, hpresent⟩ := Option.filter_eq_some_iff.1 hexact
    obtain ⟨⟨name, _⟩, hfound, rfl⟩ := Option.map_eq_some_iff.1 hfield
    have hname : name = segment := by simpa using List.find?_some hfound
    subst hname
    exact ⟨name, List.mem_of_find?_eq_some hfound, Text.eqIgnoreCase_refl name, by simpa using hpresent⟩
  · obtain ⟨⟨name, _⟩, hfound, rfl⟩ := Option.map_eq_some_iff.1 hsimilar
    have hkept := List.find?_some hfound
    obtain ⟨hname, hpresent⟩ := Bool.and_eq_true_iff.1 hkept
    exact ⟨name, List.mem_of_find?_eq_some hfound, hname, by simpa using hpresent⟩

/-- No path leads to a null below the root. -/
theorem walk?_ne_null {path : List String} {root : Json} (hpath : path ≠ []) :
    walk? path root ≠ some .null := by
  induction path generalizing root with
  | nil => exact absurd rfl hpath
  | cons segment rest ih =>
    cases root with
    | object fields =>
      rw [walk?]
      cases hchild : childOf? fields segment with
      | none => simp
      | some child =>
        obtain ⟨_, _, _, hpresent⟩ := exists_field_of_childOf? hchild
        cases rest with
        | nil =>
          rintro ⟨⟩
          cases hpresent
        | cons next rest => exact ih (by simp)
    | null | bool _ | int _ | float _ | string _ | array _ => simp [walk?]

/-- Null counts as missing, so nothing resolves to it. -/
theorem resolve?_ne_null (tree : ConfigTree) (path : String) : tree.resolve? path ≠ some .null := by
  unfold resolve?
  split
  · simp
  · exact walk?_ne_null (segments_ne_nil path)

/-- The empty tree is within every other. -/
theorem within_empty (tree : ConfigTree) : empty.Within tree := by
  intro path value hvalue
  rw [resolve?_empty] at hvalue
  cases hvalue

end ConfigTree

namespace CheckConfig

variable (tree : ConfigTree) (check : CheckConfig)

/-- The check with the text that its pattern refers to written in its place. -/
def inlinePattern : CheckConfig :=
  match check.pattern, check.patternKey.bind tree.resolveText? with
  | none, some text => { check with pattern := some text, patternKey := none }
  | _, _ => check

/-- The check with the value that it refers to written in its place. -/
def inlineValue : CheckConfig :=
  match check.value, check.valueKey.bind tree.resolve? with
  | none, some value => { check with value := some value, valueKey := none }
  | _, _ => check

/-- The check with the list that it refers to written in its place. -/
def inlineValues : CheckConfig :=
  match check.values, check.listKey.bind tree.literalList? with
  | none, some items => { check with values := some items, listKey := none }
  | _, _ => check

/-- The check with a literal in the place of the reference that its type consults, if there is one
that resolves. -/
def inline : CheckConfig :=
  match Comparison.ofName? check.type with
  | some (.contains, _) => check.inlinePattern tree
  | some (.equals, _) => check.inlineValue tree
  | some (.inList, _) => check.inlineValues tree
  | some (.isNull, _) | none => check

/-- Only the operand is written anew. -/
theorem inlinePattern_eq : check.inlinePattern tree = { check with
    pattern := (check.inlinePattern tree).pattern
    patternKey := (check.inlinePattern tree).patternKey } := by
  unfold inlinePattern
  split <;> rfl

/-- A check is the same but for the value and the reference to it. -/
theorem inlineValue_eq : check.inlineValue tree = { check with
    value := (check.inlineValue tree).value
    valueKey := (check.inlineValue tree).valueKey } := by
  unfold inlineValue
  split <;> rfl

/-- A check is the same but for the values and the reference to them. -/
theorem inlineValues_eq : check.inlineValues tree = { check with
    values := (check.inlineValues tree).values
    listKey := (check.inlineValues tree).listKey } := by
  unfold inlineValues
  split <;> rfl

variable {tree} {other : ConfigTree} (h : other.Within tree)

include h

/-- A pattern that is written in place is the one that was found. -/
theorem patternText?_inlinePattern :
    (check.inlinePattern tree).patternText? other = check.patternText? tree := by
  unfold inlinePattern patternText?
  cases hpattern : check.pattern with
  | some pattern => simp [hpattern]
  | none =>
    cases hkey : check.patternKey with
    | none => simp [hpattern, hkey]
    | some key =>
      cases htext : tree.resolveText? key with
      | some text => simp [htext]
      | none =>
        -- a reference that does not resolve is kept, and must not resolve in the other tree either
        have hother : other.resolveText? key = none := h.bind_resolve?_eq_none htext
        simp [hpattern, hkey, htext, hother]

/-- A value that is written in place is the one that was found. -/
theorem value?_inlineValue : (check.inlineValue tree).value? other = check.value? tree := by
  unfold inlineValue value?
  cases hvalue : check.value with
  | some value => simp [hvalue]
  | none =>
    cases hkey : check.valueKey with
    | none => simp [hvalue, hkey]
    | some key =>
      cases hresolved : tree.resolve? key with
      | some value => simp [hresolved]
      | none => simp [hvalue, hkey, hresolved, h.resolve?_eq_none hresolved]

/-- Members that are written in place are those that were found. -/
theorem members?_inlineValues : (check.inlineValues tree).members? other = check.members? tree := by
  unfold inlineValues members?
  cases hvalues : check.values with
  | some values => simp [hvalues]
  | none =>
    cases hkey : check.listKey with
    | none => simp [hvalues, hkey]
    | some key =>
      cases hlist : tree.literalList? key with
      | some items => simp [hlist, ConfigTree.resolveList?_eq]
      | none =>
        have hother : other.literalList? key = none := h.bind_resolve?_eq_none hlist
        simp [hvalues, hkey, hlist, hother, ConfigTree.resolveList?_eq]

/-- A check with its reference inlined compiles to the same, also where nothing else resolves. -/
theorem compile_inline : (check.inline tree).compile other = check.compile tree := by
  unfold inline
  cases htype : Comparison.ofName? check.type with
  | none => simp only [compile, htype]
  | some comparison =>
    obtain ⟨comparison, negate⟩ := comparison
    cases comparison with
    | contains =>
      have htype' : Comparison.ofName? (check.inlinePattern tree).type = some (.contains, negate) := by
        rw [inlinePattern_eq, htype]
      have hfield : (check.inlinePattern tree).field = check.field := by rw [inlinePattern_eq]
      simp only [compile, htype, htype', hfield, compiledPattern?, check.patternText?_inlinePattern h]
    | equals =>
      have htype' : Comparison.ofName? (check.inlineValue tree).type = some (.equals, negate) := by
        rw [inlineValue_eq, htype]
      have hfield : (check.inlineValue tree).field = check.field := by rw [inlineValue_eq]
      have hcast : (check.inlineValue tree).cast = check.cast := by rw [inlineValue_eq]
      simp only [compile, htype, htype', hfield, hcast, expected?, check.value?_inlineValue h]
    | inList =>
      have htype' : Comparison.ofName? (check.inlineValues tree).type = some (.inList, negate) := by
        rw [inlineValues_eq, htype]
      have hfield : (check.inlineValues tree).field = check.field := by rw [inlineValues_eq]
      simp only [compile, htype, htype', hfield, check.members?_inlineValues h]
    | isNull => simp only [compile, htype]

end CheckConfig

namespace RuleConfig

/-- The rule with literals in the place of all references that it consults and that resolve. -/
def inline (tree : ConfigTree) (rule : RuleConfig) : RuleConfig :=
  let checks := rule.checks.map (·.inline tree)
  match rule.statusValue, rule.statusValueKey.bind tree.resolveText? with
  | none, some status => { rule with statusValue := some status, statusValueKey := none, checks }
  | _, _ => { rule with checks }

end RuleConfig

namespace Rule

variable {tree other : ConfigTree}

/-- A rule with everything in place compiles the same against any tree within the first. -/
theorem compile_inline_of_within (h : other.Within tree) (rule : RuleConfig) :
    compile (rule.inline tree) other = compile rule tree := by
  have hchecks : (rule.checks.map (·.inline tree)).map (·.compile other) =
      rule.checks.map (·.compile tree) := by
    rw [List.map_map]
    exact List.map_congr_left fun check _ => check.compile_inline h
  unfold RuleConfig.inline compile statusOf?
  cases hstatus : rule.statusValue with
  | some status => simp [hchecks, idOf]
  | none =>
    cases hkey : rule.statusValueKey with
    | none => simp [hkey, hchecks, idOf]
    | some key =>
      cases htext : tree.resolveText? key with
      | some status => simp [htext, hchecks, idOf]
      | none =>
        have hother : other.resolveText? key = none := h.bind_resolve?_eq_none htext
        simp [hkey, htext, hother, hchecks, idOf]

end Rule

/-- The checks differ in keys beside a literal only. -/
structure CheckConfig.SameLiterals (a b : CheckConfig) : Prop where
  type : b.type = a.type
  field : b.field = a.field
  pattern : b.pattern = a.pattern
  patternKey : a.pattern = none → b.patternKey = a.patternKey
  value : b.value = a.value
  valueKey : a.value = none → b.valueKey = a.valueKey
  values : b.values = a.values
  listKey : a.values = none → b.listKey = a.listKey
  cast : b.cast = a.cast

/-- The rules differ in keys beside a literal only. -/
structure RuleConfig.SameLiterals (a b : RuleConfig) : Prop where
  priority : b.priority = a.priority
  statusValue : b.statusValue = a.statusValue
  statusValueKey : a.statusValue = none → b.statusValueKey = a.statusValueKey
  note : b.note = a.note
  combine : b.combine = a.combine
  applyTo : b.applyTo = a.applyTo
  checks : List.Forall₂ CheckConfig.SameLiterals a.checks b.checks

/-- Checks that differ in references beside literals compile to the same. -/
theorem CheckConfig.SameLiterals.compile {a b : CheckConfig} (h : a.SameLiterals b)
    (tree : ConfigTree) : b.compile tree = a.compile tree := by
  have hpattern : b.patternText? tree = a.patternText? tree := by
    unfold patternText?
    rw [h.pattern]
    cases hliteral : a.pattern with
    | some pattern => rfl
    | none => rw [h.patternKey hliteral]
  have hvalue : b.value? tree = a.value? tree := by
    unfold value?
    rw [h.value]
    cases hliteral : a.value with
    | some value => rfl
    | none => rw [h.valueKey hliteral]
  have hmembers : b.members? tree = a.members? tree := by
    unfold members?
    rw [h.values]
    cases hliteral : a.values with
    | some values => rfl
    | none => rw [h.listKey hliteral]
  simp only [CheckConfig.compile, compiledPattern?, expected?, h.type, h.field, h.cast, hpattern, hvalue,
    hmembers]

/-- Lists of checks that differ in references beside literals compile to the same. -/
theorem CheckConfig.map_compile_of_sameLiterals {as bs : List CheckConfig}
    (h : List.Forall₂ SameLiterals as bs) (tree : ConfigTree) :
    bs.map (·.compile tree) = as.map (·.compile tree) := by
  induction h with
  | nil => rfl
  | cons hcheck _ ih => rw [List.map_cons, List.map_cons, hcheck.compile tree, ih]

/-- Rules that differ in references beside literals compile to the same. -/
theorem RuleConfig.SameLiterals.compile {a b : RuleConfig} (h : a.SameLiterals b)
    (tree : ConfigTree) : Rule.compile b tree = Rule.compile a tree := by
  have hchecks := CheckConfig.map_compile_of_sameLiterals h.checks tree
  have hstatus : Rule.statusOf? b tree = Rule.statusOf? a tree := by
    unfold Rule.statusOf?
    rw [h.statusValue]
    cases hliteral : a.statusValue with
    | some status => rfl
    | none => rw [h.statusValueKey hliteral]
  have hid : Rule.idOf b (Rule.statusOf? a tree) = Rule.idOf a (Rule.statusOf? a tree) := by
    unfold Rule.idOf
    cases hliteral : a.statusValue with
    | some status => simp [Rule.statusOf?, hliteral, h.priority]
    | none => rw [h.priority, h.statusValueKey hliteral]
  simp only [Rule.compile, hstatus, hid, hchecks, h.priority, h.note, h.combine, h.applyTo]

namespace Rule

/-- References mean their targets. A rule in which literals stand in the place of the references
compiles to the rule that it was before, with the configuration and without any, and a key beside a
literal may be any other. -/
theorem compile_inline_references (tree : ConfigTree) (rule : RuleConfig) :
    compile (rule.inline tree) tree = compile rule tree ∧
    compile (rule.inline tree) .empty = compile rule tree ∧
    ∀ rule', rule.SameLiterals rule' → compile rule' tree = compile rule tree :=
  ⟨compile_inline_of_within (.refl tree) rule, compile_inline_of_within tree.within_empty rule,
    fun _ h => h.compile tree⟩

def vocabulary : ConfigTree := ⟨.object [
  ("spx", .object [
    ("done", .string "closed"), ("floor", .int 3),
    ("kiosk_suppliers", .array [.string "K2", .null, .string "K1"]),
    ("locker_suppliers", .string "L1")])]⟩

/-- Of the references, one is composite, one is a number, and one does not resolve. -/
def referring : RuleConfig :=
  { statusValueKey := some "spx.done"
    checks := [
      { type := "in_list", field := some "supplier", listKey := some "spx.asset_suppliers" },
      { type := "equals", field := some "floor", valueKey := some "SPX.Floor", cast := some .int },
      { type := "contains", field := some "item", patternKey := some "spx.nowhere" }] }

/-- The inlined rule needs no configuration, and the reference of a literal status may be any. -/
theorem compile_inline_references_composite :
    let inlined := referring.inline vocabulary
    let elsewhere := { inlined with statusValueKey := some "spx.floor" }
    inlined.SameLiterals elsewhere ∧
    (compile inlined .empty).id = "priority_999_closed" ∧
    (compile inlined .empty).checks = [
      .inList (some "supplier") (some ["K1", "K2", "L1"]) false,
      .equals (some "floor") (some (.int 3)) false,
      .contains (some "item") none false] ∧
    compile elsewhere vocabulary = compile referring vocabulary := by
  intro inlined elsewhere
  obtain ⟨hsame, hempty, _⟩ := compile_inline_references vocabulary referring
  obtain ⟨_, _, hkeys⟩ := compile_inline_references vocabulary inlined
  have hliterals : inlined.SameLiterals elsewhere :=
    ⟨rfl, rfl, nofun, rfl, rfl, rfl, List.forall₂_same.2 fun _ _ =>
      ⟨rfl, rfl, rfl, fun _ => rfl, rfl, fun _ => rfl, rfl, fun _ => rfl, rfl⟩⟩
  refine ⟨hliterals, ?_, ?_, (hkeys elsewhere hliterals).trans hsame⟩
  · rw [hempty]
    decide
  · rw [hempty]
    rfl

end Rule

end PurchaseStatus
