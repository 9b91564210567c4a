import PurchaseStatus.Rule.Config
import PurchaseStatus.Proofs.Agreement
import PurchaseStatus.Proofs.Sorting

namespace PurchaseStatus

namespace Json

/-- The second value means the same to a rule that refers to it: a rule reads scalars as they are, of a
list the texts in it, and of a table nothing. -/
inductive ReadsAs : Json → Json → Prop where
  | same (value : Json) : ReadsAs value value
  | lists {items others : List Json} (h : items.filterMap text? = others.filterMap text?) :
      ReadsAs (.array items) (.array others)
  | tables (fields others : List (String × Json)) : ReadsAs (.object fields) (.object others)

namespace ReadsAs

variable {a b : Json}

/-- Values that read the same are null together. -/
theorem isNull_eq (h : ReadsAs a b) : a.isNull = b.isNull := by
  cases h <;> rfl

/-- Lists that read the same have the same texts, in order and number. -/
theorem texts_itemsOf (h : ReadsAs a b) :
    (ConfigTree.itemsOf a).filterMap text? = (ConfigTree.itemsOf b).filterMap text? := by
  cases h with
  | same => rfl
  | lists htexts => exact htexts
  | tables => rfl

end ReadsAs

/-- The values mean the same, or they are the list that was exchanged and the one in its place. -/
def ReadsUpTo (exchanged written : List Json) (a b : Json) : Prop :=
  ReadsAs a b ∨ a = .array written ∧ b = .array exchanged

/-- Neither of two lists is null. -/
theorem ReadsUpTo.isNull_eq {exchanged written : List Json} {a b : Json}
    (h : ReadsUpTo exchanged written a b) : a.isNull = b.isNull := by
  rcases h with hread | ⟨rfl, rfl⟩
  · exact hread.isNull_eq
  · rfl

/-- The values are the same scalar, or neither is one. This is what counts where a single text or value is
referred to. -/
def SameScalar (a b : Json) : Prop := a = b ∨ a.text? = none ∧ b.text? = none

/-- Scalars that are the same have the same text. -/
theorem SameScalar.text?_eq {a b : Json} (h : SameScalar a b) : a.text? = b.text? := by
  rcases h with rfl | ⟨ha, hb⟩
  · rfl
  · rw [ha, hb]

/-- A list is no scalar, nor is the one that replaces it. -/
theorem ReadsUpTo.sameScalar {exchanged written : List Json} {a b : Json}
    (h : ReadsUpTo exchanged written a b) : SameScalar a b := by
  rcases h with hread | ⟨rfl, rfl⟩
  · cases hread with
    | same => exact .inl rfl
    | lists | tables => exact .inr ⟨rfl, rfl⟩
  · exact .inr ⟨rfl, rfl⟩

/-- Along every path the values mean the same, up to one list. -/
def ReadsAlike (exchanged written : List Json) (a b : Json) : Prop :=
  ∀ path, Option.Rel (ReadsUpTo exchanged written) (ConfigTree.walk? path a) (ConfigTree.walk? path b)

/-- Fields of the same names, in the same order, with related values. -/
def FieldsRel (r : Json → Json → Prop) : List (String × Json) → List (String × Json) → Prop :=
  List.Forall₂ fun a b => a.1 = b.1 ∧ r a.2 b.2

/-- The fields with another value in the first one for which a test holds. -/
def changeFirst (p : String × Json → Bool) (change : Json → Json) :
    List (String × Json) → List (String × Json)
  | [] => []
  | field :: rest =>
    if p field then (field.1, change field.2) :: rest else field :: changeFirst p change rest

namespace ReadsAlike

variable {exchanged written : List Json}

theorem refl (a : Json) : ReadsAlike exchanged written a a :=
  fun _ => Option.Rel.refl (fun value => .inl (.same value)) _

/-- Which keys count as entered is the same in two trees that read alike. -/
theorem isNull_eq {a b : Json} (h : ReadsAlike exchanged written a b) : a.isNull = b.isNull := by
  have hroot := h []
  cases hroot with
  | some hvalue => exact hvalue.isNull_eq

/-- No path leads into a list. -/
theorem exchange : ReadsAlike exchanged written (.array written) (.array exchanged) := by
  intro path
  cases path with
  | nil => exact .some (.inr ⟨rfl, rfl⟩)
  | cons segment rest => exact .none

end ReadsAlike

namespace FieldsRel

variable {r : Json → Json → Prop} {fields others : List (String × Json)}

/-- The first fields for which a test holds are related, where the test holds of related fields alike. -/
theorem rel_find? (h : FieldsRel r fields others) {p : String × Json → Bool}
    (hp : ∀ a b : String × Json, a.1 = b.1 → r a.2 b.2 → p a = p b) :
    Option.Rel r ((fields.find? p).map (·.2)) ((others.find? p).map (·.2)) := by
  induction h with
  | nil => exact .none
  | @cons a b _ _ hfield _ ih =>
    have hsame := hp a b hfield.1 hfield.2
    rw [List.find?_cons, List.find?_cons, hsame]
    cases p b with
    | true => exact .some hfield.2
    | false => exact ih

/-- Tables with related fields have related values under every key. -/
theorem rel_fieldOf? (h : FieldsRel r fields others) (name : String) :
    Option.Rel r (fieldOf? fields name) (fieldOf? others name) :=
  h.rel_find? fun a b hname _ => by rw [hname]

/-- A change to one field leaves the others as they are. -/
theorem changeFirst {p : String × Json → Bool} {change : Json → Json} (hrefl : ∀ value, r value value)
    (hchange : ∀ field, fields.find? p = some field → r (change field.2) field.2) :
    FieldsRel r (changeFirst p change fields) fields := by
  have hrest : ∀ fields, FieldsRel r fields fields :=
    fun fields => List.forall₂_same.2 fun field _ => ⟨rfl, hrefl field.2⟩
  induction fields with
  | nil => exact .nil
  | cons field rest ih =>
    rw [Json.changeFirst]
    split
    · rename_i hp
      exact .cons ⟨rfl, hchange field (List.find?_cons_of_pos hp)⟩ (hrest rest)
    · rename_i hp
      refine .cons ⟨rfl, hrefl field.2⟩ (ih fun found hfound => hchange found ?_)
      rw [List.find?_cons_of_neg hp]
      exact hfound

end FieldsRel

/-- The field that was changed is found where it was, with its new value. -/
theorem find?_changeFirst {p : String × Json → Bool} {change : Json → Json}
    (hp : ∀ field : String × Json, p (field.1, change field.2) = p field) (fields : List (String × Json)) :
    (changeFirst p change fields).find? p =
      (fields.find? p).map fun field => (field.1, change field.2) := by
  induction fields with
  | nil => rfl
  | cons field rest ih =>
    rw [changeFirst]
    split
    · rename_i hfield
      rw [List.find?_cons_of_pos ((hp field).trans hfield), List.find?_cons_of_pos hfield]
      rfl
    · rename_i hfield
      rw [List.find?_cons_of_neg hfield, List.find?_cons_of_neg hfield, ih]

end Json

namespace ConfigTree

/-- Whether a field is one that is entered for a segment: that of the exact name, if it has a value, and
else one whose name differs only in case. -/
def isEntered (fields : List (String × Json)) (segment : String) (field : String × Json) : Bool :=
  if ((Json.fieldOf? fields segment).filter fun value => !value.isNull).isSome then field.1 == segment
  else Text.eqIgnoreCase field.1 segment && !field.2.isNull

/-- Entering a segment is finding the first field that the segment enters. -/
theorem childOf?_eq (fields : List (String × Json)) (segment : String) :
    childOf? fields segment = (fields.find? (isEntered fields segment)).map (·.2) := by
  unfold childOf? isEntered
  cases hexact : (Json.fieldOf? fields segment).filter fun value => !value.isNull with
  | none => rfl
  | some value =>
    have hfield : Json.fieldOf? fields segment = some value := (Option.filter_eq_some_iff.1 hexact).1
    simp only [Option.isSome_some, if_true]
    exact hfield.symm

/-- Which field a segment enters depends on the keys and on which values are null. -/
theorem isEntered_congr {fields others : List (String × Json)} (segment : String)
    (h : Json.FieldsRel (fun a b => a.isNull = b.isNull) fields others) :
    isEntered fields segment = isEntered others segment := by
  have hexact : ((Json.fieldOf? fields segment).filter fun value => !value.isNull).isSome =
      ((Json.fieldOf? others segment).filter fun value => !value.isNull).isSome := by
    rcases (h.rel_fieldOf? segment).none_or_some with ⟨hfields, hothers⟩ | ⟨a, b, hfields, hothers, hnull⟩
    · rw [hfields, hothers]
    · rw [hfields, hothers]
      cases hb : b.isNull <;> simp [Option.filter, hnull, hb]
  unfold isEntered
  rw [hexact]

section Alike

variable {exchanged written : List Json} {fields others : List (String × Json)}
  (h : Json.FieldsRel (Json.ReadsAlike exchanged written) fields others)

include h

/-- The children of tables alike are alike. -/
theorem rel_childOf? (segment : String) : Option.Rel (Json.ReadsAlike exchanged written)
    (childOf? fields segment) (childOf? others segment) := by
  have hnull : Json.FieldsRel (fun a b => a.isNull = b.isNull) fields others :=
    List.Forall₂.imp (fun _ _ hfield => ⟨hfield.1, hfield.2.isNull_eq⟩) h
  rw [childOf?_eq, childOf?_eq, isEntered_congr segment hnull]
  refine h.rel_find? fun a b hname hvalue => ?_
  unfold isEntered
  rw [hname, hvalue.isNull_eq]

/-- Tables read alike if their values do, key by key. -/
theorem readsAlike_object : Json.ReadsAlike exchanged written (.object fields) (.object others) := by
  intro path
  cases path with
  | nil => exact .some (.inl (.tables fields others))
  | cons segment rest => exact (rel_childOf? h segment).bind fun _ _ hchild => hchild rest

end Alike

/-- The value with the one that a path leads to changed. -/
def changeAt (change : Json → Json) : List String → Json → Json
  | [], value => change value
  | segment :: rest, .object fields =>
    .object (Json.changeFirst (isEntered fields segment) (changeAt change rest) fields)
  | _ :: _, value => value

section Change

variable {change : Json → Json} (hnull : ∀ value, (change value).isNull = value.isNull)

include hnull

/-- A change at the end of a path makes nothing null on the way, nor anything that was null another
value. -/
theorem isNull_changeAt (path : List String) (value : Json) :
    (changeAt change path value).isNull = value.isNull := by
  cases path with
  | nil => exact hnull value
  | cons segment rest => cases value <;> rfl

/-- The value under the changed segment is changed. -/
theorem childOf?_changeFirst (fields : List (String × Json)) (segment : String) :
    childOf? (Json.changeFirst (isEntered fields segment) change fields) segment =
      (childOf? fields segment).map change := by
  have hkept : Json.FieldsRel (fun a b => a.isNull = b.isNull)
      (Json.changeFirst (isEntered fields segment) change fields) fields :=
    .changeFirst (fun _ => rfl) fun field _ => hnull field.2
  have htest : ∀ field : String × Json,
      isEntered fields segment (field.1, change field.2) = isEntered fields segment field := by
    intro field
    unfold isEntered
    rw [hnull]
  rw [childOf?_eq, isEntered_congr segment hkept, Json.find?_changeFirst htest, childOf?_eq,
    Option.map_map, Option.map_map]
  rfl

/-- The path along which a tree was changed leads to the changed value. -/
theorem walk?_changeAt (path : List String) (value : Json) :
    walk? path (changeAt change path value) = (walk? path value).map change := by
  induction path generalizing value with
  | nil => rfl
  | cons segment rest ih =>
    cases value with
    | object fields =>
      rw [changeAt, walk?, walk?, childOf?_changeFirst (isNull_changeAt hnull rest), Option.bind_map,
        Option.map_bind]
      exact congrArg _ (funext ih)
    | null | bool _ | int _ | float _ | string _ | array _ => rfl

end Change

/-- A change at the end of a path that keeps what is read there keeps it everywhere. -/
theorem readsAlike_changeAt {exchanged written : List Json} {change : Json → Json} {path : List String}
    {value : Json} (hchange : ∀ target, walk? path value = some target →
      Json.ReadsAlike exchanged written (change target) target) :
    Json.ReadsAlike exchanged written (changeAt change path value) value := by
  -- only the first field of a name is changed, which is the one that the path goes through
  induction path generalizing value with
  | nil => exact hchange value rfl
  | cons segment rest ih =>
    cases value with
    | object fields =>
      refine readsAlike_object (.changeFirst .refl fun field hfield => ih fun target htarget => ?_)
      refine hchange target ?_
      rw [walk?, childOf?_eq, hfield]
      exact htarget
    | null | bool _ | int _ | float _ | string _ | array _ => exact .refl _

/-- A section with other entries in its list. -/
def withConditions (entries : List Json) : Json → Json
  | .object fields => .object (Json.changeFirst (·.1 == "conditions") (fun _ => .array entries) fields)
  | value => value

/-- The tree in which a section lists its rules as they are written. -/
def rebuild (tree : ConfigTree) (sectionPath : String) : ConfigTree :=
  let written := (tree.ruleSection sectionPath).map RuleConfig.toJson
  ⟨changeAt (withConditions written) (segments sectionPath) tree.root⟩

section Rebuild

variable {tree : ConfigTree} {sectionPath : String} {entries : List Json}

/-- A section whose list is exchanged is still a section. -/
theorem isNull_withConditions (entries : List Json) (value : Json) :
    (withConditions entries value).isNull = value.isNull := by
  cases value <;> rfl

/-- The rebuilt section is found where the section was. -/
theorem direct?_rebuild (tree : ConfigTree) (sectionPath : String) :
    (tree.rebuild sectionPath).direct? sectionPath = (tree.direct? sectionPath).map
      (withConditions ((tree.ruleSection sectionPath).map RuleConfig.toJson)) :=
  walk?_changeAt (isNull_withConditions _) (segments sectionPath) tree.root

/-- The rebuilt section lists the rules as they are written back. -/
theorem lists_rebuild (h : tree.Lists sectionPath entries) :
    (tree.rebuild sectionPath).Lists sectionPath ((tree.ruleSection sectionPath).map RuleConfig.toJson) := by
  obtain ⟨fields, hsection, hfound⟩ := h
  obtain ⟨field, hfield, _⟩ := Option.map_eq_some_iff.1 hfound
  refine ⟨_, by rw [direct?_rebuild, hsection, Option.map_some, withConditions], ?_⟩
  rw [Json.fieldOf?, Json.find?_changeFirst (fun _ => rfl), hfield]
  rfl

/-- Nothing but the list of the section is exchanged. -/
theorem readsAlike_rebuild (h : tree.Lists sectionPath entries) :
    Json.ReadsAlike entries ((tree.ruleSection sectionPath).map RuleConfig.toJson)
      (tree.rebuild sectionPath).root tree.root := by
  obtain ⟨fields, hsection, hfound⟩ := h
  refine readsAlike_changeAt fun target htarget => ?_
  obtain rfl : Json.object fields = target := Option.some.inj (hsection.symm.trans htarget)
  refine readsAlike_object (.changeFirst .refl fun field hfield => ?_)
  have hvalue : field.2 = .array entries := by
    rw [Json.fieldOf?, hfield] at hfound
    exact Option.some.inj hfound
  rw [hvalue]
  exact .exchange

end Rebuild

variable {other tree : ConfigTree} {reference : String}

/-- The paths that a reference follows: those of its parts, or its own. -/
def pathsOf (reference : String) : List String := (compositeParts? reference).getD [reference]

/-- A reference leads to the same scalar in both trees, or in neither to one. -/
def ScalarAlike (other tree : ConfigTree) (reference : String) : Prop :=
  Option.Rel Json.SameScalar (other.resolve? reference) (tree.resolve? reference)

/-- Through a reference the same texts are found in both trees, in whatever order and number, or it leads to
no list in either. -/
def FindsSame (other tree : ConfigTree) (reference : String) : Prop :=
  Option.Rel (fun found texts => ∀ text, text ∈ found ↔ text ∈ texts)
    (other.resolveList? reference) (tree.resolveList? reference)

/-- A reference that resolves to one value is one scalar. -/
theorem scalarAlike_of_resolve?_eq (h : other.resolve? reference = tree.resolve? reference) :
    other.ScalarAlike tree reference :=
  .of_eq (fun _ => .inl rfl) h

/-- A reference that resolves to one list finds the same members. -/
theorem findsSame_of_resolveList?_eq (h : other.resolveList? reference = tree.resolveList? reference) :
    other.FindsSame tree reference :=
  .of_eq (fun _ _ => Iff.rfl) h

/-- Trees that are alike in a scalar have its text in common. -/
theorem ScalarAlike.resolveText?_eq (h : other.ScalarAlike tree reference) :
    other.resolveText? reference = tree.resolveText? reference := by
  unfold resolveText?
  rcases h.none_or_some with ⟨hother, htree⟩ | ⟨a, b, hother, htree, hvalue⟩
  · rw [hother, htree]
  · rw [hother, htree]
    exact hvalue.text?_eq

/-- What two lists of texts have in common shows in the set that they are compiled to. -/
theorem map_distinctTexts_eq_iff {found texts : Option (List String)} :
    found.map distinctTexts = texts.map distinctTexts ↔
      Option.Rel (fun found texts => ∀ text, text ∈ found ↔ text ∈ texts) found texts := by
  constructor
  · intro h
    cases found with
    | none =>
      cases texts with
      | none => exact .none
      | some texts => cases h
    | some found =>
      cases texts with
      | none => cases h
      | some texts => exact .some (distinctTexts_eq_iff.1 (Option.some.inj h))
  · intro h
    cases h with
    | none => rfl
    | some hsame => exact congrArg some (distinctTexts_eq_iff.2 hsame)

/-- Where the paths that a reference follows lead to what reads the same, the list of texts is the same. -/
theorem resolveList?_eq_of_readsAs (hdirect : ∀ path ∈ pathsOf reference,
    Option.Rel Json.ReadsAs (other.direct? path) (tree.direct? path)) :
    other.resolveList? reference = tree.resolveList? reference := by
  -- a composite reference puts the lists of its parts one behind the other, so only their texts count
  have hmerged : ∀ parts, (∀ path ∈ parts, path ∈ pathsOf reference) →
      Option.Rel (fun items more => items.filterMap Json.text? = more.filterMap Json.text?)
        (other.merged? parts) (tree.merged? parts) := by
    intro parts hparts
    induction parts with
    | nil => exact .some rfl
    | cons part rest ih =>
      have hpart := hdirect part (hparts part List.mem_cons_self)
      have hrest := ih fun path hpath => hparts path (List.mem_cons_of_mem part hpath)
      refine hpart.bind fun a b hvalue => hrest.bind fun items more hitems => .some ?_
      rw [List.filterMap_append, List.filterMap_append, hvalue.texts_itemsOf, hitems]
  have hresolved : Option.Rel Json.ReadsAs (other.resolve? reference) (tree.resolve? reference) := by
    unfold resolve?
    cases hparts : compositeParts? reference with
    | none => exact hdirect reference (by simp [pathsOf, hparts])
    | some parts =>
      exact (hmerged parts (by simp [pathsOf, hparts])).map fun _ _ htexts => .lists htexts
  unfold resolveList?
  rcases hresolved.none_or_some with ⟨hother, htree⟩ | ⟨a, b, hother, htree, hvalue⟩
  · rw [hother, htree]
  · rw [hother, htree]
    cases hvalue with
    | same => rfl
    | lists htexts => exact congrArg some htexts
    | tables => rfl

section Exchange

variable {exchanged written : List Json} (h : Json.ReadsAlike exchanged written other.root tree.root)

include h

/-- A change of one list is not noticed where a single text or value is referred to. -/
theorem scalarAlike_of_readsAlike (reference : String) : other.ScalarAlike tree reference := by
  have hdirect : ∀ path, Option.Rel (Json.ReadsUpTo exchanged written) (other.direct? path)
      (tree.direct? path) := fun path => h (segments path)
  unfold ScalarAlike resolve?
  cases compositeParts? reference with
  | none => exact (hdirect reference).imp fun _ _ => Json.ReadsUpTo.sameScalar
  | some parts =>
    have hmerged : Option.Rel (fun _ _ => True) (other.merged? parts) (tree.merged? parts) := by
      induction parts with
      | nil => exact .some trivial
      | cons part rest ih =>
        exact (hdirect part).bind fun _ _ _ => ih.bind fun _ _ _ => .some trivial
    exact hmerged.map fun _ _ _ => .inr ⟨rfl, rfl⟩

/-- Where the texts in the list matter, the change is noticed by a reference that follows a path to it, and
only if it had other texts in it before. -/
theorem findsSame_or_leads (reference : String) : other.FindsSame tree reference ∨
    written.filterMap Json.text? ≠ exchanged.filterMap Json.text? ∧
      ∃ path ∈ pathsOf reference,
        other.direct? path = some (.array written) ∧ tree.direct? path = some (.array exchanged) := by
  by_cases hown : written.filterMap Json.text? ≠ exchanged.filterMap Json.text? ∧
      ∃ path ∈ pathsOf reference,
        other.direct? path = some (.array written) ∧ tree.direct? path = some (.array exchanged)
  · exact .inr hown
  · refine .inl (findsSame_of_resolveList?_eq (resolveList?_eq_of_readsAs fun path hpath => ?_))
    rcases (h (segments path)).none_or_some with ⟨hother, htree⟩ | ⟨a, b, hother, htree, hread | ⟨rfl, rfl⟩⟩
    · rw [direct?, direct?, hother, htree]
      exact .none
    · rw [direct?, direct?, hother, htree]
      exact .some hread
    · have htexts : written.filterMap Json.text? = exchanged.filterMap Json.text? :=
        Classical.not_not.1 fun hne => hown ⟨hne, path, hpath, hother, htree⟩
      rw [direct?, direct?, hother, htree]
      exact .some (.lists htexts)

end Exchange

end ConfigTree

end PurchaseStatus
