import PurchaseStatus.Proofs.Rule.References
import Mathlib.Data.List.Find
import Mathlib.Data.List.Nodup

namespace PurchaseStatus

/-- A part of a document: the document itself, or a part of one of its fields or items. -/
inductive Json.Contains : Json → Json → Prop where
  | self (value : Json) : Contains value value
  | field {fields : List (String × Json)} {name : String} {child part : Json}
      (hfield : (name, child) ∈ fields) (hpart : Contains child part) : Contains (.object fields) part
  | item {items : List Json} {child part : Json}
      (hitem : child ∈ items) (hpart : Contains child part) : Contains (.array items) part

/-- Lower case keeps the dots of a path and adds none. -/
theorem Text.toLower_eq_dot_iff (c : Char) : c.toLower = '.' ↔ c = '.' := by
  unfold Char.toLower
  split
  · rename_i hupper
    have hlow : 65 ≤ c.toNat := UInt32.le_iff_toNat_le.1 hupper.1
    have hhigh : c.toNat ≤ 90 := UInt32.le_iff_toNat_le.1 hupper.2
    constructor
    · intro hdot
      have hval := congrArg (·.val.toNat) hdot
      simp [UInt32.toNat_add] at hval
      omega
    · rintro rfl
      exact absurd hlow (by decide)
  · exact Iff.rfl

/-- A dot separates the segments before it from those behind it. -/
theorem pathSegments_append (p q : List Char) :
    pathSegments (p ++ '.' :: q) = pathSegments p ++ pathSegments q := by
  induction p with
  | nil => simp [pathSegments]
  | cons c cs ih =>
    rw [List.cons_append, pathSegments, pathSegments, ih]
    split
    · rfl
    · cases hsegments : pathSegments cs with
      | nil => exact absurd hsegments (ConfigTree.pathSegments_ne_nil cs)
      | cons segment rest => rfl

/-- Without a dot there is one segment. -/
theorem pathSegments_of_no_dot {cs : List Char} (h : '.' ∉ cs) : pathSegments cs = [cs] := by
  induction cs with
  | nil => rfl
  | cons c cs ih =>
    rw [List.mem_cons, not_or] at h
    obtain ⟨hc, hcs⟩ := h
    rw [pathSegments, if_neg (Ne.symm hc), ih hcs]

/-- Lower case moves no dot. -/
theorem pathSegments_map_toLower (cs : List Char) :
    pathSegments (cs.map Char.toLower) = (pathSegments cs).map (List.map Char.toLower) := by
  induction cs with
  | nil => rfl
  | cons c cs ih =>
    rw [List.map_cons, pathSegments, pathSegments, ih]
    by_cases hdot : c = '.'
    · rw [if_pos hdot, if_pos ((Text.toLower_eq_dot_iff c).2 hdot)]
      rfl
    · rw [if_neg hdot, if_neg (mt (Text.toLower_eq_dot_iff c).1 hdot)]
      cases pathSegments cs <;> rfl

namespace ConfigTree

variable {fields : List (String × Json)}

/-- The segments of two paths with a dot between them are those of each. -/
theorem segments_append (p q : String) : segments (p ++ "." ++ q) = segments p ++ segments q := by
  have hchars : (p ++ "." ++ q).toList = p.toList ++ '.' :: q.toList := by simp
  rw [segments, hchars, pathSegments_append, List.map_append]
  rfl

theorem segments_of_no_dot {key : String} (h : '.' ∉ key.toList) : segments key = [key] := by
  simp [segments, pathSegments_of_no_dot h]

/-- Paths that are equal up to case have segments that are. -/
theorem map_asciiLower_segments {p q : String} (h : Text.eqIgnoreCase p q = true) :
    (segments p).map Text.asciiLower = (segments q).map Text.asciiLower := by
  have hlower : ∀ path : String, (segments path).map Text.asciiLower = segments (Text.asciiLower path) := by
    intro path
    simp [segments, Text.asciiLower, pathSegments_map_toLower, Function.comp_def]
  rw [hlower, hlower, Text.eqIgnoreCase_iff.1 h]

/-- A longer path goes on from where the shorter one leads. -/
theorem walk?_append (first rest : List String) (root : Json) :
    walk? (first ++ rest) root = (walk? first root).bind (walk? rest) := by
  induction first generalizing root with
  | nil => rfl
  | cons segment first ih =>
    cases root with
    | object fields =>
      rw [List.cons_append, walk?, walk?, Option.bind_assoc]
      exact congrArg _ (funext ih)
    | null | bool _ | int _ | float _ | string _ | array _ => rfl

/-- No path leads into a value that is no table. -/
theorem walk?_of_no_table {path : List String} (hpath : path ≠ []) {root : Json}
    (hroot : ∀ fields, root ≠ .object fields) : walk? path root = none := by
  cases path with
  | nil => exact absurd rfl hpath
  | cons segment rest =>
    cases root with
    | object fields => exact absurd rfl (hroot fields)
    | null | bool _ | int _ | float _ | string _ | array _ => rfl

/-- A longer path goes on from where the shorter one ends. -/
theorem direct?_append (tree : ConfigTree) (p q : String) :
    tree.direct? (p ++ "." ++ q) = (tree.direct? p).bind fun value => (⟨value⟩ : ConfigTree).direct? q := by
  rw [direct?, segments_append, walk?_append]
  rfl

/-- A path that is no composite of two is followed as it is. -/
theorem resolve?_of_direct (tree : ConfigTree) {path : String} (h : compositeParts? path = none) :
    tree.resolve? path = tree.direct? path := by
  rw [resolve?, h]

/-- The keys of a table are told apart without their case. -/
def KeysDiffer (fields : List (String × Json)) : Prop :=
  (fields.map fun field => Text.asciiLower field.1).Nodup

instance (fields : List (String × Json)) : Decidable (KeysDiffer fields) :=
  inferInstanceAs (Decidable (List.Nodup _))

/-- No table of the tree has two keys that are equal up to case. -/
def CaseDistinct (tree : ConfigTree) : Prop :=
  ∀ fields, tree.root.Contains (.object fields) → KeysDiffer fields

/-- Where keys are told apart without their case, the exact name has no precedence to take. -/
theorem childOf?_eq_find? (hkeys : KeysDiffer fields) (segment : String) :
    childOf? fields segment =
      (fields.find? fun (name, value) => Text.eqIgnoreCase name segment && !value.isNull).map (·.2) := by
  unfold childOf?
  cases hexact : (Json.fieldOf? fields segment).filter fun value => !value.isNull with
  | none => rfl
  | some value =>
    obtain ⟨hfield, hpresent⟩ := Option.filter_eq_some_iff.1 hexact
    obtain ⟨exact, hfirst, rfl⟩ := Option.map_eq_some_iff.1 hfield
    have hname : exact.1 = segment := by simpa using List.find?_some hfirst
    have hmem := List.mem_of_find?_eq_some hfirst
    have hsome : (fields.find? fun (name, value) => Text.eqIgnoreCase name segment && !value.isNull).isSome :=
      List.find?_isSome.2 ⟨exact, hmem, by simp only [hname, Text.eqIgnoreCase_refl, hpresent, Bool.and_self]⟩
    obtain ⟨found, hfound⟩ := Option.isSome_iff_exists.1 hsome
    have hkept := List.find?_some hfound
    have hsimilar := Text.eqIgnoreCase_iff.1 (Bool.and_eq_true_iff.1 hkept).1
    have hsame : found = exact :=
      List.inj_on_of_nodup_map hkeys (List.mem_of_find?_eq_some hfound) hmem (by rw [hsimilar, hname])
    rw [hfound, hsame]
    rfl

/-- Where no two keys differ in case alone, the case of a segment makes no difference. -/
theorem childOf?_congr (hkeys : KeysDiffer fields) {s t : String}
    (h : Text.asciiLower s = Text.asciiLower t) : childOf? fields s = childOf? fields t := by
  rw [childOf?_eq_find? hkeys, childOf?_eq_find? hkeys]
  simp only [Text.eqIgnoreCase, h]

/-- Where the keys of every table are told apart without their case, that of a path does not count. -/
theorem walk?_congr {root : Json} (hkeys : ∀ fields, root.Contains (.object fields) → KeysDiffer fields)
    {p q : List String} (h : p.map Text.asciiLower = q.map Text.asciiLower) :
    walk? p root = walk? q root := by
  -- a field is found in any spelling, and the keys below it differ in the same way
  induction p generalizing q root with
  | nil =>
    cases q with
    | nil => rfl
    | cons t q => cases h
  | cons s p ih =>
    cases q with
    | nil => cases h
    | cons t q =>
      obtain ⟨hsegment, hrest⟩ := List.cons.inj h
      cases root with
      | object fields =>
        rw [walk?, walk?, childOf?_congr (hkeys fields (.self _)) hsegment]
        cases hchild : childOf? fields t with
        | none => rfl
        | some child =>
          obtain ⟨name, hfield, _⟩ := exists_field_of_childOf? hchild
          exact ih (fun inner hinner => hkeys inner (.field hfield hinner)) hrest
      | null | bool _ | int _ | float _ | string _ | array _ => rfl

/-- Resolving the path ends with looking up a key in a table: in the root, or in the table to which the
path without its last segment leads. -/
inductive LooksUp (tree : ConfigTree) : String → List (String × Json) → String → Prop where
  | root {fields : List (String × Json)} {key : String} (hroot : tree.root = .object fields)
      (hkey : '.' ∉ key.toList) : LooksUp tree key fields key
  | below {path : String} {fields : List (String × Json)} {key : String}
      (htable : tree.direct? path = some (.object fields)) (hkey : '.' ∉ key.toList)
      (hdirect : compositeParts? (path ++ "." ++ key) = none) :
      LooksUp tree (path ++ "." ++ key) fields key

/-- What is found under a key of a table: the value of the exact key, unless it is null. A null there
counts as missing, and gives way to a value whose key differs only in case. -/
structure PrefersExact (fields : List (String × Json)) (key : String) (found : Option Json) : Prop where
  exact : ∀ value, Json.fieldOf? fields key = some value → value.isNull = false → found = some value
  missing : (∀ value, (key, value) ∈ fields → value.isNull = true) →
    found = (⟨.object (fields.filter (·.1 ≠ key))⟩ : ConfigTree).resolve? key
  similar : (∀ value, (key, value) ∈ fields → value.isNull = true) →
    ∀ name value, (name, value) ∈ fields → Text.eqIgnoreCase name key = true → value.isNull = false →
    ∃ name value, (name, value) ∈ fields ∧ name ≠ key ∧ Text.eqIgnoreCase name key = true ∧
      value.isNull = false ∧ found = some value

/-- A composite path has a dot. -/
theorem compositeParts?_of_no_dot {key : String} (h : '.' ∉ key.toList) : compositeParts? key = none := by
  unfold compositeParts?
  rw [if_neg]
  rintro rfl
  exact h (by decide)

theorem resolve?_of_no_dot (fields : List (String × Json)) {key : String} (h : '.' ∉ key.toList) :
    (⟨.object fields⟩ : ConfigTree).resolve? key = childOf? fields key := by
  rw [resolve?_of_direct _ (compositeParts?_of_no_dot h), direct?, segments_of_no_dot h, walk?]
  cases childOf? fields key <;> rfl

/-- A dotted path leads to where its second part leads from where its first part leads. -/
theorem resolve?_append (tree : ConfigTree) {p q : String} (hp : compositeParts? p = none)
    (hq : compositeParts? q = none) (hpq : compositeParts? (p ++ "." ++ q) = none) :
    tree.resolve? (p ++ "." ++ q) = (tree.resolve? p).bind fun value => (⟨value⟩ : ConfigTree).resolve? q := by
  rw [resolve?_of_direct tree hpq, direct?_append, resolve?_of_direct tree hp]
  exact congrArg _ (funext fun value => (resolve?_of_direct ⟨value⟩ hq).symm)

/-- A key below a path is looked up in the table to which the path leads. -/
theorem LooksUp.resolve?_eq {tree : ConfigTree} {path key : String} (h : tree.LooksUp path fields key) :
    '.' ∉ key.toList ∧ tree.resolve? path = childOf? fields key := by
  cases h with
  | root hroot hkey =>
    obtain ⟨root⟩ := tree
    cases hroot
    exact ⟨hkey, resolve?_of_no_dot fields hkey⟩
  | below htable hkey hdirect =>
    refine ⟨hkey, ?_⟩
    rw [resolve?_of_direct tree hdirect, direct?_append, htable, Option.bind_some,
      ← resolve?_of_direct _ (compositeParts?_of_no_dot hkey)]
    exact resolve?_of_no_dot fields hkey

/-- Where no exact key has a value, the first key that is equal up to case and has one counts. -/
theorem childOf?_of_null {key : String} (hnull : ∀ value, (key, value) ∈ fields → value.isNull = true) :
    childOf? fields key =
      (fields.find? fun (name, value) => Text.eqIgnoreCase name key && !value.isNull).map (·.2) := by
  have hexact : (Json.fieldOf? fields key).filter (fun value => !value.isNull) = none := by
    rw [Option.filter_eq_none_iff]
    intro value hvalue
    obtain ⟨⟨name, _⟩, hfound, rfl⟩ := Option.map_eq_some_iff.1 hvalue
    have hname : name = key := by simpa using List.find?_some hfound
    subst hname
    simp [hnull _ (List.mem_of_find?_eq_some hfound)]
  rw [childOf?, hexact, Option.none_or]

/-- A segment enters the key that it spells, and one that differs in case only if the former is missing
or null. -/
theorem prefersExact_childOf? (fields : List (String × Json)) {key : String} (hkey : '.' ∉ key.toList) :
    PrefersExact fields key (childOf? fields key) where
  exact value hvalue hpresent := by
    simp [childOf?, hvalue, Option.filter, hpresent]
  missing hnull := by
    rw [resolve?_of_no_dot _ hkey, childOf?_of_null hnull, childOf?_of_null (by simp), List.find?_filter]
    refine congrArg _ (List.find?_congr fun field hfield => ?_)
    obtain ⟨name, value⟩ := field
    by_cases hname : name = key
    · subst hname
      simp [hnull value hfield]
    · simp [hname]
  similar hnull name value hfield hname hpresent := by
    cases hchild : childOf? fields key with
    | none =>
      rw [childOf?_of_null hnull, Option.map_eq_none_iff, List.find?_eq_none] at hchild
      exact absurd (by simp [hname, hpresent]) (hchild (name, value) hfield)
    | some child =>
      obtain ⟨other, hother, hsimilar, hfound⟩ := exists_field_of_childOf? hchild
      refine ⟨other, child, hother, ?_, hsimilar, hfound, rfl⟩
      rintro rfl
      cases hfound.symm.trans (hnull child hother)

/-- A dotted path is followed table by table, and null is never found. Beyond a table that keeps its
keys apart without their case, case does not count; in any other the exact key comes first. -/
theorem resolve?_follows_path (tree : ConfigTree) :
    (∀ p q, compositeParts? p = none → compositeParts? q = none → compositeParts? (p ++ "." ++ q) = none →
      (∀ value, tree.resolve? p = some value →
        tree.resolve? (p ++ "." ++ q) = (⟨value⟩ : ConfigTree).resolve? q) ∧
      ((∀ fields, tree.resolve? p ≠ some (.object fields)) → tree.resolve? (p ++ "." ++ q) = none)) ∧
    (tree.CaseDistinct → ∀ p q, compositeParts? p = none → compositeParts? q = none →
      Text.eqIgnoreCase p q = true → tree.resolve? p = tree.resolve? q) ∧
    (∀ path fields key, tree.LooksUp path fields key → PrefersExact fields key (tree.resolve? path)) ∧
    ∀ path, tree.resolve? path ≠ some .null := by
  refine ⟨fun p q hp hq hpq => ?_, fun hkeys p q hp hq hcase => ?_, fun path fields key hlooks => ?_,
    tree.resolve?_ne_null⟩
  · have happend := tree.resolve?_append hp hq hpq
    refine ⟨fun value hvalue => by rw [happend, hvalue, Option.bind_some], fun htable => ?_⟩
    cases hvalue : tree.resolve? p with
    | none => rw [happend, hvalue, Option.bind_none]
    | some value =>
      rw [happend, hvalue, Option.bind_some, resolve?_of_direct _ hq]
      refine walk?_of_no_table (segments_ne_nil q) fun fields hfields => ?_
      exact htable fields (hvalue.trans (congrArg some hfields))
  · rw [resolve?_of_direct tree hp, resolve?_of_direct tree hq]
    exact walk?_congr hkeys (map_asciiLower_segments hcase)
  · obtain ⟨hkey, hresolved⟩ := hlooks.resolve?_eq
    rw [hresolved]
    exact prefersExact_childOf? fields hkey

/-- A key with a null under one spelling and values under two others. -/
def spellings : List (String × Json) :=
  [("Done", .null), ("done", .string "closed"), ("DONE", .string "shut")]

def spelled : ConfigTree := ⟨.object [("SPX", .object spellings), ("floor", .int 3)]⟩

def unambiguous : ConfigTree := ⟨.object [("SPX", .object [("Done", .string "closed")])]⟩

theorem caseDistinct_unambiguous : unambiguous.CaseDistinct := by
  intro fields hfields
  cases hfields with
  | self => decide
  | field hfield hpart =>
    cases List.mem_singleton.1 hfield
    cases hpart with
    | self => decide
    | field hfield hpart =>
      cases List.mem_singleton.1 hfield
      cases hpart

/-- Each spelling that has a value leads to its own, the one with the null to one of the others, and a
number is not followed any further. -/
theorem resolve?_follows_path_spellings :
    spelled.resolve? "SPX" = some (.object spellings) ∧
    spelled.resolve? ("SPX" ++ "." ++ "done") = (⟨.object spellings⟩ : ConfigTree).resolve? "done" ∧
    spelled.resolve? ("floor" ++ "." ++ "done") = none ∧
    spelled.resolve? ("SPX" ++ "." ++ "DONE") = some (.string "shut") ∧
    (∃ name value, (name, value) ∈ spellings ∧ name ≠ "Done" ∧ Text.eqIgnoreCase name "Done" = true ∧
      value.isNull = false ∧ spelled.resolve? ("SPX" ++ "." ++ "Done") = some value) ∧
    unambiguous.CaseDistinct ∧ unambiguous.resolve? "SPX.Done" = unambiguous.resolve? "spx.dONE" := by
  obtain ⟨hpaths, _, hlast, _⟩ := spelled.resolve?_follows_path
  obtain ⟨_, hcase, _, _⟩ := unambiguous.resolve?_follows_path
  have htable : spelled.direct? "SPX" = some (.object spellings) := rfl
  have hends : ∀ key, '.' ∉ key.toList → compositeParts? ("SPX" ++ "." ++ key) = none →
      spelled.LooksUp ("SPX" ++ "." ++ key) spellings key := fun _ => .below htable
  have hnull : ∀ value, ("Done", value) ∈ spellings → value.isNull = true := by
    simp [spellings, Json.isNull]
  refine ⟨htable, ?_, ?_, ?_, ?_, caseDistinct_unambiguous, ?_⟩
  · exact (hpaths "SPX" "done" (by decide) (by decide) (by decide)).1 _ htable
  · refine (hpaths "floor" "done" (by decide) (by decide) (by decide)).2 fun fields hfields => ?_
    cases hfields
  · exact (hlast _ _ _ (hends "DONE" (by decide) (by decide))).exact _ rfl rfl
  · exact (hlast _ _ _ (hends "Done" (by decide) (by decide))).similar hnull "done" (.string "closed")
      (by simp [spellings]) (by decide) rfl
  · exact hcase caseDistinct_unambiguous "SPX.Done" "spx.dONE" (by decide) (by decide) (by decide)

end ConfigTree

end PurchaseStatus
