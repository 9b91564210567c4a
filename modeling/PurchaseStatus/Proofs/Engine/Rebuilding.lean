import PurchaseStatus.Engine.Basic
import PurchaseStatus.Rule.Issue
import PurchaseStatus.Proofs.Config.Exchange
import PurchaseStatus.Proofs.Rule.RoundTrip

namespace PurchaseStatus

/-- The references that a rule consults or passes over. -/
def RuleConfig.references (rule : RuleConfig) : List String :=
  rule.statusValueKey.toList ++ rule.checks.flatMap (·.references)

namespace CheckConfig

/-- A check of membership that is given its members by a reference, and no literal ones. -/
structure FindsMembers (check : CheckConfig) (reference : String) : Prop where
  type : check.type = "in_list" ∨ check.type = "not_in_list"
  values : check.values = none
  listKey : check.listKey = some reference

variable {other tree : ConfigTree} {check : CheckConfig}

/-- Only a check for membership finds members. -/
theorem FindsMembers.exists_negate {reference : String} (h : check.FindsMembers reference) :
    ∃ negate, Comparison.ofName? check.type = some (.inList, negate) := by
  rcases h.type with htype | htype
  · exact ⟨false, htype ▸ Comparison.ofName?_name .inList false⟩
  · exact ⟨true, htype ▸ Comparison.ofName?_name .inList true⟩

/-- The members of such a check are those of its reference. -/
theorem FindsMembers.members?_eq {reference : String} (h : check.FindsMembers reference) (tree : ConfigTree) :
    check.members? tree = tree.resolveList? reference := by
  simp only [members?, h.values, h.listKey]

/-- A check of membership is compiled to the same set of members exactly when it finds the same ones. Literal
members do not depend on the configuration. -/
theorem map_distinctTexts_members?_eq_iff (htype : check.type = "in_list" ∨ check.type = "not_in_list") :
    (check.members? other).map distinctTexts = (check.members? tree).map distinctTexts ↔
      ∀ reference, check.FindsMembers reference → other.FindsSame tree reference := by
  constructor
  · intro hsame reference hfinds
    rw [hfinds.members?_eq, hfinds.members?_eq] at hsame
    exact ConfigTree.map_distinctTexts_eq_iff.1 hsame
  · intro hfinds
    unfold members?
    cases hvalues : check.values with
    | some values => rfl
    | none =>
      cases hkey : check.listKey with
      | none => rfl
      | some reference =>
        exact ConfigTree.map_distinctTexts_eq_iff.2 (hfinds reference ⟨htype, hvalues, hkey⟩)

section Scalars

variable (h : ∀ reference ∈ check.references, other.ScalarAlike tree reference)

include h

/-- A pattern is compiled from the text of its reference. -/
theorem compiledPattern?_eq_of_scalarAlike : check.compiledPattern? other = check.compiledPattern? tree := by
  unfold compiledPattern? patternText?
  cases check.pattern with
  | some pattern => rfl
  | none =>
    cases hkey : check.patternKey with
    | none => rfl
    | some reference =>
      have halike := h reference (List.mem_filterMap.2 ⟨some reference, by simp [hkey], rfl⟩)
      simp only [halike.resolveText?_eq]

/-- A value that is no scalar cannot be compared with, so it does not matter which it is. -/
theorem expected?_eq_of_scalarAlike : check.expected? other = check.expected? tree := by
  unfold expected? value?
  cases check.value with
  | some value => rfl
  | none =>
    cases hkey : check.valueKey with
    | none => rfl
    | some reference =>
      have halike := h reference (List.mem_filterMap.2 ⟨some reference, by simp [hkey], rfl⟩)
      rcases halike.none_or_some with ⟨hother, htree⟩ | ⟨a, b, hother, htree, rfl | ⟨ha, hb⟩⟩
      · simp only [hother, htree]
      · simp only [hother, htree]
      · simp [hother, htree, ha, hb]

/-- Where single texts and values are read alike, all that can compile to something else is a check of
membership, and it does so exactly when it finds other members. -/
theorem compile_eq_iff : check.compile other = check.compile tree ↔
    ∀ reference, check.FindsMembers reference → other.FindsSame tree reference := by
  have hnone : (∀ negate, Comparison.ofName? check.type ≠ some (.inList, negate)) →
      ∀ reference, check.FindsMembers reference → other.FindsSame tree reference := by
    intro hother reference hfinds
    obtain ⟨negate, hname⟩ := hfinds.exists_negate
    exact absurd hname (hother negate)
  unfold compile
  cases hname : Comparison.ofName? check.type with
  | none => exact iff_of_true rfl (hnone fun negate => by simp [hname])
  | some comparison =>
    obtain ⟨comparison, negate⟩ := comparison
    cases comparison with
    | inList =>
      have htype : check.type = "in_list" ∨ check.type = "not_in_list" := by
        have hcheck := Comparison.name_of_ofName? hname
        cases negate
        · exact .inl hcheck.symm
        · exact .inr hcheck.symm
      simp only [Check.inList.injEq, true_and, and_true]
      exact map_distinctTexts_members?_eq_iff htype
    | contains | equals | isNull =>
      refine iff_of_true ?_ (hnone fun negate => by simp [hname])
      simp only [compiledPattern?_eq_of_scalarAlike h, expected?_eq_of_scalarAlike h]

end Scalars

end CheckConfig

/-- Where single texts and values are read alike, a rule compiles to the same exactly when all of its checks
of membership find the same members. -/
theorem Rule.compile_eq_iff {other tree : ConfigTree} {rule : RuleConfig}
    (h : ∀ reference ∈ rule.references, other.ScalarAlike tree reference) :
    compile rule other = compile rule tree ↔
      ∀ check ∈ rule.checks, ∀ reference, check.FindsMembers reference → other.FindsSame tree reference := by
  have hstatus : statusOf? rule other = statusOf? rule tree := by
    unfold statusOf?
    cases rule.statusValue with
    | some status => rfl
    | none =>
      cases hkey : rule.statusValueKey with
      | none => rfl
      | some reference => exact (h reference (by simp [RuleConfig.references, hkey])).resolveText?_eq
  have hchecks : (∀ check ∈ rule.checks, check.compile other = check.compile tree) ↔
      ∀ check ∈ rule.checks, ∀ reference, check.FindsMembers reference → other.FindsSame tree reference := by
    refine forall₂_congr fun check hcheck => CheckConfig.compile_eq_iff fun reference hreference => ?_
    exact h reference (List.mem_append_right _ (List.mem_flatMap.2 ⟨check, hcheck, hreference⟩))
  rw [← hchecks, ← List.map_inj_left]
  constructor
  · exact congrArg Rule.checks
  · intro hsame
    simp only [compile, hstatus, hsame]

namespace Engine

variable (tree : ConfigTree) (sectionPath : String)

/-- The rules of an engine tell what each declared rule was compiled to. -/
theorem rules_ofRules_eq_iff_compile (other : ConfigTree) (path : String) (rules : List RuleConfig) :
    (ofRules other path rules).rules = (ofRules tree sectionPath rules).rules ↔
      ∀ rule ∈ rules, Rule.compile rule other = Rule.compile rule tree := by
  have hfilter : ∀ (config : ConfigTree) (priority : Int),
      (rules.map (Rule.compile · config)).filter (·.priority = priority) =
        (rules.filter (·.priority = priority)).map (Rule.compile · config) :=
    fun _ _ => List.filter_map
  have hsorted := sortBy_eq_iff (fun rule : Rule => rule.priority)
    (rules.map (Rule.compile · other)) (rules.map (Rule.compile · tree))
  simp only [hfilter, List.map_inj_left, List.mem_filter, decide_eq_true_eq] at hsorted
  refine hsorted.trans ⟨fun h rule hrule => h rule.priority rule ⟨hrule, rfl⟩, ?_⟩
  exact fun h _ rule hrule => h rule hrule.1

/-- A configuration and a section of it in which the rules of another section stand as they are written:
they load to the same rules, and to the same engine where the references are those of the first
configuration, or lead to the same values in both. -/
structure Restores (other : ConfigTree) (path : String) (tree : ConfigTree) (sectionPath : String) : Prop where
  rules : other.ruleSection path = tree.ruleSection sectionPath
  engine : ofRules tree sectionPath (other.ruleSection path) = ofSection tree sectionPath
  compiled : (∀ rule ∈ tree.ruleSection sectionPath, ∀ reference ∈ rule.references,
    other.resolve? reference = tree.resolve? reference) →
      (ofSection other path).rules = (ofSection tree sectionPath).rules

/-- An engine is restored wherever its rules are listed, one for one. -/
theorem restores_of_lists {other : ConfigTree} {path : String}
    (h : other.Lists path ((tree.ruleSection sectionPath).map RuleConfig.toJson)) :
    Restores other path tree sectionPath := by
  have hrules : other.ruleSection path = tree.ruleSection sectionPath := by
    rw [ConfigTree.ruleSection, ConfigTree.conditions?_eq_some_iff.2 h, Option.getD_some]
    exact ConfigTree.filterMap_ofJson_toJson fun rule hrule => ConfigTree.writable_of_mem_ruleSection hrule
  refine ⟨hrules, by rw [hrules, ofSection], fun hreferences => ?_⟩
  rw [ofSection, ofSection, hrules, rules_ofRules_eq_iff_compile]
  intro rule hrule
  have hsame := hreferences rule hrule
  refine (Rule.compile_eq_iff fun reference hreference =>
    ConfigTree.scalarAlike_of_resolve?_eq (hsame reference hreference)).2 ?_
  intro check hcheck reference hfinds
  refine ConfigTree.findsSame_of_resolveList?_eq ?_
  have hreference : reference ∈ check.references :=
    List.mem_filterMap.2 ⟨some reference, by simp [hfinds.listKey], rfl⟩
  rw [ConfigTree.resolveList?, ConfigTree.resolveList?,
    hsame reference (List.mem_append_right _ (List.mem_flatMap.2 ⟨check, hcheck, hreference⟩))]

/-- Rule configurations round-trip. A rule that is read from any document is read back from what it is
written as, so the written rules of a section load to the same rules wherever they stand. A section that
lists them in the place of its entries makes an engine of the same rules in the same order exactly when its
checks of membership find the same members. They find others only through a reference to the list of the
section itself, in which a scalar stood: that is no rule and is not written again. -/
theorem written_rules_restore :
    (∀ json rule, RuleConfig.ofJson json = .ok rule → RuleConfig.ofJson rule.toJson = .ok rule) ∧
    (∀ other path, other.Lists path ((tree.ruleSection sectionPath).map RuleConfig.toJson) →
      Restores other path tree sectionPath) ∧
    ∀ entries, tree.Lists sectionPath entries →
      Restores (tree.rebuild sectionPath) sectionPath tree sectionPath ∧
      ((ofSection (tree.rebuild sectionPath) sectionPath).rules = (ofSection tree sectionPath).rules ↔
        ∀ rule ∈ tree.ruleSection sectionPath, ∀ check ∈ rule.checks, ∀ reference,
          check.FindsMembers reference → (tree.rebuild sectionPath).FindsSame tree reference) ∧
      ∀ reference, ¬(tree.rebuild sectionPath).FindsSame tree reference →
        (∃ entry ∈ entries, entry.text? ≠ none) ∧
        ∃ path ∈ ConfigTree.pathsOf reference, tree.direct? path = some (.array entries) ∧
          (tree.rebuild sectionPath).direct? path =
            some (.array ((tree.ruleSection sectionPath).map RuleConfig.toJson)) := by
  refine ⟨fun json rule hread => RuleConfig.ofJson_toJson (RuleConfig.writable_of_ofJson hread),
    fun other path => restores_of_lists tree sectionPath, fun entries hentries => ?_⟩
  have hrestores := restores_of_lists tree sectionPath (ConfigTree.lists_rebuild hentries)
  have halike := ConfigTree.readsAlike_rebuild hentries
  refine ⟨hrestores, ?_, fun reference hlost => ?_⟩
  · rw [ofSection, ofSection, hrestores.rules, rules_ofRules_eq_iff_compile]
    refine forall₂_congr fun rule _ => Rule.compile_eq_iff fun reference _ => ?_
    exact ConfigTree.scalarAlike_of_readsAlike halike reference
  · obtain hsame | ⟨htexts, path, hpath, hwritten, hdirect⟩ :=
      ConfigTree.findsSame_or_leads halike reference
    · exact absurd hsame hlost
    · refine ⟨?_, path, hpath, hdirect, hwritten⟩
      by_contra hnone
      push Not at hnone
      refine htexts ?_
      rw [List.filterMap_eq_nil_iff.2 hnone, List.filterMap_eq_nil_iff, List.forall_mem_map]
      exact fun _ _ => rfl

/-- The one rule of the section looks for an item in the list in which it stands itself, beside a text. -/
def ownListEntry : Json := .object [
  ("checks", .array [.object [("type", .string "in_list"), ("field", .string "item"),
    ("list_key", .string "rules.conditions")]]),
  ("status_value", .string "listed")]

/-- The one section has a rule whose check refers to the list of that section. -/
def ownListTree : ConfigTree := ⟨.object [
  ("rules", .object [("conditions", .array [ownListEntry, .string "stray"])])]⟩

/-- The text beside the rule is a member of the list before, and is gone once the section is rebuilt. -/
theorem not_restored_from_own_list :
    ownListTree.Lists "rules" [ownListEntry, .string "stray"] ∧
    (ownListTree.rebuild "rules").ruleSection "rules" = ownListTree.ruleSection "rules" ∧
    (ofSection ownListTree "rules").rules.map (·.checks) =
      [[.inList (some "item") (some ["stray"]) false]] ∧
    (ofSection (ownListTree.rebuild "rules") "rules").rules.map (·.checks) =
      [[.inList (some "item") (some []) false]] ∧
    (ofSection (ownListTree.rebuild "rules") "rules").rules ≠ (ofSection ownListTree "rules").rules := by
  have hbefore : (ofSection ownListTree "rules").rules.map (·.checks) =
      [[.inList (some "item") (some ["stray"]) false]] := rfl
  have hafter : (ofSection (ownListTree.rebuild "rules") "rules").rules.map (·.checks) =
      [[.inList (some "item") (some []) false]] := rfl
  refine ⟨⟨_, rfl, rfl⟩, rfl, hbefore, hafter, fun hsame => ?_⟩
  rw [hsame, hbefore] at hafter
  simp at hafter

/-- A rule as a list, with a name in capitals and blanks around the kind. -/
def listedEntry : Json :=
  .array [.int 7, .null, .string "words.done", .string "by list", .string "OR", .array [.string " pr "],
    .array [.array [.string "equals", .string "floor", .null, .null, .null, .string "Words.Floor", .null,
      .null, .string "Int64"]]]

/-- A check against a list that is kept elsewhere. -/
def listedRule : RuleConfig :=
  { priority := 7, statusValueKey := some "words.done", note := "by list", combine := .or
    applyTo := some [.request]
    checks := [{ type := "equals", field := some "floor", valueKey := some "Words.Floor", cast := some .int }] }

/-- A rule as a table, with an unknown field, a list of any values and a reference to a list. -/
def tabledEntry : Json :=
  .object [("checks", .array [
      .object [("type", .string "in_list"), ("field", .string "item"),
        ("values", .array [.null, .string "a", .int 3])],
      .object [("type", .string "not_in_list"), ("field", .string "item"), ("list_key", .string "words.barred")]]),
    ("owner", .bool true), ("status_value", .string "seen")]

/-- A rule that is written with all that a rule can have. -/
def tabledRule : RuleConfig :=
  { statusValue := some "seen"
    checks := [
      { type := "in_list", field := some "item", values := some [.null, .string "a", .int 3] },
      { type := "not_in_list", field := some "item", listKey := some "words.barred" }] }

/-- Between the two rules stands an entry that is none. -/
def strayTree : ConfigTree := ⟨.object [
  ("rules", .object [("conditions", .array [listedEntry, .string "stray", tabledEntry])]),
  ("words", .object [("barred", .array [.string "b"]), ("done", .string "closed"), ("floor", .int 3)])]⟩

/-- The rules once more, without the words that they refer to. -/
def wordlessTree : ConfigTree := ⟨.object [
  ("kept", .object [("conditions", .array [listedRule.toJson, tabledRule.toJson])])]⟩

/-- Elsewhere the written rules load again, and in their own section they make the same engine. -/
theorem written_rules_restore_stray :
    RuleConfig.ofJson listedEntry = .ok listedRule ∧
    RuleConfig.ofJson listedRule.toJson = .ok listedRule ∧
    wordlessTree.ruleSection "kept" = [listedRule, tabledRule] ∧
    strayTree.Lists "rules" [listedEntry, .string "stray", tabledEntry] ∧
    (strayTree.rebuild "rules").Lists "rules" [listedRule.toJson, tabledRule.toJson] ∧
    (ofSection (strayTree.rebuild "rules") "rules").rules = (ofSection strayTree "rules").rules ∧
    (ofSection strayTree "rules").ruleIds = ["priority_7_closed", "priority_999_seen"] := by
  have hread : RuleConfig.ofJson listedEntry = .ok listedRule := rfl
  have hrules : strayTree.ruleSection "rules" = [listedRule, tabledRule] := rfl
  have hlists : strayTree.Lists "rules" [listedEntry, .string "stray", tabledEntry] := ⟨_, rfl, rfl⟩
  obtain ⟨hback, helsewhere, hplace⟩ := written_rules_restore strayTree "rules"
  have hkept : wordlessTree.ruleSection "kept" = strayTree.ruleSection "rules" :=
    (helsewhere wordlessTree "kept" ⟨_, rfl, rfl⟩).rules
  refine ⟨hread, hback listedEntry listedRule hread, hkept.trans hrules, hlists, ⟨_, rfl, rfl⟩, ?_, by decide⟩
  obtain ⟨_, hexact, hlost⟩ := hplace _ hlists
  -- the one list that is referred to is not that of the section
  have hbarred : (strayTree.rebuild "rules").FindsSame strayTree "words.barred" := by
    by_contra hother
    obtain ⟨_, path, hpath, hdirect, _⟩ := hlost "words.barred" hother
    obtain rfl : path = "words.barred" := List.mem_singleton.1 hpath
    cases hdirect
  refine hexact.2 fun rule hrule check hcheck reference hfinds => ?_
  rw [hrules] at hrule
  rcases List.mem_cons.1 hrule with rfl | hrule
  · cases List.mem_singleton.1 hcheck
    cases hfinds.listKey
  · cases List.mem_singleton.1 hrule
    rcases List.mem_cons.1 hcheck with rfl | hcheck
    · cases hfinds.values
    · cases List.mem_singleton.1 hcheck
      cases hfinds.listKey
      exact hbarred

end Engine

end PurchaseStatus
