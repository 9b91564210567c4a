import PurchaseStatus.Rule.Basic
import PurchaseStatus.Rule.Issue

namespace PurchaseStatus

/-- What is reported at an index, in order. -/
def causesAt (issues : List Issue) (index : Nat) : List IssueCause :=
  (issues.filter (·.index == some index)).map (·.cause)

/-- Issues of one place are those of either list. -/
theorem causesAt_append (first second : List Issue) (index : Nat) :
    causesAt (first ++ second) index = causesAt first index ++ causesAt second index := by
  simp [causesAt]

/-- The issues of one rule are all in its own place. -/
theorem causesAt_map (sectionPath : String) (causes : List IssueCause) (own index : Nat) :
    causesAt (causes.map (⟨sectionPath, some own, ·⟩)) index =
      if own = index then causes else [] := by
  unfold causesAt
  split
  · rename_i hindex
    simp [List.filter_map, Function.comp_def, hindex]
  · rename_i hindex
    simp [List.filter_map, Function.comp_def, hindex]

/-- Whether a rule could not be read. -/
def IssueCause.isMalformedRule : IssueCause → Bool
  | malformedRule _ => true
  | _ => false

namespace CheckConfig

/-- A check is reported for its type, for its missing field, for its literal pattern, and for each
reference that leads nowhere. -/
theorem mem_issues {check : CheckConfig} {tree : ConfigTree} {cause : IssueCause} :
    cause ∈ check.issues tree ↔
      (isKnownType check.type = false ∧ cause = .notBuiltIn check.type) ∨
      (needsField check.type = true ∧ check.field = none ∧ cause = .noField check.type) ∨
      (∃ pattern, check.pattern = some pattern ∧ Pattern.compile? pattern = none ∧
        cause = .invalidPattern pattern) ∨
      ∃ key ∈ check.references, tree.resolve? key = none ∧ cause = .unresolvedReference key := by
  unfold issues
  simp only [List.mem_append, or_assoc]
  refine or_congr ?_ (or_congr ?_ (or_congr ?_ ?_))
  · cases isKnownType check.type <;> simp
  · cases needsField check.type <;> cases check.field <;> simp
  · cases check.pattern with
    | none => simp
    | some pattern => cases hcompiled : Pattern.compile? pattern <;> simp [hcompiled]
  · simp only [List.mem_map, List.mem_filter, Option.isNone_iff_eq_none]
    constructor
    · rintro ⟨key, ⟨hkey, hnone⟩, rfl⟩
      exact ⟨key, hkey, hnone, rfl⟩
    · rintro ⟨key, hkey, hnone, rfl⟩
      exact ⟨key, ⟨hkey, hnone⟩, rfl⟩

/-- Only a check of a type that is not built in compiles to one that waits for a mask. -/
theorem compile_eq_prebuilt_iff {check : CheckConfig} {tree : ConfigTree} {name : String} :
    check.compile tree = .prebuilt name ↔ isKnownType check.type = false ∧ check.type = name := by
  unfold compile isKnownType needsField
  cases Comparison.ofName? check.type with
  | some comparison =>
    obtain ⟨comparison, negate⟩ := comparison
    cases comparison <;> simp
  | none => cases Builtin.ofName? check.type <;> simp

end CheckConfig

namespace RuleConfig

variable {rule : RuleConfig} {tree : ConfigTree} {cause : IssueCause}

/-- An issue of a rule is one of its status, of its having no checks, or of one of its checks. -/
theorem mem_issues : cause ∈ rule.issues tree ↔
    cause ∈ rule.statusIssues tree ∨ (rule.checks = [] ∧ cause = .noChecks) ∨
      ∃ check ∈ rule.checks, cause ∈ check.issues tree := by
  unfold issues
  rw [List.append_assoc, List.mem_append, List.mem_append, List.mem_flatMap]
  refine or_congr .rfl (or_congr ?_ .rfl)
  cases rule.checks <;> simp

/-- At most one report is about the status, and it is made exactly where there is none. -/
theorem mem_statusIssues : cause ∈ rule.statusIssues tree ↔
    Rule.statusOf? rule tree = none ∧
      (cause = .noStatus ∧ rule.statusValueKey = none ∨
        ∃ key, rule.statusValueKey = some key ∧ cause = .unresolvedStatus key) := by
  unfold statusIssues Rule.statusOf?
  cases rule.statusValue with
  | some status => simp
  | none =>
    cases rule.statusValueKey with
    | none => simp
    | some key => cases htext : tree.resolveText? key <;> simp [htext]

/-- A status is reported as unresolved if its reference gives none. -/
theorem unresolvedStatus_mem_issues {key : String} : .unresolvedStatus key ∈ rule.issues tree ↔
    Rule.statusOf? rule tree = none ∧ rule.statusValueKey = some key := by
  simp [mem_issues, mem_statusIssues, CheckConfig.mem_issues]

/-- A status is reported as missing if there is neither a value nor a reference. -/
theorem noStatus_mem_issues : .noStatus ∈ rule.issues tree ↔
    Rule.statusOf? rule tree = none ∧ rule.statusValueKey = none := by
  simp [mem_issues, mem_statusIssues, CheckConfig.mem_issues]

/-- A rule that could be read is not reported as malformed. -/
theorem not_isMalformedRule (h : cause ∈ rule.issues tree) : cause.isMalformedRule = false := by
  rcases mem_issues.1 h with hstatus | ⟨_, rfl⟩ | ⟨check, _, hcheck⟩
  · obtain ⟨_, ⟨rfl, _⟩ | ⟨key, _, rfl⟩⟩ := mem_statusIssues.1 hstatus <;> rfl
  · rfl
  · rcases CheckConfig.mem_issues.1 hcheck with
      ⟨_, rfl⟩ | ⟨_, _, rfl⟩ | ⟨pattern, _, _, rfl⟩ | ⟨key, _, _, rfl⟩ <;> rfl

end RuleConfig

/-- The reports about an entry agree with the rule that it compiles to: a missing status, missing checks
and checks that only a registered mask can decide are reported exactly if the rule has them. -/
structure Rule.ReportedBy (rule : Rule) (causes : List IssueCause) : Prop where
  status : rule.status = none ↔ (∃ key, .unresolvedStatus key ∈ causes) ∨ .noStatus ∈ causes
  checks : rule.checks = [] ↔ .noChecks ∈ causes
  prebuilt : ∀ name, .prebuilt name ∈ rule.checks ↔ .notBuiltIn name ∈ causes

/-- What a compiled rule lacks is reported of the rule as written. -/
theorem Rule.reportedBy_compile (rule : RuleConfig) (tree : ConfigTree) :
    (compile rule tree).ReportedBy (rule.issues tree) where
  status := by
    rw [RuleConfig.noStatus_mem_issues]
    simp only [RuleConfig.unresolvedStatus_mem_issues, exists_and_left]
    cases rule.statusValueKey <;> simp [compile]
  checks := by
    rw [RuleConfig.mem_issues]
    simp [compile, RuleConfig.mem_statusIssues, CheckConfig.mem_issues]
  prebuilt name := by
    have hcompiled : .prebuilt name ∈ (compile rule tree).checks ↔
        ∃ check ∈ rule.checks, isKnownType check.type = false ∧ check.type = name := by
      simp only [compile, List.mem_map, CheckConfig.compile_eq_prebuilt_iff]
    rw [hcompiled, RuleConfig.mem_issues]
    simp [RuleConfig.mem_statusIssues, CheckConfig.mem_issues, @eq_comm _ name]

namespace ConfigTree

variable (tree : ConfigTree) (sectionPath : String)

/-- An entry that can be read has the issues of its rule. -/
theorem entryIssues_of_ok {entry : Json} {rule : RuleConfig} (h : RuleConfig.ofJson entry = .ok rule) :
    tree.entryIssues entry = rule.issues tree := by
  unfold entryIssues
  rw [h]

/-- An entry that cannot be read has that one issue. -/
theorem entryIssues_of_error {entry : Json} {error : DecodeError}
    (h : RuleConfig.ofJson entry = .error error) :
    tree.entryIssues entry = [.malformedRule error] := by
  unfold entryIssues
  rw [h]

/-- An entry is reported as malformed exactly when it is no rule. -/
theorem any_isMalformedRule_entryIssues (entry : Json) :
    (tree.entryIssues entry).any (·.isMalformedRule) = !(RuleConfig.ofJson entry).isOk := by
  cases hentry : RuleConfig.ofJson entry with
  | error error =>
    rw [tree.entryIssues_of_error hentry]
    rfl
  | ok rule =>
    rw [tree.entryIssues_of_ok hentry]
    exact List.any_eq_false.2 fun cause hcause => by simp [RuleConfig.not_isMalformedRule hcause]

/-- What is reported at an index is what is wrong with the entry there. -/
theorem causesAt_indexedIssues (entries : List Json) (start index : Nat) :
    causesAt (tree.indexedIssues sectionPath start entries) index =
      if index < start then [] else (entries[index - start]?).elim [] tree.entryIssues := by
  induction entries generalizing start with
  | nil => simp [indexedIssues, causesAt]
  | cons entry rest ih =>
    rw [indexedIssues, causesAt_append, causesAt_map, ih]
    rcases Nat.lt_trichotomy index start with hlt | rfl | hgt
    · have hne : start ≠ index := by omega
      have hlt' : index < start + 1 := by omega
      simp [hlt, hlt', hne]
    · simp
    · have hne : start ≠ index := by omega
      have hlow : ¬index < start + 1 := by omega
      have hlow' : ¬index < start := by omega
      have hsucc : index - start = (index - (start + 1)) + 1 := by omega
      simp [hne, hlow, hlow', hsucc]

/-- The reports of a section stand in the order of its entries, each at the index of one. -/
theorem indexes_indexedIssues (entries : List Json) (start : Nat) :
    ∃ indexes : List Nat,
      (tree.indexedIssues sectionPath start entries).map (·.index) = indexes.map some ∧
      indexes.Pairwise (· ≤ ·) ∧ ∀ index ∈ indexes, start ≤ index ∧ index < start + entries.length := by
  induction entries generalizing start with
  | nil => exact ⟨[], rfl, .nil, nofun⟩
  | cons entry rest ih =>
    obtain ⟨later, hmap, hsorted, hbounds⟩ := ih (start + 1)
    -- all that is reported of the first entry stands at its index, the rest behind
    let own := List.replicate (tree.entryIssues entry).length start
    refine ⟨own ++ later, ?_, ?_, ?_⟩
    · simp only [indexedIssues, List.map_append, List.map_map, hmap, own]
      simp [Function.comp_def, List.map_const']
    · refine List.pairwise_append.2 ⟨List.pairwise_replicate.2 (by simp), hsorted, ?_⟩
      intro first hfirst second hsecond
      have hstart := List.eq_of_mem_replicate hfirst
      have := hbounds second hsecond
      omega
    · intro index hindex
      rw [List.length_cons]
      rcases List.mem_append.1 hindex with hown | hlater
      · have hstart := List.eq_of_mem_replicate hown
        omega
      · have := hbounds index hlater
        omega

/-- The entries of which no report says that they are malformed. -/
def unreportedEntries (entries : List Json) : List Json :=
  (entries.zipIdx.filter fun (_, index) =>
    !(causesAt (tree.sectionIssues sectionPath) index).any (·.isMalformedRule)).map (·.1)

/-- What is loaded from a list of entries and what is reported about it, side by side. Each entry is
either loaded or reported as malformed, and the reports stand in the order of the entries. -/
structure SectionAgrees (entries : List Json) : Prop where
  /-- Loaded are exactly the entries that are not reported as malformed, in order. -/
  loaded : (tree.ruleSection sectionPath).map .ok =
    (tree.unreportedEntries sectionPath entries).map RuleConfig.ofJson
  /-- A report of a malformed entry stands alone. -/
  malformed : ∀ index error,
    .malformedRule error ∈ causesAt (tree.sectionIssues sectionPath) index →
    causesAt (tree.sectionIssues sectionPath) index = [.malformedRule error]
  /-- What is reported of an entry that is a rule is what its compilation shows. -/
  reported : ∀ index entry rule, entries[index]? = some entry → RuleConfig.ofJson entry = .ok rule →
    (Rule.compile rule tree).ReportedBy (causesAt (tree.sectionIssues sectionPath) index)
  /-- The reports stand in the order of the entries, each at the index of one. -/
  ordered : ∃ indexes : List Nat,
    (tree.sectionIssues sectionPath).map (·.index) = indexes.map some ∧
    indexes.Pairwise (· ≤ ·) ∧ ∀ index ∈ indexes, index < entries.length

variable {tree sectionPath} {entries : List Json}

/-- The issues of one place in a section are those of its entry. -/
theorem causesAt_sectionIssues (h : tree.Lists sectionPath entries) (index : Nat) :
    causesAt (tree.sectionIssues sectionPath) index = (entries[index]?).elim [] tree.entryIssues := by
  simp [sectionIssues, conditions?_eq_some_iff.2 h, causesAt_indexedIssues]

/-- The entries that are not reported as malformed are those that can be read. -/
theorem unreportedEntries_eq (h : tree.Lists sectionPath entries) :
    tree.unreportedEntries sectionPath entries =
      entries.filter fun entry => (RuleConfig.ofJson entry).isOk := by
  have hfilter : ∀ pair ∈ entries.zipIdx,
      (!(causesAt (tree.sectionIssues sectionPath) pair.2).any (·.isMalformedRule)) =
        (RuleConfig.ofJson pair.1).isOk := by
    intro pair hpair
    rw [causesAt_sectionIssues h, List.mem_zipIdx_iff_getElem?.1 hpair, Option.elim_some,
      any_isMalformedRule_entryIssues, Bool.not_not]
  unfold unreportedEntries
  calc
    _ = (entries.zipIdx.filter fun pair => (RuleConfig.ofJson pair.1).isOk).map (·.1) := by
        rw [List.filter_congr hfilter]
    _ = (entries.zipIdx.map (·.1)).filter fun entry => (RuleConfig.ofJson entry).isOk := by
        rw [List.filter_map]
        rfl
    _ = entries.filter fun entry => (RuleConfig.ofJson entry).isOk := by
        rw [List.zipIdx_map_fst]

/-- Loading, compiling and validating agree on a section that lists its entries. -/
theorem sectionAgrees (h : tree.Lists sectionPath entries) :
    tree.SectionAgrees sectionPath entries where
  loaded := by
    rw [unreportedEntries_eq h]
    unfold ruleSection
    rw [conditions?_eq_some_iff.2 h, Option.getD_some]
    clear h
    induction entries with
    | nil => rfl
    | cons entry rest ih =>
      cases hentry : RuleConfig.ofJson entry with
      | error error => simpa [hentry, Except.toOption, Except.isOk, Except.toBool] using ih
      | ok rule => simpa [hentry, Except.toOption, Except.isOk, Except.toBool] using ih
  malformed index error hmalformed := by
    rw [causesAt_sectionIssues h] at hmalformed ⊢
    cases hentry : entries[index]? with
    | none => simp [hentry] at hmalformed
    | some entry =>
      rw [hentry, Option.elim_some] at hmalformed
      rw [Option.elim_some]
      cases hread : RuleConfig.ofJson entry with
      | error error' =>
        rw [tree.entryIssues_of_error hread] at hmalformed ⊢
        rw [List.mem_singleton.1 hmalformed]
      | ok rule =>
        rw [tree.entryIssues_of_ok hread] at hmalformed
        cases RuleConfig.not_isMalformedRule hmalformed
  reported index entry rule hentry hread := by
    rw [causesAt_sectionIssues h, hentry, Option.elim_some, tree.entryIssues_of_ok hread]
    exact Rule.reportedBy_compile rule tree
  ordered := by
    obtain ⟨indexes, hmap, hsorted, hbounds⟩ := tree.indexes_indexedIssues sectionPath entries 0
    refine ⟨indexes, ?_, hsorted, fun index hindex => ?_⟩
    · simpa [sectionIssues, conditions?_eq_some_iff.2 h] using hmap
    · have := hbounds index hindex
      omega

/-- Loading, compiling and validating a section agree. Where the section or its list is missing, nothing is
loaded and that alone is reported. Otherwise the entries without a report of being malformed are loaded, in
order, and what is reported of each of them is what its compilation shows. -/
theorem load_compile_validate_agree (tree : ConfigTree) (sectionPath : String) :
    ((∀ entries, ¬tree.Lists sectionPath entries) →
      tree.ruleSection sectionPath = [] ∧
      tree.sectionIssues sectionPath = [⟨sectionPath, none, .missingSection⟩]) ∧
    ∀ entries, tree.Lists sectionPath entries → tree.SectionAgrees sectionPath entries := by
  refine ⟨fun hmissing => ?_, fun entries hentries => sectionAgrees hentries⟩
  have hnone : tree.conditions? sectionPath = none := conditions?_eq_none_iff.2 hmissing
  simp [ruleSection, sectionIssues, hnone]

/-- A rule whose check waits for a mask. -/
def waitingRule : RuleConfig :=
  { priority := 4, statusValue := some "seen", checks := [{ type := "in_ledger" }] }

/-- A number stands before the rule. -/
def mixedEntries : List Json :=
  [.int 7, .object [("priority", .int 4), ("status_value", .string "seen"),
    ("checks", .array [.object [("type", .string "in_ledger")]])]]

/-- Two sections, the second with its list under a name that is not that of one. -/
def mixedTree : ConfigTree := ⟨.object [
  ("stage", .object [("conditions", .array mixedEntries)]),
  ("draft", .object [("Conditions", .array mixedEntries)])]⟩

/-- The number is reported and left out, and the rule is loaded and reported for the mask that it waits for.
In the other section the list is not found, as its name begins with a capital. -/
theorem load_compile_validate_agree_mixed :
    mixedTree.Lists "stage" mixedEntries ∧
    mixedTree.ruleSection "stage" = [waitingRule] ∧
    causesAt (mixedTree.sectionIssues "stage") 0 = [.malformedRule .malformed] ∧
    .notBuiltIn "in_ledger" ∈ causesAt (mixedTree.sectionIssues "stage") 1 ∧
    (∀ entries, ¬mixedTree.Lists "draft" entries) ∧
    mixedTree.sectionIssues "draft" = [⟨"draft", none, .missingSection⟩] := by
  have hlists : mixedTree.Lists "stage" mixedEntries := ⟨_, rfl, rfl⟩
  have hmissing : ∀ entries, ¬mixedTree.Lists "draft" entries := conditions?_eq_none_iff.1 rfl
  have hagrees := (load_compile_validate_agree mixedTree "stage").2 mixedEntries hlists
  have hreported := hagrees.reported 1 _ waitingRule rfl rfl
  have hloaded : (mixedTree.ruleSection "stage").map Except.ok = [Except.ok waitingRule] :=
    hagrees.loaded
  have hchecks : (Rule.compile waitingRule mixedTree).checks = [.prebuilt "in_ledger"] := rfl
  refine ⟨hlists, ?_, hagrees.malformed 0 .malformed ?_, ?_, hmissing,
    ((load_compile_validate_agree mixedTree "draft").1 hmissing).2⟩
  · exact (List.map_inj_right fun _ _ => Except.ok.inj).1 hloaded
  · exact List.mem_singleton_self _
  · rw [← hreported.prebuilt, hchecks]
    exact List.mem_singleton_self _

end ConfigTree

end PurchaseStatus
