import PurchaseStatus.Rule.Config
import PurchaseStatus.Proofs.Agreement
import Mathlib.Data.List.Induction

namespace PurchaseStatus

namespace Json

/-- A field is the first one or is looked for among the rest. -/
theorem fieldOf?_cons (field : String × Json) (rest : List (String × Json)) (name : String) :
    fieldOf? (field :: rest) name = if field.1 = name then some field.2 else fieldOf? rest name := by
  by_cases heq : field.1 = name <;> simp [fieldOf?, heq]

/-- A field that is written is found. -/
theorem fieldOf?_insertField_self (name : String) (value : Json) (fields : List (String × Json)) :
    fieldOf? (insertField name value fields) name = some value := by
  induction fields with
  | nil => rw [insertField, fieldOf?_cons, if_pos rfl]
  | cons field rest ih =>
    rw [insertField]
    split
    · rw [fieldOf?_cons, if_pos rfl]
    · rename_i hne
      split
      · rw [fieldOf?_cons, if_pos rfl]
      · rw [fieldOf?_cons, if_neg (Ne.symm hne), ih]

/-- Other fields are found as before. -/
theorem fieldOf?_insertField_of_ne {name other : String} (hne : other ≠ name) (value : Json)
    (fields : List (String × Json)) :
    fieldOf? (insertField name value fields) other = fieldOf? fields other := by
  induction fields with
  | nil => rw [insertField, fieldOf?_cons, if_neg hne.symm]
  | cons field rest ih =>
    rw [insertField]
    split
    · rename_i heq
      rw [fieldOf?_cons, fieldOf?_cons, if_neg hne.symm, if_neg (heq ▸ hne.symm)]
    · split
      · rw [fieldOf?_cons, if_neg hne.symm]
      · rw [fieldOf?_cons, fieldOf?_cons, ih]

/-- Of the fields that an object is made of, the last under a name counts. -/
theorem ofFields_eq (fields : List (String × Json)) : ∃ sorted, ofFields fields = .object sorted ∧
    ∀ name, fieldOf? sorted name = fieldOf? fields.reverse name := by
  refine ⟨_, rfl, fun name => ?_⟩
  induction fields using List.reverseRecOn with
  | nil => rfl
  | append_singleton fields field ih =>
    rw [List.foldl_append, List.reverse_append]
    rw [List.reverse_singleton, List.singleton_append, fieldOf?_cons]
    split
    · rename_i heq
      subst heq
      exact fieldOf?_insertField_self field.1 field.2 _
    · rename_i hne
      exact (fieldOf?_insertField_of_ne (Ne.symm hne) field.2 _).trans ih

end Json

namespace Decode

variable {α : Type} {item : Json → Result α} {written : α → Json}

/-- The fields of an object are found as they were last written. -/
theorem fields_ofFields (order : List String) (entries : List (String × Json)) :
    fields order (.ofFields entries) = .ok ⟨Json.fieldOf? entries.reverse, true, false⟩ := by
  obtain ⟨sorted, heq, hfields⟩ := Json.ofFields_eq entries
  have hget : Json.fieldOf? sorted = Json.fieldOf? entries.reverse := funext hfields
  rw [heq, fields, hget]

/-- A value that may be absent is read back, if it is never written as null. -/
theorem optional_encode {value : Option α} (hitem : ∀ a ∈ value, item (written a) = .ok a)
    (hnull : ∀ a ∈ value, written a ≠ .null) :
    optional item (some (Encode.optional written value)) = .ok value := by
  cases value with
  | none => rfl
  | some a =>
    have hvalue : optional item (some (written a)) = (item (written a)).map some := by
      have hne := hnull a rfl
      cases hwritten : written a <;> first | rfl | exact absurd hwritten hne
    rw [Encode.optional, hvalue, hitem a rfl]
    rfl

/-- A list is read back if all its entries are. -/
theorem list_map {items : List α} (hitems : ∀ a ∈ items, item (written a) = .ok a) :
    list item (.array (items.map written)) = .ok items := by
  rw [list]
  induction items with
  | nil => rfl
  | cons a rest ih =>
    have hrest := ih fun b hb => hitems b (List.mem_cons_of_mem a hb)
    rw [List.map_cons, List.mapM_cons, hitems a List.mem_cons_self, hrest]
    rfl

theorem combine_encode (value : Combine) : combine (Encode.combine value) = .ok value := by
  cases value <;> rfl

theorem cast_encode (value : Cast) : cast (Encode.cast value) = .ok value := by
  cases value <;> rfl

theorem recordKind_encode (kind : RecordKind) : recordKind (Encode.recordKind kind) = .ok kind := by
  cases kind <;> rfl

/-- A text that may be absent is read back. -/
theorem string_encode (value : Option String) :
    optional string (some (Encode.optional .string value)) = .ok value :=
  optional_encode (fun _ _ => rfl) (fun _ _ => nofun)

end Decode

/-- A check that can be read back: null is written where there is no value. -/
def CheckConfig.Writable (check : CheckConfig) : Prop := check.value ≠ some .null

/-- A rule that can be read back: its priority is an integer of sixty-four bits and its values are not
null, which would be read as absent. -/
structure RuleConfig.Writable (rule : RuleConfig) : Prop where
  priority : Decimal.IsInt64 rule.priority
  checks : ∀ check ∈ rule.checks, check.Writable

/-- A check is read back as it was written. -/
theorem CheckConfig.ofJson_toJson {check : CheckConfig} (h : check.Writable) :
    ofJson check.toJson = .ok check := by
  have hvalue : Decode.optional .ok (some (Encode.optional id check.value)) = .ok check.value :=
    Decode.optional_encode (fun _ _ => rfl) fun value hsome hnull => h (hnull ▸ hsome)
  have hvalues : Decode.optional (Decode.list .ok) (some (Encode.optional .array check.values)) =
      .ok check.values := by
    refine Decode.optional_encode (fun values _ => ?_) (fun _ _ => nofun)
    have hlist : Decode.list .ok (.array (values.map id)) = .ok values := Decode.list_map fun _ _ => rfl
    rwa [List.map_id] at hlist
  have hcast : Decode.optional Decode.cast (some (Encode.optional Encode.cast check.cast)) =
      .ok check.cast :=
    Decode.optional_encode (fun cast _ => Decode.cast_encode cast) fun cast _ => by cases cast <;> nofun
  rw [toJson, ofJson, Decode.fields_ofFields]
  simp [Json.fieldOf?, bind, Except.bind, pure, Except.pure, Decode.required, Decode.string,
    Decode.string_encode, hvalue, hvalues, hcast]

/-- A rule is read back as it was written, if its numbers are within their range. -/
theorem RuleConfig.ofJson_toJson {rule : RuleConfig} (h : rule.Writable) :
    ofJson rule.toJson = .ok rule := by
  have hpriority : Decode.integer (.int rule.priority) = .ok rule.priority := if_pos h.priority
  have hkinds : Decode.optional (Decode.list Decode.recordKind)
      (some (Encode.optional (fun kinds => .array (kinds.map Encode.recordKind)) rule.applyTo)) =
      .ok rule.applyTo :=
    Decode.optional_encode (fun _ _ => Decode.list_map fun kind _ => Decode.recordKind_encode kind)
      fun _ _ => nofun
  have hchecks : Decode.list CheckConfig.ofJson (.array (rule.checks.map CheckConfig.toJson)) =
      .ok rule.checks :=
    Decode.list_map fun check hcheck => CheckConfig.ofJson_toJson (h.checks check hcheck)
  rw [toJson, ofJson, Decode.fields_ofFields]
  simp [Json.fieldOf?, bind, Except.bind, pure, Except.pure, discard, Functor.discard,
    Decode.withDefault, Decode.string, Decode.string_encode, Decode.combine_encode, hpriority, hkinds,
    hchecks]
  rfl

namespace Decode

variable {α : Type}

/-- A record is read unless its list is too long. -/
theorem eq_of_refused_overlong {overlong : Bool} {record read : α}
    (h : (if overlong then (do throw .malformed; pure record) else pure record : Result α) = .ok read) :
    record = read := by
  cases overlong with
  | true => cases h
  | false => exact Except.ok.inj h

/-- A null is read as an absent value. -/
theorem optional_ne_null {value read : Option Json} (h : optional .ok value = .ok read) :
    read ≠ some .null := by
  unfold optional at h
  split at h
  · cases h
    nofun
  · cases h
    nofun
  · rename_i hvalue
    cases h
    rintro ⟨⟩
    exact hvalue rfl

/-- An integer that is read is within its range. -/
theorem isInt64_of_integer {json : Json} {value : Int} (h : integer json = .ok value) :
    Decimal.IsInt64 value := by
  unfold integer at h
  split at h
  · split at h
    · rename_i hrange
      cases h
      exact hrange
    · cases h
  · cases h

/-- What is in a list was read from one of its entries. -/
theorem mem_list {item : Json → Result α} {json : Json} {read : List α} (h : list item json = .ok read) :
    ∀ a ∈ read, ∃ entry, item entry = .ok a := by
  cases json with
  | array entries =>
    rw [list] at h
    induction entries generalizing read with
    | nil =>
      cases h
      nofun
    | cons entry rest ih =>
      rw [List.mapM_cons] at h
      obtain ⟨first, hfirst, h⟩ := Except.bind_eq_ok_iff.1 h
      obtain ⟨later, hlater, h⟩ := Except.bind_eq_ok_iff.1 h
      cases h
      rw [List.forall_mem_cons]
      exact ⟨⟨entry, hfirst⟩, ih hlater⟩
  | null | bool _ | int _ | float _ | string _ | object _ => cases h

end Decode

/-- A check that was read can be written. -/
theorem CheckConfig.writable_of_ofJson {json : Json} {check : CheckConfig} (h : ofJson json = .ok check) :
    check.Writable := by
  unfold ofJson at h
  simp only [Except.bind_eq_ok_iff] at h
  obtain ⟨fields, _, type, _, field, _, pattern, _, patternKey, _, value, hvalue, h⟩ := h
  obtain ⟨valueKey, _, values, _, listKey, _, cast, _, h⟩ := h
  rw [← Decode.eq_of_refused_overlong h]
  exact Decode.optional_ne_null hvalue

theorem RuleConfig.writable_of_fields {fields : Decode.Fields} {rule : RuleConfig}
    (hpriority : Decode.withDefault 999 Decode.integer (fields.get? "priority") = .ok rule.priority)
    (hchecks : Decode.withDefault [] (Decode.list CheckConfig.ofJson) (fields.get? "checks") =
      .ok rule.checks) : rule.Writable where
  priority := by
    cases hfield : fields.get? "priority" with
    | none =>
      rw [hfield] at hpriority
      rw [← Except.ok.inj hpriority]
      decide
    | some json =>
      rw [hfield] at hpriority
      exact Decode.isInt64_of_integer hpriority
  checks check hcheck := by
    cases hfield : fields.get? "checks" with
    | none =>
      rw [hfield] at hchecks
      rw [← Except.ok.inj hchecks] at hcheck
      cases hcheck
    | some json =>
      rw [hfield] at hchecks
      obtain ⟨entry, hentry⟩ := Decode.mem_list hchecks check hcheck
      exact CheckConfig.writable_of_ofJson hentry

/-- A rule that was read can be written. -/
theorem RuleConfig.writable_of_ofJson {json : Json} {rule : RuleConfig} (h : ofJson json = .ok rule) :
    rule.Writable := by
  unfold ofJson at h
  obtain ⟨fields, _, h⟩ := Except.bind_eq_ok_iff.1 h
  -- the record kinds of a table are read once more, before the other fields
  by_cases hname : fields.byName = true
  · rw [if_pos hname] at h
    simp only [Except.bind_eq_ok_iff] at h
    obtain ⟨_, _, priority, hpriority, _, _, _, _, _, _, _, _, _, _, checks, hchecks, h⟩ := h
    have hrule := Decode.eq_of_refused_overlong h
    subst hrule
    exact writable_of_fields hpriority hchecks
  · rw [if_neg hname] at h
    simp only [Except.bind_eq_ok_iff] at h
    obtain ⟨priority, hpriority, _, _, _, _, _, _, _, _, _, _, checks, hchecks, h⟩ := h
    have hrule := Decode.eq_of_refused_overlong h
    subst hrule
    exact writable_of_fields hpriority hchecks

namespace ConfigTree

/-- Rules that are written and read again are the same rules. -/
theorem filterMap_ofJson_toJson {rules : List RuleConfig} (h : ∀ rule ∈ rules, rule.Writable) :
    (rules.map RuleConfig.toJson).filterMap (fun entry => (RuleConfig.ofJson entry).toOption) = rules := by
  induction rules with
  | nil => rfl
  | cons rule rest ih =>
    obtain ⟨hrule, hrest⟩ := List.forall_mem_cons.1 h
    have hread : (RuleConfig.ofJson rule.toJson).toOption = some rule := by
      rw [RuleConfig.ofJson_toJson hrule]
      rfl
    rw [List.map_cons, List.filterMap_cons, hread, ih hrest]

/-- The rules of a section can be written, having been read. -/
theorem writable_of_mem_ruleSection {tree : ConfigTree} {sectionPath : String} {rule : RuleConfig}
    (h : rule ∈ tree.ruleSection sectionPath) : rule.Writable := by
  obtain ⟨entry, _, hentry⟩ := List.mem_filterMap.1 h
  cases hread : RuleConfig.ofJson entry with
  | error error =>
    rw [hread] at hentry
    cases hentry
  | ok read =>
    rw [hread] at hentry
    cases hentry
    exact RuleConfig.writable_of_ofJson hread

end ConfigTree

end PurchaseStatus
