import PurchaseStatus.Proofs.Engine.Ledger

namespace PurchaseStatus

variable {n : Nat}

namespace Rule

/-- Whether a rule is evaluated on an input: it is for records of the kind, has a status and a check,
and one of its checks can be evaluated. -/
def isEvaluated (rule : Rule) (kind : RecordKind) (input : CheckInput n) : Bool :=
  rule.appliesTo kind && rule.status.isSome && !rule.checks.isEmpty &&
    rule.checks.any fun check => (check.evaluate? input).isSome

/-- A rule has a mask if one of its checks has. -/
theorem isSome_mask? (rule : Rule) (input : CheckInput n) :
    (rule.mask? input).isSome = rule.checks.any fun check => (check.evaluate? input).isSome := by
  have hmasks : (rule.mask? input).isSome = !(rule.checks.filterMap (·.evaluate? input)).isEmpty := by
    unfold mask?
    cases rule.checks.filterMap (·.evaluate? input) <;> cases rule.combine <;> rfl
  rw [hmasks]
  induction rule.checks with
  | nil => rfl
  | cons check rest ih => cases hcheck : check.evaluate? input <;> simp_all

/-- An evaluated rule has a label to give and a mask of the rows that it is for. -/
theorem isEvaluated_iff {rule : Rule} {kind : RecordKind} {input : CheckInput n} :
    rule.isEvaluated kind input = true ↔
      ∃ status matched, rule.labelFor? kind = some status ∧ rule.mask? input = some matched := by
  simp only [isEvaluated, ← rule.isSome_mask? input, Bool.and_eq_true, Bool.not_eq_true',
    Option.isSome_iff_exists, labelFor?_eq_some_iff]
  constructor
  · rintro ⟨⟨⟨hkind, status, hstatus⟩, hchecks⟩, matched, hmatched⟩
    exact ⟨status, matched, ⟨hkind, hchecks, hstatus⟩, hmatched⟩
  · rintro ⟨status, matched, ⟨hkind, hchecks, hstatus⟩, hmatched⟩
    exact ⟨⟨⟨hkind, status, hstatus⟩, hchecks⟩, matched, hmatched⟩

end Rule

namespace Labeling

section Taking

variable (task : LabelingTask)

/-- The rows that a rule labels when its turn comes. -/
def taken (state : Labeling n) (rule : Rule) : Mask n :=
  match rule.labelFor? task.kind, rule.mask? (state.input task) with
  | some _, some matched => matched.and state.unset
  | _, _ => .constant n false

/-- A rule labels the unset rows that it claims. -/
theorem get_taken (state : Labeling n) (rule : Rule) (row : Fin n) :
    (state.taken task rule).get row =
      (state.unset.get row && rule.claims task.kind (state.input task) row) := by
  rw [Bool.eq_iff_iff, Bool.and_eq_true, Rule.claims_iff, taken]
  cases hstatus : rule.labelFor? task.kind with
  | none => simp
  | some status =>
    cases hmatched : rule.mask? (state.input task) with
    | none => simp
    | some matched => simp [and_comm]

variable {task}

/-- A rule that is not evaluated leaves the state as it is. -/
theorem apply_of_not_evaluated {state : Labeling n} {rule : Rule}
    (hidle : rule.isEvaluated task.kind (state.input task) = false) : state.apply task rule = state := by
  rcases apply_cases task state rule with hsame | ⟨status, matched, hstatus, hmatched, _⟩
  · exact hsame
  · rw [Rule.isEvaluated_iff.2 ⟨status, matched, hstatus, hmatched⟩] at hidle
    cases hidle

/-- A rule that is not evaluated labels no row. -/
theorem taken_of_not_evaluated {state : Labeling n} {rule : Rule}
    (hidle : rule.isEvaluated task.kind (state.input task) = false) :
    state.taken task rule = .constant n false := by
  apply Series.ext_get
  intro row
  rw [get_taken, Series.get_constant, Bool.and_eq_false_iff]
  refine .inr ?_
  cases hclaims : rule.claims task.kind (state.input task) row with
  | false => rfl
  | true =>
    obtain ⟨status, matched, hstatus, hmatched, _⟩ := Rule.claims_iff.1 hclaims
    rw [Rule.isEvaluated_iff.2 ⟨status, matched, hstatus, hmatched⟩] at hidle
    cases hidle

variable (task)

/-- An evaluated rule is recorded with the number of rows that it labels, and no other rule is. -/
theorem hits_apply (state : Labeling n) (rule : Rule) : (state.apply task rule).hits = state.hits ++
    if rule.isEvaluated task.kind (state.input task) then [(rule.id, (state.taken task rule).count)]
    else [] := by
  cases hevaluated : rule.isEvaluated task.kind (state.input task) with
  | false => simp [apply_of_not_evaluated hevaluated]
  | true =>
    obtain ⟨status, matched, hstatus, hmatched⟩ := Rule.isEvaluated_iff.1 hevaluated
    rw [apply_of_evaluated hstatus hmatched, taken, hstatus, hmatched]
    simp [record]

/-- The rows recorded under an id grow by what a rule of that id labels. -/
theorem rowsOf_hits_apply (state : Labeling n) (rule : Rule) (id : String) :
    rowsOf ((state.apply task rule).hits.filter (·.1 = id)) =
      rowsOf (state.hits.filter (·.1 = id)) +
        if rule.id = id then (state.taken task rule).count else 0 := by
  rw [hits_apply, List.filter_append, rowsOf_append, Nat.add_left_cancel_iff]
  cases hevaluated : rule.isEvaluated task.kind (state.input task) with
  | false =>
    rw [taken_of_not_evaluated hevaluated, Mask.count_constant_false, ite_self]
    rfl
  | true =>
    rw [if_pos rfl]
    by_cases hid : rule.id = id
    · rw [if_pos hid, List.filter_cons_of_pos (by simpa using hid)]
      rfl
    · rw [if_neg hid, List.filter_cons_of_neg (by simpa using hid)]
      rfl

end Taking

end Labeling

/-- A rule with the state that it finds when its turn comes. -/
structure RuleTurn (n : Nat) where
  state : Labeling n
  rule : Rule

namespace RuleTurn

variable (task : LabelingTask) (turn : RuleTurn n)

/-- Whether the rule is evaluated at its turn. -/
def isEvaluated : Bool := turn.rule.isEvaluated task.kind (turn.state.input task)

/-- The rows that get their label at the turn. -/
def rows : Mask n := turn.state.taken task turn.rule

end RuleTurn

namespace Labeling

/-- The turns of some rules, each on the state that the rules before it have left. -/
def turns (task : LabelingTask) : Labeling n → List Rule → List (RuleTurn n)
  | _, [] => []
  | state, rule :: rest => ⟨state, rule⟩ :: turns task (state.apply task rule) rest

section Turns

variable (task : LabelingTask) (state : Labeling n)

theorem turns_cons (rule : Rule) (rest : List Rule) :
    state.turns task (rule :: rest) = ⟨state, rule⟩ :: (state.apply task rule).turns task rest := rfl

theorem applyAll_cons (rule : Rule) (rest : List Rule) :
    state.applyAll task (rule :: rest) = (state.apply task rule).applyAll task rest := rfl

/-- Rules that follow others find what these have left. -/
theorem applyAll_append (earlier later : List Rule) :
    state.applyAll task (earlier ++ later) = (state.applyAll task earlier).applyAll task later :=
  List.foldl_append

/-- Every rule has its turn, in the order of application. -/
theorem map_rule_turns (rules : List Rule) : (state.turns task rules).map (·.rule) = rules := by
  induction rules generalizing state with
  | nil => rfl
  | cons rule rest ih => rw [turns_cons, List.map_cons, ih]

/-- A run records the evaluated rules, each with the number of rows that it labels. -/
theorem hits_applyAll (rules : List Rule) : (state.applyAll task rules).hits = state.hits ++
    ((state.turns task rules).filter (·.isEvaluated task)).map fun turn =>
      (turn.rule.id, (turn.rows task).count) := by
  induction rules generalizing state with
  | nil => exact (List.append_nil _).symm
  | cons rule rest ih =>
    rw [applyAll_cons, ih, hits_apply, turns_cons, List.append_assoc]
    cases hevaluated : rule.isEvaluated task.kind (state.input task) <;>
      simp [RuleTurn.isEvaluated, RuleTurn.rows, hevaluated]

/-- The rows recorded under an id are those that the rules of that id label. -/
theorem rowsOf_hits_applyAll (rules : List Rule) (id : String) :
    rowsOf ((state.applyAll task rules).hits.filter (·.1 = id)) =
      rowsOf (state.hits.filter (·.1 = id)) +
        (((state.turns task rules).filter (·.rule.id = id)).map fun turn => (turn.rows task).count).sum := by
  induction rules generalizing state with
  | nil => rfl
  | cons rule rest ih =>
    rw [applyAll_cons, ih, rowsOf_hits_apply, turns_cons, List.filter_cons]
    by_cases hid : rule.id = id <;> simp [hid, RuleTurn.rows, Nat.add_assoc]

/-- Where no rule is evaluated, the state stays as it is. -/
theorem applyAll_of_none_evaluated {rules : List Rule}
    (hnone : ∀ turn ∈ state.turns task rules, turn.isEvaluated task = false) :
    state.applyAll task rules = state := by
  induction rules generalizing state with
  | nil => rfl
  | cons rule rest ih =>
    obtain ⟨hrule, hrest⟩ := List.forall_mem_cons.1 hnone
    have hsame : state.apply task rule = state := apply_of_not_evaluated hrule
    rw [hsame] at hrest
    rw [applyAll_cons, hsame]
    exact ih state hrest

end Turns

section Rows

variable {task : LabelingTask} {state : Labeling n} {row : Fin n}

/-- No rule labels a row that is set already. -/
theorem rows_of_set {rules : List Rule} (hset : state.unset.get row = false) :
    ∀ turn ∈ state.turns task rules, (turn.rows task).get row = false := by
  induction rules generalizing state with
  | nil => intro turn hturn; cases hturn
  | cons rule rest ih =>
    have hstill : (state.apply task rule).unset.get row = false := by rw [get_unset_apply, hset]; rfl
    refine List.forall_mem_cons.2 ⟨?_, ih hstill⟩
    rw [RuleTurn.rows, get_taken, hset]
    rfl

/-- No row is labelled at two turns of a run. -/
theorem pairwise_rows_turns (task : LabelingTask) (state : Labeling n) (rules : List Rule) :
    (state.turns task rules).Pairwise fun earlier later =>
      ∀ row, (earlier.rows task).get row = true → (later.rows task).get row = false := by
  induction rules generalizing state with
  | nil => exact .nil
  | cons rule rest ih =>
    refine List.pairwise_cons.2 ⟨fun later hlater row hrow => ?_, ih (state.apply task rule)⟩
    have hclaims : rule.claims task.kind (state.input task) row = true := by
      rw [RuleTurn.rows, get_taken, Bool.and_eq_true] at hrow
      exact hrow.2
    refine rows_of_set ?_ later hlater
    rw [get_unset_apply, hclaims, Bool.not_true, Bool.and_false]

/-- A row that is labelled at a turn ends with the status and the note of its rule. -/
theorem labelAt_of_mem_rows {rules : List Rule} {turn : RuleTurn n} (hturn : turn ∈ state.turns task rules)
    (hrow : (turn.rows task).get row = true) :
    (state.applyAll task rules).labelAt row = ⟨turn.rule.status, some turn.rule.note⟩ := by
  induction rules generalizing state with
  | nil => cases hturn
  | cons rule rest ih =>
    rcases List.mem_cons.1 hturn with rfl | hlater
    · rw [RuleTurn.rows, get_taken, Bool.and_eq_true] at hrow
      obtain ⟨hset, hlabel⟩ := apply_of_claims hrow.1 hrow.2
      exact (labelAt_applyAll_of_set rest hset).trans hlabel
    · exact ih hlater

/-- A row that is labelled at no turn keeps its label. -/
theorem labelAt_of_not_mem_rows {rules : List Rule}
    (hnone : ∀ turn ∈ state.turns task rules, (turn.rows task).get row = false) :
    (state.applyAll task rules).labelAt row = state.labelAt row := by
  induction rules generalizing state with
  | nil => rfl
  | cons rule rest ih =>
    obtain ⟨hrule, hrest⟩ := List.forall_mem_cons.1 hnone
    have hbit : state.unset.get row = (state.apply task rule).unset.get row := by
      rw [RuleTurn.rows, get_taken] at hrule
      rw [get_unset_apply]
      cases hunset : state.unset.get row <;> simp_all
    rw [applyAll_cons, ih hrest, (frame_apply task state rule).labelAt hbit]

end Rows

end Labeling

namespace EngineCall

variable (engine : Engine) (call : EngineCall)

/-- The turns of the rules of a call. -/
def turns : List (RuleTurn call.data.rows) :=
  (call.start engine).turns (call.task engine) (call.rulesOf engine)

/-- The turns at which a rule is evaluated. -/
def evaluatedTurns : List (RuleTurn call.data.rows) :=
  (call.turns engine).filter (·.isEvaluated (call.task engine))

/-- A run is reported turn by turn, as far as the rules were evaluated. -/
theorem hits_run : (call.run engine).report.hits =
    (call.evaluatedTurns engine).map fun turn => (turn.rule.id, (turn.rows (call.task engine)).count) := by
  have hhits := Labeling.hits_applyAll (call.task engine) (call.start engine) (call.rulesOf engine)
  rw [run_eq]
  exact hhits

end EngineCall

end PurchaseStatus
