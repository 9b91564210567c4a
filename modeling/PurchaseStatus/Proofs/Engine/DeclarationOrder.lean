import PurchaseStatus.Proofs.Engine.DeadRules
import Mathlib.Data.List.Sort
import Mathlib.Logic.Equiv.Basic

namespace PurchaseStatus

section Reordering

variable {α : Type u} {β : Type v} {key : α → β} {items others : List α}

/-- A list in another order in which items of one key stand as before. Items may be equal, so this is
said of their places. -/
def KeepsTies (key : α → β) (items others : List α) : Prop :=
  ∃ place : Fin others.length ≃ Fin items.length,
    (∀ i, others.get i = items.get (place i)) ∧
    ∀ i j, i < j → key (others.get i) = key (others.get j) → place i < place j

/-- Filtering a list is filtering its places. -/
theorem filter_eq_map_get (p : α → Bool) (items : List α) :
    items.filter p = ((List.finRange items.length).filter fun i => p (items.get i)).map items.get := by
  have hget : (List.finRange items.length).map items.get = items := List.map_get_finRange items
  conv_lhs => rw [← hget, List.filter_map]
  rfl

/-- The items of each key are the same, in the same order. -/
theorem KeepsTies.filter_eq [DecidableEq β] (hties : KeepsTies key items others) (k : β) :
    others.filter (key · = k) = items.filter (key · = k) := by
  obtain ⟨place, hget, hkeeps⟩ := hties
  -- the places of the key in the one list are sent to those in the other, in ascending order
  let here := (List.finRange others.length).filter fun i => key (others.get i) = k
  let there := (List.finRange items.length).filter fun j => key (items.get j) = k
  have hascending : (here.map place).Pairwise (· < ·) := by
    rw [List.pairwise_map]
    refine ((List.pairwise_lt_finRange others.length).filter _).imp_of_mem ?_
    intro i j hi hj hlt
    have hki : key (others.get i) = k := of_decide_eq_true (List.mem_filter.1 hi).2
    have hkj : key (others.get j) = k := of_decide_eq_true (List.mem_filter.1 hj).2
    exact hkeeps i j hlt (hki.trans hkj.symm)
  have hmem : ∀ j, j ∈ here.map place ↔ j ∈ there := by
    intro j
    simp only [here, there, List.mem_map, List.mem_filter, List.mem_finRange, true_and,
      decide_eq_true_eq]
    constructor
    · rintro ⟨i, hi, rfl⟩
      rwa [← hget i]
    · intro hj
      refine ⟨place.symm j, ?_, place.apply_symm_apply j⟩
      rwa [hget, place.apply_symm_apply]
  have hplaces : here.map place = there :=
    hascending.eq_of_mem_iff ((List.pairwise_lt_finRange items.length).filter _) hmem
  calc others.filter (key · = k)
      = here.map others.get := filter_eq_map_get _ others
    _ = (here.map place).map items.get := by
        rw [List.map_map]
        exact List.map_congr_left fun i _ => hget i
    _ = items.filter (key · = k) := by rw [hplaces, filter_eq_map_get]

end Reordering

namespace Engine

variable (config : ConfigTree) (sectionPath : String)

/-- A rule is compiled to its own priority. -/
theorem filter_map_compile (priority : Int) (rules : List RuleConfig) :
    (rules.map (Rule.compile · config)).filter (·.priority = priority) =
      (rules.filter (·.priority = priority)).map (Rule.compile · config) :=
  List.filter_map

/-- Two declarations come to the same rules exactly when they do for each priority. -/
theorem rules_ofRules_eq_iff (rules others : List RuleConfig) :
    (ofRules config sectionPath others).rules = (ofRules config sectionPath rules).rules ↔
      ∀ priority, (others.filter (·.priority = priority)).map (Rule.compile · config) =
        (rules.filter (·.priority = priority)).map (Rule.compile · config) := by
  have hsorted := sortBy_eq_iff (fun rule : Rule => rule.priority)
    (others.map (Rule.compile · config)) (rules.map (Rule.compile · config))
  simp only [filter_map_compile] at hsorted
  exact hsorted

/-- The rules of an engine are the declared ones, compiled, in ascending priority, and those of one
priority as they are declared. -/
structure Orders (engine : Engine) (rules : List RuleConfig) : Prop where
  perm : engine.rules.Perm (rules.map (Rule.compile · engine.config))
  ascending : engine.rules.Pairwise fun a b => a.priority ≤ b.priority
  ties : ∀ priority, engine.rules.filter (·.priority = priority) =
    (rules.filter (·.priority = priority)).map (Rule.compile · engine.config)

/-- The rules of an engine are those that were declared, in ascending priority, with ties as declared. -/
theorem orders_ofRules (rules : List RuleConfig) : (ofRules config sectionPath rules).Orders rules where
  perm := sortBy_perm _ _
  ascending := pairwise_sortBy (fun rule : Rule => rule.priority) _
  ties priority := by
    rw [← filter_map_compile]
    exact filter_sortBy (fun rule : Rule => rule.priority) priority _

/-- Rules that are declared in another order, but for the ties, make the same engine, with the same
runs and the same ledgers. -/
theorem ofRules_of_keepsTies {rules others : List RuleConfig} (hties : KeepsTies (·.priority) rules others) :
    (ofRules config sectionPath rules).Orders rules ∧
    ofRules config sectionPath others = ofRules config sectionPath rules ∧
    (∀ call : EngineCall,
      call.run (ofRules config sectionPath others) = call.run (ofRules config sectionPath rules)) ∧
    ∀ calls : List EngineCall, (ofRules config sectionPath others).ledger calls =
      (ofRules config sectionPath rules).ledger calls := by
  have hrules : (ofRules config sectionPath others).rules = (ofRules config sectionPath rules).rules := by
    rw [rules_ofRules_eq_iff]
    intro priority
    rw [hties.filter_eq priority]
  have hengine : ofRules config sectionPath others = ofRules config sectionPath rules :=
    congrArg (Engine.mk sectionPath config) hrules
  refine ⟨orders_ofRules config sectionPath rules, hengine, fun call => ?_, fun calls => ?_⟩
  · rw [hengine]
  · rw [hengine]

/-- The ends of the range of priorities, and a tie below zero. -/
def farPriorities : List RuleConfig := [
  { priority := Decimal.int64Max, statusValue := some "last", checks := [{ type := "no_status" }] },
  { priority := -3, statusValue := some "former",
    checks := [{ type := "equals", field := some "item", value := some (.string "a") }] },
  { priority := -3, statusValue := some "latter",
    checks := [{ type := "not_equals", field := some "item", value := some (.string "b") }] },
  { priority := Decimal.int64Min, statusValue := some "first",
    checks := [{ type := "equals", field := some "item", value := some (.string "b") }] }]

/-- The same with the ends exchanged. -/
def farPrioritiesExchanged : List RuleConfig :=
  [farPriorities[3], farPriorities[1], farPriorities[2], farPriorities[0]]

/-- Rules that are declared in another order, but for those of equal priority, apply in the same order.
The priorities are the least and the greatest that there are, and two that are equal. -/
theorem ofRules_farPrioritiesExchanged :
    KeepsTies (·.priority) farPriorities farPrioritiesExchanged ∧
    (ofRules .empty "rules" farPrioritiesExchanged).ruleIds =
      ["priority_-9223372036854775808_first", "priority_-3_former", "priority_-3_latter",
        "priority_9223372036854775807_last"] ∧
    (overlappingCall.run (ofRules .empty "rules" farPrioritiesExchanged)).report.hits.map (·.2) =
      [1, 1, 1, 0] := by
  let place : Fin 4 ≃ Fin 4 := Equiv.swap 0 3
  have hget : ∀ i : Fin 4, farPrioritiesExchanged.get i = farPriorities.get (place i) := by
    intro i
    match i with
    | 0 | 1 | 2 | 3 => rfl
  have hties : KeepsTies (·.priority) farPriorities farPrioritiesExchanged := ⟨place, hget, by decide⟩
  obtain ⟨_, hengine, hruns, _⟩ := ofRules_of_keepsTies .empty "rules" hties
  refine ⟨hties, ?_, ?_⟩
  · rw [hengine]
    decide
  · rw [hruns]
    decide

end Engine

end PurchaseStatus
