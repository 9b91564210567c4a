import PurchaseStatus.Accrual.Fields
import PurchaseStatus.Proofs.Check.Reading
import Mathlib.Data.List.FinRange

namespace PurchaseStatus

theorem Series.toList_eq_map_get {α : Type} {n : Nat} (s : Series α n) :
    s.toList = (List.finRange n).map s.get := by
  apply List.ext_getElem (by simp)
  intro i hi _
  simp [Series.get]

namespace Accrual

/-- What reference data has for an account: the value in the last row of the account that has one, and
nothing where no row of the account has one. -/
structure LookedUp {m : Nat} (reference : Batch m) (key value : String) (account found : Option String) :
    Prop where
  last : ∀ text, found = some text → ∃ name row, account = some name ∧
    reference.textAt? key row = some name ∧ reference.textAt? value row = some text ∧
    ∀ later, row < later → reference.textAt? key later = some name → reference.textAt? value later = none
  absent : found = none → ∀ name row, account = some name → reference.textAt? key row = some name →
    reference.textAt? value row = none

section Lookup

variable {m : Nat} {reference : Batch m} {key value : String}

/-- What a row of reference data has for an account. -/
def listedAt? (reference : Batch m) (key value name : String) (row : Fin m) : Option String :=
  if reference.textAt? key row = some name then reference.textAt? value row else none

/-- What is found under a name in a list is the first entry of that name. -/
theorem find?_filterMap {β : Type} (name : String) (entryOf : β → Option (String × String))
    (rows : List β) : Named.find? name (rows.filterMap entryOf) =
      rows.findSome? fun row => (entryOf row).bind fun e => if e.1 = name then some e.2 else none := by
  induction rows with
  | nil => rfl
  | cons row rest ih =>
    rw [List.findSome?_cons]
    cases hentry : entryOf row with
    | none => rwa [List.filterMap_cons_none hentry]
    | some e =>
      rw [List.filterMap_cons_some hentry, Named.find?, Option.bind_some, ih]
      split <;> rfl

/-- A column that cannot be read as text lists nothing. -/
theorem findSome?_listedAt?_of_unreadable (name : String)
    (h : reference.text? key = none ∨ reference.text? value = none) (rows : List (Fin m)) :
    rows.findSome? (listedAt? reference key value name) = none := by
  refine List.findSome?_eq_none_iff.2 fun row _ => ?_
  rcases h with hkeys | hvalues
  · simp [listedAt?, Batch.textAt?, hkeys]
  · simp [listedAt?, Batch.textAt?, hvalues]

/-- The rows of reference data are put one after another, so that the last ones are found first. -/
theorem get?_lookup (reference : Batch m) (key value name : String) :
    (lookup reference key value).get? name =
      (List.finRange m).reverse.findSome? (listedAt? reference key value name) := by
  unfold lookup
  cases hkeys : reference.text? key with
  | none => exact (findSome?_listedAt?_of_unreadable name (.inl hkeys) _).symm
  | some keys =>
    cases hvalues : reference.text? value with
    | none => exact (findSome?_listedAt?_of_unreadable name (.inr hvalues) _).symm
    | some values =>
      have hlisted : listedAt? reference key value name = fun row =>
          ((keys.get row).bind fun key => (values.get row).bind fun value => some (key, value)).bind
            fun e => if e.1 = name then some e.2 else none := by
        funext row
        rw [listedAt?, Batch.textAt?, Batch.textAt?, hkeys, hvalues, Option.bind_some, Option.bind_some]
        cases keys.get row <;> cases values.get row <;> simp
      have hnone : Named.empty.get? name = (none : Option String) := rfl
      dsimp only [Named.ofList]
      rw [Named.get?_merge, hnone, Option.or_none, Series.toList_eq_map_get,
        List.filterMap_map, ← List.filterMap_reverse, find?_filterMap, hlisted]
      simp only [Function.comp_def, Series.get_zipWith, id, Option.bind_eq_bind, Option.pure_def]

/-- What is found from behind has no other after it. -/
theorem exists_last_of_findSome? {β : Type} {f : Fin m → Option β} {b : β}
    (h : (List.finRange m).reverse.findSome? f = some b) :
    ∃ row, f row = some b ∧ ∀ later, row < later → f later = none := by
  obtain ⟨behind, row, before, hrows, hrow, hbehind⟩ := List.findSome?_eq_some_iff.1 h
  refine ⟨row, hrow, fun later hlater => hbehind later ?_⟩
  have hsorted : (behind ++ row :: before).Pairwise (fun a b => b < a) :=
    hrows ▸ List.pairwise_reverse.2 (List.pairwise_lt_finRange m)
  have hbefore : ∀ earlier ∈ before, earlier < row :=
    (List.pairwise_cons.1 (List.pairwise_append.1 hsorted).2.1).1
  have hmem : later ∈ behind ++ row :: before := hrows ▸ List.mem_reverse.2 (List.mem_finRange later)
  rcases List.mem_append.1 hmem with hmem | hmem
  · exact hmem
  · rcases List.mem_cons.1 hmem with rfl | hmem
    · exact absurd hlater (Nat.lt_irrefl _)
    · exact absurd hlater (Nat.lt_asymm (hbefore later hmem))

/-- Of the rows of an account the last that has a value counts. -/
theorem lookedUp_lookup (reference : Batch m) (key value : String) (account : Option String) :
    LookedUp reference key value account (account.bind (lookup reference key value).get?) where
  last text hfound := by
    obtain ⟨name, rfl, hvalue⟩ := Option.bind_eq_some_iff.1 hfound
    rw [get?_lookup] at hvalue
    obtain ⟨row, hrow, hlast⟩ := exists_last_of_findSome? hvalue
    rw [listedAt?, Option.ite_none_right_eq_some] at hrow
    refine ⟨name, row, rfl, hrow.1, hrow.2, fun later hlater hkey => ?_⟩
    have hnone := hlast later hlater
    rwa [listedAt?, if_pos hkey] at hnone
  absent hfound name row haccount hkey := by
    rw [haccount, Option.bind_some, get?_lookup, List.findSome?_eq_none_iff] at hfound
    have hnone := hfound row (List.mem_reverse.2 (List.mem_finRange row))
    rwa [listedAt?, if_pos hkey] at hnone

/-- Of one account only one thing can be looked up. -/
theorem LookedUp.unique {account found other : Option String}
    (h : LookedUp reference key value account found) (h' : LookedUp reference key value account other) :
    found = other := by
  cases found with
  | none =>
    cases other with
    | none => rfl
    | some text =>
      obtain ⟨name, row, haccount, hkey, hvalue, _⟩ := h'.last text rfl
      cases (h.absent rfl name row haccount hkey).symm.trans hvalue
  | some text =>
    obtain ⟨name, row, rfl, hkey, hvalue, hlast⟩ := h.last text rfl
    cases other with
    | none => cases (h'.absent rfl name row rfl hkey).symm.trans hvalue
    | some text' =>
      obtain ⟨_, row', ⟨⟩, hkey', hvalue', hlast'⟩ := h'.last text' rfl
      rcases Nat.lt_trichotomy row row' with hbefore | hsame | hbehind
      · cases (hlast row' hbefore hkey').symm.trans hvalue'
      · cases Fin.ext hsame
        exact hvalue.symm.trans hvalue'
      · cases (hlast' row hbehind hkey).symm.trans hvalue

end Lookup

end Accrual

end PurchaseStatus
