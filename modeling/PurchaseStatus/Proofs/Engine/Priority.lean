import PurchaseStatus.Engine.Basic
import PurchaseStatus.Proofs.Sorting

namespace PurchaseStatus

section Sorting

variable {α : Type u} {key : α → Int} {items : List α}

/-- An item that is not looked for may be inserted anywhere. -/
theorem find?_insertBy_of_not {p : α → Bool} {a : α} (le : α → α → Bool) (ha : p a = false) :
    (insertBy le a items).find? p = items.find? p := by
  induction items with
  | nil => simp [insertBy, ha]
  | cons b rest ih =>
    unfold insertBy
    split
    · rw [List.find?_cons_of_neg (by simp [ha])]
    · by_cases hb : p b = true
      · rw [List.find?_cons_of_pos hb, List.find?_cons_of_pos hb]
      · rw [List.find?_cons_of_neg hb, List.find?_cons_of_neg hb, ih]

/-- Of an inserted item and the first match among the others, the one with the smaller key is found,
and on equal keys the inserted one. -/
theorem find?_insertBy_of_pos {p : α → Bool} {a : α} (ha : p a = true)
    (hsorted : items.Pairwise fun b c => key b ≤ key c) :
    (insertBy (fun b c => decide (key b ≤ key c)) a items).find? p =
      match items.find? p with
      | none => some a
      | some c => if key c < key a then some c else some a := by
  induction items with
  | nil => simp [insertBy, ha]
  | cons b rest ih =>
    obtain ⟨hfirst, hrest⟩ := List.pairwise_cons.1 hsorted
    unfold insertBy
    split
    · rename_i hle
      rw [decide_eq_true_eq] at hle
      rw [List.find?_cons_of_pos ha]
      cases hfound : (b :: rest).find? p with
      | none => rfl
      | some c =>
        have hc : key a ≤ key c := by
          rcases List.mem_cons.1 (List.mem_of_find?_eq_some hfound) with rfl | hc
          · exact hle
          · exact Int.le_trans hle (hfirst c hc)
        simp only [if_neg (Int.not_lt.2 hc)]
    · rename_i hlt
      rw [decide_eq_true_eq, Int.not_le] at hlt
      by_cases hb : p b = true
      · rw [List.find?_cons_of_pos hb, List.find?_cons_of_pos hb]
        simp only [if_pos hlt]
      · rw [List.find?_cons_of_neg hb, List.find?_cons_of_neg hb, ih hrest]

/-- The first match of a sorted list is the leftmost match of the list with the least key. -/
theorem find?_sortBy (key : α → Int) (p : α → Bool) (items : List α) :
    (sortBy (fun b c => decide (key b ≤ key c)) items).find? p = (items.filter p).minOn? key := by
  induction items with
  | nil => rfl
  | cons a items ih =>
    rw [sortBy_cons]
    by_cases ha : p a = true
    · rw [find?_insertBy_of_pos ha (pairwise_sortBy key items), List.filter_cons_of_pos ha,
        List.minOn?_cons, ih]
      cases (items.filter p).minOn? key with
      | none => rfl
      | some c =>
        by_cases hlt : key c < key a
        · simp only [if_pos hlt, Option.elim_some, minOn_eq_right (Int.not_le.2 hlt)]
        · simp only [if_neg hlt, Option.elim_some, minOn_eq_left (Int.not_lt.1 hlt)]
    · rw [find?_insertBy_of_not _ (by simpa using ha), List.filter_cons_of_neg ha, ih]

/-- An item is inserted before those that it does not exceed. -/
theorem insertBy_append (le : α → α → Bool) {a : α} (left : List α) {right : List α}
    (hright : ∀ b ∈ right, le a b = true) : insertBy le a (left ++ right) = insertBy le a left ++ right := by
  induction left with
  | nil =>
    cases right with
    | nil => rfl
    | cons b rest => simp [insertBy, hright b List.mem_cons_self]
  | cons b left ih =>
    simp only [List.cons_append, insertBy]
    split
    · rfl
    · rw [ih, List.cons_append]

/-- Where no key of the one list exceeds a key of the other, each may be sorted by itself. -/
theorem sortBy_append (key : α → Int) {left right : List α}
    (hle : ∀ a ∈ left, ∀ b ∈ right, key a ≤ key b) :
    sortBy (fun b c => decide (key b ≤ key c)) (left ++ right) =
      sortBy (fun b c => decide (key b ≤ key c)) left ++
        sortBy (fun b c => decide (key b ≤ key c)) right := by
  induction left with
  | nil => rfl
  | cons a left ih =>
    obtain ⟨hfirst, hrest⟩ := List.forall_mem_cons.1 hle
    rw [List.cons_append, sortBy_cons, sortBy_cons, ih hrest]
    exact insertBy_append _ _ fun b hb => decide_eq_true (hfirst b (mem_sortBy.1 hb))

/-- A condition on keys either keeps all items of a key or drops them all. -/
theorem filter_filter_key (key : α → Int) (p : Int → Bool) (k : Int) (items : List α) :
    (items.filter fun a => p (key a)).filter (key · = k) =
      if p k then items.filter (key · = k) else [] := by
  rw [List.filter_filter]
  split
  · rename_i hp
    refine List.filter_congr fun a _ => ?_
    by_cases hkey : key a = k <;> simp [hkey, hp]
  · rename_i hp
    refine List.filter_eq_nil_iff.2 fun a _ => ?_
    by_cases hkey : key a = k <;> simp [hkey, hp]

/-- Three lists that follow each other in their keys ascend as one. -/
theorem pairwise_around {k : Int} {before middle behind : List α}
    (hbefore : before.Pairwise fun a b => key a ≤ key b) (hle : ∀ a ∈ before, key a ≤ k)
    (hmiddle : ∀ a ∈ middle, key a = k) (hge : ∀ a ∈ behind, k ≤ key a)
    (hbehind : behind.Pairwise fun a b => key a ≤ key b) :
    (before ++ (middle ++ behind)).Pairwise fun a b => key a ≤ key b := by
  rw [List.pairwise_append, List.pairwise_append]
  refine ⟨hbefore, ⟨?_, hbehind, ?_⟩, ?_⟩
  · refine List.pairwise_of_forall_mem_list fun a ha b hb => ?_
    exact Int.le_of_eq ((hmiddle a ha).trans (hmiddle b hb).symm)
  · intro a ha b hb
    rw [hmiddle a ha]
    exact hge b hb
  · intro a ha b hb
    rcases List.mem_append.1 hb with hb | hb
    · rw [hmiddle b hb]
      exact hle a ha
    · exact Int.le_trans (hle a ha) (hge b hb)

/-- Where items of one key stand among the others once they are sorted: behind those before them with
no greater key and those after them with a smaller one. -/
theorem sortBy_around (key : α → Int) {k : Int} {middle : List α} (hmiddle : ∀ a ∈ middle, key a = k)
    (left right : List α) :
    sortBy (fun b c => decide (key b ≤ key c)) (left ++ (middle ++ right)) =
      sortBy (fun b c => decide (key b ≤ key c)) (left.filter (key · ≤ k) ++ right.filter (key · < k)) ++
        (middle ++
          sortBy (fun b c => decide (key b ≤ key c))
            (left.filter (k < key ·) ++ right.filter (k ≤ key ·))) := by
  refine eq_of_filter_eq (pairwise_sortBy key _) ?_ fun c => ?_
  · refine pairwise_around (pairwise_sortBy key _) ?_ hmiddle ?_ (pairwise_sortBy key _)
    · intro a ha
      simp only [mem_sortBy, List.mem_append, List.mem_filter, decide_eq_true_eq] at ha
      omega
    · intro a ha
      simp only [mem_sortBy, List.mem_append, List.mem_filter, decide_eq_true_eq] at ha
      omega
  · have hfilter : middle.filter (key · = c) = if c = k then middle else [] := by
      split
      · rename_i hc
        exact List.filter_eq_self.2 fun a ha => by simp [hmiddle a ha, hc]
      · rename_i hc
        exact List.filter_eq_nil_iff.2 fun a ha => by simp [hmiddle a ha, Ne.symm hc]
    -- of each key, only one of the three parts has items
    simp only [filter_sortBy, List.filter_append, filter_filter_key key (decide <| · ≤ k),
      filter_filter_key key (decide <| · < k), filter_filter_key key (decide <| k < ·),
      filter_filter_key key (decide <| k ≤ ·), hfilter, decide_eq_true_eq]
    rcases Int.lt_trichotomy c k with hlt | rfl | hgt
    · simp [hlt, Int.le_of_lt hlt, Int.ne_of_lt hlt, Int.not_lt.2 (Int.le_of_lt hlt), Int.not_le.2 hlt]
    · simp
    · simp [hgt, Int.le_of_lt hgt, Int.ne_of_gt hgt, Int.not_lt.2 (Int.le_of_lt hgt), Int.not_le.2 hgt]

end Sorting

namespace Engine

/-- The first rule of an engine that satisfies a condition is, of the declared rules that do, the
one with the least priority, and of several with this priority the one declared first. -/
theorem find?_byPriority (p : Rule → Bool) (rules : List Rule) :
    (byPriority rules).find? p = (rules.filter p).minOn? (·.priority) :=
  find?_sortBy (fun rule : Rule => rule.priority) p rules

/-- Rules of which none has a greater priority than the others apply before them. -/
theorem byPriority_append {first second : List Rule}
    (hle : ∀ a ∈ first, ∀ b ∈ second, a.priority ≤ b.priority) :
    byPriority (first ++ second) = byPriority first ++ byPriority second :=
  sortBy_append (fun rule : Rule => rule.priority) hle

end Engine

end PurchaseStatus
