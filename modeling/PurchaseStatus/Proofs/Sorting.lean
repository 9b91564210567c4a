import PurchaseStatus.Sorting

namespace PurchaseStatus

variable {α : Type u} {β : Type v} [LE β] [DecidableLE β] [Std.IsLinearOrder β]
variable {key : α → β} {items others : List α}

/-- An item goes before the first one whose key is not smaller. -/
theorem pairwise_insertBy (a : α) (hsorted : items.Pairwise fun b c => key b ≤ key c) :
    (insertBy (fun b c => decide (key b ≤ key c)) a items).Pairwise fun b c => key b ≤ key c := by
  induction items with
  | nil => simp [insertBy]
  | cons b rest ih =>
    obtain ⟨hfirst, hrest⟩ := List.pairwise_cons.1 hsorted
    unfold insertBy
    split
    · rename_i hle
      rw [decide_eq_true_eq] at hle
      refine List.pairwise_cons.2 ⟨?_, hsorted⟩
      intro c hc
      rcases List.mem_cons.1 hc with rfl | hc
      · exact hle
      · exact Std.le_trans hle (hfirst c hc)
    · rename_i hnot
      rw [decide_eq_true_eq] at hnot
      have hle : key b ≤ key a := Std.le_total.resolve_right hnot
      refine List.pairwise_cons.2 ⟨?_, ih hrest⟩
      intro c hc
      rcases List.mem_cons.1 ((insertBy_perm _ a rest).mem_iff.1 hc) with rfl | hc
      · exact hle
      · exact hfirst c hc

/-- What is sorted by a key ascends in it. -/
theorem pairwise_sortBy (key : α → β) (items : List α) :
    (sortBy (fun b c => decide (key b ≤ key c)) items).Pairwise fun b c => key b ≤ key c := by
  induction items with
  | nil => exact .nil
  | cons a items ih => exact pairwise_insertBy a ih

/-- Where the keys tell items apart, a sorted list does not show in which order they came. -/
theorem sortBy_eq_of_perm (key : α → β) (hperm : items.Perm others)
    (hkey : ∀ a ∈ items, ∀ b ∈ items, key a = key b → a = b) :
    sortBy (fun a b => decide (key a ≤ key b)) items =
      sortBy (fun a b => decide (key a ≤ key b)) others := by
  have hsorted : (sortBy (fun a b => decide (key a ≤ key b)) items).Perm
      (sortBy (fun a b => decide (key a ≤ key b)) others) :=
    (sortBy_perm _ items).trans (hperm.trans (sortBy_perm _ others).symm)
  refine hsorted.eq_of_pairwise ?_ (pairwise_sortBy key items) (pairwise_sortBy key others)
  intro a b ha hb hab hba
  have hb : b ∈ items := hperm.mem_iff.2 (mem_sortBy.1 hb)
  exact hkey a (mem_sortBy.1 ha) b hb (Std.le_antisymm hab hba)

variable [DecidableEq β]

/-- An item is inserted before those of its own key. -/
theorem filter_insertBy (k : β) (a : α) (items : List α) :
    (insertBy (fun b c => decide (key b ≤ key c)) a items).filter (key · = k) =
      (a :: items).filter (key · = k) := by
  induction items with
  | nil => rfl
  | cons b rest ih =>
    unfold insertBy
    split
    · rfl
    · rename_i hnot
      have hne : key a ≠ key b := fun heq => hnot (decide_eq_true (heq ▸ Std.le_refl (key a)))
      rw [List.filter_cons, ih]
      by_cases hb : key b = k
      · have ha : key a ≠ k := fun ha => hne (ha.trans hb.symm)
        simp [ha, hb]
      · simp [List.filter_cons, hb]

/-- Items of one key keep their order. -/
theorem filter_sortBy (key : α → β) (k : β) (items : List α) :
    (sortBy (fun b c => decide (key b ≤ key c)) items).filter (key · = k) =
      items.filter (key · = k) := by
  induction items with
  | nil => rfl
  | cons a items ih => rw [sortBy_cons, filter_insertBy, List.filter_cons, List.filter_cons, ih]

omit [LE β] [DecidableLE β] [Std.IsLinearOrder β] in
/-- Lists with the same items under every key have the same members. -/
theorem mem_iff_of_filter_eq (hfilter : ∀ k, items.filter (key · = k) = others.filter (key · = k))
    (a : α) : a ∈ items ↔ a ∈ others := by
  have hmem : a ∈ items.filter (key · = key a) ↔ a ∈ others.filter (key · = key a) := by
    rw [hfilter (key a)]
  simpa using hmem

omit [DecidableLE β] in
/-- Two sorted lists with the same items of each key, in the same order, are the same. -/
theorem eq_of_filter_eq (hitems : items.Pairwise fun a b => key a ≤ key b)
    (hothers : others.Pairwise fun a b => key a ≤ key b)
    (hfilter : ∀ k, items.filter (key · = k) = others.filter (key · = k)) : items = others := by
  induction items generalizing others with
  | nil =>
    have hnone : ∀ a, a ∉ others := fun a ha =>
      List.not_mem_nil ((mem_iff_of_filter_eq hfilter a).2 ha)
    exact (List.eq_nil_iff_forall_not_mem.2 hnone).symm
  | cons a items ih =>
    cases others with
    | nil => exact absurd ((mem_iff_of_filter_eq hfilter a).1 List.mem_cons_self) List.not_mem_nil
    | cons b others =>
      obtain ⟨hfirst, hrest⟩ := List.pairwise_cons.1 hitems
      obtain ⟨hfirst', hrest'⟩ := List.pairwise_cons.1 hothers
      -- both heads have the least key, and each is the first item of that key
      have hba : key b ≤ key a := by
        rcases List.mem_cons.1 ((mem_iff_of_filter_eq hfilter a).1 List.mem_cons_self) with rfl | ha
        · exact Std.le_refl _
        · exact hfirst' a ha
      have hab : key a ≤ key b := by
        rcases List.mem_cons.1 ((mem_iff_of_filter_eq hfilter b).2 List.mem_cons_self) with rfl | hb
        · exact Std.le_refl _
        · exact hfirst b hb
      have hkey : key b = key a := Std.le_antisymm hba hab
      have hhead := hfilter (key a)
      rw [List.filter_cons_of_pos (by simp), List.filter_cons_of_pos (by simp [hkey])] at hhead
      obtain ⟨rfl, -⟩ := List.cons.inj hhead
      have htail : ∀ k, items.filter (key · = k) = others.filter (key · = k) := by
        intro k
        have hk := hfilter k
        by_cases ha : key a = k
        · simpa [List.filter_cons, ha] using hk
        · simpa [List.filter_cons, ha] using hk
      rw [ih hrest hrest' htail]

/-- Of the order of a list, sorting keeps what it is among the items of each key, and no more. -/
theorem sortBy_eq_iff (key : α → β) (items others : List α) :
    sortBy (fun a b => decide (key a ≤ key b)) items =
      sortBy (fun a b => decide (key a ≤ key b)) others ↔
    ∀ k, items.filter (key · = k) = others.filter (key · = k) := by
  constructor
  · intro hsame k
    rw [← filter_sortBy key k items, hsame, filter_sortBy]
  · intro hfilter
    refine eq_of_filter_eq (pairwise_sortBy key items) (pairwise_sortBy key others) fun k => ?_
    rw [filter_sortBy, filter_sortBy, hfilter k]

/-- Dropping repetitions drops no value altogether. -/
theorem mem_eraseRepsBy_loop {α : Type u} [BEq α] [LawfulBEq α] {a b : α} (items rest : List α) :
    b ∈ List.eraseRepsBy.loop (· == ·) a items rest ↔ b = a ∨ b ∈ items ∨ b ∈ rest := by
  induction items generalizing a rest with
  | nil => simp [List.eraseRepsBy.loop, or_comm]
  | cons next items ih =>
    rw [List.eraseRepsBy.loop]
    split
    · rename_i heq
      rw [ih, eq_of_beq heq, List.mem_cons, or_assoc, or_self_left]
    · rw [ih, List.mem_cons, List.mem_cons, or_assoc, or_left_comm (b := b = a), or_left_comm (b := b = a)]

/-- The distinct texts are the same texts. -/
theorem mem_distinctTexts {text : String} {texts : List String} :
    text ∈ distinctTexts texts ↔ text ∈ texts := by
  have hsorted : text ∈ sortTexts texts ↔ text ∈ texts := mem_sortBy
  rw [← hsorted, distinctTexts, List.eraseReps]
  cases sortTexts texts with
  | nil => rfl
  | cons first rest =>
    rw [List.eraseRepsBy, mem_eraseRepsBy_loop, List.mem_cons]
    simp

/-- Of a sorted list every value is kept once, in ascending order. What was kept stands turned around in
`rest`, and `first` is the last of it. -/
theorem pairwise_eraseRepsBy_loop {first : String} {items rest : List String}
    (hsorted : (first :: items).Pairwise (· ≤ ·))
    (hkept : (first :: rest).Pairwise fun a b => b ≤ a ∧ b ≠ a) :
    (List.eraseRepsBy.loop (· == ·) first items rest).Pairwise fun a b => a ≤ b ∧ a ≠ b := by
  induction items generalizing first rest with
  | nil =>
    rw [List.eraseRepsBy.loop]
    exact List.pairwise_reverse.2 hkept
  | cons next items ih =>
    obtain ⟨hfirst, hitems⟩ := List.pairwise_cons.1 hsorted
    rw [List.eraseRepsBy.loop]
    split
    · rename_i heq
      obtain rfl := eq_of_beq heq
      exact ih hitems hkept
    · rename_i hne
      have hlt : first ≤ next ∧ first ≠ next := ⟨hfirst next List.mem_cons_self, by simpa using hne⟩
      refine ih hitems (List.pairwise_cons.2 ⟨fun kept hmem => ?_, hkept⟩)
      rcases List.mem_cons.1 hmem with rfl | hmem
      · exact hlt
      · obtain ⟨hle, _⟩ := (List.pairwise_cons.1 hkept).1 kept hmem
        refine ⟨Std.le_trans hle hlt.1, ?_⟩
        rintro rfl
        exact hlt.2 (Std.le_antisymm hlt.1 hle)

/-- Distinct texts ascend strictly. -/
theorem pairwise_distinctTexts (texts : List String) :
    (distinctTexts texts).Pairwise fun a b => a ≤ b ∧ a ≠ b := by
  have hsorted : (sortTexts texts).Pairwise (· ≤ ·) := pairwise_sortBy id texts
  unfold distinctTexts List.eraseReps
  cases hfirst : sortTexts texts with
  | nil => exact .nil
  | cons first rest =>
    rw [hfirst] at hsorted
    exact pairwise_eraseRepsBy_loop hsorted (List.pairwise_singleton _ _)

/-- The distinct texts show which texts there are, and nothing of their order and number. -/
theorem distinctTexts_eq_iff {texts others : List String} :
    distinctTexts texts = distinctTexts others ↔ ∀ text, text ∈ texts ↔ text ∈ others := by
  constructor
  · intro hsame text
    rw [← mem_distinctTexts, hsame, mem_distinctTexts]
  · intro hmem
    have hnodup : ∀ texts, (distinctTexts texts).Nodup := fun texts =>
      (pairwise_distinctTexts texts).imp fun h => h.2
    have hperm : (distinctTexts texts).Perm (distinctTexts others) := by
      refine (List.perm_ext_iff_of_nodup (hnodup texts) (hnodup others)).2 fun text => ?_
      rw [mem_distinctTexts, mem_distinctTexts, hmem]
    refine hperm.eq_of_pairwise (fun a b _ _ hab hba => Std.le_antisymm hab.1 hba.1)
      (pairwise_distinctTexts texts) (pairwise_distinctTexts others)

end PurchaseStatus
