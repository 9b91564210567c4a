import PurchaseStatus.Proofs.Check.Locality

namespace PurchaseStatus

variable {n m : Nat}

/-- The rows of a batch as the first rows of a longer one. -/
def inFirst (i : Fin n) (j : Fin (n + m)) : Prop := j = i.castAdd m

/-- The rows of a batch as the last rows of a longer one. -/
def inRest (i : Fin m) (j : Fin (n + m)) : Prop := j = i.natAdd n

namespace Series

variable {α : Type u} {β : Type v}

@[simp] theorem get_append_castAdd (s : Series α n) (t : Series α m) (i : Fin n) :
    (s ++ t).get (i.castAdd m) = s.get i :=
  List.getElem_append_left (by simp)

@[simp] theorem get_append_natAdd (s : Series α n) (t : Series α m) (i : Fin m) :
    (s ++ t).get (i.natAdd n) = t.get i := by
  simp [get, List.getElem_append_right]

/-- The first of two series is found in the first rows of both as one. -/
theorem agreeOn_inFirst_append (s : Series α n) (t : Series α m) : s.AgreeOn inFirst (s ++ t) := by
  rintro i j rfl
  exact (get_append_castAdd s t i).symm

/-- The second of two series is found in the rows behind the first. -/
theorem agreeOn_inRest_append (s : Series α n) (t : Series α m) : t.AgreeOn inRest (s ++ t) := by
  rintro i j rfl
  exact (get_append_natAdd s t i).symm

/-- A series is what its first and its last rows make together. -/
theorem eq_append {s : Series α n} {t : Series α m} {whole : Series α (n + m)}
    (hfirst : s.AgreeOn inFirst whole) (hrest : t.AgreeOn inRest whole) : whole = s ++ t := by
  apply ext_get
  intro row
  induction row using Fin.addCases with
  | left i => rw [get_append_castAdd, hfirst i _ rfl]
  | right i => rw [get_append_natAdd, hrest i _ rfl]

/-- Two optional series under each other; nothing if one of them is missing. -/
def append? (x : Option (Series α n)) (y : Option (Series α m)) : Option (Series α (n + m)) :=
  x.bind fun s => y.map (s ++ ·)

/-- What is there in both parts or in neither is there in the whole, with the values of the parts. -/
theorem rel_agreeOn_append? {x : Option (Series α n)} {y : Option (Series α m)}
    (h : x.isSome = y.isSome) : Option.Rel (AgreeOn inFirst) x (append? x y) ∧
      Option.Rel (AgreeOn inRest) y (append? x y) := by
  cases x with
  | none =>
    cases y with
    | none => exact ⟨.none, .none⟩
    | some t => cases h
  | some s =>
    cases y with
    | none => cases h
    | some t => exact ⟨.some (agreeOn_inFirst_append s t), .some (agreeOn_inRest_append s t)⟩

/-- What is there in the whole has the values of the parts. -/
theorem whenBoth_append? (x : Option (Series α n)) (y : Option (Series α m)) :
    Option.WhenBoth (AgreeOn inFirst) x (append? x y) ∧ Option.WhenBoth (AgreeOn inRest) y (append? x y) := by
  cases x with
  | none => exact ⟨.none_left, .none_right⟩
  | some s =>
    cases y with
    | none => exact ⟨.none_right, .none_left⟩
    | some t =>
      exact ⟨.of_rel (.some (agreeOn_inFirst_append s t)), .of_rel (.some (agreeOn_inRest_append s t))⟩

/-- Both parts have to be there. -/
theorem isSome_append? (x : Option (Series α n)) (y : Option (Series α m)) :
    (append? x y).isSome = (x.isSome && y.isSome) := by
  cases x <;> cases y <;> rfl

/-- Reading every cell of both parts is reading every cell of each. -/
theorem readAll?_append (f : α → Option β) (s : Series (Option α) n) (t : Series (Option α) m) :
    (s ++ t).readAll? f = append? (s.readAll? f) (t.readAll? f) := by
  simp only [readAll?, append?, toList_append, List.filterMap_append, List.forall_mem_append, map_append]
  by_cases hs : ∀ a ∈ s.toList.filterMap id, (f a).isSome
  · by_cases ht : ∀ a ∈ t.toList.filterMap id, (f a).isSome
    · rw [if_pos hs, if_pos ht, if_pos ⟨hs, ht⟩]
      rfl
    · rw [if_pos hs, if_neg ht, if_neg fun h => ht h.2]
      rfl
  · rw [if_neg hs, if_neg fun h => hs h.1]
    rfl

theorem constant_append (a : α) : constant n a ++ constant m a = constant (n + m) a := by
  ext1
  exact List.replicate_append_replicate

end Series

namespace Cells

variable {first : Cells n} {rest : Cells m} {whole : Cells (n + m)}

/-- A column under another can be read as text if both can be. -/
theorem text?_of_append? (h : first.append? rest = some whole) :
    whole.text? = Series.append? first.text? rest.text? := by
  cases first <;> cases rest <;> cases h
  case date32.date32.refl s t => exact Series.readAll?_append _ s t
  all_goals simp [text?, Series.append?, Series.constant_append]

/-- Whether a column can be read as numbers depends on its type alone, which both parts share. -/
theorem numbers?_of_append? (h : first.append? rest = some whole) :
    whole.numbers? = Series.append? first.numbers? rest.numbers? ∧
      first.numbers?.isSome = rest.numbers?.isSome := by
  cases first <;> cases rest <;> cases h
  all_goals simp [numbers?, Series.append?, Series.constant_append]

/-- Integers are read cell by cell, and a cell that is none is null. -/
theorem integers_of_append? (h : first.append? rest = some whole) :
    whole.integers = first.integers ++ rest.integers := by
  cases first <;> cases rest <;> cases h
  all_goals simp [integers, Series.constant_append]

/-- Only a column of dates can be read as text in one part and not in the other. -/
theorem dates_of_text?_ne (h : first.append? rest = some whole)
    (hne : first.text?.isSome ≠ rest.text?.isSome) :
    (∃ days, first = date32 days) ∧ (∃ days, rest = date32 days) ∧ ∃ days, whole = date32 days := by
  cases first <;> cases rest <;> cases h
  case date32.date32.refl s t => exact ⟨⟨s, rfl⟩, ⟨t, rfl⟩, s ++ t, rfl⟩
  all_goals exact absurd rfl hne

/-- Only text stands under text. -/
theorem text_append?_eq_some {s : Texts n} (h : (text s).append? rest = some whole) :
    ∃ t, rest = text t ∧ whole = text (s ++ t) := by
  cases rest <;> cases h
  exact ⟨_, rfl, rfl⟩

end Cells

namespace Batch

variable {first : Batch n} {rest : Batch m} {whole : Batch (n + m)}

/-- Columns of the same names and types in the same order, one under the other. -/
def appendColumns? : List (String × Cells n) → List (String × Cells m) →
    Option (List (String × Cells (n + m)))
  | [], [] => some []
  | (name, cells) :: columns, (other, cells') :: columns' =>
    if name = other then do
      return (name, ← cells.append? cells') :: (← appendColumns? columns columns')
    else none
  | _, _ => none

/-- Two batches of the same schema as one. -/
def append? (first : Batch n) (rest : Batch m) : Option (Batch (n + m)) :=
  (appendColumns? first.columns.entries rest.columns.entries).map fun columns => ⟨⟨columns⟩⟩

/-- A column is in both parts and in the whole, or in none of the three. -/
theorem find?_of_appendColumns? (name : String) {columns : List (String × Cells n)}
    {columns' : List (String × Cells m)} {joined : List (String × Cells (n + m))}
    (h : appendColumns? columns columns' = some joined) :
    Named.find? name columns = none ∧ Named.find? name columns' = none ∧
      Named.find? name joined = none ∨
    ∃ cells cells' both, Named.find? name columns = some cells ∧
      Named.find? name columns' = some cells' ∧ Named.find? name joined = some both ∧
      cells.append? cells' = some both := by
  induction columns generalizing columns' joined with
  | nil =>
    cases columns' with
    | nil =>
      cases h
      exact .inl ⟨rfl, rfl, rfl⟩
    | cons column' columns' => cases h
  | cons column columns ih =>
    cases columns' with
    | nil => cases h
    | cons column' columns' =>
      obtain ⟨key, cells⟩ := column
      obtain ⟨key', cells'⟩ := column'
      rw [appendColumns?] at h
      split at h
      case isFalse => cases h
      case isTrue hkey =>
        subst hkey
        obtain ⟨both, hboth, hrest⟩ := Option.bind_eq_some_iff.1 h
        obtain ⟨others, hothers, hjoined⟩ := Option.bind_eq_some_iff.1 hrest
        cases hjoined
        by_cases hname : key = name
        · exact .inr ⟨cells, cells', both, by simp [Named.find?, hname],
            by simp [Named.find?, hname], by simp [Named.find?, hname], hboth⟩
        · simpa only [Named.find?, if_neg hname] using ih hothers

/-- The cells of the whole are those of the parts, under each other, and no part has a column of its own.
-/
theorem cells?_of_append? (h : first.append? rest = some whole) (name : String) :
    first.cells? name = none ∧ rest.cells? name = none ∧ whole.cells? name = none ∨
    ∃ cells cells' both, first.cells? name = some cells ∧ rest.cells? name = some cells' ∧
      whole.cells? name = some both ∧ cells.append? cells' = some both := by
  obtain ⟨columns, hcolumns, rfl⟩ := Option.map_eq_some_iff.1 h
  exact find?_of_appendColumns? name hcolumns

/-- Writing columns that fit into both parts writes them, under each other, into the whole. -/
theorem appendColumns?_putEntry (name : String) {cells : Cells n} {cells' : Cells m} {both : Cells (n + m)}
    (hboth : cells.append? cells' = some both) {columns : List (String × Cells n)}
    {columns' : List (String × Cells m)} {joined : List (String × Cells (n + m))}
    (h : appendColumns? columns columns' = some joined) :
    appendColumns? (Named.putEntry name cells columns) (Named.putEntry name cells' columns') =
      some (Named.putEntry name both joined) := by
  induction columns generalizing columns' joined with
  | nil =>
    cases columns' with
    | nil =>
      cases h
      simp [Named.putEntry, appendColumns?, hboth]
    | cons column' columns' => cases h
  | cons column columns ih =>
    cases columns' with
    | nil => cases h
    | cons column' columns' =>
      obtain ⟨key, old⟩ := column
      obtain ⟨key', old'⟩ := column'
      rw [appendColumns?] at h
      split at h
      case isFalse => cases h
      case isTrue hkey =>
        subst hkey
        obtain ⟨oldBoth, hold, hrest⟩ := Option.bind_eq_some_iff.1 h
        obtain ⟨others, hothers, hjoined⟩ := Option.bind_eq_some_iff.1 hrest
        cases hjoined
        by_cases hname : key = name
        · simp [Named.putEntry, hname, appendColumns?, hboth, hothers]
        · simp [Named.putEntry, hname, appendColumns?, hold, ih hothers]

/-- A column that is put into both parts is put into the whole. -/
theorem append?_put (h : first.append? rest = some whole) (name : String) {cells : Cells n} {cells' : Cells m}
    {both : Cells (n + m)} (hboth : cells.append? cells' = some both) :
    (first.put name cells).append? (rest.put name cells') = some (whole.put name both) := by
  obtain ⟨columns, hcolumns, rfl⟩ := Option.map_eq_some_iff.1 h
  exact Option.map_eq_some_iff.2 ⟨_, appendColumns?_putEntry name hboth hcolumns, rfl⟩

/-- Batches of one schema lack the same columns, so one that is created in each of them is in the whole. -/
theorem append?_ensureText (h : first.append? rest = some whole) (name : String) :
    (first.ensureText name).append? (rest.ensureText name) = some (whole.ensureText name) := by
  unfold ensureText hasColumn
  rcases cells?_of_append? h name with ⟨hfirst, hrest, hwhole⟩ | ⟨_, _, _, hfirst, hrest, hwhole, _⟩
  · rw [hfirst, hrest, hwhole]
    refine append?_put h name ?_
    rw [Cells.append?, Series.constant_append]
  · rw [hfirst, hrest, hwhole]
    exact h

/-- Creating a text column makes no column of dates. -/
theorem cells?_of_ensureText_dates {batch : Batch n} {name column : String} {days : Integers n}
    (h : (batch.ensureText name).cells? column = some (.date32 days)) :
    batch.cells? column = some (.date32 days) := by
  by_cases hcolumn : column = name
  · subst hcolumn
    unfold ensureText at h
    split at h
    · exact h
    · rw [cells?_putText_self] at h
      cases h
  · rwa [cells?_ensureText_of_ne batch hcolumn] at h

/-- Batches of one schema have text columns under the same names. -/
theorem text_of_append? (h : first.append? rest = some whole) {name : String}
    (hfirst : ∃ values, first.cells? name = some (.text values)) :
    (∃ values, rest.cells? name = some (.text values)) ∧
      ∃ values, whole.cells? name = some (.text values) := by
  obtain ⟨s, hs⟩ := hfirst
  rcases cells?_of_append? h name with ⟨hnone, _, _⟩ | ⟨cells, cells', both, hcells, hcells', hboth, happend⟩
  · rw [hs] at hnone
    cases hnone
  · rw [hs] at hcells
    cases hcells
    obtain ⟨t, rfl, rfl⟩ := Cells.text_append?_eq_some happend
    exact ⟨⟨t, hcells'⟩, s ++ t, hboth⟩

/-- A column that is absent or text in one part is so in the other and in the whole, which have its
schema. -/
theorem absent_or_text_of_append? (h : first.append? rest = some whole) {name : String}
    (hfirst : first.cells? name = none ∨ ∃ values, first.cells? name = some (.text values)) :
    (rest.cells? name = none ∨ ∃ values, rest.cells? name = some (.text values)) ∧
      (whole.cells? name = none ∨ ∃ values, whole.cells? name = some (.text values)) ∧
      (first.text? name).isSome = (rest.text? name).isSome := by
  rcases hfirst with hnone | htext
  · rcases cells?_of_append? h name with ⟨_, hrest, hwhole⟩ | ⟨_, _, _, hcells, _⟩
    · exact ⟨.inl hrest, .inl hwhole, by simp only [text?, hnone, hrest]; rfl⟩
    · rw [hnone] at hcells
      cases hcells
  · obtain ⟨⟨t, ht⟩, hwhole⟩ := text_of_append? h htext
    obtain ⟨s, hs⟩ := htext
    exact ⟨.inr ⟨t, ht⟩, .inr hwhole, by simp only [text?, hs, ht]; rfl⟩

/-- A column that can be read as text in both parts or in neither is read in the whole as in the
parts. Only a column of dates can be read in one part alone. -/
theorem agreeOn_of_append? (h : first.append? rest = some whole) {column : String}
    (hreadable : (first.text? column).isSome = (rest.text? column).isSome) :
    AgreeOn inFirst column first whole ∧ AgreeOn inRest column rest whole := by
  rcases cells?_of_append? h column with ⟨hfirst, hrest, hwhole⟩ | ⟨cells, cells', both, hfirst, hrest, hwhole, hboth⟩
  · constructor <;> constructor <;>
      simp only [text?, numbers?, integers?, hfirst, hrest, hwhole] <;> exact .none
  · simp only [text?, hfirst, hrest, Option.bind_some] at hreadable
    obtain ⟨hnumbers, hnumeric⟩ := Cells.numbers?_of_append? hboth
    have htexts := Series.rel_agreeOn_append? hreadable
    have hnumbers' := Series.rel_agreeOn_append? hnumeric
    rw [← Cells.text?_of_append? hboth] at htexts
    rw [← hnumbers] at hnumbers'
    have hintegers := Cells.integers_of_append? hboth
    constructor
    · constructor <;> simp only [text?, numbers?, integers?, hfirst, hwhole, Option.bind_some, Option.map_some]
      · exact htexts.1
      · exact hnumbers'.1
      · exact .some (hintegers ▸ Series.agreeOn_inFirst_append _ _)
    · constructor <;> simp only [text?, numbers?, integers?, hrest, hwhole, Option.bind_some, Option.map_some]
      · exact htexts.2
      · exact hnumbers'.2
      · exact .some (hintegers ▸ Series.agreeOn_inRest_append _ _)

section Readable

variable (h : first.append? rest = some whole) (column : String)

include h

/-- A column of the whole can be read as text if it can be in both parts. -/
theorem isSome_text?_of_append? :
    (whole.text? column).isSome = ((first.text? column).isSome && (rest.text? column).isSome) := by
  rcases cells?_of_append? h column with
    ⟨hfirst, hrest, hwhole⟩ | ⟨cells, cells', both, hfirst, hrest, hwhole, hboth⟩
  · simp only [text?, hfirst, hwhole]
    rfl
  · simp only [text?, hfirst, hrest, hwhole, Option.bind_some]
    rw [Cells.text?_of_append? hboth, Series.isSome_append?]

/-- Whether a column holds numbers depends on its type alone, which the parts have in common. -/
theorem isSome_numbers?_of_append? : (first.numbers? column).isSome = (whole.numbers? column).isSome ∧
    (rest.numbers? column).isSome = (whole.numbers? column).isSome := by
  rcases cells?_of_append? h column with
    ⟨hfirst, hrest, hwhole⟩ | ⟨cells, cells', both, hfirst, hrest, hwhole, hboth⟩
  · simp only [numbers?, hfirst, hrest, hwhole]
    exact ⟨rfl, rfl⟩
  · obtain ⟨hnumbers, hsame⟩ := Cells.numbers?_of_append? hboth
    simp only [numbers?, hfirst, hrest, hwhole, Option.bind_some]
    rw [hnumbers, Series.isSome_append?, hsame, Bool.and_self]
    exact ⟨rfl, rfl⟩

/-- Whether a column can be read as integers depends only on its being there. -/
theorem isSome_integers?_of_append? : (first.integers? column).isSome = (whole.integers? column).isSome ∧
    (rest.integers? column).isSome = (whole.integers? column).isSome := by
  rcases cells?_of_append? h column with ⟨hfirst, hrest, hwhole⟩ | ⟨_, _, _, hfirst, hrest, hwhole, _⟩
  · simp only [integers?, hfirst, hrest, hwhole]
    exact ⟨rfl, rfl⟩
  · simp only [integers?, hfirst, hrest, hwhole]
    exact ⟨rfl, rfl⟩

/-- Only a column of dates can be read as text in one part and not in the other. -/
theorem dates_of_text?_ne (hne : (first.text? column).isSome ≠ (rest.text? column).isSome) :
    (∃ days, first.cells? column = some (.date32 days)) ∧ ∃ days, rest.cells? column = some (.date32 days) := by
  rcases cells?_of_append? h column with ⟨hfirst, hrest, _⟩ | ⟨cells, cells', both, hfirst, hrest, _, hboth⟩
  · simp only [text?, hfirst, hrest] at hne
    exact absurd rfl hne
  · simp only [text?, hfirst, hrest, Option.bind_some] at hne
    obtain ⟨⟨days, rfl⟩, ⟨days', rfl⟩, _⟩ := Cells.dates_of_text?_ne hboth hne
    exact ⟨⟨days, hfirst⟩, days', hrest⟩

end Readable

/-- In a column of dates stands no remark, whether it can be read or not. -/
theorem isMute_of_dates {batch : Batch n} {column : String} {days : Integers n}
    (h : batch.cells? column = some (.date32 days)) (row : Fin n) :
    IsMute ((batch.textOrNulls column).get row) := by
  intro text htext
  simp only [textOrNulls, text?, h, Option.bind_some, Cells.text?, Series.readAll?] at htext
  split at htext
  · rw [Option.getD_some, Series.get_map] at htext
    obtain ⟨day, _, hday⟩ := Option.bind_eq_some_iff.1 htext
    exact ⟨day, hday⟩
  · rw [Option.getD_none, Series.get_constant] at htext
    cases htext

/-- The parts of a batch show what the whole shows, wherever a column can be read in the whole. -/
theorem readAlike_of_append? (h : first.append? rest = some whole) (column : String) :
    ReadAlike inFirst column first whole ∧ ReadAlike inRest column rest whole := by
  by_cases hreadable : (first.text? column).isSome = (rest.text? column).isSome
  · obtain ⟨hfirst, hrest⟩ := agreeOn_of_append? h hreadable
    exact ⟨hfirst.readAlike, hrest.readAlike⟩
  · rcases cells?_of_append? h column with
      ⟨hfirst, hrest, hwhole⟩ | ⟨cells, cells', both, hfirst, hrest, hwhole, hboth⟩
    · simp only [text?, hfirst, hrest] at hreadable
      exact absurd rfl hreadable
    · simp only [text?, hfirst, hrest, Option.bind_some] at hreadable
      obtain ⟨⟨days, rfl⟩, ⟨days', rfl⟩, both, rfl⟩ := Cells.dates_of_text?_ne hboth hreadable
      have htexts := Series.whenBoth_append? (Cells.date32 days).text? (Cells.date32 days').text?
      rw [← Cells.text?_of_append? hboth] at htexts
      have hintegers := Cells.integers_of_append? hboth
      refine ⟨⟨?_, ?_, ?_, fun i j _ => ?_⟩, ⟨?_, ?_, ?_, fun i j _ => ?_⟩⟩
      · rw [text?, text?, hfirst, hwhole]
        exact htexts.1
      · rw [numbers?, hfirst]
        exact .none_left
      · rw [integers?, integers?, hfirst, hwhole]
        exact .of_rel (.some (hintegers ▸ Series.agreeOn_inFirst_append _ _))
      · exact .inr ⟨isMute_of_dates hfirst i, isMute_of_dates hwhole j⟩
      · rw [text?, text?, hrest, hwhole]
        exact htexts.2
      · rw [numbers?, hrest]
        exact .none_left
      · rw [integers?, integers?, hrest, hwhole]
        exact .of_rel (.some (hintegers ▸ Series.agreeOn_inRest_append _ _))
      · exact .inr ⟨isMute_of_dates hrest i, isMute_of_dates hwhole j⟩

end Batch

namespace Registry

/-- The masks with their slots cut to those of some rows. -/
def cut (rows : List (Option Bool) → List (Option Bool)) (masks : Registry) : Registry :=
  ⟨masks.entries.map fun (name, slots) => (name, rows slots)⟩

/-- The part of the masks for the first `n` rows. -/
def takeRows (masks : Registry) (n : Nat) : Registry := masks.cut (List.take n)

/-- The part of the masks behind the first `n` rows. -/
def dropRows (masks : Registry) (n : Nat) : Registry := masks.cut (List.drop n)

/-- Cutting the slots of masks renames none of them. -/
theorem get?_cut (rows : List (Option Bool) → List (Option Bool)) (masks : Registry) (name : String) :
    Named.get? (masks.cut rows) name = (Named.get? masks name).map rows :=
  Named.find?_map rows name masks.entries

/-- A mask that is found is one of the entries. -/
theorem mem_entries_of_get? {masks : Registry} {name : String} {slots : List (Option Bool)}
    (h : Named.get? masks name = some slots) : (name, slots) ∈ masks.entries := by
  obtain ⟨entries⟩ := masks
  unfold Named.get? at h
  induction entries with
  | nil => cases h
  | cons entry entries ih =>
    obtain ⟨key, present⟩ := entry
    rw [Named.find?] at h
    split at h
    case isTrue hkey =>
      cases h
      exact hkey ▸ List.mem_cons_self
    case isFalse => exact List.mem_cons_of_mem _ (ih h)

/-- Masks with one slot for each row are read in the whole as they are read in the parts. -/
theorem rel_maskFor?_cut {masks : Registry} (hslots : ∀ entry ∈ masks.entries, entry.2.length = n + m)
    (name : String) :
    Option.Rel (Series.AgreeOn inFirst) ((masks.takeRows n).maskFor? n name)
      (masks.maskFor? (n + m) name) ∧
    Option.Rel (Series.AgreeOn inRest) ((masks.dropRows n).maskFor? m name)
      (masks.maskFor? (n + m) name) := by
  unfold maskFor? takeRows dropRows
  rw [get?_cut, get?_cut]
  cases hget : Named.get? masks name with
  | none => exact ⟨.none, .none⟩
  | some slots =>
    have hlength : slots.length = n + m := hslots _ (mem_entries_of_get? hget)
    have htake : (slots.take n).length = n := by simp [hlength]
    have hdrop : (slots.drop n).length = m := by simp [hlength]
    have hwhole : (⟨slots, hlength⟩ : Slots (n + m)) =
        (⟨slots.take n, htake⟩ : Slots n) ++ (⟨slots.drop n, hdrop⟩ : Slots m) :=
      Series.ext_toList (List.take_append_drop n slots).symm
    simp only [Option.map_some, Option.bind_some, Series.ofList?, dif_pos htake, dif_pos hdrop,
      dif_pos hlength, hwhole]
    constructor
    · exact .some ((Series.agreeOn_inFirst_append _ _).map _)
    · exact .some ((Series.agreeOn_inRest_append _ _).map _)

end Registry

namespace CheckInput

/-- Two inputs of one run with the rows of a third: their batches make its batch, and a mask that is
registered for one is registered for all. -/
structure Joins (first : CheckInput n) (rest : CheckInput m) (whole : CheckInput (n + m)) : Prop where
  batch : first.batch.append? rest.batch = some whole.batch
  firstRun : first.SameRun whole
  restRun : rest.SameRun whole
  firstMasks : ∀ name, (first.registered? name).isSome = (whole.registered? name).isSome
  restMasks : ∀ name, (rest.registered? name).isSome = (whole.registered? name).isSome

namespace Joins

variable {first : CheckInput n} {rest : CheckInput m} {whole : CheckInput (n + m)}

/-- What is needed is there in the whole if it is there in both parts. -/
theorem isMet_eq (h : Joins first rest whole) (need : Requirement) :
    need.isMet whole = (need.isMet first && need.isMet rest) := by
  cases need with
  | date => simp [Requirement.isMet, h.firstRun.date, h.restRun.date]
  | accounts =>
    simp [Requirement.isMet, h.firstRun.config, h.restRun.config, h.firstRun.entity, h.restRun.entity]
  | text column => exact Batch.isSome_text?_of_append? h.batch column
  | numbers column =>
    obtain ⟨hfirst, hrest⟩ := Batch.isSome_numbers?_of_append? h.batch column
    simp only [Requirement.isMet, hfirst, hrest, Bool.and_self]
  | integers column =>
    obtain ⟨hfirst, hrest⟩ := Batch.isSome_integers?_of_append? h.batch column
    simp only [Requirement.isMet, hfirst, hrest, Bool.and_self]

/-- Several needs are met in the whole if they are in both parts. -/
theorem all_isMet_eq (h : Joins first rest whole) (needs : List Requirement) :
    needs.all (·.isMet whole) = (needs.all (·.isMet first) && needs.all (·.isMet rest)) := by
  induction needs with
  | nil => rfl
  | cons need needs ih =>
    rw [List.all_cons, List.all_cons, List.all_cons, ih, h.isMet_eq need]
    ac_rfl

/-- A check that can be evaluated on both parts, or on neither, can be evaluated on the whole as well, or
cannot. -/
theorem isSome_evaluate?_eq (h : Joins first rest whole) {check : Check}
    (hsame : (check.evaluate? first).isSome = (check.evaluate? rest).isSome) :
    (check.evaluate? whole).isSome = (check.evaluate? first).isSome := by
  rw [Check.isSome_evaluate?, Check.isSome_evaluate?, any_registered?_eq fun name _ => h.firstMasks name,
    any_registered?_eq fun name _ => h.restMasks name] at hsame
  rw [Check.isSome_evaluate?, Check.isSome_evaluate?, any_registered?_eq fun name _ => h.firstMasks name]
  cases hmasks : check.maskNames.any fun name => (whole.registered? name).isSome with
  | true => rfl
  | false =>
    rw [hmasks, Bool.false_or, Bool.false_or] at hsame
    rw [Bool.false_or, Bool.false_or]
    cases hneeds : check.requirements? with
    | none => rfl
    | some needs =>
      simp only [hneeds, Option.any_some] at hsame ⊢
      rw [h.all_isMet_eq, ← hsame, Bool.and_self]

/-- A check that can be evaluated on one part alone reads a column of dates that cannot be read as text in the
other. -/
theorem exists_dates_of_isSome_ne (h : Joins first rest whole) {check : Check}
    (hne : (check.evaluate? first).isSome ≠ (check.evaluate? rest).isSome) :
    ∃ column ∈ check.columns, (∃ days, first.batch.cells? column = some (.date32 days)) ∧
      (∃ days, rest.batch.cells? column = some (.date32 days)) ∧
      (first.batch.text? column).isSome ≠ (rest.batch.text? column).isSome := by
  by_contra hnone
  refine hne ?_
  -- only a need for text can be met in one part and not in the other
  have hmet : ∀ needs, check.requirements? = some needs →
      ∀ need ∈ needs, need.isMet first = need.isMet rest := by
    intro needs hneeds need hneed
    cases need with
    | date => simp only [Requirement.isMet, h.firstRun.date, h.restRun.date]
    | accounts =>
      simp only [Requirement.isMet, h.firstRun.config, h.restRun.config, h.firstRun.entity, h.restRun.entity]
    | numbers column =>
      obtain ⟨hfirst, hrest⟩ := Batch.isSome_numbers?_of_append? h.batch column
      exact hfirst.trans hrest.symm
    | integers column =>
      obtain ⟨hfirst, hrest⟩ := Batch.isSome_integers?_of_append? h.batch column
      exact hfirst.trans hrest.symm
    | text column =>
      by_contra htext
      obtain ⟨hfirst, hrest⟩ := Batch.dates_of_text?_ne h.batch column htext
      exact hnone ⟨column, Check.column_mem_columns hneeds hneed rfl, hfirst, hrest, htext⟩
  rw [Check.isSome_evaluate?, Check.isSome_evaluate?, any_registered?_eq fun name _ => h.firstMasks name,
    any_registered?_eq fun name _ => h.restMasks name]
  cases hneeds : check.requirements? with
  | none => rfl
  | some needs => rw [Option.any_some, Option.any_some, PurchaseStatus.all_isMet_eq (hmet needs hneeds)]

end Joins

end CheckInput

end PurchaseStatus
