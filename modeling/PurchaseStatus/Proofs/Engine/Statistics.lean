import PurchaseStatus.Engine.Basic
import Mathlib.Algebra.GroupWithZero.Nat
import Mathlib.Data.List.Induction

namespace PurchaseStatus

namespace Named

variable {α : Type u}

/-- Writing under one name and writing under another that is already there commute: only the first
can append. -/
theorem putEntry_comm_of_mem {name other : String} (hne : other ≠ name) (a b : α)
    {entries : List (String × α)} (hmem : name ∈ entries.map (·.1)) :
    putEntry name a (putEntry other b entries) = putEntry other b (putEntry name a entries) := by
  induction entries with
  | nil => cases hmem
  | cons entry rest ih =>
    obtain ⟨key, value⟩ := entry
    by_cases hkey : key = name
    · subst hkey
      simp [putEntry, hne.symm]
    · by_cases hother : key = other
      · subst hother
        simp [putEntry, hkey]
      · have hrest : name ∈ rest.map (·.1) := (List.mem_cons.1 hmem).resolve_left (Ne.symm hkey)
        simp [putEntry, hkey, hother, ih hrest]

/-- A name that is there can be written before or after another. -/
theorem put_comm_of_mem {m : Named α} {name other : String} (hne : other ≠ name) (a b : α)
    (hmem : name ∈ m.names) : (m.put other b).put name a = (m.put name a).put other b :=
  congrArg Named.mk (putEntry_comm_of_mem hne a b hmem)

/-- A name that is written is there. -/
theorem mem_names_put_self (m : Named α) (name : String) (a : α) : name ∈ (m.put name a).names := by
  rw [names_put]
  split
  · assumption
  · exact List.mem_append_right _ List.mem_cons_self

/-- No name is lost when another is written. -/
theorem mem_names_put_of_mem {m : Named α} {name : String} (hmem : name ∈ m.names) (other : String)
    (a : α) : name ∈ (m.put other a).names := by
  rw [names_put]
  split
  · exact hmem
  · exact List.mem_append_left _ hmem

/-- Writing repeats no name. -/
theorem nodup_names_put {m : Named α} (hnodup : m.names.Nodup) (name : String) (a : α) :
    (m.put name a).names.Nodup := by
  rw [names_put]
  split
  · exact hnodup
  · rename_i hnew
    refine List.nodup_append.2 ⟨hnodup, List.pairwise_singleton _ name, ?_⟩
    rintro other hother _ hname rfl
    exact hnew (List.mem_singleton.1 hname ▸ hother)

/-- Where no name is repeated, what is found under one is its only entry. -/
theorem find?_eq_some_iff {name : String} {a : α} {entries : List (String × α)}
    (hnodup : (entries.map (·.1)).Nodup) : find? name entries = some a ↔ (name, a) ∈ entries := by
  induction entries with
  | nil => exact iff_of_false (fun h => by cases h) List.not_mem_nil
  | cons entry rest ih =>
    obtain ⟨hnew, hrest⟩ := List.nodup_cons.1 hnodup
    rw [find?, List.mem_cons]
    split
    · rename_i hname
      subst hname
      have habsent : (entry.1, a) ∉ rest := fun hmem => hnew (List.mem_map.2 ⟨_, hmem, rfl⟩)
      rw [or_iff_left habsent, Option.some_inj]
      exact ⟨fun h => h ▸ rfl, fun h => (Prod.mk.inj h).2.symm⟩
    · rename_i hname
      rw [ih hrest, or_iff_right]
      rintro rfl
      exact hname rfl

end Named

/-- The rows of several rules together. -/
def rowsOf (hits : List (String × Nat)) : Nat := (hits.map (·.2)).sum

theorem rowsOf_cons (hit : String × Nat) (hits : List (String × Nat)) :
    rowsOf (hit :: hits) = hit.2 + rowsOf hits := List.sum_cons

theorem rowsOf_append (earlier later : List (String × Nat)) :
    rowsOf (earlier ++ later) = rowsOf earlier + rowsOf later := by
  rw [rowsOf, List.map_append, List.sum_append]
  rfl

namespace RuleStats

variable (stats : RuleStats)

/-- Adds the rows of several rules, one after another. -/
def addAll (stats : RuleStats) (hits : List (String × Nat)) : RuleStats :=
  hits.foldl (fun stats (id, count) => stats.add id count) stats

/-- The rows of two runs, those of equal ids added: the ids of the first keep their places and the
others follow in the order of the second. -/
def merge (earlier later : RuleStats) : RuleStats := earlier.addAll later.entries

@[simp] theorem addAll_nil : stats.addAll [] = stats := rfl

@[simp] theorem addAll_cons (id : String) (count : Nat) (rest : List (String × Nat)) :
    stats.addAll ((id, count) :: rest) = (stats.add id count).addAll rest := rfl

/-- An id that is counted is there, even with no rows. -/
theorem mem_names_add_self (id : String) (count : Nat) : id ∈ Named.names (stats.add id count) :=
  Named.mem_names_put_self stats id _

/-- No id is lost when another is counted. -/
theorem mem_names_add_of_mem {stats : RuleStats} {id : String} (hmem : id ∈ Named.names stats)
    (other : String) (count : Nat) : id ∈ Named.names (stats.add other count) :=
  Named.mem_names_put_of_mem hmem other _

/-- Rows of one id can be added at once. -/
theorem add_add (id : String) (a b : Nat) : (stats.add id a).add id b = stats.add id (a + b) := by
  simp [add, Named.update, Nat.add_assoc]

/-- Rows of a rule that is already there may be added at any time. -/
theorem add_comm_of_mem {stats : RuleStats} {id : String} (hmem : id ∈ Named.names stats)
    (other : String) (a b : Nat) : (stats.add other b).add id a = (stats.add id a).add other b := by
  by_cases hother : other = id
  · subst hother
    rw [add_add, add_add, Nat.add_comm]
  · simp only [add, Named.update, Named.get?_put_of_ne _ hother, Named.get?_put_of_ne _ (Ne.symm hother)]
    exact Named.put_comm_of_mem hother _ _ hmem

/-- Rows of an id that is there can be added before or after any others. -/
theorem addAll_add_of_mem {stats : RuleStats} {id : String} (hmem : id ∈ Named.names stats)
    (hits : List (String × Nat)) (count : Nat) :
    (stats.addAll hits).add id count = (stats.add id count).addAll hits := by
  induction hits generalizing stats with
  | nil => rfl
  | cons hit rest ih =>
    obtain ⟨other, found⟩ := hit
    rw [addAll_cons, addAll_cons, ih (mem_names_add_of_mem hmem other found), add_comm_of_mem hmem]

/-- Adding entries of which one has grown adds the growth as well. -/
theorem addAll_putEntry (id : String) (count : Nat) (entries : List (String × Nat)) :
    stats.addAll (Named.putEntry id ((Named.find? id entries).getD 0 + count) entries) =
      (stats.addAll entries).add id count := by
  induction entries generalizing stats with
  | nil => simp [Named.putEntry, Named.find?]
  | cons entry rest ih =>
    obtain ⟨other, present⟩ := entry
    by_cases hother : other = id
    · subst hother
      have hmem := mem_names_add_self stats other present
      simp only [Named.putEntry, Named.find?, if_true, Option.getD_some, addAll_cons]
      rw [addAll_add_of_mem hmem, add_add]
    · simp only [Named.putEntry, Named.find?, if_neg hother, addAll_cons]
      exact ih (stats.add other present)

/-- Statistics hold all that can be added of the rows they were made of. -/
theorem addAll_entries_addAll (start : RuleStats) (hits : List (String × Nat)) :
    stats.addAll (start.addAll hits).entries = (stats.addAll start.entries).addAll hits := by
  induction hits generalizing start with
  | nil => rfl
  | cons hit rest ih =>
    have hfirst : stats.addAll (start.add hit.1 hit.2).entries =
        (stats.addAll start.entries).add hit.1 hit.2 :=
      addAll_putEntry stats hit.1 hit.2 start.entries
    have hrest := ih (start.add hit.1 hit.2)
    rw [hfirst] at hrest
    exact hrest

/-- The statistics of two lists of hits in a row are those of each, merged. -/
theorem addAll_append (earlier later : List (String × Nat)) :
    addAll ∅ (earlier ++ later) = (addAll ∅ earlier).merge (addAll ∅ later) := by
  have hlater : (addAll ∅ earlier).merge (addAll ∅ later) = (addAll ∅ earlier).addAll later :=
    addAll_entries_addAll (addAll ∅ earlier) ∅ later
  rw [hlater]
  exact List.foldl_append

/-- The rows counted under an id; none where it is absent. -/
def countOf (id : String) : Nat := (Named.get? stats id).getD 0

/-- The rows of all ids together. -/
def total : Nat := (Named.values stats).sum

/-- Rows are counted under their own id only. -/
theorem countOf_add (id other : String) (count : Nat) :
    (stats.add id count).countOf other = stats.countOf other + if id = other then count else 0 := by
  by_cases hid : id = other
  · subst hid
    simp [countOf, add, Named.update]
  · simp [countOf, add, Named.update, Named.get?_put_of_ne _ (Ne.symm hid), hid]

/-- The rows under an id are those of all its hits. -/
theorem countOf_addAll (id : String) (hits : List (String × Nat)) :
    (stats.addAll hits).countOf id = stats.countOf id + rowsOf (hits.filter (·.1 = id)) := by
  induction hits generalizing stats with
  | nil => rfl
  | cons hit rest ih =>
    rw [addAll_cons, ih, countOf_add]
    by_cases hid : hit.1 = id
    · rw [List.filter_cons_of_pos (by simpa using hid), rowsOf_cons, if_pos hid, Nat.add_assoc]
    · rw [List.filter_cons_of_neg (by simpa using hid), if_neg hid, Nat.add_zero]

/-- Under one id there are no more rows than under all. -/
theorem countOf_le_total (id : String) : stats.countOf id ≤ stats.total := by
  obtain ⟨entries⟩ := stats
  simp only [countOf, total, Named.values, Named.get?]
  induction entries with
  | nil => simp [Named.find?]
  | cons entry rest ih =>
    rw [Named.find?, List.map_cons, List.sum_cons]
    split
    · exact Nat.le_add_right _ _
    · omega

/-- An id is there if it was there or is the one that is counted. -/
theorem mem_names_add {id other : String} {count : Nat} :
    other ∈ Named.names (stats.add id count) ↔ other ∈ Named.names stats ∨ other = id := by
  rw [add, Named.update, Named.names_put]
  split
  · rename_i hmem
    refine ⟨.inl, ?_⟩
    rintro (hother | rfl)
    · exact hother
    · exact hmem
  · simp

/-- The ids that are there are those of the hits and those before. -/
theorem mem_names_addAll {id : String} (hits : List (String × Nat)) :
    id ∈ Named.names (stats.addAll hits) ↔ id ∈ Named.names stats ∨ id ∈ hits.map (·.1) := by
  induction hits generalizing stats with
  | nil => simp
  | cons hit rest ih => rw [addAll_cons, ih, mem_names_add, List.map_cons, List.mem_cons, or_assoc]

/-- No id is listed twice. -/
theorem nodup_names_addAll {stats : RuleStats} (hnodup : (Named.names stats).Nodup)
    (hits : List (String × Nat)) : (Named.names (stats.addAll hits)).Nodup := by
  induction hits generalizing stats with
  | nil => exact hnodup
  | cons hit rest ih => exact ih (Named.nodup_names_put hnodup hit.1 _)

/-- The ids of statistics are those of the hits, in the order in which they first occur. -/
theorem names_addAll (hits : List (String × Nat)) :
    Named.names (addAll ∅ hits) = (hits.map (·.1)).eraseDups := by
  induction hits using List.reverseRecOn with
  | nil => rfl
  | append_singleton hits hit ih =>
    have hlast : addAll ∅ (hits ++ [hit]) = (addAll ∅ hits).add hit.1 hit.2 := List.foldl_append
    have hnew : [hit.1].removeAll (hits.map (·.1)) =
        if hit.1 ∈ hits.map (·.1) then [] else [hit.1] := by
      by_cases hmem : hit.1 ∈ hits.map (·.1) <;> simp [List.removeAll, hmem]
    rw [hlast, add, Named.update, Named.names_put, ih, List.map_append, List.eraseDups_append,
      List.map_singleton, hnew]
    simp only [List.mem_eraseDups]
    split
    · exact (List.append_nil _).symm
    · rfl

/-- Statistics without a repeated id are a table of counts. -/
theorem entries_eq_map {stats : RuleStats} (hnodup : (Named.names stats).Nodup) :
    Named.entries stats = (Named.names stats).map fun id => (id, stats.countOf id) := by
  obtain ⟨entries⟩ := stats
  simp only [countOf, Named.names, Named.get?] at hnodup ⊢
  induction entries with
  | nil => rfl
  | cons entry rest ih =>
    obtain ⟨id, count⟩ := entry
    obtain ⟨hnew, hrest⟩ := List.nodup_cons.1 hnodup
    have hothers : ∀ other ∈ rest.map (·.1),
        Named.find? other ((id, count) :: rest) = Named.find? other rest := by
      rintro other hother
      rw [Named.find?, if_neg]
      rintro rfl
      exact hnew hother
    rw [List.map_cons, List.map_cons, Named.find?, if_pos rfl, Option.getD_some]
    refine congrArg ((id, count) :: ·) ((ih hrest).trans (List.map_congr_left fun other hother => ?_))
    rw [hothers other hother]

/-- The rows of all ids grow by the rows that are added. -/
theorem total_add (id : String) (count : Nat) : (stats.add id count).total = stats.total + count := by
  obtain ⟨entries⟩ := stats
  simp only [total, Named.values, add, Named.update, Named.put, Named.get?]
  induction entries with
  | nil => simp [Named.putEntry, Named.find?]
  | cons entry rest ih =>
    rw [Named.putEntry, Named.find?]
    split
    · simp only [Option.getD_some, List.map_cons, List.sum_cons]
      omega
    · simp only [List.map_cons, List.sum_cons, ih]
      omega

/-- All rows together are those of all hits. -/
theorem total_addAll (hits : List (String × Nat)) :
    (stats.addAll hits).total = stats.total + rowsOf hits := by
  induction hits generalizing stats with
  | nil => rfl
  | cons hit rest ih => rw [addAll_cons, ih, total_add, rowsOf_cons, Nat.add_assoc]

/-- Counts under the same ids in the same order, those of the first list being the sums of those of
the two others. -/
inductive Sums : List (String × Nat) → List (String × Nat) → List (String × Nat) → Prop where
  | nil : Sums [] [] []
  | cons (id : String) (a b : Nat) {whole left right : List (String × Nat)} :
    Sums whole left right → Sums ((id, a + b) :: whole) ((id, a) :: left) ((id, b) :: right)

namespace Sums

variable {whole left right : List (String × Nat)}

/-- A further id with a sum of its own goes to the end of all three. -/
theorem append_one (h : Sums whole left right) (id : String) (a b : Nat) :
    Sums (whole ++ [(id, a + b)]) (left ++ [(id, a)]) (right ++ [(id, b)]) := by
  induction h with
  | nil => exact .cons id a b .nil
  | cons other c d _ ih => exact .cons other c d ih

/-- The count of the whole is the sum of the counts of the parts, absent ids having none. -/
theorem find? (h : Sums whole left right) (id : String) : (Named.find? id whole).getD 0 =
    (Named.find? id left).getD 0 + (Named.find? id right).getD 0 := by
  induction h with
  | nil => rfl
  | cons other a b _ ih =>
    by_cases hother : other = id
    · simp [Named.find?, hother]
    · simpa [Named.find?, hother] using ih

/-- Sums stay sums when one entry of each is written anew. -/
theorem putEntry (h : Sums whole left right) (id : String) (a b : Nat) :
    Sums (Named.putEntry id (a + b) whole) (Named.putEntry id a left) (Named.putEntry id b right) := by
  induction h with
  | nil => exact .cons id a b .nil
  | cons other c d hrest ih =>
    by_cases hother : other = id
    · simpa [Named.putEntry, hother] using cons id a b hrest
    · simpa [Named.putEntry, hother] using cons other c d ih

/-- Sums stay sums when rows are added under an id on both sides. -/
theorem add {whole left right : RuleStats} (h : Sums whole.entries left.entries right.entries)
    (id : String) (a b : Nat) :
    Sums (whole.add id (a + b)).entries (left.add id a).entries (right.add id b).entries := by
  have hput := h.putEntry id ((Named.find? id left.entries).getD 0 + a)
    ((Named.find? id right.entries).getD 0 + b)
  rw [Nat.add_add_add_comm, ← h.find? id] at hput
  exact hput

/-- Hits that are sums give statistics that are. -/
theorem addAll (h : Sums whole left right) {stats stats' stats'' : RuleStats}
    (hstats : Sums stats.entries stats'.entries stats''.entries) :
    Sums (stats.addAll whole).entries (stats'.addAll left).entries (stats''.addAll right).entries := by
  induction h generalizing stats stats' stats'' with
  | nil => exact hstats
  | cons id a b _ ih => exact ih (hstats.add id a b)

/-- The whole lists the ids of its first part. -/
theorem names_left (h : Sums whole left right) : whole.map (·.1) = left.map (·.1) := by
  induction h with
  | nil => rfl
  | cons id a b _ ih => rw [List.map_cons, List.map_cons, ih]

/-- The whole lists the ids of its second part. -/
theorem names_right (h : Sums whole left right) : whole.map (·.1) = right.map (·.1) := by
  induction h with
  | nil => rfl
  | cons id a b _ ih => rw [List.map_cons, List.map_cons, ih]

/-- What changes no sum is zero throughout. -/
theorem eq_zero_of_eq_left (h : Sums whole left right) (hsame : whole = left) :
    ∀ entry ∈ right, entry.2 = 0 := by
  induction h with
  | nil => simp
  | cons id a b _ ih =>
    obtain ⟨hhead, htail⟩ := List.cons.inj hsame
    have hsum : a + b = a := congrArg Prod.snd hhead
    exact List.forall_mem_cons.2 ⟨by omega, ih htail⟩

end Sums

end RuleStats

namespace RunReport

variable (report : RunReport)

/-- A run returns under each id the rows of its hits. -/
theorem countOf_stats (id : String) :
    report.stats.countOf id = rowsOf (report.hits.filter (·.1 = id)) :=
  (RuleStats.countOf_addAll ∅ id report.hits).trans (Nat.zero_add _)

/-- A run returns the ids of its hits. -/
theorem mem_names_stats {id : String} :
    id ∈ Named.names report.stats ↔ id ∈ report.hits.map (·.1) :=
  (RuleStats.mem_names_addAll ∅ report.hits).trans (or_iff_right List.not_mem_nil)

/-- A run returns the rows of all its hits. -/
theorem total_stats : report.stats.total = rowsOf report.hits :=
  (RuleStats.total_addAll ∅ report.hits).trans (Nat.zero_add _)

end RunReport

/-- Reports whose hits are sums have statistics that are. -/
theorem RunReport.sums_stats {whole left right : RunReport}
    (h : RuleStats.Sums whole.hits left.hits right.hits) :
    RuleStats.Sums whole.stats.entries left.stats.entries right.stats.entries :=
  h.addAll .nil

end PurchaseStatus
