namespace PurchaseStatus

/-- Values under names, in order. A name may stand more than once, as columns do; reading and
writing then take the first. -/
structure Named (α : Type u) where
  entries : List (String × α)
  deriving DecidableEq

namespace Named

variable {α : Type u} {β : Type v}

def empty : Named α := ⟨[]⟩

instance : EmptyCollection (Named α) := ⟨empty⟩

instance : Inhabited (Named α) := ⟨empty⟩

def names (m : Named α) : List String := m.entries.map (·.1)

def values (m : Named α) : List α := m.entries.map (·.2)

def size (m : Named α) : Nat := m.entries.length

/-- The first value under a name in a list of entries. -/
def find? (name : String) : List (String × α) → Option α
  | [] => none
  | (other, a) :: rest => if other = name then some a else find? name rest

def get? (m : Named α) (name : String) : Option α := find? name m.entries

def contains (m : Named α) (name : String) : Bool := (m.get? name).isSome

/-- Replaces the first value under a name, or appends one. -/
def putEntry (name : String) (a : α) : List (String × α) → List (String × α)
  | [] => [(name, a)]
  | (other, b) :: rest => if other = name then (name, a) :: rest else (other, b) :: putEntry name a rest

def put (m : Named α) (name : String) (a : α) : Named α := ⟨putEntry name a m.entries⟩

/-- Writes what `f` makes of the present value. -/
def update (m : Named α) (name : String) (f : Option α → α) : Named α := m.put name (f (m.get? name))

/-- Puts every entry of the second after the first. -/
def merge (m : Named α) (more : List (String × α)) : Named α :=
  more.foldl (fun m (name, a) => m.put name a) m

def ofList (entries : List (String × α)) : Named α := empty.merge entries

@[simp] theorem get?_empty (name : String) : (∅ : Named α).get? name = none := rfl

@[simp] theorem find?_putEntry_self (name : String) (a : α) (entries : List (String × α)) :
    find? name (putEntry name a entries) = some a := by
  induction entries with
  | nil => simp [putEntry, find?]
  | cons e rest ih =>
    unfold putEntry
    split
    · simp [find?]
    · rename_i hne
      simp [find?, hne, ih]

theorem find?_putEntry_of_ne {name other : String} (hne : other ≠ name) (a : α)
    (entries : List (String × α)) : find? other (putEntry name a entries) = find? other entries := by
  induction entries with
  | nil => simp [putEntry, find?, hne.symm]
  | cons e rest ih =>
    unfold putEntry
    split
    · rename_i heq
      subst heq
      simp [find?, hne.symm]
    · simp [find?, ih]

@[simp] theorem get?_put_self (m : Named α) (name : String) (a : α) :
    (m.put name a).get? name = some a := find?_putEntry_self name a m.entries

theorem get?_put_of_ne (m : Named α) {name other : String} (hne : other ≠ name) (a : α) :
    (m.put name a).get? other = m.get? other := find?_putEntry_of_ne hne a m.entries

theorem putEntry_putEntry (name : String) (a b : α) (entries : List (String × α)) :
    putEntry name b (putEntry name a entries) = putEntry name b entries := by
  induction entries with
  | nil => simp [putEntry]
  | cons e rest ih =>
    rw [putEntry]
    split
    · rename_i heq
      rw [putEntry, if_pos rfl, putEntry, if_pos heq]
    · rename_i hne
      rw [putEntry, if_neg hne, putEntry, if_neg hne, ih]

/-- Of two writes under one name the last counts. -/
@[simp] theorem put_put (m : Named α) (name : String) (a b : α) :
    (m.put name a).put name b = m.put name b := by
  simp [put, putEntry_putEntry]

theorem putEntry_of_find? {name : String} {a : α} {entries : List (String × α)}
    (h : find? name entries = some a) : putEntry name a entries = entries := by
  induction entries with
  | nil => cases h
  | cons e rest ih =>
    rw [putEntry]
    rw [find?] at h
    split
    · rename_i heq
      rw [if_pos heq] at h
      cases h
      rw [← heq]
    · rename_i hne
      rw [if_neg hne] at h
      rw [ih h]

/-- Writing what is read changes nothing. -/
theorem put_of_get? {m : Named α} {name : String} {a : α} (h : m.get? name = some a) :
    m.put name a = m := by
  cases m with
  | mk entries => exact congrArg Named.mk (putEntry_of_find? h)

theorem find?_append (name : String) (first second : List (String × α)) :
    find? name (first ++ second) = (find? name first).or (find? name second) := by
  induction first with
  | nil => rfl
  | cons e rest ih =>
    rw [List.cons_append, find?, find?]
    split
    · rfl
    · exact ih

theorem find?_filter (name : String) (entries : List (String × α)) :
    find? name (entries.filter (·.1 = name)) = find? name entries := by
  induction entries with
  | nil => rfl
  | cons e rest ih =>
    by_cases h : e.1 = name
    · rw [List.filter_cons_of_pos (by simp [h]), find?, find?, if_pos h, if_pos h]
    · rw [List.filter_cons_of_neg (by simp [h]), ih, find?, if_neg h]

theorem find?_map (f : α → β) (name : String) (entries : List (String × α)) :
    find? name (entries.map fun e => (e.1, f e.2)) = (find? name entries).map f := by
  induction entries with
  | nil => rfl
  | cons e rest ih =>
    rw [List.map_cons, find?, find?]
    split
    · rfl
    · exact ih

theorem putEntry_map (f : α → β) (name : String) (a : α) (entries : List (String × α)) :
    putEntry name (f a) (entries.map fun e => (e.1, f e.2)) =
      (putEntry name a entries).map fun e => (e.1, f e.2) := by
  induction entries with
  | nil => rfl
  | cons e rest ih =>
    rw [List.map_cons, putEntry, putEntry]
    split
    · rfl
    · rw [ih, List.map_cons]

/-- Of the entries that are put one after another, the last under a name counts. -/
theorem get?_merge (m : Named α) (more : List (String × α)) (name : String) :
    (m.merge more).get? name = (find? name more.reverse).or (m.get? name) := by
  induction more generalizing m with
  | nil => rfl
  | cons e rest ih =>
    have hmerge : m.merge (e :: rest) = (m.put e.1 e.2).merge rest := rfl
    rw [hmerge, ih, List.reverse_cons, find?_append, Option.or_assoc]
    by_cases h : e.1 = name
    · rw [← h, get?_put_self, find?, if_pos rfl]
      rfl
    · rw [get?_put_of_ne m (Ne.symm h), find?, if_neg h]
      rfl

theorem names_put (m : Named α) (name : String) (a : α) :
    (m.put name a).names = if name ∈ m.names then m.names else m.names ++ [name] := by
  cases m with
  | mk entries =>
    simp only [put, names]
    induction entries with
    | nil => simp [putEntry]
    | cons e rest ih =>
      rw [putEntry]
      split
      · rename_i heq
        simp [heq]
      · rename_i hne
        by_cases hm : name ∈ rest.map (·.1) <;> simp [ih, hm, Ne.symm hne]

end Named

end PurchaseStatus
