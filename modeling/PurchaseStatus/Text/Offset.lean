namespace PurchaseStatus.Text

/-- Splits the characters after `bytes` bytes of their UTF-8 form, if a character ends there. -/
def splitAtByte : Nat → List Char → Option (List Char × List Char)
  | 0, cs => some ([], cs)
  | _ + 1, [] => none
  | bytes + 1, c :: cs =>
    if c.utf8Size ≤ bytes + 1 then
      (splitAtByte (bytes + 1 - c.utf8Size) cs).map fun (before, after) => (c :: before, after)
    else none
termination_by structural _ cs => cs

/-- The text of the first `bytes` bytes; nothing where the cut falls inside a character or
behind the end. -/
def takeBytes? (bytes : Nat) (s : String) : Option String :=
  (splitAtByte bytes s.toList).map fun (before, _) => String.ofList before

/-- The text from byte `bytes` on; nothing where the cut falls inside a character or behind the
end. -/
def dropBytes? (bytes : Nat) (s : String) : Option String :=
  (splitAtByte bytes s.toList).map fun (_, after) => String.ofList after

theorem append_of_splitAtByte {bytes : Nat} {cs before after : List Char}
    (h : splitAtByte bytes cs = some (before, after)) : before ++ after = cs := by
  induction cs generalizing bytes before with
  | nil => cases bytes <;> simp_all [splitAtByte]
  | cons c cs ih =>
    cases bytes with
    | zero => simp_all [splitAtByte]
    | succ bytes =>
      simp only [splitAtByte] at h
      split at h
      · obtain ⟨⟨b, a⟩, hsplit, heq⟩ := Option.map_eq_some_iff.1 h
        cases heq
        simp [ih hsplit]
      · cases h

theorem utf8ByteSize_ofList_cons (c : Char) (cs : List Char) :
    (String.ofList (c :: cs)).utf8ByteSize = c.utf8Size + (String.ofList cs).utf8ByteSize := by
  rw [String.ofList_cons, String.utf8ByteSize_append, String.utf8ByteSize_singleton]

theorem utf8ByteSize_of_splitAtByte {bytes : Nat} {cs before after : List Char}
    (h : splitAtByte bytes cs = some (before, after)) : (String.ofList before).utf8ByteSize = bytes := by
  induction cs generalizing bytes before with
  | nil =>
    cases bytes with
    | zero => cases h; rfl
    | succ bytes => cases h
  | cons c cs ih =>
    cases bytes with
    | zero => cases h; rfl
    | succ bytes =>
      rw [splitAtByte, Option.ite_none_right_eq_some] at h
      obtain ⟨hfits, hmap⟩ := h
      obtain ⟨⟨b, a⟩, hsplit, heq⟩ := Option.map_eq_some_iff.1 hmap
      cases heq
      rw [utf8ByteSize_ofList_cons, ih hsplit]
      omega

theorem splitAtByte_append (before after : List Char) :
    splitAtByte (String.ofList before).utf8ByteSize (before ++ after) = some (before, after) := by
  induction before with
  | nil => cases after <;> rfl
  | cons c cs ih =>
    have hpos := c.utf8Size_pos
    obtain ⟨bytes, hbytes⟩ : ∃ bytes, (String.ofList (c :: cs)).utf8ByteSize = bytes + 1 := by
      refine Nat.exists_eq_succ_of_ne_zero ?_
      rw [utf8ByteSize_ofList_cons]
      omega
    have hrest : bytes + 1 - c.utf8Size = (String.ofList cs).utf8ByteSize := by
      rw [← hbytes, utf8ByteSize_ofList_cons, Nat.add_sub_cancel_left]
    have hfits : c.utf8Size ≤ bytes + 1 := by
      rw [← hbytes, utf8ByteSize_ofList_cons]
      omega
    rw [hbytes, List.cons_append, splitAtByte, if_pos hfits, hrest, ih]
    rfl

theorem splitAtByte_toList_eq_some_iff {bytes : Nat} {text head rest : String} :
    splitAtByte bytes text.toList = some (head.toList, rest.toList) ↔
      head ++ rest = text ∧ head.utf8ByteSize = bytes := by
  constructor
  · intro h
    have happend := append_of_splitAtByte h
    have hsize := utf8ByteSize_of_splitAtByte h
    rw [← String.toList_append, String.toList_inj] at happend
    rw [String.ofList_toList] at hsize
    exact ⟨happend, hsize⟩
  · rintro ⟨rfl, rfl⟩
    have hsplit := splitAtByte_append head.toList rest.toList
    rwa [String.ofList_toList, ← String.toList_append] at hsplit

/-- What is taken is the one start of the text that has as many bytes. -/
theorem takeBytes?_eq_some_iff {bytes : Nat} {text head : String} :
    takeBytes? bytes text = some head ↔ ∃ rest, head ++ rest = text ∧ head.utf8ByteSize = bytes := by
  simp only [← splitAtByte_toList_eq_some_iff, takeBytes?, Option.map_eq_some_iff, Prod.exists]
  constructor
  · rintro ⟨before, after, hsplit, rfl⟩
    refine ⟨String.ofList after, ?_⟩
    rwa [String.toList_ofList, String.toList_ofList]
  · rintro ⟨rest, hsplit⟩
    exact ⟨_, _, hsplit, String.ofList_toList⟩

theorem dropBytes?_eq_some_iff {bytes : Nat} {text rest : String} :
    dropBytes? bytes text = some rest ↔ ∃ head, head ++ rest = text ∧ head.utf8ByteSize = bytes := by
  simp only [← splitAtByte_toList_eq_some_iff, dropBytes?, Option.map_eq_some_iff, Prod.exists]
  constructor
  · rintro ⟨before, after, hsplit, rfl⟩
    refine ⟨String.ofList before, ?_⟩
    rwa [String.toList_ofList, String.toList_ofList]
  · rintro ⟨head, hsplit⟩
    exact ⟨_, _, hsplit, String.ofList_toList⟩

end PurchaseStatus.Text
