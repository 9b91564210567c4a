import PurchaseStatus.Mask

namespace PurchaseStatus

/-- A mask as it is handed in: a slot may be null. -/
abbrev Slots (n : Nat) := Series (Option Bool) n

namespace Slots

variable {n : Nat}

/-- Null slots count as false. -/
def bits (slots : Slots n) : Mask n := slots.map (·.getD false)

/-- A mask as slots, none of them null. -/
def ofMask (mask : Mask n) : Slots n := mask.map some

/-- The conjunction of the bits. One mask alone is passed on as it is, null slots included. -/
def allOf : List (Slots n) → Option (Slots n)
  | [] => none
  | first :: rest => some (rest.foldl (fun all next => ofMask (all.bits.and next.bits)) first)

/-- The disjunction of the bits. One mask alone is passed on as it is, null slots included. -/
def anyOf : List (Slots n) → Option (Slots n)
  | [] => none
  | first :: rest => some (rest.foldl (fun any next => ofMask (any.bits.or next.bits)) first)

@[simp] theorem bits_ofMask (mask : Mask n) : (ofMask mask).bits = mask := by
  apply Series.ext_get
  simp [bits, ofMask]

end Slots

end PurchaseStatus
