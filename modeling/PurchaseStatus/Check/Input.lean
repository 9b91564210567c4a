import PurchaseStatus.Batch
import PurchaseStatus.Config.Tree
import PurchaseStatus.Mask.Slots

namespace PurchaseStatus

/-- The masks registered under type names, of any length and with null slots. -/
abbrev Registry := Named (List (Option Bool))

namespace Registry

/-- The mask registered under a name; one of another length than the batch does not count. -/
def maskFor? (masks : Registry) (n : Nat) (name : String) : Option (Mask n) :=
  ((Named.get? masks name).bind (Series.ofList? n)).map Slots.bits

/-- Registers a mask in place of any that had the name. -/
def register (masks : Registry) (name : String) {n : Nat} (mask : Mask n) : Registry :=
  Named.put masks name (Slots.ofMask mask).toList

end Registry

/-- All that a check may read. -/
structure CheckInput (n : Nat) where
  batch : Batch n
  statusColumn : String
  date : Option Int
  entity : Option String
  config : ConfigTree
  masks : Registry

/-- The mask registered under the name. -/
def CheckInput.registered? (input : CheckInput n) (name : String) : Option (Mask n) :=
  input.masks.maskFor? n name

@[simp] theorem Registry.maskFor?_register_self (masks : Registry) (name : String) {n : Nat}
    (mask : Mask n) : (masks.register name mask).maskFor? n name = some mask := by
  have h : (Slots.ofMask mask).toList.length = n := by simp
  unfold Registry.maskFor? Registry.register
  rw [Named.get?_put_self]
  simp only [Option.bind_some, Series.ofList?, dif_pos h, Option.map_some]
  exact congrArg some (Slots.bits_ofMask mask)

theorem Registry.maskFor?_register_of_ne (masks : Registry) {name other : String}
    (hne : other ≠ name) {n m : Nat} (mask : Mask n) :
    (masks.register name mask).maskFor? m other = masks.maskFor? m other := by
  unfold Registry.maskFor? Registry.register
  rw [Named.get?_put_of_ne _ hne]

end PurchaseStatus
