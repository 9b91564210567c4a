namespace PurchaseStatus.Text

/-- Lower case for `A` to `Z`; every other character stays. -/
def asciiLower (s : String) : String := String.ofList (s.toList.map Char.toLower)

/-- Upper case for `a` to `z`; every other character stays. -/
def asciiUpper (s : String) : String := String.ofList (s.toList.map Char.toUpper)

/-- Equality up to the case of the letters `A` to `Z`. -/
def eqIgnoreCase (s t : String) : Bool := asciiLower s == asciiLower t

@[simp] theorem eqIgnoreCase_refl (s : String) : eqIgnoreCase s s = true := by
  simp [eqIgnoreCase]

theorem eqIgnoreCase_iff {s t : String} : eqIgnoreCase s t = true ↔ asciiLower s = asciiLower t := by
  simp [eqIgnoreCase]

end PurchaseStatus.Text
