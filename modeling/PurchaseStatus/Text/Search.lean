namespace PurchaseStatus.Text

/-- Whether `part` stands somewhere in the text. -/
def containsList (part : List Char) : List Char → Bool
  | [] => part.isEmpty
  | c :: rest => part.isPrefixOf (c :: rest) || containsList part rest

def contains (text part : String) : Bool := containsList part.toList text.toList

theorem containsList_iff {part : List Char} :
    ∀ {cs : List Char}, containsList part cs = true ↔ part <:+: cs
  | [] => by simp [containsList]
  | c :: rest => by
    simp [containsList, @containsList_iff part rest, List.infix_cons_iff]

end PurchaseStatus.Text
