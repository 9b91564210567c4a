import PurchaseStatus.Proofs.Decimal.Numeral
import Mathlib.Data.List.Forall2
import Mathlib.Data.String.Basic

namespace PurchaseStatus

/-- Whether a text is a single line. -/
def OneLine (text : String) : Prop := '\n' ∉ text.toList

instance (text : String) : Decidable (OneLine text) := inferInstanceAs (Decidable (¬_))

/-- Two texts without a line break have none together. -/
theorem OneLine.append {first last : String} (hfirst : OneLine first) (hlast : OneLine last) :
    OneLine (first ++ last) := by
  rw [OneLine, String.toList_append, List.mem_append, not_or]
  exact ⟨hfirst, hlast⟩

/-- A number breaks no line. -/
theorem oneLine_toString (m : Nat) : OneLine (toString m) := by
  have htext : (toString m).toList = Nat.toDigits 10 m := Nat.toList_repr
  rw [OneLine, htext]
  exact fun h => Bool.false_ne_true ((Decimal.isDigits_toDigits m).2 _ h)

/-- What a line of a text exposition is. A sample is known by its metric. -/
inductive ExpositionLine where
  | help (family : String)
  | type (family kind : String)
  | sample (metric : String)
  /-- Another comment, or nothing. -/
  | other
  deriving DecidableEq

namespace ExpositionLine

/-- The characters before the first blank. -/
def word (cs : List Char) : List Char := cs.takeWhile (· != ' ')

/-- A metric ends where its labels begin, or its value. -/
def metricOf (cs : List Char) : List Char := cs.takeWhile fun c => c != '{' && c != ' '

/-- The line that a text stands for, by its first words. -/
def read (cs : List Char) : ExpositionLine :=
  match "# HELP ".toList.isPrefixOf? cs with
  | some rest => help (String.ofList (word rest))
  | none =>
    match "# TYPE ".toList.isPrefixOf? cs with
    | some rest =>
      type (String.ofList (word rest)) (String.ofList (word ((rest.dropWhile (· != ' ')).drop 1)))
    | none =>
      if cs.isEmpty || cs.head? == some '#' then other else sample (String.ofList (metricOf cs))

/-- The lines of a text. What stands behind the last line feed counts as one. -/
def linesOf (text : String) : List ExpositionLine := (text.toList.splitOn '\n').map read

/-- A text is one line, which is read as such. -/
structure Reads (text : String) (line : ExpositionLine) : Prop where
  single : OneLine text
  read : read text.toList = line

/-- A text without a line break is read as one line. -/
theorem reads_ofList {cs : List Char} {line : ExpositionLine} (hsingle : '\n' ∉ cs)
    (hread : read cs = line) : Reads (String.ofList cs) line :=
  ⟨by rwa [OneLine, String.toList_ofList], by rwa [String.toList_ofList]⟩

/-- Lines that are put together, each with a line feed, are read one by one. -/
theorem linesOf_join {texts : List String} {lines : List ExpositionLine}
    (h : List.Forall₂ Reads texts lines) :
    linesOf (String.join (texts.map (· ++ "\n"))) = lines ++ [other] := by
  unfold linesOf
  induction h with
  | nil => rfl
  | @cons text line texts lines hline _ ih =>
    have htext : (String.join ((text :: texts).map (· ++ "\n"))).toList =
        text.toList ++ '\n' :: (String.join (texts.map (· ++ "\n"))).toList := by
      rw [List.map_cons, String.join_cons, String.toList_append, String.toList_append,
        List.append_assoc]
      rfl
    have hsingle : ∀ c ∈ text.toList, (c == '\n') = false :=
      fun c hc => beq_false_of_ne fun h => hline.single (h ▸ hc)
    rw [htext, List.splitOn_eq_splitOnP, List.splitOnP_append_cons_of_forall_mem hsingle _ rfl,
      List.map_cons, hline.read, List.cons_append]
    exact congrArg _ ih

/-- Letters, digits and underscores, as the names of families and metrics are made of. -/
def IsName (name : String) : Prop :=
  name.toList ≠ [] ∧ ∀ c ∈ name.toList, (c.isAlphanum || c == '_') = true

instance (name : String) : Decidable (IsName name) :=
  @instDecidableAnd _ _ inferInstance (List.decidableBAll _ _)

section Names

variable {name : String}

/-- Two names make one. -/
theorem IsName.append {rest : String} (hname : IsName name) (hrest : IsName rest) :
    IsName (name ++ rest) := by
  rw [IsName, String.toList_append]
  exact ⟨List.append_ne_nil_of_left_ne_nil hname.1 _, List.forall_mem_append.2 ⟨hname.2, hrest.2⟩⟩

/-- No character of a name is one that names do not have. -/
theorem IsName.ne (hname : IsName name) {c : Char} (hc : c ∈ name.toList) (other : Char)
    (hother : (other.isAlphanum || other == '_') = false) : c ≠ other :=
  fun h => Bool.false_ne_true (hother.symm.trans (h ▸ hname.2 c hc))

/-- A name breaks no line. -/
theorem IsName.oneLine (hname : IsName name) : OneLine name :=
  fun h => hname.ne h '\n' rfl rfl

theorem IsName.ne_blank (hname : IsName name) : ∀ c ∈ name.toList, (c != ' ') = true :=
  fun _ hc => bne_iff_ne.2 (hname.ne hc ' ' rfl)

/-- A name before a blank is read as one word. -/
theorem word_append (hname : IsName name) (rest : List Char) :
    String.ofList (word (name.toList ++ ' ' :: rest)) = name := by
  rw [word, List.takeWhile_append_of_pos hname.ne_blank, List.takeWhile_cons_of_neg (by simp),
    List.append_nil, String.ofList_toList]

/-- A line of help is read as that of the family it names. -/
theorem reads_help (hname : IsName name) {rest : String} (hrest : OneLine rest) :
    Reads ("# HELP " ++ (name ++ " ") ++ rest) (help name) := by
  refine ⟨(OneLine.append (by decide) (hname.oneLine.append (by decide))).append hrest, ?_⟩
  have htext : ("# HELP " ++ (name ++ " ") ++ rest).toList =
      "# HELP ".toList ++ (name.toList ++ ' ' :: rest.toList) := by
    rw [String.toList_append, String.toList_append, String.toList_append, List.append_assoc,
      List.append_assoc]
    rfl
  rw [htext]
  exact congrArg help (word_append hname _)

/-- A line of type is read as that of the family it names. -/
theorem reads_type (hname : IsName name) {kind : String} (hkind : IsName kind) :
    Reads ("# TYPE " ++ (name ++ " ") ++ kind) (type name kind) := by
  refine ⟨(OneLine.append (by decide) (hname.oneLine.append (by decide))).append hkind.oneLine, ?_⟩
  have htext : ("# TYPE " ++ (name ++ " ") ++ kind).toList =
      "# TYPE ".toList ++ (name.toList ++ ' ' :: kind.toList) := by
    rw [String.toList_append, String.toList_append, String.toList_append, List.append_assoc,
      List.append_assoc]
    rfl
  have hlast : String.ofList (word (((name.toList ++ ' ' :: kind.toList).dropWhile (· != ' ')).drop 1)) =
      kind := by
    rw [List.dropWhile_append_of_pos hname.ne_blank, List.dropWhile_cons_of_neg (by simp),
      List.drop_one, List.tail_cons, word, List.takeWhile_eq_self_iff.2 hkind.ne_blank, String.ofList_toList]
  rw [htext]
  exact congrArg₂ type (word_append hname _) hlast

/-- A line that is no comment is a sample. -/
theorem read_of_ne {c : Char} (hcomment : c ≠ '#') (cs : List Char) :
    read (c :: cs) = sample (String.ofList (metricOf (c :: cs))) := by
  have hprefix : ∀ rest, ('#' :: rest).isPrefixOf? (c :: cs) = none := fun rest => by
    simp [List.isPrefixOf?, hcomment.symm]
  have hhelp : "# HELP ".toList.isPrefixOf? (c :: cs) = none := hprefix _
  have htype : "# TYPE ".toList.isPrefixOf? (c :: cs) = none := hprefix _
  rw [read, hhelp, htype]
  simp [hcomment]

/-- A sample is read with the name that comes before its labels, or before its value if it has none. -/
theorem reads_sample (hname : IsName name) {mark : String} (hmark : mark = "\x7b" ∨ mark = " ")
    {rest : String} (hrest : OneLine rest) : Reads (name ++ mark ++ rest) (sample name) := by
  have hone : OneLine mark := by rcases hmark with rfl | rfl <;> decide
  refine ⟨(hname.oneLine.append hone).append hrest, ?_⟩
  have hinside : ∀ c ∈ name.toList, (c != '{' && c != ' ') = true := fun c hc =>
    Bool.and_eq_true_iff.2 ⟨bne_iff_ne.2 (hname.ne hc '{' rfl), hname.ne_blank c hc⟩
  have hend : metricOf (mark.toList ++ rest.toList) = [] := by
    rcases hmark with rfl | rfl <;> rfl
  have hmetric : metricOf (name.toList ++ (mark.toList ++ rest.toList)) = name.toList := by
    rw [metricOf, List.takeWhile_append_of_pos hinside, ← metricOf, hend, List.append_nil]
  obtain ⟨c, cs, hcs⟩ := List.exists_cons_of_ne_nil hname.1
  have hcomment : c ≠ '#' := hname.ne (hcs ▸ List.mem_cons_self) '#' rfl
  rw [String.toList_append, String.toList_append, List.append_assoc]
  rw [hcs] at hmetric ⊢
  rw [List.cons_append, read_of_ne hcomment, ← List.cons_append, hmetric, ← hcs, String.ofList_toList]

/-- A line that ends in a count. -/
theorem reads_count (hname : IsName name) {mark : String} (hmark : mark = "\x7b" ∨ mark = " ")
    {label : String} (hlabel : OneLine label) (count : Nat) :
    Reads (name ++ mark ++ label ++ toString count) (sample name) := by
  rw [String.append_assoc]
  exact reads_sample hname hmark (hlabel.append (oneLine_toString count))

end Names

end ExpositionLine

end PurchaseStatus
