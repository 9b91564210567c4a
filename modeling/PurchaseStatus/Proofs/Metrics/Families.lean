import PurchaseStatus.Proofs.Metrics.Lines

namespace PurchaseStatus

namespace ExpositionLine

/-- The histogram that a line declares, if it does. -/
def histogram? : ExpositionLine → Option String
  | type family kind => if kind = "histogram" then some family else none
  | help _ | sample _ | other => none

/-- Whether a metric has the samples of a histogram, which have names of their own. -/
def isPartOf (metric histogram : String) : Bool :=
  ["_bucket", "_sum", "_count"].any fun part => histogram ++ part == metric

/-- The family of a metric. -/
def familyOf (histograms : List String) (metric : String) : String :=
  (histograms.find? (isPartOf metric)).getD metric

/-- A metric belongs to the histogram whose part it is, if it is a part of no other, or else to itself.
-/
theorem familyOf_eq {histograms : List String} {metric family : String}
    (honly : ∀ histogram ∈ histograms, isPartOf metric histogram = true → histogram = family)
    (hfamily : (family ∈ histograms ∧ isPartOf metric family = true) ∨ metric = family) :
    familyOf histograms metric = family := by
  rw [familyOf]
  cases hfind : histograms.find? (isPartOf metric) with
  | some histogram => exact honly histogram (List.mem_of_find?_eq_some hfind) (List.find?_some hfind)
  | none =>
    rcases hfamily with ⟨hmem, hpart⟩ | hself
    · exact absurd hpart (List.find?_eq_none.1 hfind family hmem)
    · exact hself

section Family

variable (histograms : List String) (family : String)

/-- The help of a family. -/
def isHelpOf : ExpositionLine → Bool
  | help named => named == family
  | type _ _ | sample _ | other => false

/-- The type of a family. -/
def isTypeOf : ExpositionLine → Bool
  | type named _ => named == family
  | help _ | sample _ | other => false

/-- A sample that belongs to a family, histograms having several metrics. -/
def isSampleOf : ExpositionLine → Bool
  | sample metric => familyOf histograms metric == family
  | help _ | type _ _ | other => false

/-- Whether a line belongs to a family at all. -/
def isLineOf (line : ExpositionLine) : Bool :=
  line.isHelpOf family || line.isTypeOf family || line.isSampleOf histograms family

/-- All samples of a family stand together, and no other line of the family behind them. -/
def Together (lines : List ExpositionLine) : Prop := ∃ before group after,
  lines = before ++ group ++ after ∧
    (∀ line ∈ before, line.isSampleOf histograms family = false) ∧
    (∀ line ∈ group, line.isSampleOf histograms family = true) ∧
    ∀ line ∈ after, line.isLineOf histograms family = false

end Family

theorem isSampleOf_eq_false {histograms : List String} {family : String} {line : ExpositionLine}
    (h : line.isLineOf histograms family = false) : line.isSampleOf histograms family = false :=
  (Bool.or_eq_false_iff.1 h).2

/-- A family has one line of help and one of its type at most, and behind them all its samples, with
nothing between them. -/
structure Grouped (lines : List ExpositionLine) (family : String) : Prop where
  help : lines.countP (·.isHelpOf family) ≤ 1
  type : lines.countP (·.isTypeOf family) ≤ 1
  samples : Together (lines.filterMap histogram?) family lines

end ExpositionLine

open ExpositionLine (linesOf familyOf isSampleOf_eq_false Together Grouped)

/-- A family as its lines name it: all its samples are of one metric. -/
structure MetricFamily where
  name : String
  kind : String
  metric : String
  deriving DecidableEq

namespace MetricFamily

/-- The name of a family that is a histogram. -/
def histogram? (family : MetricFamily) : Option String :=
  if family.kind = "histogram" then some family.name else none

/-- The metric of every family is told to be of it. -/
def Owned (families : List MetricFamily) : Prop :=
  ∀ family ∈ families, familyOf (families.filterMap histogram?) family.metric = family.name

end MetricFamily

/-- The lines of one family, as they should stand. -/
structure FamilyBlock extends MetricFamily where
  samples : Nat

namespace FamilyBlock

open MetricFamily (Owned)

/-- The lines that a block of a family stands for: its help, its type and its samples. -/
def lines (block : FamilyBlock) : List ExpositionLine :=
  .help block.name :: .type block.name block.kind :: List.replicate block.samples (.sample block.metric)

/-- The lines of blocks one after another; nothing stands behind the last line feed. -/
def document (blocks : List FamilyBlock) : List ExpositionLine := blocks.flatMap lines ++ [.other]

section Blocks

variable {blocks : List FamilyBlock} {block : FamilyBlock} {family : String} {histograms : List String}

theorem document_append (first last : List FamilyBlock) :
    document (first ++ block :: last) = first.flatMap lines ++ block.lines ++ document last := by
  simp [document]

/-- A line of a block is about the family of the block. -/
theorem mem_lines {line : ExpositionLine} (h : line ∈ block.lines) : line = .help block.name ∨
    line = .type block.name block.kind ∨ line = .sample block.metric := by
  rcases List.mem_cons.1 h with h | h
  · exact .inl h
  · exact .inr ((List.mem_cons.1 h).imp_right fun h => (List.mem_replicate.1 h).2)

theorem filterMap_histogram?_lines (block : FamilyBlock) :
    block.lines.filterMap ExpositionLine.histogram? = block.histogram?.toList := by
  have hsamples : (List.replicate block.samples (.sample block.metric)).filterMap
      ExpositionLine.histogram? = [] :=
    List.filterMap_eq_nil_iff.2 fun line hline => by
      rw [(List.mem_replicate.1 hline).2]
      rfl
  rw [lines, List.filterMap_cons_none rfl, List.filterMap_cons, hsamples]
  by_cases hkind : block.kind = "histogram" <;>
    simp [MetricFamily.histogram?, ExpositionLine.histogram?, hkind]

/-- The histograms that a document declares are those of its blocks. -/
theorem filterMap_histogram?_document (blocks : List FamilyBlock) :
    (document blocks).filterMap ExpositionLine.histogram? =
      (blocks.map toMetricFamily).filterMap MetricFamily.histogram? := by
  induction blocks with
  | nil => rfl
  | cons block rest ih =>
    have hcons : document (block :: rest) = block.lines ++ document rest := document_append [] rest
    rw [hcons, List.filterMap_append, ih, filterMap_histogram?_lines, List.map_cons, List.filterMap_cons]
    cases block.histogram? <;> rfl

/-- Lines of which every block of a family has one. -/
theorem countP_document {p : ExpositionLine → Bool} (hother : p .other = false)
    (hp : ∀ block : FamilyBlock, block.lines.countP p = if block.name == family then 1 else 0)
    (blocks : List FamilyBlock) : (document blocks).countP p = (blocks.map (·.name)).count family := by
  induction blocks with
  | nil => simp [document, hother]
  | cons block rest ih =>
    have hcons : document (block :: rest) = block.lines ++ document rest := document_append [] rest
    rw [hcons, List.countP_append, ih, hp, List.map_cons, List.count_cons, Nat.add_comm]

/-- A family has as many lines of help as it has blocks. -/
theorem countP_isHelpOf (blocks : List FamilyBlock) (family : String) :
    (document blocks).countP (·.isHelpOf family) = (blocks.map (·.name)).count family :=
  countP_document rfl (fun block => by
    simp [lines, ExpositionLine.isHelpOf, List.countP_cons, List.countP_replicate]) blocks

/-- A family has as many lines of type as it has blocks. -/
theorem countP_isTypeOf (blocks : List FamilyBlock) (family : String) :
    (document blocks).countP (·.isTypeOf family) = (blocks.map (·.name)).count family :=
  countP_document rfl (fun block => by
    simp [lines, ExpositionLine.isTypeOf, List.countP_cons, List.countP_replicate]) blocks

/-- The lines of a block belong to its family and to no other. -/
theorem isLineOf_of_mem_lines (howned : familyOf histograms block.metric = block.name)
    {line : ExpositionLine} (hline : line ∈ block.lines) (family : String) :
    line.isLineOf histograms family = (block.name == family) := by
  rcases mem_lines hline with rfl | rfl | rfl <;>
    simp [ExpositionLine.isLineOf, ExpositionLine.isHelpOf, ExpositionLine.isTypeOf,
      ExpositionLine.isSampleOf, howned]

/-- No line of other blocks belongs to a family. -/
theorem isLineOf_eq_false (howned : ∀ block ∈ blocks, familyOf histograms block.metric = block.name)
    (hfamily : family ∉ blocks.map (·.name)) :
    ∀ line ∈ document blocks, line.isLineOf histograms family = false := by
  intro line hline
  rcases List.mem_append.1 hline with hline | hother
  · obtain ⟨block, hblock, hmem⟩ := List.mem_flatMap.1 hline
    rw [isLineOf_of_mem_lines (howned block hblock) hmem, beq_eq_false_iff_ne]
    exact fun h => hfamily (h ▸ List.mem_map_of_mem hblock)
  · rw [List.mem_singleton.1 hother]
    rfl

/-- The lines of a family without a block stand together, there being none. -/
theorem together_of_notMem (howned : ∀ block ∈ blocks, familyOf histograms block.metric = block.name)
    (hfamily : family ∉ blocks.map (·.name)) : Together histograms family (document blocks) :=
  ⟨document blocks, [], [], by simp,
    fun line hline => isSampleOf_eq_false (isLineOf_eq_false howned hfamily line hline), nofun, nofun⟩

/-- The only block of a family holds its samples. -/
theorem together_of_split {first last : List FamilyBlock}
    (howned : ∀ other ∈ first ++ block :: last, familyOf histograms other.metric = other.name)
    (hfirst : block.name ∉ first.map (·.name)) (hlast : block.name ∉ last.map (·.name)) :
    Together histograms block.name (document (first ++ block :: last)) := by
  have hbefore := isLineOf_eq_false (fun b hb => howned b (List.mem_append_left _ hb)) hfirst
  have hbehind := isLineOf_eq_false
    (fun b hb => howned b (List.mem_append_right _ (List.mem_cons_of_mem _ hb))) hlast
  refine ⟨first.flatMap lines ++ [.help block.name, .type block.name block.kind],
    List.replicate block.samples (.sample block.metric), document last, ?_, ?_, ?_, hbehind⟩
  · rw [document_append]
    simp [lines]
  · intro line hline
    rcases List.mem_append.1 hline with h | h
    · exact isSampleOf_eq_false (hbefore line (List.mem_append_left _ h))
    · rcases List.mem_pair.1 h with rfl | rfl <;> rfl
  · intro line hline
    rw [(List.mem_replicate.1 hline).2]
    exact beq_iff_eq.2 (howned block (List.mem_append_right _ (List.mem_cons_self ..)))

/-- A family is grouped exactly where it has one block at most. -/
theorem grouped_iff (howned : Owned (blocks.map toMetricFamily)) (family : String) :
    Grouped (document blocks) family ↔ (blocks.map (·.name)).count family ≤ 1 := by
  have hmetrics := List.forall_mem_map.1 howned
  constructor
  · intro h
    rw [← countP_isTypeOf]
    exact h.type
  · intro hcount
    refine ⟨by rwa [countP_isHelpOf], by rwa [countP_isTypeOf], ?_⟩
    rw [filterMap_histogram?_document]
    by_cases hmem : family ∈ blocks.map (·.name)
    · obtain ⟨block, hblock, rfl⟩ := List.mem_map.1 hmem
      obtain ⟨first, last, rfl⟩ := List.append_of_mem hblock
      rw [List.map_append, List.map_cons, List.count_append, List.count_cons_self] at hcount
      exact together_of_split hmetrics (List.count_eq_zero.1 (by omega)) (List.count_eq_zero.1 (by omega))
    · exact together_of_notMem hmetrics hmem

end Blocks

end FamilyBlock

end PurchaseStatus
