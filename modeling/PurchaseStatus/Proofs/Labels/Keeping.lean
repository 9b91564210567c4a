import PurchaseStatus.Proofs.Engine.FirstMatch
import PurchaseStatus.Proofs.Step.Writes

namespace PurchaseStatus

variable {n : Nat}

namespace Texts

/-- Rows that carry a label keep it. -/
def KeepsLabels (before after : Texts n) : Prop :=
  ∀ row, isBlank (before.get row) = false → after.get row = before.get row

namespace KeepsLabels

variable {before middle after : Texts n}

theorem refl (status : Texts n) : KeepsLabels status status := fun _ _ => rfl

theorem trans (h : KeepsLabels before middle) (h' : KeepsLabels middle after) :
    KeepsLabels before after := by
  intro row hlabel
  have hmiddle := h row hlabel
  rw [h' row (by rw [hmiddle]; exact hlabel), hmiddle]

end KeepsLabels

end Texts

/-- Rows that carry a label in a column keep it. -/
def Batch.KeepsLabels (column : String) (before after : Batch n) : Prop :=
  Texts.KeepsLabels (before.textOrNulls column) (after.textOrNulls column)

namespace Batch.KeepsLabels

variable {column : String} {before middle after : Batch n}

theorem refl (column : String) (batch : Batch n) : KeepsLabels column batch batch := Texts.KeepsLabels.refl _

theorem trans (h : KeepsLabels column before middle) (h' : KeepsLabels column middle after) :
    KeepsLabels column before after := Texts.KeepsLabels.trans h h'

/-- A batch of which other columns are written keeps its labels. -/
theorem of_writesOnly {columns : List String} (h : Batch.WritesOnly columns before after)
    (hcolumn : column ∉ columns) : KeepsLabels column before after := by
  unfold KeepsLabels
  rw [textOrNulls_congr (h column hcolumn)]
  exact .refl _

/-- A column that is added, be it that of the statuses, takes no label from a row. -/
theorem ensureText (batch : Batch n) (column other : String) :
    KeepsLabels column batch (batch.ensureText other) := by
  unfold KeepsLabels
  rw [textOrNulls_ensureText]
  exact .refl _

end Batch.KeepsLabels

/-- A run of rules or of fallbacks labels only rows that have no label. -/
theorem Engine.run_keepsLabels (engine : Engine) (rules : List Rule) (batch : Batch n)
    (statusColumn : String) (context : RuleContext) (kind : RecordKind) (refresh : Bool)
    (hne : statusColumn ≠ Schema.matchedNote) :
    Batch.KeepsLabels statusColumn batch
      (engine.run rules batch statusColumn context kind refresh).batch := by
  intro row hlabel
  let task := engine.task statusColumn context kind refresh
  have hcoherent := Labeling.coherent_start task batch context.masks
  have hset : (Labeling.start task batch context.masks).unset.get row = false := by
    rw [Labeling.get_unset_start]
    exact hlabel
  have hkept : ((Labeling.start task batch context.masks).applyAll task rules).labelAt row =
      (Labeling.start task batch context.masks).labelAt row :=
    Labeling.labelAt_applyAll_of_set rules hset
  rw [← (hcoherent.applyAll rules hne).labelAt_batch, ← hcoherent.labelAt_batch] at hkept
  refine (congrArg RowLabel.status hkept).trans ?_
  exact congrArg (Series.get · row) (Batch.textOrNulls_ensureText batch statusColumn statusColumn)

namespace FinanceRemark

/-- Postings go only to rows that have no label. -/
theorem Labelled.take_keepsLabels (labelled : Labelled n) (remarks : Texts n) :
    labelled.status.KeepsLabels (labelled.take remarks).status := by
  intro row hlabel
  simp [take, hlabel]

/-- Taking postings from one column of remarks after another keeps the labels that are there. -/
theorem Labelled.foldl_take_keepsLabels (remarks : List (Texts n)) (labelled : Labelled n) :
    labelled.status.KeepsLabels (remarks.foldl Labelled.take labelled).status := by
  induction remarks generalizing labelled with
  | nil => exact .refl _
  | cons first rest ih => exact (labelled.take_keepsLabels first).trans (ih (labelled.take first))

/-- Labels from postings are given to rows without one only. -/
theorem labelPostings_keepsLabels (batch : Batch n) (statusColumn : String) :
    Batch.KeepsLabels statusColumn batch (labelPostings batch statusColumn).1 := by
  have hkept := Labelled.foldl_take_keepsLabels (columnNames.filterMap batch.text?)
    ⟨batch.textOrNulls statusColumn, 0⟩
  simp only [labelPostings]
  split
  · exact .refl statusColumn batch
  · unfold Batch.KeepsLabels
    rw [Batch.textOrNulls_putText_self]
    exact hkept

end FinanceRemark

end PurchaseStatus
