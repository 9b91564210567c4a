import PurchaseStatus.Proofs.Check.Reading
import PurchaseStatus.Proofs.Engine.Columns
import PurchaseStatus.Proofs.Labels.Months

namespace PurchaseStatus

variable {n : Nat}

namespace FinanceRemark

section Columns

variable (batch : Batch n) {column other : String}

/-- The column that is normalized becomes one of text, if it can be read as one. -/
theorem cells?_normalizeColumn_self : (normalizeColumn batch column).cells? column =
    ((batch.text? column).map fun remarks => .text (remarks.map (·.map normalize))).or
      (batch.cells? column) := by
  unfold normalizeColumn
  cases batch.text? column with
  | none => rfl
  | some remarks => exact batch.cells?_putText_self column _

theorem cells?_normalizeColumn_of_ne (hne : other ≠ column) :
    (normalizeColumn batch column).cells? other = batch.cells? other := by
  unfold normalizeColumn
  split
  · exact batch.cells?_putText_of_ne hne _
  · rfl

/-- Each of the two columns is written once, where it can be read as text. -/
theorem cells?_normalizeColumns (hcolumn : column ∈ columnNames) :
    (normalizeColumns batch).cells? column =
      ((batch.text? column).map fun remarks => .text (remarks.map (·.map normalize))).or
        (batch.cells? column) := by
  have hne : Schema.financeRemark ≠ Schema.financeRequestRemark := by decide
  rw [columnNames, List.mem_pair] at hcolumn
  rcases hcolumn with rfl | rfl
  · exact (cells?_normalizeColumn_of_ne _ hne).trans (cells?_normalizeColumn_self batch)
  · have hcells := cells?_normalizeColumn_of_ne batch hne.symm
    rw [← hcells, ← Batch.text?_congr hcells]
    exact cells?_normalizeColumn_self _

/-- Both columns of remarks are read as normalized text. -/
theorem text?_normalizeColumns (hcolumn : column ∈ columnNames) :
    (normalizeColumns batch).text? column = (batch.text? column).map (·.map (·.map normalize)) := by
  have hcells := cells?_normalizeColumns batch hcolumn
  cases htexts : batch.text? column with
  | none =>
    rw [htexts, Option.map_none, Option.none_or] at hcells
    rw [Batch.text?_congr hcells, htexts, Option.map_none]
  | some remarks =>
    rw [htexts, Option.map_some, Option.some_or] at hcells
    rw [Batch.text?, hcells]
    rfl

/-- The remark of every row is normalized. -/
theorem textAt?_normalizeColumns (hcolumn : column ∈ columnNames) (row : Fin n) :
    (normalizeColumns batch).textAt? column row = (batch.textAt? column row).map normalize := by
  rw [Batch.textAt?, Batch.textAt?, text?_normalizeColumns batch hcolumn]
  cases batch.text? column with
  | none => rfl
  | some remarks => exact remarks.get_map _ row

/-- No remark becomes null, or ceases to be. -/
theorem isNullAt_normalizeColumns (hcolumn : column ∈ columnNames) (row : Fin n) :
    (normalizeColumns batch).isNullAt column row = batch.isNullAt column row := by
  rw [Batch.isNullAt, Batch.isNullAt, cells?_normalizeColumns batch hcolumn]
  cases htexts : batch.text? column with
  | none => rfl
  | some remarks =>
    obtain ⟨cells, hcells, hread⟩ := Option.bind_eq_some_iff.1 htexts
    rw [hcells, Option.map_some, Option.some_or, Option.any_some, Option.any_some,
      ← Cells.isNone_get_text? hread row, Cells.isNullAt, Series.get_map, Option.isNone_map]

theorem names_normalizeColumn : (normalizeColumn batch column).names = batch.names := by
  unfold normalizeColumn
  split
  · rename_i remarks hremarks
    obtain ⟨cells, hcells, _⟩ := Option.bind_eq_some_iff.1 hremarks
    have hpresent : batch.hasColumn column = true := by rw [Batch.hasColumn, hcells]; rfl
    rw [Batch.names_putText, Batch.withName_of_mem (Batch.hasColumn_iff.1 hpresent)]
  · rfl

/-- Normalizing one of two columns keeps all others. -/
theorem normalizeColumn_keepsOthers {first second : String} (hcolumn : column = first ∨ column = second) :
    Batch.KeepsOthers first second batch (normalizeColumn batch column) := by
  unfold normalizeColumn
  split
  · exact .put batch _ hcolumn
  · exact .refl batch

/-- A column is not written anew if no month stands in it. -/
theorem normalizeColumn_eq_self
    (htext : ∀ remarks, batch.text? column = some remarks → batch.cells? column = some (.text remarks))
    (hfree : ∀ row remark, batch.textAt? column row = some remark → ¬HasMonth remark) :
    normalizeColumn batch column = batch := by
  unfold normalizeColumn
  split
  · rename_i remarks hremarks
    have hsame : remarks.map (·.map normalize) = remarks := by
      refine Series.ext_get fun row => ?_
      rw [Series.get_map]
      cases hremark : remarks.get row with
      | none => rfl
      | some remark =>
        have hread : batch.textAt? column row = some remark := by
          rw [Batch.textAt?, hremarks, Option.bind_some, hremark]
        rw [Option.map_some, normalize_eq_self_iff.2 (hfree row remark hread)]
    rw [hsame]
    exact Batch.putText_of_cells? (htext remarks hremarks)
  · rfl

end Columns

/-- The months in both remark columns have been written without their slashes, in one pass. Of a month
that runs on to another slash that one stays, and it stands behind four digits again. -/
structure JoinsMonths (before after : Batch n) : Prop where
  names : after.names = before.names
  others : Batch.KeepsOthers Schema.financeRemark Schema.financeRequestRemark before after
  unread : ∀ column ∈ columnNames, before.text? column = none → after.cells? column = before.cells? column
  nulls : ∀ column ∈ columnNames, ∀ row, after.isNullAt column row = before.isNullAt column row
  kept : ∀ column ∈ columnNames, ∀ row remark, before.textAt? column row = some remark →
    ¬HasMonth remark → after.textAt? column row = some remark
  left : ∀ column ∈ columnNames, ∀ row,
    (∃ joined, after.textAt? column row = some joined ∧ HasMonth joined) ↔
      ∃ remark, before.textAt? column row = some remark ∧ HasChain remark

/-- The months of both columns are joined, and the rest of the batch is as before. -/
theorem joinsMonths_normalizeColumns (batch : Batch n) : JoinsMonths batch (normalizeColumns batch) where
  names := (names_normalizeColumn _).trans (names_normalizeColumn batch)
  others := (normalizeColumn_keepsOthers batch (.inl rfl)).trans (normalizeColumn_keepsOthers _ (.inr rfl))
  unread column hcolumn hunread := by
    rw [cells?_normalizeColumns batch hcolumn, hunread, Option.map_none, Option.none_or]
  nulls column hcolumn row := isNullAt_normalizeColumns batch hcolumn row
  kept column hcolumn row remark hremark hfree := by
    rw [textAt?_normalizeColumns batch hcolumn, hremark, Option.map_some, normalize_eq_self_iff.2 hfree]
  left column hcolumn row := by
    rw [textAt?_normalizeColumns batch hcolumn]
    cases batch.textAt? column row with
    | none => simp
    | some remark => simp [hasMonth_normalize_iff]

/-- The remark columns come into a normal form, with no month left and nothing for a second pass to do,
exactly where no month runs on to another slash. -/
theorem normalizeColumns_joins_months (batch : Batch n) :
    let joined := normalizeColumns batch
    JoinsMonths batch joined ∧
      (normalizeColumns joined = joined ↔ ∀ column ∈ columnNames, ∀ row remark,
        batch.textAt? column row = some remark → ¬HasChain remark) := by
  intro joined
  have hjoins : JoinsMonths batch joined := joinsMonths_normalizeColumns batch
  refine ⟨hjoins, fun hagain column hcolumn row remark hremark hchain => ?_, fun hfree => ?_⟩
  · obtain ⟨remaining, hremaining, hmonth⟩ := (hjoins.left column hcolumn row).2 ⟨remark, hremark, hchain⟩
    have hsame := textAt?_normalizeColumns joined hcolumn row
    rw [hagain, hremaining, Option.map_some, Option.some_inj] at hsame
    exact normalize_eq_self_iff.1 hsame.symm hmonth
  · have hfixed : ∀ column ∈ columnNames, normalizeColumn joined column = joined := by
      intro column hcolumn
      refine normalizeColumn_eq_self joined (fun remarks hremarks => ?_) fun row remark hremark hmonth => ?_
      · have hcells : joined.cells? column = _ := cells?_normalizeColumns batch hcolumn
        rw [text?_normalizeColumns batch hcolumn] at hremarks
        obtain ⟨texts, htexts, rfl⟩ := Option.map_eq_some_iff.1 hremarks
        rw [hcells, htexts, Option.map_some, Option.some_or]
      · obtain ⟨source, hsource, hchain⟩ := (hjoins.left column hcolumn row).1 ⟨remark, hremark, hmonth⟩
        exact hfree column hcolumn row source hsource hchain
    have hfirst := hfixed Schema.financeRemark (by decide)
    have hsecond := hfixed Schema.financeRequestRemark (by decide)
    change normalizeColumn (normalizeColumn joined Schema.financeRemark) Schema.financeRequestRemark = joined
    rw [hfirst, hsecond]

/-- An order with a full date in its remark. -/
def fullDate : Batch 1 :=
  ⟨⟨[(Schema.financeRemark, .text ⟨[some "2025/03/04"], rfl⟩)]⟩⟩

/-- A full date keeps its second slash, with four digits before it, and a second pass takes it away. -/
theorem not_forall_months_joined :
    (¬∀ (n : Nat) (batch : Batch n), ∀ column ∈ columnNames, ∀ row joined,
      (normalizeColumns batch).textAt? column row = some joined → ¬HasMonth joined) ∧
    ¬∀ (n : Nat) (batch : Batch n),
      normalizeColumns (normalizeColumns batch) = normalizeColumns batch := by
  refine ⟨fun hall => ?_, fun hall => ?_⟩
  · have hjoined : (normalizeColumns fullDate).textAt? Schema.financeRemark 0 = some "202503/04" := by decide
    refine hall 1 fullDate Schema.financeRemark (by decide) 0 _ hjoined ?_
    have hmonth : IsMonth "2503/04".toList :=
      ⟨"2503".toList, "04".toList, ⟨rfl, by decide⟩, ⟨rfl, by decide⟩, rfl⟩
    exact ⟨_, hmonth, "20".toList, [], rfl⟩
  · exact absurd (hall 1 fullDate) (by decide)

end FinanceRemark

end PurchaseStatus
