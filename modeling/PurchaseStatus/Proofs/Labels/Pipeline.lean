import PurchaseStatus.Proofs.Labels.Keeping
import PurchaseStatus.Proofs.Pipeline.Relation
import PurchaseStatus.Proofs.Step.Atomicity

namespace PurchaseStatus

/-- The rows are the same in number, and those that carry a label in a column keep it. -/
structure Dataset.KeepsLabels (column : String) (before after : Dataset) : Prop where
  rows : after.rows = before.rows
  labels : ∀ row, isBlank ((before.batch.textOrNulls column).get row) = false →
    (after.batch.textOrNulls column).get (row.cast rows.symm) =
      (before.batch.textOrNulls column).get row

namespace Dataset.KeepsLabels

variable {column : String} {before middle after : Dataset}

theorem refl (column : String) (data : Dataset) : KeepsLabels column data data := ⟨rfl, fun _ _ => rfl⟩

theorem trans (h : KeepsLabels column before middle) (h' : KeepsLabels column middle after) :
    KeepsLabels column before after where
  rows := h'.rows.trans h.rows
  labels row hlabel := by
    have hmiddle := h.labels row hlabel
    have hafter := h'.labels (row.cast h.rows.symm) (by rw [hmiddle]; exact hlabel)
    exact hafter.trans hmiddle

/-- A dataset keeps its labels if its batch does. -/
theorem of_batch {n : Nat} {a b : Batch n} (h : Batch.KeepsLabels column a b) :
    KeepsLabels column ⟨n, a⟩ ⟨n, b⟩ := ⟨rfl, h⟩

end Dataset.KeepsLabels

/-- The kind of the records stays, and the rows keep their labels in its status column. -/
structure Context.KeepsLabels (before after : Context) : Prop where
  kind : after.kind = before.kind
  data : before.data.KeepsLabels before.statusColumn after.data

namespace Context.KeepsLabels

theorem trans {before middle after : Context} (h : KeepsLabels before middle)
    (h' : KeepsLabels middle after) : KeepsLabels before after where
  kind := h'.kind.trans h.kind
  data := by
    refine h.data.trans ?_
    have hcolumn : middle.statusColumn = before.statusColumn := congrArg RecordKind.statusColumn h.kind
    rw [← hcolumn]
    exact h'.data

/-- Labels are kept by a whole run if every step keeps them, a rollback included. -/
theorem runRelation : RunRelation KeepsLabels where
  refl _ := ⟨rfl, .refl _ _⟩
  trans := trans
  record _ _ _ := ⟨rfl, .refl _ _⟩

end Context.KeepsLabels

/-- A step whose work keeps the labels respects them in its turn, in which its data may be taken
back, if its rollback does nothing. -/
theorem Step.respects_keepsLabels {step : Step}
    (hexecute : ∀ context : Context, context.KeepsLabels (step.execute context).context)
    (hrollback : ∀ context reason, step.rollback context reason = context) :
    step.Respects Context.KeepsLabels where
  turn context := by
    unfold Step.turn
    split
    · unfold Step.attempt
      dsimp only
      split
      · exact ⟨(hexecute context).kind, .refl _ _⟩
      · exact hexecute context
    · exact ⟨rfl, .refl _ _⟩
  rollback context reason := by
    rw [hrollback]
    exact Context.KeepsLabels.runRelation.refl context

namespace AuxiliaryLoad

/-- Auxiliary datasets are kept beside the main one. -/
theorem store_keepsLabels (context : Context) (datasets : List (String × Dataset)) :
    context.KeepsLabels (store context datasets) := by
  rw [store_eq]
  exact ⟨rfl, .refl _ _⟩

/-- Loading reference data touches no label, whatever becomes of the sources. -/
theorem conclude_keepsLabels (load : AuxiliaryLoad) (arrivals : List AuxiliarySource)
    (context : Context) : context.KeepsLabels (load.conclude arrivals context).context := by
  unfold conclude
  split
  · exact store_keepsLabels context _
  · exact Context.KeepsLabels.runRelation.refl context

end AuxiliaryLoad

namespace FirstStage

/-- Preparing a batch for rules adds columns and normalizes remarks, but gives no label. -/
theorem prepare_keepsLabels (context : Context) :
    Batch.KeepsLabels context.statusColumn context.data.batch (prepare context) := by
  have hcolumn := Batch.KeepsLabels.ensureText context.data.batch context.statusColumn
    context.statusColumn
  have hremarks := FinanceRemark.normalizeColumns_writesOnly
    (context.data.batch.ensureText context.statusColumn)
  exact hcolumn.trans
    (.of_writesOnly hremarks (FinanceRemark.statusColumn_not_mem_columnNames context.kind))

/-- The first stage labels rows from their postings and the closing list where they have no label. -/
theorem label_keepsLabels (stage : FirstStage) (context : Context) (list : ClosingList) :
    context.KeepsLabels (stage.label context list).context where
  kind := rfl
  data := by
    have hpostings := FinanceRemark.labelPostings_keepsLabels (prepare context) context.statusColumn
    have hrules := stage.engine.run_keepsLabels stage.engine.rules
      (FinanceRemark.labelPostings (prepare context) context.statusColumn).1 context.statusColumn
      (ruleContext context (prepare context) list) context.kind true
      context.kind.statusColumn_ne_matchedNote
    exact .of_batch (((prepare_keepsLabels context).trans hpostings).trans hrules)

theorem execute_keepsLabels (stage : FirstStage) (context : Context) :
    context.KeepsLabels (stage.execute context).context := by
  unfold execute
  split
  · exact Context.KeepsLabels.runRelation.refl context
  · split
    · exact Context.KeepsLabels.runRelation.refl context
    · exact stage.label_keepsLabels context _

end FirstStage

namespace AccrualStage

theorem prepare_keepsLabels (context : Context) (date : Int) :
    Batch.KeepsLabels context.statusColumn context.data.batch (prepare context date) := by
  have hdate : Batch.WritesOnly [Schema.fileDate] context.data.batch
      (context.data.batch.put Schema.fileDate (.int64 (.constant _ (some date)))) :=
    (Batch.WritesOnly.refl [Schema.fileDate] context.data.batch).put List.mem_cons_self _
  have hcolumn : context.statusColumn ∉ [Schema.fileDate] := by
    unfold Context.statusColumn
    cases context.kind <;> decide
  exact (Batch.KeepsLabels.of_writesOnly hdate hcolumn).trans (.ensureText _ _ _)

/-- The rules and then the fallbacks. -/
theorem label_keepsLabels {n : Nat} (stage : AccrualStage) (batch : Batch n) (kind : RecordKind)
    (date : Int) (entity : String) :
    Batch.KeepsLabels kind.statusColumn batch (stage.label batch kind date entity).batch := by
  have hne := kind.statusColumn_ne_matchedNote
  have hrules := stage.engine.run_keepsLabels stage.engine.rules batch kind.statusColumn
    (stage.ruleContext batch kind date entity) kind true hne
  exact hrules.trans (stage.engine.run_keepsLabels _ _ kind.statusColumn _ kind true hne)

/-- The stage gives labels to rows without one and then derives fields beside them. -/
theorem execute_keepsLabels (stage : AccrualStage) (context : Context) :
    context.KeepsLabels (stage.execute context).context := by
  unfold execute
  split
  · exact Context.KeepsLabels.runRelation.refl context
  · rename_i date _
    dsimp only
    split
    · exact Context.KeepsLabels.runRelation.refl context
    · rename_i final hderived
      have hlabelled := stage.label_keepsLabels (prepare context date) context.kind date context.entity
      have hfinal := Batch.KeepsLabels.of_writesOnly (derive_writesOnly hderived)
        (Accrual.statusColumn_not_mem_derivedColumns context.kind)
      exact ⟨rfl, .of_batch (((prepare_keepsLabels context date).trans hlabelled).trans hfinal)⟩

end AccrualStage

theorem Step.IsShipped.execute_keepsLabels {step : Step} (h : step.IsShipped) (context : Context) :
    context.KeepsLabels (step.execute context).context := by
  induction h with
  | auxiliaryLoad load _ => exact load.conclude_keepsLabels _ context
  | firstStage stage => exact stage.execute_keepsLabels context
  | accrualStage stage => exact stage.execute_keepsLabels context
  | unmetered _ ih => exact ih

namespace Pipeline

/-- A label that a row has once been given stays, whatever shipped steps run after it, in whatever
order, and whichever of them fail or are refused. -/
theorem labels_survive_execute (pipeline : Pipeline)
    (hshipped : ∀ step ∈ pipeline.steps, step.IsShipped) (context : Context) (metrics : Metrics) :
    context.data.KeepsLabels context.statusColumn (pipeline.execute context metrics).context.data := by
  have hsteps : ∀ step ∈ pipeline.steps, step.Respects Context.KeepsLabels := by
    intro step hstep
    have hstep := hshipped step hstep
    exact Step.respects_keepsLabels hstep.execute_keepsLabels hstep.rollback_eq
  have hrun := pipeline.rel_execute Context.KeepsLabels.runRelation hsteps context metrics
  exact hrun.data

/-- One order that is to be closed. -/
def oneClosing : Dataset :=
  ⟨1, ⟨⟨[(Schema.closingRequest, .text ⟨[some "R1"], rfl⟩), (Schema.closingDone, .null),
    (Schema.closingOrder, .text ⟨[some "P1"], rfl⟩)]⟩⟩⟩

/-- A rule for every order, and fallbacks after it. -/
def relabelling : Pipeline :=
  { name := "relabelling"
    stopOnError := false
    steps := [
      AuxiliaryLoad.toStep
        { name := "load", sources := [⟨FirstStage.closingListName, .ok oneClosing⟩] },
      FirstStage.toStep ⟨.ofRules .empty "rules" [
        { priority := 1, statusValue := some "open",
          checks := [{ type := "is_not_null", field := some "PO#" }] }]⟩,
      AccrualStage.toStep (.ofConfig .empty)]
    steps_ne_nil := List.cons_ne_nil _ _ }

/-- The first order has a label and is to be closed as well; the second has none. -/
def twoOrders : Context :=
  Context.start ⟨2, ⟨⟨[("PO#", .text ⟨[some "P1", some "P2"], rfl⟩),
    ("PO狀態", .text ⟨[some "done", none], rfl⟩)]⟩⟩⟩ "spx" 202501 .order

/-- The label of the first order is not replaced by that of the rule, which is for both. -/
theorem labels_survive_execute_relabelling :
    (∀ step ∈ relabelling.steps, step.IsShipped) ∧
    ∃ hrows : (relabelling.execute twoOrders {}).context.data.rows = 2,
      ((relabelling.execute twoOrders {}).context.data.batch.textOrNulls "PO狀態").get
        (Fin.cast hrows.symm 0) = some "done" := by
  have hshipped : ∀ step ∈ relabelling.steps, step.IsShipped := by
    simp only [relabelling, List.forall_mem_cons]
    exact ⟨AuxiliaryLoad.isShipped_toStep _, .firstStage _, .accrualStage _, by simp⟩
  have hkept := labels_survive_execute relabelling hshipped twoOrders {}
  exact ⟨hshipped, hkept.rows, hkept.labels (0 : Fin 2) (by decide)⟩

end Pipeline

end PurchaseStatus
