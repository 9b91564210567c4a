import PurchaseStatus.Proofs.Concatenation
import PurchaseStatus.Proofs.Selection
import PurchaseStatus.Step.FirstStage

namespace PurchaseStatus

variable {n m k : Nat}

/-- Text that can be read in the first part and in the whole is the same in both. -/
theorem Batch.textAt?_castAdd_of_append? {first : Batch n} {rest : Batch m} {whole : Batch (n + m)}
    (h : first.append? rest = some whole) {column : String}
    (hreadable : (first.text? column).isSome → (whole.text? column).isSome) (row : Fin n) :
    whole.textAt? column (row.castAdd m) = first.textAt? column row := by
  unfold textAt?
  rcases cells?_of_append? h column with
    ⟨hfirst, _, hwhole⟩ | ⟨cells, cells', both, hfirst, _, hwhole, hboth⟩
  · simp only [text?, hfirst, hwhole]
    rfl
  · simp only [text?, hfirst, hwhole, Option.bind_some, Cells.text?_of_append? hboth,
      Series.append?] at hreadable ⊢
    cases hcells : cells.text? with
    | none => rfl
    | some texts =>
      cases hcells' : cells'.text? with
      | none => simp [hcells, hcells'] at hreadable
      | some texts' => simp

namespace ClosingList

/-- The rows of a batch that a list has to be closed, and those that it has closed. -/
def masks (batch : Batch n) (list : Batch m) (kind : RecordKind) : Except Failure (Mask n × Mask n) :=
  (read list kind).map fun ids => (rowsIn batch kind ids.toBeClosed, rowsIn batch kind ids.closed)

/-- An entry that counts, for the id. -/
structure Names (list : Batch m) (kind : RecordKind) (entry : Fin m) (id : String) : Prop where
  request : ∃ request, list.textAt? Schema.closingRequest entry = some request ∧ request ≠ ""
  key : list.textAt? (keyColumn kind) entry = some id

/-- A row is among those to be closed if an entry without a mark of finance names its id, and among the
closed if one with a mark does. -/
structure Splits (batch : Batch n) (list : Batch m) (kind : RecordKind) (toBeClosed closed : Mask n) :
    Prop where
  toBeClosed : ∀ row, toBeClosed.get row = true ↔ ∃ id, batch.textAt? kind.idColumn row = some id ∧
    ∃ entry, Names list kind entry id ∧ list.textAt? Schema.closingDone entry = none
  closed : ∀ row, closed.get row = true ↔ ∃ id, batch.textAt? kind.idColumn row = some id ∧
    ∃ entry, Names list kind entry id ∧ list.textAt? Schema.closingDone entry ≠ none

section Entries

variable (list : Batch m) (kind : RecordKind)

/-- What stands in a row of a list. -/
def entryAt (row : Fin m) : Entry where
  request := list.textAt? Schema.closingRequest row
  done := list.textAt? Schema.closingDone row
  key := list.textAt? (keyColumn kind) row

/-- The entries of a list are its rows, whichever comes first. -/
theorem mem_entries_iff (entry : Entry) :
    entry ∈ entries list kind ↔ ∃ row, entryAt list kind row = entry := by
  rw [entries, Series.mem_toList_iff]
  simp only [Series.get_zipWith, Batch.get_textOrNulls, entryAt]

/-- A row of the list names the purchase that its entry is for. -/
theorem id?_entryAt {row : Fin m} {id : String} :
    (entryAt list kind row).id? = some id ↔ Names list kind row id := by
  unfold Entry.id? entryAt
  constructor
  · intro h
    cases hrequest : list.textAt? Schema.closingRequest row with
    | none => simp [hrequest] at h
    | some request =>
      simp only [hrequest, Option.all_some, beq_iff_eq, Option.ite_none_left_eq_some] at h
      exact ⟨⟨request, hrequest, h.1⟩, h.2⟩
  · rintro ⟨⟨request, hrequest, hne⟩, hkey⟩
    simp [hrequest, hne, hkey]

/-- A purchase is to be closed if some row names it without a day of closing. -/
theorem mem_toBeClosed_iff {id : String} : id ∈ (ofEntries (entries list kind)).toBeClosed ↔
    ∃ entry, Names list kind entry id ∧ list.textAt? Schema.closingDone entry = none := by
  simp only [ofEntries, List.mem_filterMap, List.mem_filter, mem_entries_iff, Option.isNone_iff_eq_none]
  constructor
  · rintro ⟨_, ⟨⟨row, rfl⟩, hdone⟩, hid⟩
    exact ⟨row, (id?_entryAt list kind).1 hid, hdone⟩
  · rintro ⟨row, hnames, hdone⟩
    exact ⟨_, ⟨⟨row, rfl⟩, hdone⟩, (id?_entryAt list kind).2 hnames⟩

/-- A purchase is closed if some row names it with a day of closing. -/
theorem mem_closed_iff {id : String} : id ∈ (ofEntries (entries list kind)).closed ↔
    ∃ entry, Names list kind entry id ∧ list.textAt? Schema.closingDone entry ≠ none := by
  simp only [ofEntries, List.mem_filterMap, List.mem_filter, mem_entries_iff, ← Option.isSome_iff_ne_none]
  constructor
  · rintro ⟨_, ⟨⟨row, rfl⟩, hdone⟩, hid⟩
    exact ⟨row, (id?_entryAt list kind).1 hid, hdone⟩
  · rintro ⟨row, hnames, hdone⟩
    exact ⟨_, ⟨⟨row, rfl⟩, hdone⟩, (id?_entryAt list kind).2 hnames⟩

end Entries

/-- A row is marked exactly if its purchase is among those asked for. -/
@[simp] theorem get_rowsIn (batch : Batch n) (kind : RecordKind) (ids : List String) (row : Fin n) :
    (rowsIn batch kind ids).get row = true ↔ ∃ id, batch.textAt? kind.idColumn row = some id ∧ id ∈ ids := by
  rw [rowsIn, Series.get_rowsWhere, Batch.get_textOrNulls]
  cases batch.textAt? kind.idColumn row <;> simp

section Masks

variable {batch : Batch n} {list : Batch m} {other : Batch k} {kind : RecordKind}

theorem missing_eq_nil_iff : list.missing (requiredColumns kind) = [] ↔
    ∀ column ∈ requiredColumns kind, list.hasColumn column = true := by
  simp [Batch.missing, List.filter_eq_nil_iff]

/-- The masks are there exactly if the list has all its columns, and are then those of the two lists of
purchases. -/
theorem masks_eq_ok_iff {marks : Mask n × Mask n} : masks batch list kind = .ok marks ↔
    (∀ column ∈ requiredColumns kind, list.hasColumn column = true) ∧
      marks = (rowsIn batch kind (ofEntries (entries list kind)).toBeClosed,
        rowsIn batch kind (ofEntries (entries list kind)).closed) := by
  rw [← missing_eq_nil_iff, masks, read]
  split
  · rename_i hmissing
    simp [hmissing, Except.map, eq_comm]
  · rename_i missing hmissing
    exact iff_of_false (fun h => by cases h) fun h => hmissing h.1

/-- The masks fail exactly if the list lacks one of its columns. -/
theorem masks_eq_error_iff : (∃ failure, masks batch list kind = .error failure) ↔
    ∃ column ∈ requiredColumns kind, list.hasColumn column = false := by
  cases hmasks : masks batch list kind with
  | ok marks =>
    have hcolumns := (masks_eq_ok_iff.1 hmasks).1
    simpa using hcolumns
  | error failure =>
    refine iff_of_true ⟨failure, rfl⟩ ?_
    by_contra hcolumns
    have hok : masks batch list kind = .ok _ := masks_eq_ok_iff.2 ⟨by simpa using hcolumns, rfl⟩
    rw [hmasks] at hok
    cases hok

/-- Two lists with the same entries, in any order and number, have the same masks. -/
theorem masks_congr (hcolumns : ∀ column, list.hasColumn column = other.hasColumn column)
    (hentries : ∀ entry, entry ∈ entries list kind ↔ entry ∈ entries other kind) :
    masks batch list kind = masks batch other kind := by
  have hrows : ∀ {ids ids' : List String}, (∀ id, id ∈ ids ↔ id ∈ ids') →
      rowsIn batch kind ids = rowsIn batch kind ids' := fun h =>
    Series.ext_get fun row => Bool.eq_iff_iff.2 (by simp only [get_rowsIn, h])
  have htoBeClosed : ∀ id, id ∈ (ofEntries (entries list kind)).toBeClosed ↔
      id ∈ (ofEntries (entries other kind)).toBeClosed := fun id => by
    simp only [ofEntries, List.mem_filterMap, List.mem_filter, hentries]
  have hclosed : ∀ id, id ∈ (ofEntries (entries list kind)).closed ↔
      id ∈ (ofEntries (entries other kind)).closed := fun id => by
    simp only [ofEntries, List.mem_filterMap, List.mem_filter, hentries]
  have hmissing : list.missing (requiredColumns kind) = other.missing (requiredColumns kind) := by
    simp only [Batch.missing, hcolumns]
  unfold masks read
  rw [hmissing]
  split
  · simp only [Except.map, hrows htoBeClosed, hrows hclosed]
  · rfl

/-- Masks that are there split the purchases of the list as its rows say. -/
theorem splits_of_masks {toBeClosed closed : Mask n} (h : masks batch list kind = .ok (toBeClosed, closed)) :
    Splits batch list kind toBeClosed closed := by
  obtain ⟨rfl, rfl⟩ := Prod.mk.inj (masks_eq_ok_iff.1 h).2
  exact
    { toBeClosed := fun row => by simp only [get_rowsIn, mem_toBeClosed_iff]
      closed := fun row => by simp only [get_rowsIn, mem_closed_iff] }

/-- The rows of the list may come in any order, and more than once. -/
theorem masks_select {rows : Fin k → Fin m} (hrows : rows.Surjective) :
    masks batch (list.select rows) kind = masks batch list kind := by
  refine masks_congr (fun column => Batch.hasColumn_select list rows column) fun entry => ?_
  have hrow : ∀ row, entryAt (list.select rows) kind row = entryAt list kind (rows row) := fun row => by
    simp only [entryAt, Batch.textAt?_select list hrows]
  simp only [mem_entries_iff, hrow, hrows.exists]

/-- More entries lose no row, as long as the columns that could be read still can. -/
theorem masks_of_append? {more : Batch k} {whole : Batch (m + k)} (happend : list.append? more = some whole)
    (hreadable : ∀ column ∈ requiredColumns kind, (list.text? column).isSome → (whole.text? column).isSome)
    {toBeClosed closed : Mask n} (h : masks batch list kind = .ok (toBeClosed, closed)) :
    ∃ toBeClosed' closed', masks batch whole kind = .ok (toBeClosed', closed') ∧
      (∀ row, toBeClosed.get row = true → toBeClosed'.get row = true) ∧
      ∀ row, closed.get row = true → closed'.get row = true := by
  have hcolumns : ∀ column, whole.hasColumn column = list.hasColumn column := fun column => by
    rcases Batch.cells?_of_append? happend column with ⟨hlist, _, hwhole⟩ | ⟨_, _, _, hlist, _, hwhole, _⟩ <;>
      simp [Batch.hasColumn, hlist, hwhole]
  have htexts : ∀ column ∈ requiredColumns kind, ∀ entry : Fin m,
      whole.textAt? column (entry.castAdd k) = list.textAt? column entry := fun column hcolumn =>
    Batch.textAt?_castAdd_of_append? happend (hreadable column hcolumn)
  have hdone := htexts Schema.closingDone (by simp [requiredColumns])
  have hnames : ∀ {entry : Fin m} {id : String}, Names list kind entry id →
      Names whole kind (entry.castAdd k) id := by
    rintro entry id ⟨hrequest, hkey⟩
    rw [← htexts _ (by simp [requiredColumns])] at hrequest hkey
    exact ⟨hrequest, hkey⟩
  obtain ⟨toBeClosed', closed', hwhole⟩ : ∃ toBeClosed' closed',
      masks batch whole kind = .ok (toBeClosed', closed') :=
    ⟨_, _, masks_eq_ok_iff.2 ⟨fun column hcolumn =>
      (hcolumns column).trans ((masks_eq_ok_iff.1 h).1 column hcolumn), rfl⟩⟩
  have hbefore := splits_of_masks h
  have hafter := splits_of_masks hwhole
  refine ⟨toBeClosed', closed', hwhole, fun row hrow => ?_, fun row hrow => ?_⟩
  · obtain ⟨id, hid, entry, hentry, hnull⟩ := (hbefore.toBeClosed row).1 hrow
    exact (hafter.toBeClosed row).2 ⟨id, hid, entry.castAdd k, hnames hentry, (hdone entry).trans hnull⟩
  · obtain ⟨id, hid, entry, hentry, hmark⟩ := (hbefore.closed row).1 hrow
    exact (hafter.closed row).2 ⟨id, hid, entry.castAdd k, hnames hentry, hdone entry ▸ hmark⟩

end Masks

/-- A list that lacks a column has no masks. Otherwise each row is in them by the entries that name its
id, whatever their order and number, and stays in them when entries are added. That is so while each
column that could be read as text still can: one day outside the calendar makes all of a column of dates
unreadable, which then counts as null. -/
theorem masks_membership (batch : Batch n) (list : Batch m) (kind : RecordKind) :
    ((∃ failure, masks batch list kind = .error failure) ↔
      list.hasColumn Schema.closingRequest = false ∨ list.hasColumn Schema.closingDone = false ∨
        kind = .order ∧ list.hasColumn Schema.closingOrder = false) ∧
    (∀ toBeClosed closed, masks batch list kind = .ok (toBeClosed, closed) →
      Splits batch list kind toBeClosed closed) ∧
    (∀ (k : Nat) (rows : Fin k → Fin m), rows.Surjective →
      masks batch (list.select rows) kind = masks batch list kind) ∧
    ∀ (k : Nat) (more : Batch k) (whole : Batch (m + k)), list.append? more = some whole →
      (∀ column ∈ requiredColumns kind, (list.text? column).isSome → (whole.text? column).isSome) →
      ∀ toBeClosed closed, masks batch list kind = .ok (toBeClosed, closed) →
        ∃ toBeClosed' closed', masks batch whole kind = .ok (toBeClosed', closed') ∧
          (∀ row, toBeClosed.get row = true → toBeClosed'.get row = true) ∧
          ∀ row, closed.get row = true → closed'.get row = true := by
  refine ⟨?_, fun _ _ => splits_of_masks, fun _ _ => masks_select,
    fun _ _ _ happend hreadable _ _ => masks_of_append? happend hreadable⟩
  rw [masks_eq_error_iff]
  cases kind with
  | order => simp [requiredColumns, keyColumn]
  | request =>
    -- the ids of requests stand in a column that is required anyway
    simp only [requiredColumns, keyColumn, List.mem_cons, List.not_mem_nil, or_false, exists_eq_or_imp,
      exists_eq_left, reduceCtorEq, false_and]
    exact ⟨fun h => h.elim .inl (·.elim .inr .inl), fun h => h.elim .inl (.inr ∘ .inl)⟩

/-- One order in both lists, one in neither, and one row without an order. -/
def threeOrders : Batch 3 :=
  ⟨⟨[(RecordKind.order.idColumn, .text ⟨[some "PO1", some "PO2", none], rfl⟩)]⟩⟩

def twoEntries : Batch 2 := ⟨⟨[(Schema.closingRequest, .text ⟨[some "PR1", some "PR2"], rfl⟩),
  (Schema.closingDone, .text ⟨[none, some "closed"], rfl⟩),
  (Schema.closingOrder, .text ⟨[some "PO1", some "PO2"], rfl⟩)]⟩⟩

/-- An entry for the second order without a mark, and one for the first without a request. -/
def moreEntries : Batch 2 := ⟨⟨[(Schema.closingRequest, .text ⟨[some "PR3", some ""], rfl⟩),
  (Schema.closingDone, .text ⟨[none, some "closed"], rfl⟩),
  (Schema.closingOrder, .text ⟨[some "PO2", some "PO1"], rfl⟩)]⟩⟩

def fourEntries : Batch (2 + 2) :=
  ⟨⟨[(Schema.closingRequest, .text ⟨[some "PR1", some "PR2", some "PR3", some ""], rfl⟩),
    (Schema.closingDone, .text ⟨[none, some "closed", none, some "closed"], rfl⟩),
    (Schema.closingOrder, .text ⟨[some "PO1", some "PO2", some "PO2", some "PO1"], rfl⟩)]⟩⟩

/-- The second entry, the first, and the second again. -/
def secondTwice : Fin 3 → Fin 2 := fun row => if row = 1 then 0 else 1

/-- Neither order leaves the mask that it is in. -/
theorem masks_membership_twice_listed :
    masks threeOrders twoEntries .order = .ok (⟨[true, false, false], rfl⟩, ⟨[false, true, false], rfl⟩) ∧
    secondTwice.Surjective ∧ twoEntries.append? moreEntries = some fourEntries ∧
    (∀ column ∈ requiredColumns .order,
      (twoEntries.text? column).isSome → (fourEntries.text? column).isSome) ∧
    masks threeOrders (twoEntries.select secondTwice) .order =
      .ok (⟨[true, false, false], rfl⟩, ⟨[false, true, false], rfl⟩) ∧
    (∃ toBeClosed closed, masks threeOrders fourEntries .order = .ok (toBeClosed, closed) ∧
      toBeClosed.get 0 = true ∧ closed.get 1 = true) ∧
    Splits threeOrders twoEntries .order ⟨[true, false, false], rfl⟩ ⟨[false, true, false], rfl⟩ := by
  have hmasks : masks threeOrders twoEntries .order =
      .ok (⟨[true, false, false], rfl⟩, ⟨[false, true, false], rfl⟩) := by decide
  have hrows : secondTwice.Surjective := by
    show ∀ entry, ∃ row, secondTwice row = entry
    decide
  have happend : twoEntries.append? moreEntries = some fourEntries := by decide
  have hreadable : ∀ column ∈ requiredColumns .order,
      (twoEntries.text? column).isSome → (fourEntries.text? column).isSome := by decide
  obtain ⟨_, hsplits, hselect, hadd⟩ := masks_membership threeOrders twoEntries .order
  obtain ⟨toBeClosed, closed, hwhole, hopen, hclosed⟩ :=
    hadd 2 moreEntries fourEntries happend hreadable _ _ hmasks
  exact ⟨hmasks, hrows, happend, hreadable, (hselect 3 secondTwice hrows).trans hmasks,
    ⟨toBeClosed, closed, hwhole, hopen 0 rfl, hclosed 1 rfl⟩, hsplits _ _ hmasks⟩

/-- One order, which the following list names twice. -/
def oneOrder : Batch 1 := ⟨⟨[(RecordKind.order.idColumn, .text ⟨[some "PO1"], rfl⟩)]⟩⟩

def closedOnDay : Batch 1 := ⟨⟨[(Schema.closingRequest, .text ⟨[some "PR1"], rfl⟩),
  (Schema.closingDone, .date32 (.constant _ (some 0))), (Schema.closingOrder, .text ⟨[some "PO1"], rfl⟩)]⟩⟩

/-- The day of closing is a date that has no text, as if there were none. -/
def closedBeyondCalendar : Batch 1 := ⟨⟨[(Schema.closingRequest, .text ⟨[some "PR2"], rfl⟩),
  (Schema.closingDone, .date32 (.constant _ (some 100000000))),
  (Schema.closingOrder, .text ⟨[some "PO2"], rfl⟩)]⟩⟩

def closedOnBoth : Batch (1 + 1) := ⟨⟨[(Schema.closingRequest, .text ⟨[some "PR1", some "PR2"], rfl⟩),
  (Schema.closingDone, .date32 ⟨[some 0, some 100000000], rfl⟩),
  (Schema.closingOrder, .text ⟨[some "PO1", some "PO2"], rfl⟩)]⟩⟩

/-- A mark outside the calendar in an entry for another order takes an order out of the closed ones, and
puts it among those to be closed although no mark is null. -/
theorem not_kept_beyond_calendar :
    closedOnDay.append? closedBeyondCalendar = some closedOnBoth ∧
    masks oneOrder closedOnDay .order = .ok (⟨[false], rfl⟩, ⟨[true], rfl⟩) ∧
    masks oneOrder closedOnBoth .order = .ok (⟨[true], rfl⟩, ⟨[false], rfl⟩) ∧
    ∀ entry, closedOnBoth.isNullAt Schema.closingDone entry = false := by
  decide

end ClosingList

end PurchaseStatus
