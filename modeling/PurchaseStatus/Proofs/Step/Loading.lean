import PurchaseStatus.Pipeline.Turn
import PurchaseStatus.Proofs.Sorting
import PurchaseStatus.Step.AuxiliaryLoad
import Mathlib.Data.List.Nodup

namespace PurchaseStatus

/-- Only an outcome that is good has a dataset. -/
theorem LoadOutcome.dataset?_eq_some_iff {outcome : LoadOutcome} {data : Dataset} :
    outcome.dataset? = some data ↔ outcome = .ok data := by
  cases outcome <;> simp [dataset?]

namespace AuxiliaryLoad

section Sources

variable {source : AuxiliarySource} {data : Dataset} {arrivals others : List AuxiliarySource}

theorem datasetOf?_of_ok (h : source.outcome = .ok data) :
    datasetOf? source = some (source.name, data) := by
  rw [datasetOf?, h]
  rfl

/-- A source has no failure to tell exactly if it has a dataset. -/
theorem failureOf?_eq_none_iff : failureOf? source = none ↔ ∃ data, source.outcome = .ok data := by
  unfold failureOf?
  cases source.outcome <;> simp

theorem eq_name_of_datasetOf? {entry : String × Dataset} (h : datasetOf? source = some entry) :
    source.name = entry.1 ∧ source.outcome = .ok entry.2 := by
  obtain ⟨data, hdata, rfl⟩ := Option.map_eq_some_iff.1 h
  exact ⟨rfl, LoadOutcome.dataset?_eq_some_iff.1 hdata⟩

/-- Sorting drops no failure and adds none. -/
theorem failures_perm (arrivals : List AuxiliarySource) :
    (failures arrivals).Perm (arrivals.filterMap failureOf?) := sortBy_perm _ _

/-- The failures are told in ascending order. -/
theorem pairwise_failures (arrivals : List AuxiliarySource) :
    (failures arrivals).Pairwise (· ≤ ·) := pairwise_sortBy id _

/-- There are no failures exactly if every source has a dataset. -/
theorem failures_eq_nil_iff :
    failures arrivals = [] ↔ ∀ source ∈ arrivals, ∃ data, source.outcome = .ok data := by
  have hnil : failures arrivals = [] ↔ arrivals.filterMap failureOf? = [] := by
    rw [← List.length_eq_zero_iff, (failures_perm arrivals).length_eq, List.length_eq_zero_iff]
  rw [hnil, List.filterMap_eq_nil_iff]
  exact forall₂_congr fun _ _ => failureOf?_eq_none_iff

/-- Texts that are equal need not be told apart. -/
theorem failures_of_perm (hperm : arrivals.Perm others) : failures arrivals = failures others :=
  sortBy_eq_of_perm id (hperm.filterMap failureOf?) fun _ _ _ _ h => h

/-- Where no two sources share a name, the names tell the datasets apart. -/
theorem datasets_of_perm (hperm : arrivals.Perm others) (hnames : (arrivals.map (·.name)).Nodup) :
    datasets arrivals = datasets others := by
  refine sortBy_eq_of_perm Prod.fst (hperm.filterMap datasetOf?) fun a ha b hb hab => ?_
  obtain ⟨source, hsource, hdata⟩ := List.mem_filterMap.1 ha
  obtain ⟨other, hother, hdata'⟩ := List.mem_filterMap.1 hb
  have hname : source.name = other.name := by
    rw [(eq_name_of_datasetOf? hdata).1, (eq_name_of_datasetOf? hdata').1, hab]
  have heq : source = other := List.inj_on_of_nodup_map hnames hsource hother hname
  rw [heq, hdata'] at hdata
  exact (Option.some.inj hdata).symm

end Sources

/-- The last of some sources under a name. -/
def lastNamed? (name : String) (arrivals : List AuxiliarySource) : Option AuxiliarySource :=
  arrivals.reverse.find? (·.name = name)

/-- The dataset of the last source under a name. -/
def loaded? (name : String) (arrivals : List AuxiliarySource) : Option Dataset :=
  (lastNamed? name arrivals).bind (·.outcome.dataset?)

section Storing

variable {arrivals : List AuxiliarySource}

/-- Among sources of one name one is the last. -/
theorem exists_lastNamed? {source : AuxiliarySource} (hsource : source ∈ arrivals) :
    ∃ last ∈ arrivals, lastNamed? source.name arrivals = some last ∧ last.name = source.name := by
  unfold lastNamed?
  cases hfound : arrivals.reverse.find? (·.name = source.name) with
  | none =>
    have hnone := List.find?_eq_none.1 hfound source (List.mem_reverse.2 hsource)
    simp at hnone
  | some last =>
    have hname : last.name = source.name := by simpa using List.find?_some hfound
    exact ⟨last, List.mem_reverse.1 (List.mem_of_find?_eq_some hfound), rfl, hname⟩

/-- A name that no source has is not loaded. -/
theorem loaded?_of_not_mem {name : String} (hname : name ∉ arrivals.map (·.name)) :
    loaded? name arrivals = none := by
  have hnone : lastNamed? name arrivals = none := by
    refine List.find?_eq_none.2 fun source hsource heq => hname ?_
    rw [← of_decide_eq_true heq]
    exact List.mem_map_of_mem (List.mem_reverse.1 hsource)
  rw [loaded?, hnone]
  rfl

/-- Where no two sources share a name, what is loaded under one is the outcome of its only source. -/
theorem loaded?_of_nodup (hnames : (arrivals.map (·.name)).Nodup) {source : AuxiliarySource}
    (hsource : source ∈ arrivals) : loaded? source.name arrivals = source.outcome.dataset? := by
  obtain ⟨last, hlast, hfound, hname⟩ := exists_lastNamed? hsource
  have heq : last = source := List.inj_on_of_nodup_map hnames hlast hsource hname
  rw [loaded?, hfound, heq]
  rfl

/-- A dataset is found under the first source of its name. -/
theorem find?_filterMap_datasetOf? (name : String)
    (hok : ∀ source ∈ arrivals, ∃ data, source.outcome = .ok data) :
    Named.find? name (arrivals.filterMap datasetOf?) =
      (arrivals.find? (·.name = name)).bind (·.outcome.dataset?) := by
  induction arrivals with
  | nil => rfl
  | cons source rest ih =>
    obtain ⟨⟨data, hdata⟩, hrest⟩ := List.forall_mem_cons.1 hok
    rw [List.filterMap_cons_some (datasetOf?_of_ok hdata), Named.find?]
    by_cases hname : source.name = name
    · rw [if_pos hname, List.find?_cons_of_pos (by simp [hname]), Option.bind_some, hdata]
      rfl
    · rw [if_neg hname, List.find?_cons_of_neg (by simp [hname]), ih hrest]

/-- Datasets of one name are stored in the order of their arrival, so that the last one counts. -/
theorem find?_reverse_datasets (name : String)
    (hok : ∀ source ∈ arrivals, ∃ data, source.outcome = .ok data) :
    Named.find? name (datasets arrivals).reverse = loaded? name arrivals := by
  have hstable : (datasets arrivals).filter (·.1 = name) =
      (arrivals.filterMap datasetOf?).filter (·.1 = name) := filter_sortBy Prod.fst name _
  rw [← Named.find?_filter, List.filter_reverse, hstable, ← List.filter_reverse, Named.find?_filter,
    ← List.filterMap_reverse]
  exact find?_filterMap_datasetOf? name fun source hsource => hok source (List.mem_reverse.1 hsource)

/-- Storing merges the datasets into those that are there. -/
theorem store_eq (context : Context) (datasets : List (String × Dataset)) :
    store context datasets = { context with auxiliary := context.auxiliary.merge datasets } := by
  induction datasets generalizing context with
  | nil => rfl
  | cons entry rest ih => exact ih (context.addAuxiliary entry.1 entry.2)

/-- A name that is loaded gives the new dataset, and every other name what it gave before. -/
theorem auxiliary?_store (context : Context) (name : String)
    (hok : ∀ source ∈ arrivals, ∃ data, source.outcome = .ok data) :
    (store context (datasets arrivals)).auxiliary? name =
      (loaded? name arrivals).or (context.auxiliary? name) := by
  rw [store_eq, Context.auxiliary?, Named.get?_merge, find?_reverse_datasets name hok]
  rfl

/-- The number of rows of each dataset. -/
def rowCounts (datasets : List (String × Dataset)) : List (String × Json) :=
  datasets.map fun entry => (entry.1, .int entry.2.rows)

/-- The result counts the rows of each dataset under its name. -/
theorem result_eq (step : String) (datasets : List (String × Dataset)) :
    result step datasets =
      { StepResult.success step s!"Loaded {datasets.length} auxiliary datasets" with
        metadata := (∅ : Named Json).merge (rowCounts datasets) } := by
  -- the entries are added to those of the result so far
  have hadd : ∀ (more : List (String × Dataset)) (result : StepResult),
      more.foldl (fun result entry => result.withMetadata entry.1 (.int entry.2.rows)) result =
        { result with metadata := result.metadata.merge (rowCounts more) } := by
    intro more
    induction more with
    | nil => exact fun _ => rfl
    | cons entry rest ih => exact fun result => ih (result.withMetadata entry.1 (.int entry.2.rows))
  exact hadd datasets _

/-- The metadata has the rows of what is loaded, name by name. -/
theorem metadata_result (step name : String)
    (hok : ∀ source ∈ arrivals, ∃ data, source.outcome = .ok data) :
    (result step (datasets arrivals)).metadata.get? name =
      (loaded? name arrivals).map (.int ·.rows) := by
  have hrows := Named.find?_map (fun data : Dataset => Json.int data.rows) name
    (datasets arrivals).reverse
  rw [result_eq, Named.get?_merge, rowCounts, ← List.map_reverse, hrows,
    find?_reverse_datasets name hok, Named.get?_empty, Option.or_none]

/-- If all sources have a dataset, there are as many datasets as sources. -/
theorem length_datasets (hok : ∀ source ∈ arrivals, ∃ data, source.outcome = .ok data) :
    (datasets arrivals).length = arrivals.length := by
  rw [datasets, length_sortBy, List.length_filterMap_eq_countP, List.countP_eq_length]
  intro source hsource
  obtain ⟨data, hdata⟩ := hok source hsource
  rw [datasetOf?_of_ok hdata]
  rfl

end Storing

section Conclusion

variable (load : AuxiliaryLoad) {arrivals : List AuxiliarySource} (context : Context)

/-- If all sources have a dataset, they are stored. -/
theorem conclude_of_ok (hok : ∀ source ∈ arrivals, ∃ data, source.outcome = .ok data) :
    load.conclude arrivals context =
      ⟨store context (datasets arrivals), .returned (result load.name (datasets arrivals)), []⟩ := by
  unfold conclude
  rw [failures_eq_nil_iff.2 hok]

/-- If one source has none, the context stays as it is and all failures are told. -/
theorem conclude_of_failures (hfailed : failures arrivals ≠ []) :
    load.conclude arrivals context =
      ⟨context, .failed (failure load.sources.length (failures arrivals)), []⟩ := by
  unfold conclude
  split
  · rename_i hnil
    exact absurd hnil hfailed
  · rfl

/-- Every source has its dataset stored, the last to arrive if others have its name, and nothing else
changes. -/
structure Stores (arrivals : List AuxiliarySource) (before after : Context) : Prop where
  loaded : ∀ source ∈ load.sources, ∃ data, source.outcome = .ok data
  stored : ∀ source ∈ load.sources, ∃ last ∈ load.sources,
    lastNamed? source.name arrivals = some last ∧ last.name = source.name ∧
    after.auxiliary? source.name = last.outcome.dataset?
  single : (load.sources.map (·.name)).Nodup →
    ∀ source ∈ load.sources, after.auxiliary? source.name = source.outcome.dataset?
  others : ∀ name ∉ load.sources.map (·.name), after.auxiliary? name = before.auxiliary? name
  rest : after = { before with auxiliary := after.auxiliary }

/-- The order of arrival plays no part in what is stored. -/
theorem stores_store (harrivals : arrivals.Perm load.sources)
    (hok : ∀ source ∈ arrivals, ∃ data, source.outcome = .ok data) :
    load.Stores arrivals context (store context (datasets arrivals)) where
  loaded source hsource := hok source (harrivals.mem_iff.2 hsource)
  stored := by
    intro source hsource
    obtain ⟨last, hlast, hfound, hname⟩ := exists_lastNamed? (harrivals.mem_iff.2 hsource)
    obtain ⟨data, hdata⟩ := hok last hlast
    refine ⟨last, harrivals.mem_iff.1 hlast, hfound, hname, ?_⟩
    rw [auxiliary?_store context source.name hok, loaded?, hfound, Option.bind_some, hdata]
    rfl
  single := by
    intro hnames source hsource
    have hnames : (arrivals.map (·.name)).Nodup := (harrivals.map _).nodup_iff.2 hnames
    have hsource : source ∈ arrivals := harrivals.mem_iff.2 hsource
    obtain ⟨data, hdata⟩ := hok source hsource
    rw [auxiliary?_store context source.name hok, loaded?_of_nodup hnames hsource, hdata]
    rfl
  others := by
    intro name hname
    have hnone : loaded? name arrivals = none :=
      loaded?_of_not_mem fun hmem => hname ((harrivals.map _).mem_iff.1 hmem)
    rw [auxiliary?_store context name hok, hnone, Option.none_or]
  rest := by rw [store_eq]

/-- What is left and reported where all sources have been loaded: the result counts the rows of each
under its name, and each is found in the context, where only these names are new. -/
structure Loaded (before after : Context) (result : StepResult) : Prop where
  status : result.status = .success
  message : result.message = s!"Loaded {load.sources.length} auxiliary datasets"
  error : result.error = none
  stored : ∀ source ∈ load.sources, ∃ data, source.outcome = .ok data ∧
    after.auxiliary? source.name = some data ∧
    result.metadata.get? source.name = some (.int data.rows)
  others : ∀ name ∉ load.sources.map (·.name),
    after.auxiliary? name = before.auxiliary? name ∧ result.metadata.get? name = none
  rest : after = { before with auxiliary := after.auxiliary }

/-- What is left and reported where some sources have not been loaded: the context is as it was, and the
message tells all failures in ascending order, whichever came first. -/
structure Refused (before after : Context) (result : StepResult) : Prop where
  status : result.status = .failed
  message : ∃ texts : List String, texts.Perm (load.sources.filterMap failureOf?) ∧
    texts.Pairwise (· ≤ ·) ∧
    result.message =
      s!"{texts.length} of {load.sources.length} auxiliary datasets failed to load: " ++
        "; ".intercalate texts
  error : result.error = some result.message
  metadata : result.metadata = ∅
  context : after = before

variable {context}

/-- With all sources at hand, each is found under its name afterwards and the result counts them. -/
theorem loaded_conclude (hnames : (load.sources.map (·.name)).Nodup)
    (harrivals : arrivals.Perm load.sources)
    (hok : ∀ source ∈ load.sources, ∃ data, source.outcome = .ok data) :
    let execution := load.conclude arrivals context
    load.Loaded context execution.context (execution.ending.result load.name) := by
  have hnames' : (arrivals.map (·.name)).Nodup := (harrivals.map _).nodup_iff.2 hnames
  have hok' : ∀ source ∈ arrivals, ∃ data, source.outcome = .ok data :=
    fun source hsource => hok source (harrivals.mem_iff.1 hsource)
  rw [load.conclude_of_ok context hok']
  dsimp only [Ending.result]
  -- distinct names leave nothing for the order of arrival to decide
  have hstores := load.stores_store context harrivals hok'
  have hlength : (datasets arrivals).length = load.sources.length := by
    rw [length_datasets hok', harrivals.length_eq]
  exact {
    status := by rw [result_eq]; rfl
    message := by rw [result_eq, hlength]; rfl
    error := by rw [result_eq]; rfl
    stored := by
      intro source hsource
      obtain ⟨data, hdata⟩ := hok source hsource
      refine ⟨data, hdata, (hstores.single hnames source hsource).trans ?_, ?_⟩
      · rw [hdata]
        rfl
      · rw [metadata_result load.name source.name hok',
          loaded?_of_nodup hnames' (harrivals.mem_iff.2 hsource), hdata]
        rfl
    others := by
      intro name hname
      have hnone : loaded? name arrivals = none :=
        loaded?_of_not_mem fun hmem => hname ((harrivals.map _).mem_iff.1 hmem)
      refine ⟨hstores.others name hname, ?_⟩
      rw [metadata_result load.name name hok', hnone]
      rfl
    rest := hstores.rest }

/-- With one source failing, nothing is stored, and the failures are told in the same order however they
came. -/
theorem refused_conclude (harrivals : arrivals.Perm load.sources)
    (hfailed : ∃ source ∈ load.sources, ∀ data, source.outcome ≠ .ok data) :
    let execution := load.conclude arrivals context
    load.Refused context execution.context (execution.ending.result load.name) := by
  have hfailures : failures arrivals ≠ [] := by
    rw [Ne, failures_eq_nil_iff]
    intro hok
    obtain ⟨source, hsource, hnone⟩ := hfailed
    obtain ⟨data, hdata⟩ := hok source (harrivals.mem_iff.2 hsource)
    exact hnone data hdata
  rw [load.conclude_of_failures context hfailures]
  exact {
    status := rfl
    message := by
      refine ⟨failures arrivals, ?_, pairwise_failures arrivals, rfl⟩
      exact (failures_perm arrivals).trans (harrivals.filterMap failureOf?)
    error := rfl
    metadata := rfl
    context := rfl }

end Conclusion

/-- In whatever order the sources arrive, the outcome is the same: all of them are loaded if none has
failed, and otherwise nothing is, and each failure is told. -/
theorem conclude_of_perm (load : AuxiliaryLoad) (hnames : (load.sources.map (·.name)).Nodup)
    (context : Context) {arrivals : List AuxiliarySource} (harrivals : arrivals.Perm load.sources) :
    let execution := load.conclude arrivals context
    let result := execution.ending.result load.name
    execution = load.conclude load.sources context ∧
    ((∀ source ∈ load.sources, ∃ data, source.outcome = .ok data) →
      load.Loaded context execution.context result) ∧
    ((∃ source ∈ load.sources, ∀ data, source.outcome ≠ .ok data) →
      load.Refused context execution.context result) := by
  intro execution result
  have hnames' : (arrivals.map (·.name)).Nodup := (harrivals.map _).nodup_iff.2 hnames
  refine ⟨?_, load.loaded_conclude hnames harrivals, load.refused_conclude harrivals⟩
  simp only [execution, conclude, failures_of_perm harrivals, datasets_of_perm harrivals hnames']

/-- Four sources, of which two have the same outcome. -/
def references (outcome last : LoadOutcome) : AuxiliaryLoad :=
  { name := "references"
    sources := [⟨"liabilities", outcome⟩, ⟨"accounts", .ok ⟨2, ⟨⟨[]⟩⟩⟩⟩, ⟨"closing_list", outcome⟩,
      ⟨"history", last⟩] }

/-- Arriving the other way round, two failures are told in the order of the names, before a task that was
broken off, and four datasets are stored. -/
theorem conclude_of_perm_references :
    let context := Context.start ⟨0, ⟨⟨[]⟩⟩⟩ "spx" 202501 .order
    let failing := references (.error ⟨"not found", ["no such file"]⟩) (.aborted "task 7 panicked")
    let sound := references (.ok ⟨3, ⟨⟨[]⟩⟩⟩) (.ok ⟨0, ⟨⟨[]⟩⟩⟩)
    let failed := failing.conclude failing.sources.reverse context
    let loaded := sound.conclude sound.sources.reverse context
    (failing.sources.map (·.name)).Nodup ∧ failing.sources.reverse.Perm failing.sources ∧
    (failed.ending.result failing.name).message =
      "3 of 4 auxiliary datasets failed to load: " ++
        "closing_list: not found: no such file; liabilities: not found: no such file; " ++
        "loader task aborted: task 7 panicked" ∧
    failed.context.auxiliaryNames = [] ∧
    (∀ source ∈ sound.sources, (loaded.context.auxiliary? source.name).isSome = true) ∧
    (loaded.ending.result sound.name).metadata.get? "accounts" = some (.int 2) := by
  intro context failing sound failed loaded
  have hnames : (failing.sources.map (·.name)).Nodup := by decide
  have hfailing := List.reverse_perm failing.sources
  obtain ⟨hsame, _, _⟩ := conclude_of_perm failing hnames context hfailing
  obtain ⟨_, hloaded, _⟩ := conclude_of_perm sound hnames context (List.reverse_perm sound.sources)
  have hsound : ∀ source ∈ sound.sources, ∃ data, source.outcome = .ok data := by
    simp [sound, references]
  have hstored := (hloaded hsound).stored
  refine ⟨hnames, hfailing, ?_, ?_, ?_, ?_⟩
  · simp only [failed, hsame]
    decide
  · simp only [failed, hsame]
    rfl
  · intro source hsource
    obtain ⟨data, _, hauxiliary, _⟩ := hstored source hsource
    rw [hauxiliary]
    rfl
  · obtain ⟨data, hdata, _, hrows⟩ := hstored ⟨"accounts", .ok ⟨2, ⟨⟨[]⟩⟩⟩⟩ (by simp [sound, references])
    cases hdata
    exact hrows

end AuxiliaryLoad

end PurchaseStatus
