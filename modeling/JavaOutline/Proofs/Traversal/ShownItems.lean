import JavaOutline.Proofs.Analysis.FrozenResult
import JavaOutline.Proofs.Scope.Report
import JavaOutline.Proofs.Traversal.FirstFailure

/-!
# Where the items of an outline come from

A report shows headers and facts, and every one of them was called for by the script of a visited
node, but for the header of the file. A property of items is therefore established script by script:
a visit keeps it of all scopes, so visits in a row keep it, and freezing does not matter. What the
scripts of all visited nodes show has a property, then, makes the items of the whole outline have it.
-/

namespace JavaOutline

/-! ## Items of a script -/

/-- What a step adds to a report; a note adds nothing. -/
def Step.item? : Step → Option ReportItem
  | enter header => some (.header header)
  | record fact => some (.fact fact)
  | note _ => none

namespace Script

/-- What the steps of a script add to a report. -/
def items (script : Script) : List ReportItem :=
  script.steps.filterMap Step.item?

/-- The facts of a script are among its items. -/
theorem fact_mem_items {script : Script} {fact : Fact} (h : fact ∈ script.facts) :
    .fact fact ∈ script.items := by
  obtain ⟨step, hstep, hrecords⟩ := List.mem_filterMap.mp h
  refine List.mem_filterMap.mpr ⟨step, hstep, ?_⟩
  cases step with
  | record recorded => cases hrecords; rfl
  | enter | note => cases hrecords

/-- The headers of a script are among its items. -/
theorem header_mem_items {script : Script} {header : Header} (h : header ∈ script.headers) :
    .header header ∈ script.items := by
  obtain ⟨step, hstep, hopens⟩ := List.mem_filterMap.mp h
  refine List.mem_filterMap.mpr ⟨step, hstep, ?_⟩
  cases step with
  | enter opened => cases hopens; rfl
  | record | note => cases hopens

end Script

/-! ## Items of contents -/

namespace Contents

/-- Recording a fact adds one item. -/
theorem mem_items_record {contents : Contents} {fact : Fact} {item : ReportItem} :
    item ∈ (contents.record fact).items ↔ item ∈ contents.items ∨ item = .fact fact := by
  cases fact <;> simp [record, items, or_comm, or_left_comm]

/-- Recording facts adds them to the items. -/
theorem mem_items_recordAll {contents : Contents} {facts : List Fact} {item : ReportItem} :
    item ∈ (contents.recordAll facts).items ↔
      item ∈ contents.items ∨ ∃ fact ∈ facts, item = .fact fact := by
  induction facts generalizing contents with
  | nil => simp [recordAll]
  | cons fact facts ih =>
    rw [recordAll, List.foldl_cons, ← recordAll, ih, mem_items_record, or_assoc]
    simp

/-- A scope just opened has its header for its only item. -/
theorem items_fresh (header : Header) : (fresh header).items = [.header header] := by
  simp [fresh, items]

end Contents

/-! ## Items of a store -/

namespace Store

variable {P : ReportItem → Prop} {store : Store}

/-- Every item of every scope has a property. A number that is not in the store stands for an empty
file here, as it does elsewhere. -/
def Shows (P : ReportItem → Prop) (store : Store) : Prop :=
  ∀ id, ∀ item ∈ (store.contentsOf id).items, P item

/-- What is said of all slots is said of all numbers. -/
theorem shows_iff : store.Shows P ↔
    P (.header .file) ∧
      ∀ (id : Nat) (slot : Slot), store.slots[id]? = some slot →
        ∀ item ∈ slot.contents.items, P item := by
  constructor
  · intro hstore
    refine ⟨?_, fun id slot hslot => ?_⟩
    · have hbeyond := hstore store.size
      rw [contentsOf, contents?, size, Array.getElem?_size] at hbeyond
      exact hbeyond _ (by simp [Contents.items_fresh])
    · have hid := hstore id
      rw [contentsOf, contents?, hslot] at hid
      exact hid
  · intro h id
    rw [contentsOf, contents?]
    cases hslot : store.slots[id]? with
    | none => simpa [Contents.items_fresh] using h.1
    | some slot => exact h.2 id slot hslot

/-- A store with a file for its root shows the file. -/
theorem shows_ofRoot_file (hfile : P (.header .file)) : (Store.ofRoot .file).Shows P := by
  intro id
  have hcontents : (Store.ofRoot .file).contentsOf id = .fresh .file := by
    cases id <;> rfl
  rw [hcontents, Contents.items_fresh]
  exact List.forall_mem_singleton.mpr hfile

/-- An extension by facts and scopes that have the property keeps it. -/
theorem Shows.extend (hstore : store.Shows P) (id : Nat) {facts : List Fact}
    {headers : List Header} (hfacts : ∀ fact ∈ facts, P (.fact fact))
    (hheaders : ∀ header ∈ headers, P (.header header)) :
    (store.extend id facts headers).Shows P := by
  obtain ⟨hfile, hslots⟩ := shows_iff.mp hstore
  refine shows_iff.mpr ⟨hfile, fun other slot hslot item hitem => ?_⟩
  rw [getElem?_extend] at hslot
  split at hslot
  · obtain ⟨old, hold, rfl⟩ := Option.map_eq_some_iff.mp hslot
    split at hitem
    · rw [Slot.add, Contents.mem_items_recordAll] at hitem
      rcases hitem with hitem | ⟨fact, hfact, rfl⟩
      · exact hslots other old hold item hitem
      · exact hfacts fact hfact
    · exact hslots other old hold item hitem
  · obtain ⟨header, hheader, rfl⟩ := Option.map_eq_some_iff.mp hslot
    rw [Slot.fresh, Contents.items_fresh, List.mem_singleton] at hitem
    rw [hitem]
    exact hheaders header (List.mem_of_getElem? hheader)

/-- Freezing keeps the property. -/
theorem Shows.freeze (hstore : store.Shows P) (id : Nat) : (store.freeze id).Shows P := by
  obtain ⟨hfile, hslots⟩ := shows_iff.mp hstore
  refine shows_iff.mpr ⟨hfile, fun other slot hslot => ?_⟩
  rw [getElem?_freeze] at hslot
  obtain ⟨old, hold, rfl⟩ := Option.map_eq_some_iff.mp hslot
  -- the mark of a frozen scope is no part of its items
  split
  · exact hslots other old hold
  · exact hslots other old hold

/-- The report of a scope shows items of the store. -/
theorem Shows.reportItems (hstore : store.Shows P) (id : Nat) :
    ∀ entry ∈ Scope.reportItems (store.scope id), P entry.2 := by
  intro entry hentry
  obtain ⟨⟨depth, contents⟩, houtline, hmem⟩ := List.mem_flatMap.mp hentry
  obtain ⟨item, hitem, rfl⟩ := List.mem_map.mp hmem
  have hlabel : contents ∈ (store.scope id).walk.map Tree.label := by
    rw [Tree.walk_eq_subtrees, ← Tree.map_snd_outline 0]
    exact List.mem_map_of_mem houtline
  rw [map_label_walk_scope] at hlabel
  obtain ⟨below, _, rfl⟩ := List.mem_map.mp hlabel
  exact hstore below item hitem

end Store

/-! ## Items of an analysis -/

section

variable {P : ReportItem → Prop}

/-- Visits whose scripts show only what has the property keep it. -/
theorem Progress.shows_afterEach {source : SourceText} {visits : List Visit} {progress : Progress}
    (hstore : progress.store.Shows P)
    (hscripts : ∀ visit ∈ visits, ∀ item ∈ (scriptOf source visit.tree).items, P item) :
    (progress.afterEach source visits).store.Shows P := by
  induction visits generalizing progress with
  | nil => exact hstore
  | cons visit visits ih =>
    rw [List.forall_mem_cons] at hscripts
    have hvisit : (progress.after visit.scope (scriptOf source visit.tree)).store.Shows P :=
      hstore.extend visit.scope
        (fun _ hfact => hscripts.1 _ (Script.fact_mem_items hfact))
        (fun _ hheader => hscripts.1 _ (Script.header_mem_items hheader))
    exact ih hvisit hscripts.2

/-- What an analysis reports is the file or was called for by a visited node: a property of the one
and of all items of the other holds of every item. -/
theorem forall_reportItems_of_analyze {parser : Parser} {source : String} {scope : Scope}
    (hok : (analyze (.available parser) source).1 = .ok scope) (hfile : P (.header .file))
    (hscripts : ∀ address node, IsVisited (parser source).root address node →
      ∀ item ∈ (scriptOf (.ofString source) node).items, P item) :
    ∀ entry ∈ Scope.reportItems scope, P entry.2 := by
  have hopen := Store.isOpen_ofRoot .file
  cases hfill : fill (.ofString source) (parser source).root (.ofRoot .file) 0 with
  | mk progress failure? =>
    cases failure? with
    | some failure =>
      rw [analyze_of_fill_eq_some hfill] at hok
      cases hok
    | none =>
      rw [analyze_of_fill_eq_none hfill] at hok
      cases hok
      have hsucceeds := succeeds_of_fill hopen (congrArg Prod.snd hfill)
      rw [(fill_of_all_succeed hopen hsucceeds).1, Prod.mk.injEq] at hfill
      rw [← hfill.1]
      refine Store.Shows.reportItems (Store.Shows.freeze ?_ 0) 0
      refine Progress.shows_afterEach (Store.shows_ofRoot_file hfile) fun visit hmem => ?_
      exact hscripts _ _ (isVisited_of_mem_visitsOf [] 0 _ _ .root visit hmem)

end

end JavaOutline
