import JavaOutline.Analysis
import JavaOutline.Proofs.Traversal.Calls
import JavaOutline.Proofs.Traversal.Changes
import JavaOutline.Proofs.Traversal.Nesting

/-!
# The journal is faithful

A traversal that starts in an open scope has at all times made exactly the changes that its journal
notes, in the same order: each visit adds the changes of its node to both, also the visit that fails.
The changes are those of the handled nodes, in preorder. Since a scope is opened when its node is
visited, the new scopes are numbered in the order in which a walk meets them, and this holds of every
first part of the visits as well. So the notes of opened scopes follow the walk, whether or not the
traversal got to its end.
-/

namespace JavaOutline

/-- The changes that a visit makes. -/
def Visit.changes (source : SourceText) (visit : Visit) : List Change :=
  (scriptOf source visit.tree).changes visit.scope

/-- What was done since a store are some changes, none of them refused, and the journal notes each
of them. -/
structure Journals (store : Store) (changes : List Change) (progress : Progress) : Prop where
  journal_eq : progress.journal = changes.map Change.note
  store_eq : progress.store = store.run (changes.map Change.call)
  accepts : store.Accepts (changes.map Change.call)

section

variable {source : SourceText} {store : Store} {scope : Nat} {tree : SyntaxTree}
  {changes : List Change} {progress : Progress}

/-- A visit in an open scope notes the changes that it makes. -/
theorem Journals.after (hjournals : Journals store changes progress)
    (hopen : progress.store.IsOpen scope) (source : SourceText) (tree : SyntaxTree) :
    Journals store (changes ++ (scriptOf source tree).changes scope)
      (progress.after scope (scriptOf source tree)) := by
  have hfile := (scriptOf_callsFor source tree).file_not_mem_headers
  obtain ⟨hrun, haccepts⟩ := Store.run_changes_of_isOpen hopen hfile
  rw [hjournals.store_eq] at hrun haccepts
  refine ⟨?_, ?_, ?_⟩
  · rw [Progress.after, hjournals.journal_eq, List.map_append,
      scriptOf_isFaithful source tree scope]
  · rw [List.map_append, Store.run_append, Progress.after, hjournals.store_eq]
    exact hrun.symm
  · rw [List.map_append]
    exact hjournals.accepts.append haccepts

/-- Visits note the changes that they make, up to the first that fails and including it. -/
theorem Journals.visitEach {start first : Nat} {visits : List Visit}
    (hjournals : Journals store changes progress) (hready : progress.Ready start first)
    (hreach : InReach start first progress.store.size visits) :
    Journals store
      (changes ++ (Progress.reached source visits progress).flatMap (Visit.changes source))
      (Progress.visitEach source visits progress).1 := by
  induction visits generalizing progress changes with
  | nil => simpa [Progress.reached, Progress.visitEach] using hjournals
  | cons visit visits ih =>
    have hopen := hready visit.scope hreach.1
    have hvisit := Progress.visit_of_isOpen hopen source visit.tree
    have hafter := hjournals.after hopen source visit.tree
    rw [Progress.visitEach, Progress.reached]
    cases hending : (scriptOf source visit.tree).ending with
    | error failure =>
      rw [hending] at hvisit
      rw [hvisit]
      simpa [Visit.changes] using hafter
    | ok descent =>
      have hok : Succeeds source visit.tree := ⟨descent, hending⟩
      have hreach' := hreach.2
      rw [Visit.opens, ← Progress.size_after_of_succeeds hok progress visit.scope] at hreach'
      have hrest := ih hafter (hready.after visit.scope (scriptOf source visit.tree)) hreach'
      rw [hending] at hvisit
      rw [hvisit]
      rw [List.append_assoc] at hrest
      exact hrest

/-- Filling an open scope makes the changes of the nodes that it handles and notes each of them. -/
theorem journals_fill (hopen : store.IsOpen scope) (source : SourceText) (tree : SyntaxTree) :
    Journals store ((handledBy source tree store scope).flatMap (Visit.changes source))
      (fill source tree store scope).1 := by
  have hstart : Journals store [] ⟨store, []⟩ :=
    ⟨rfl, rfl, by simp [Store.Accepts, Store.transcript]⟩
  rw [fill_eq_visitEach_visitsOf, handledBy_eq]
  exact hstart.visitEach (hopen.ready []) (visitsOf_inReach [] scope store.size tree)

/-! ## The walk over new scopes -/

/-- Visits that all succeed add to the children of a scope those that they open in it. -/
theorem Progress.childrenOf_afterEach {start first : Nat} {visits : List Visit}
    (hready : progress.Ready start first) (hreach : InReach start first progress.store.size visits)
    (hok : ∀ visit ∈ visits, Succeeds source visit.tree) (id : Nat) :
    (progress.afterEach source visits).store.childrenOf id =
      progress.store.childrenOf id ++ scopesOpenedIn progress.store.size visits id := by
  induction visits generalizing progress with
  | nil => exact (List.append_nil _).symm
  | cons visit visits ih =>
    rw [List.forall_mem_cons] at hok
    have hsize := size_after_of_succeeds hok.1 progress visit.scope
    have hreach' := hreach.2
    rw [Visit.opens, ← hsize] at hreach'
    have hscope := (hready visit.scope hreach.1).lt_size
    have hrest := ih (hready.after visit.scope (scriptOf source visit.tree)) hreach' hok.2
    have hfirst : (progress.after visit.scope (scriptOf source visit.tree)).store.childrenOf id =
        progress.store.childrenOf id ++
          if visit.scope = id then List.range' progress.store.size visit.opens.toNat else [] := by
      rw [after, Store.childrenOf_extend, hok.1.length_headers, Visit.opens]
      by_cases hid : visit.scope = id
      · subst hid
        rw [if_pos ⟨rfl, hscope⟩, if_pos rfl]
      · rw [if_neg fun h => hid h.1.symm, if_neg hid, List.append_nil]
    rw [scopesOpenedIn_cons, ← List.append_assoc, ← hfirst, Visit.opens, ← hsize]
    exact hrest

/-- Filling an open scope opens what the first of its visits open, each in its place. -/
theorem exists_childrenOf_fill (hopen : store.IsOpen scope) (source : SourceText)
    (tree : SyntaxTree) :
    ∃ count,
      (fill source tree store scope).1.store.size = store.size +
        (openings ((visitsOf [] scope store.size tree).take count)).length ∧
      ∀ id, (fill source tree store scope).1.store.childrenOf id = store.childrenOf id ++
        scopesOpenedIn store.size ((visitsOf [] scope store.size tree).take count) id := by
  have hready := hopen.ready []
  have hreach := visitsOf_inReach [] scope store.size tree
  rcases all_succeed_or_first_fails source (visitsOf [] scope store.size tree) with
    hok | ⟨before, visit, later, failure, hsplit, hbefore, hfails⟩
  · refine ⟨(visitsOf [] scope store.size tree).length, ?_⟩
    rw [(fill_of_all_succeed hopen hok).1, List.take_length]
    exact ⟨Progress.size_afterEach_of_succeeds hok _,
      Progress.childrenOf_afterEach hready hreach hok⟩
  · refine ⟨before.length, ?_⟩
    have hheaders := (scriptOf_callsFor source visit.tree).headers_of_error hfails
    rw [(fill_of_first_fails hopen hsplit hbefore hfails).1, hsplit, List.take_left]
    rw [hsplit, inReach_append] at hreach
    refine ⟨?_, fun id => ?_⟩
    · rw [Progress.after, hheaders, Store.size_extend]
      exact Progress.size_afterEach_of_succeeds hbefore _
    · rw [Progress.after, hheaders, Store.childrenOf_extend]
      rw [← Progress.childrenOf_afterEach hready hreach.1 hbefore id]
      split
      · rename_i hscope
        rw [hscope.1]
        exact List.append_nil _
      · rfl

/-- What an old child of a filled scope reaches was there before. -/
theorem lt_size_of_reaches_old (hstore : store.IsForest) {later : Store} {visits : List Visit}
    (hreach : InReach scope store.size store.size visits)
    (hchildren : ∀ id, later.childrenOf id =
      store.childrenOf id ++ scopesOpenedIn store.size visits id)
    {child below : Nat} (hchild : store.IsChild scope child) (hbelow : later.Reaches child below) :
    scope < below ∧ below < store.size := by
  induction hbelow with
  | refl => exact ⟨hstore.lt_child hchild, hstore.child_lt_size hchild⟩
  | @tail parent last _ hlast ih =>
    -- nothing is opened in an old scope other than the filled one
    have hnone : scopesOpenedIn store.size visits parent = [] := by
      apply scopesOpenedIn_eq_nil
      intro visit hmem hparent
      have hscope := hreach.scope_of_mem hmem
      omega
    rw [Store.IsChild, hchildren, hnone, List.append_nil] at hlast
    have hlt := hstore.lt_child hlast
    exact ⟨by omega, hstore.child_lt_size hlast⟩

/-- A walk over a filled scope meets the new scopes in the order of their numbers. -/
theorem filter_walk_fill (hstore : store.WellFormed) (hopen : store.IsOpen scope)
    (source : SourceText) (tree : SyntaxTree) :
    ((fill source tree store scope).1.store.walk scope).filter (store.size ≤ ·) =
      List.range' store.size ((fill source tree store scope).1.store.size - store.size) := by
  obtain ⟨count, hsize, hchildren⟩ := exists_childrenOf_fill hopen source tree
  have hforest := (hstore.fill source tree scope).toIsForest
  generalize (fill source tree store scope).1.store = later at hsize hchildren hforest ⊢
  have hreach := (visitsOf_inReach [] scope store.size tree).take count
  have hscope := hopen.lt_size
  obtain ⟨levels, hlevels⟩ : ∃ levels, later.size = levels + 1 := ⟨later.size - 1, by omega⟩
  have hnew := preorder_take_visitsOf later [] scope store.size levels count tree hscope
    (fun id hid _ => by rw [hchildren, Store.childrenOf_eq_nil hid, List.nil_append]) (by omega)
  have hold : ((store.childrenOf scope).flatMap (later.preorder levels)).filter (store.size ≤ ·) =
      [] := by
    rw [List.filter_eq_nil_iff]
    intro below hbelow
    obtain ⟨child, hchild, hbelow⟩ := List.mem_flatMap.mp hbelow
    have hlater : later.IsChild scope child := by
      rw [Store.IsChild, hchildren]
      exact List.mem_append_left _ hchild
    rw [hforest.mem_preorder_iff (hforest.size_le_of_isChild (by omega) hlater)] at hbelow
    have hlt := (lt_size_of_reaches_old hstore.toIsForest hreach hchildren hchild hbelow).2
    simpa using hlt
  have hall (opened : Nat) : (List.range' store.size opened).filter (store.size ≤ ·) =
      List.range' store.size opened := by
    rw [List.filter_eq_self]
    intro id hid
    simpa using (List.mem_range'_1.mp hid).1
  rw [Store.walk_eq_preorder, hlevels, Store.preorder_succ, hchildren, List.flatMap_append, hnew,
    List.filter_cons_of_neg (by simpa using hscope), List.filter_append, hold, List.nil_append,
    hall, ← hlevels, hsize, Nat.add_sub_cancel_left]

end

/-- The journal is faithful, whatever calls have led to the store and however the traversal ends. Let
an open scope be filled. The log has one record for each change that was made, in the order of the
changes and with the note of each; the changes are calls on the store that were all accepted, and they
lead to the store that is left behind. The changes are those of the handled nodes, which come in
preorder. For each sort of change, the notes that start with the words for this sort are those of the
changes of this sort. The notes of opened scopes tell the kinds and names of the new scopes as a walk
from the filled scope meets them. -/
theorem journal_is_faithful (operations : List Operation) (source : SourceText)
    (tree : SyntaxTree) (scope : Nat) (hopen : (Store.empty.run operations).IsOpen scope) :
    let store := Store.empty.run operations
    let reached := (fill source tree store scope).1
    let visits := handledBy source tree store scope
    let changes := visits.flatMap (Visit.changes source)
    journalLog reached.journal =
        changes.map (fun change => ⟨.debug, .traversal, change.note⟩) ∧
      reached.store = store.run (changes.map Change.call) ∧
      (∀ call ∈ store.transcript (changes.map Change.call), ∀ error, call.2 ≠ .refused error) ∧
      (visits.Pairwise fun first second => first.address < second.address) ∧
      (∀ visit ∈ visits, IsVisited tree visit.address visit.tree) ∧
      (∀ sort : ChangeSort, reached.journal.filter (startsWith sort.words) =
        (changes.filter fun change => change.sort == sort).map Change.note) ∧
      reached.journal.filter (startsWith "Opened") =
        ((reached.store.walk scope).filter (store.size ≤ ·)).map fun id =>
          (reached.store.contentsOf id).header.note := by
  intro store reached visits changes
  have hstore : store.WellFormed := Store.wellFormed_empty.run operations
  have hjournals : Journals store changes reached := journals_fill hopen source tree
  have hhandled : visits <+: visitsOf [] scope store.size tree := by
    have hprefix := Progress.reached_prefix source (visitsOf [] scope store.size tree) ⟨store, []⟩
    rwa [← handledBy_eq] at hprefix
  have hsorts (sort : ChangeSort) : reached.journal.filter (startsWith sort.words) =
      (changes.filter fun change => change.sort == sort).map Change.note := by
    rw [hjournals.journal_eq]
    exact Change.filter_startsWith_map_note sort changes
  refine ⟨?_, hjournals.store_eq, hjournals.accepts, ?_, ?_, hsorts, ?_⟩
  · rw [journalLog, hjournals.journal_eq, List.map_map]
    rfl
  · exact (visitsOf_pairwise [] scope store.size tree).sublist hhandled.sublist
  · intro visit hmem
    exact isVisited_of_mem_visitsOf [] scope store.size tree .root visit (hhandled.mem hmem)
  · have hheaders := Store.map_header_run_changes hjournals.accepts
    rw [← hjournals.store_eq] at hheaders
    calc reached.journal.filter (startsWith "Opened")
        = (changes.filterMap Change.header?).map Header.note :=
          (hsorts .opening).trans (Change.map_note_filter_opening changes)
      _ = (List.range' store.size (reached.store.size - store.size)).map
            fun id => (reached.store.contentsOf id).header.note := by
          rw [← hheaders, List.map_map]
          rfl
      _ = ((reached.store.walk scope).filter (store.size ≤ ·)).map
            fun id => (reached.store.contentsOf id).header.note := by
          rw [filter_walk_fill hstore hopen]

/-- A field declaration that fails at its second declarator has noted the field of the first, and this
is the one change that it has made. -/
theorem journal_of_nameless_declarator :
    let store := Store.empty.run [.addRoot .file]
    let reached := fill namelessSource namelessDeclaration store 0
    let changes := (handledBy namelessSource namelessDeclaration store 0).flatMap
      (Visit.changes namelessSource)
    store.IsOpen 0 ∧ reached.2 = some blankFieldName ∧
      reached.1.journal = ["Recorded field default a: int"] ∧
      changes = [.recorded 0 (.field ⟨"default", "a", .plain "int"⟩)] ∧
      reached.1.store = store.run (changes.map Change.call) := by
  have hopen : (Store.empty.run [.addRoot .file]).IsOpen 0 := Store.isOpen_ofRoot .file
  obtain ⟨_, hrun, _⟩ :=
    journal_is_faithful [.addRoot .file] namelessSource namelessDeclaration 0 hopen
  exact ⟨hopen, by decide +kernel, by decide +kernel, by decide +kernel, hrun⟩

end JavaOutline
