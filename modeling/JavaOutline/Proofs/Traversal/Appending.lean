import JavaOutline.Proofs.Scope.Graft
import JavaOutline.Proofs.Traversal.Calls
import JavaOutline.Proofs.Traversal.FirstFailure

/-!
# Filling a scope only appends

What a traversal does in an open scope does not depend on what is in the scope or around it. It is
followed step by step by the traversal that fills a fresh root with the same header: both visit the
same nodes, note the same and fail alike, and the store is at all times the old store with the fresh
one grafted on at the scope. A frozen scope, on the other hand, lets no visit pass that has something
to record or to open, and a traversal that comes to such a visit stops there with the store as it was.
-/

namespace JavaOutline

/-- The script of a node records and opens nothing and does not fail. -/
def Passes (source : SourceText) (tree : SyntaxTree) : Prop :=
  (scriptOf source tree).facts = [] ∧ (scriptOf source tree).headers = [] ∧ Succeeds source tree

namespace Progress

variable {source : SourceText} {store : Store} {scope : Nat}

/-! ## Following a traversal of a fresh root -/

/-- The progress of a traversal of a fresh root, grafted onto a scope of another store. -/
def graft (store : Store) (scope : Nat) (progress : Progress) : Progress :=
  { progress with store := store.graft scope progress.store }

/-- The last scope that steps opened, under its new number. -/
theorem lastOpened_graft (store added : Store) (scope id count : Nat) (hadded : 0 < added.size) :
    lastOpened (graftedNumber scope store.size id) (store.graft scope added).size count =
      graftedNumber scope store.size (lastOpened id added.size count) := by
  cases count with
  | zero => rfl
  | succ count =>
    obtain ⟨size, hsize⟩ : ∃ size, added.size = size + 1 := ⟨added.size - 1, by omega⟩
    rw [Store.size_graft, hsize, Nat.add_sub_cancel]
    simp only [lastOpened, show size + 1 + count = size + count + 1 by omega, graftedNumber]
    omega

/-- A visit in a grafted scope is the visit in the fresh store, grafted. -/
theorem visit_graft (hopen : store.IsOpen scope) {progress : Progress} {id : Nat}
    (hid : progress.store.IsOpen id) (source : SourceText) (tree : SyntaxTree) :
    (progress.graft store scope).visit source (graftedNumber scope store.size id) tree =
      ((progress.visit source id tree).1.graft store scope, (progress.visit source id tree).2.1,
        graftedNumber scope store.size (progress.visit source id tree).2.2) := by
  have hgrafted : (progress.graft store scope).store.IsOpen (graftedNumber scope store.size id) :=
    hopen.graft hid
  have hextend := Store.extend_graft hopen.lt_size hid.lt_size (scriptOf source tree).facts
    (scriptOf source tree).headers
  have hroot : 0 < progress.store.size := Nat.lt_of_le_of_lt (Nat.zero_le id) hid.lt_size
  rw [visit_of_isOpen hgrafted, visit_of_isOpen hid]
  simp only [after, graft, hextend, lastOpened_graft store progress.store scope id _ hroot]

/-- What a descent leads to in grafted scopes. -/
theorem targets_graft (number : Nat → Nat) (id opened : Nat) (children : List SyntaxTree)
    (descent : Descent) :
    descent.targets (number id) (number opened) children =
      (descent.targets id opened children).map fun job => (number job.1, job.2) := by
  cases descent <;> simp [Descent.targets, Function.comp_def]

/-- A descent leads to the scope around or to the one that was opened. -/
theorem scope_of_mem_targets {id opened : Nat} {children : List SyntaxTree} {descent : Descent}
    {job : Nat × SyntaxTree} (hjob : job ∈ descent.targets id opened children) :
    job.1 = id ∨ job.1 = opened := by
  cases descent with
  | nowhere => cases hjob
  | around first =>
    obtain ⟨child, _, rfl⟩ := List.mem_map.mp hjob
    exact .inl rfl
  | inside first =>
    obtain ⟨child, _, rfl⟩ := List.mem_map.mp hjob
    exact .inr rfl

/-- A traversal of grafted scopes is the traversal in the fresh store, grafted. -/
theorem traverse_graft (hopen : store.IsOpen scope) (source : SourceText)
    (pending : List (Nat × SyntaxTree)) (progress : Progress) (hready : progress.Ready 0 1)
    (hpending : ∀ job ∈ pending, job.1 < progress.store.size) :
    traverse source (pending.map fun job => (graftedNumber scope store.size job.1, job.2))
        (progress.graft store scope) =
      ((traverse source pending progress).1.graft store scope,
        (traverse source pending progress).2) := by
  fun_induction traverse source pending progress with
  | case1 progress => rw [List.map_nil, traverse]
  | case2 id tree pending progress reached failure opened hvisit =>
    have hlt := hpending (id, tree) List.mem_cons_self
    have hid : progress.store.IsOpen id := hready id (by omega)
    rw [List.map_cons, traverse, visit_graft hopen hid, hvisit]
  | case3 id tree pending progress reached descent opened hvisit ih =>
    have hlt := hpending (id, tree) List.mem_cons_self
    have hid : progress.store.IsOpen id := hready id (by omega)
    obtain ⟨_, hreached, hsize, hopened⟩ := visit_eq_ok hvisit
    rw [List.map_cons, traverse, visit_graft hopen hid, hvisit]
    simp only [targets_graft]
    rw [← List.map_append]
    apply ih
    · rw [hreached]
      exact hready.after id (scriptOf source tree)
    · intro job hjob
      rw [hsize]
      rcases List.mem_append.mp hjob with hjob | hjob
      · rcases scope_of_mem_targets hjob with hscope | hscope
        · rw [hscope]
          exact Nat.lt_add_right _ hlt
        · rw [hscope, hopened]
          cases opensScope tree
          · exact hlt
          · exact Nat.lt_succ_self _
      · exact Nat.lt_add_right _ (hpending job (List.mem_cons_of_mem _ hjob))

/-! ## Frozen scopes -/

/-- Steps leave a store as it is in which their scope is frozen, and they are refused unless they
record and open nothing. -/
theorem perform_of_isFrozen {progress : Progress} (hfrozen : progress.store.IsFrozen scope)
    (steps : List Step) (opened : Nat) :
    (perform scope steps progress opened).1.store = progress.store ∧
      ((∃ last, (perform scope steps progress opened).2 = .ok last) ↔
        steps.filterMap Step.fact? = [] ∧ steps.filterMap Step.header? = []) := by
  induction steps generalizing progress with
  | nil => exact ⟨rfl, fun _ => ⟨rfl, rfl⟩, fun _ => ⟨opened, rfl⟩⟩
  | cons step steps ih =>
    cases step with
    | note message =>
      rw [perform]
      exact ih hfrozen
    | record fact =>
      obtain ⟨_, _, _, hrecords⟩ := hfrozen.refuses
      rw [perform, hrecords]
      simp [List.filterMap_cons, Step.fact?]
    | enter header =>
      obtain ⟨_, _, hopens, _⟩ := hfrozen.refuses
      rw [perform, hopens]
      simp [List.filterMap_cons, Step.header?]

/-- A visit leaves a store as it is in which its scope is frozen, and it passes only if it has
nothing to record and to open. -/
theorem visit_of_isFrozen {progress : Progress} (hfrozen : progress.store.IsFrozen scope)
    (source : SourceText) (tree : SyntaxTree) :
    (progress.visit source scope tree).1.store = progress.store ∧
      ((∃ descent, (progress.visit source scope tree).2.1 = .ok descent) ↔
        Passes source tree) := by
  obtain ⟨hstore, hpasses⟩ := perform_of_isFrozen hfrozen (scriptOf source tree).steps scope
  simp only [visit]
  generalize perform scope (scriptOf source tree).steps progress scope = performed at hstore hpasses
  obtain ⟨reached, error | last⟩ := performed
  · refine ⟨hstore, ?_, ?_⟩
    · rintro ⟨descent, hdescent⟩
      cases hdescent
    · rintro ⟨hfacts, hheaders, _⟩
      obtain ⟨last, hlast⟩ := hpasses.mpr ⟨hfacts, hheaders⟩
      cases hlast
  · refine ⟨hstore, fun hok => ?_, fun hpass => hpass.2.2⟩
    obtain ⟨hfacts, hheaders⟩ := hpasses.mp ⟨last, rfl⟩
    exact ⟨hfacts, hheaders, hok⟩

/-- Visits that start in a frozen scope leave the store as it is, and they get to their end exactly
if each of them passes. -/
theorem visitEach_of_isFrozen (source : SourceText) {visits : List Visit} {progress : Progress}
    (hfrozen : progress.store.IsFrozen scope)
    (hreach : InReach scope progress.store.size progress.store.size visits) :
    (visitEach source visits progress).1.store = progress.store ∧
      ((visitEach source visits progress).2 = none ↔
        ∀ visit ∈ visits, Passes source visit.tree) := by
  induction visits generalizing progress with
  | nil => exact ⟨rfl, by simp [visitEach]⟩
  | cons visit visits ih =>
    -- nothing was opened before this visit, so it takes place in the frozen scope itself
    obtain ⟨hscope, hrest⟩ := hreach
    obtain hscope : visit.scope = scope := by omega
    obtain ⟨hstore, hpasses⟩ := visit_of_isFrozen hfrozen source visit.tree
    rw [visitEach, hscope]
    cases hvisit : progress.visit source scope visit.tree with
    | mk reached ending =>
      obtain ⟨failure | descent, opened⟩ := ending
      · rw [hvisit] at hstore hpasses
        refine ⟨hstore, ?_, ?_⟩
        · intro hnone
          cases hnone
        · intro hall
          obtain ⟨descent, hdescent⟩ := hpasses.mpr (hall visit List.mem_cons_self)
          cases hdescent
      · rw [hvisit] at hstore hpasses
        have hpass := hpasses.mp ⟨descent, rfl⟩
        have hopens : visit.opens.toNat = 0 := by
          rw [Visit.opens, ← hpass.2.2.length_headers, hpass.2.1]
          rfl
        rw [hopens, Nat.add_zero, ← hstore] at hrest
        obtain ⟨hsame, hdone⟩ := ih (hfrozen.of_getElem?_eq (by rw [hstore])) hrest
        refine ⟨hsame.trans hstore, ?_⟩
        rw [hdone, List.forall_mem_cons]
        exact ⟨fun hall => ⟨hpass, hall⟩, fun hall => hall.2⟩

end Progress

section

variable {store : Store} {scope : Nat}

/-- Filling an open scope is filling a fresh root, grafted onto the scope. -/
theorem fill_eq_graft (hopen : store.IsOpen scope) (source : SourceText) (tree : SyntaxTree)
    (header : Header) :
    fill source tree store scope =
      ((fill source tree (.ofRoot header) 0).1.graft store scope,
        (fill source tree (.ofRoot header) 0).2) := by
  have hready : Progress.Ready 0 1 ⟨.ofRoot header, []⟩ := (Store.isOpen_ofRoot header).ready []
  have hgraft := Progress.traverse_graft hopen source [(0, tree)] ⟨.ofRoot header, []⟩ hready
    (by simp [Store.size, Store.ofRoot, Store.addRoot])
  rw [Progress.graft, Store.graft_ofRoot] at hgraft
  exact hgraft

/-- Filling a frozen scope leaves the store as it is, and it gets to its end exactly if every visited
node passes. -/
theorem fill_of_isFrozen (hfrozen : store.IsFrozen scope) (source : SourceText)
    (tree : SyntaxTree) :
    (fill source tree store scope).1.store = store ∧
      ((fill source tree store scope).2 = none ↔
        ∀ address node, IsVisited tree address node → Passes source node) := by
  have hstart : (⟨store, []⟩ : Progress).store.IsFrozen scope := hfrozen
  obtain ⟨hstore, hnone⟩ := Progress.visitEach_of_isFrozen source hstart
    (visitsOf_inReach [] scope store.size tree)
  rw [fill_eq_visitEach_visitsOf]
  refine ⟨hstore, hnone.trans ⟨?_, ?_⟩⟩
  · intro hall address node hvisited
    obtain ⟨visit, hmem, _, rfl⟩ :=
      (isVisited_iff_mem_visitsOf tree scope store.size address node).mp hvisited
    exact hall visit hmem
  · intro hall visit hmem
    exact hall _ _ (isVisited_of_mem_visitsOf [] scope store.size tree .root visit hmem)

end

/-- Filling a scope only appends, whatever calls have led to the store. In an open scope the outcome
and the journal are those of filling a fresh root with the same header, and what that root then holds
stands behind what the scope held: each list of facts, and the list of children with everything below
them. The old children are as they were, and so is every other scope that was there. In a frozen
scope nothing at all changes, and filling it gets to its end exactly if no visited node records a
fact, opens a scope or fails. -/
theorem fill_appends_like_fresh (operations : List Operation) (source : SourceText)
    (tree : SyntaxTree) (scope : Nat) :
    let store := Store.empty.run operations
    let reached := fill source tree store scope
    (∀ before, store.contents? scope = some before → before.frozen = false →
      let fresh := fill source tree (.ofRoot before.header) 0
      reached.2 = fresh.2 ∧ reached.1.journal = fresh.1.journal ∧
      (∃ filled, fresh.1.store.contents? 0 = some filled ∧
        reached.1.store.contents? scope = some { before with
          imports := before.imports ++ filled.imports
          fields := before.fields ++ filled.fields
          invocations := before.invocations ++ filled.invocations }) ∧
      (reached.1.store.childrenOf scope).map reached.1.store.scope =
        (store.childrenOf scope).map store.scope ++
          (fresh.1.store.childrenOf 0).map fresh.1.store.scope ∧
      store.childrenOf scope <+: reached.1.store.childrenOf scope ∧
      (∀ child ∈ store.childrenOf scope, reached.1.store.scope child = store.scope child) ∧
      ∀ other < store.size, other ≠ scope →
        reached.1.store.slots[other]? = store.slots[other]?) ∧
    (store.IsFrozen scope →
      reached.1.store = store ∧
      (reached.2 = none ↔ ∀ address node, IsVisited tree address node →
        (scriptOf source node).facts = [] ∧ (scriptOf source node).headers = [] ∧
          ∃ descent, (scriptOf source node).ending = .ok descent)) := by
  intro store reached
  have hstore : store.WellFormed := Store.wellFormed_empty.run operations
  refine ⟨?_, fun hfrozen => fill_of_isFrozen hfrozen source tree⟩
  intro before hbefore hfrozen fresh
  have hopen : store.IsOpen scope := by
    obtain ⟨slot, hslot, rfl⟩ := Option.map_eq_some_iff.mp hbefore
    exact Store.isOpen_iff.mpr ⟨slot, hslot, hfrozen⟩
  have hgraft : reached = (fresh.1.graft store scope, fresh.2) :=
    fill_eq_graft hopen source tree before.header
  have hfresh : fresh.1.store.WellFormed :=
    (Store.wellFormed_ofRoot before.header).fill source tree 0
  have hroot : 0 < fresh.1.store.size := Store.size_le_size_fill source tree (.ofRoot _) 0
  rw [hgraft]
  refine ⟨rfl, rfl, ⟨fresh.1.store.contentsOf 0, ?_, ?_⟩, ?_, ?_, ?_, ?_⟩
  · have hslot : fresh.1.store.slots[0]? = some fresh.1.store.slots[0] :=
      Array.getElem?_eq_getElem hroot
    rw [Store.contentsOf, Store.contents?, hslot]
    rfl
  · exact (Store.contents?_graft_self hopen.lt_size fresh.1.store).trans (by rw [hbefore]; rfl)
  · exact Store.map_scope_childrenOf_graft hopen.lt_size hstore.toIsForest hfresh.toIsForest
  · exact ⟨_, (Store.childrenOf_graft_self hopen.lt_size fresh.1.store).symm⟩
  · intro child hchild
    exact Store.scope_graft_of_isChild hstore.toIsForest hchild fresh.1.store
  · intro other hother hne
    exact Store.getElem?_graft_of_ne hother hne fresh.1.store

end JavaOutline
