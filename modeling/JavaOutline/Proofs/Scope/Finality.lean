import JavaOutline.Proofs.Scope.History
import JavaOutline.Proofs.Tree

/-!
# Frozen scopes are final

A call changes the slots of open scopes only: what it records or opens goes to an open scope, and a
freeze leaves alone what is frozen. So the slot of a frozen scope stays as it is under all later
calls, and since everything below it is frozen too, so does the whole scope that is read off the
store, whatever happens around it and however many scopes are added.
-/

namespace JavaOutline

/-- A freeze leaves a frozen slot as it is. -/
theorem Slot.freeze_eq_self {slot : Slot} (hfrozen : slot.contents.frozen = true) :
    slot.freeze = slot := by
  obtain ⟨⟨header, imports, fields, invocations, frozen⟩, children⟩ := slot
  cases hfrozen
  rfl

namespace Store

variable {store later : Store} {id other : Nat}

/-! ## Slots -/

/-- The contents of a frozen scope are frozen. -/
theorem IsFrozen.frozen_contentsOf (hfrozen : store.IsFrozen id) :
    (store.contentsOf id).frozen = true := by
  obtain ⟨slot, hslot, hfrozen⟩ := hfrozen
  rw [contentsOf, contents?, hslot]
  exact hfrozen

/-- A scope whose slot has not changed is frozen if it was. -/
theorem IsFrozen.of_getElem?_eq (hfrozen : store.IsFrozen id)
    (hsame : later.slots[id]? = store.slots[id]?) : later.IsFrozen id := by
  rwa [IsFrozen, hsame]

/-- An extension at another scope leaves a slot as it is. -/
theorem getElem?_extend_of_ne (hsize : other < store.size) (hne : other ≠ id) (facts : List Fact)
    (headers : List Header) :
    (store.extend id facts headers).slots[other]? = store.slots[other]? := by
  rw [getElem?_extend, if_pos hsize]
  simp [hne]

/-- A freeze leaves the slot of a frozen scope as it is. -/
theorem IsFrozen.getElem?_freeze (hfrozen : store.IsFrozen other) (id : Nat) :
    (store.freeze id).slots[other]? = store.slots[other]? := by
  obtain ⟨slot, hslot, hfrozen⟩ := hfrozen
  rw [Store.getElem?_freeze, hslot, Option.map_some, Slot.freeze_eq_self hfrozen, ite_self]

/-- A call leaves the slot of a frozen scope as it is. -/
theorem IsFrozen.getElem?_perform (hfrozen : store.IsFrozen id) (operation : Operation) :
    (store.perform operation).1.slots[id]? = store.slots[id]? := by
  have hextend {parent : Nat} {facts : List Fact} {headers : List Header}
      (hopen : store.IsOpen parent) :
      (store.extend parent facts headers).slots[id]? = store.slots[id]? := by
    refine getElem?_extend_of_ne hfrozen.lt_size ?_ facts headers
    rintro rfl
    exact hopen.not_isFrozen hfrozen
  have hperformed := store.perform_performed operation
  generalize store.perform operation = outcome at hperformed
  cases hperformed with
  | addedRoot header =>
    rw [addRoot_eq_extend]
    exact getElem?_extend_of_ne hfrozen.lt_size (Nat.ne_of_lt hfrozen.lt_size) ..
  | opened parent header hopen hfile => exact hextend hopen
  | recorded parent fact hopen => exact hextend hopen
  | froze parent => exact hfrozen.getElem?_freeze parent
  | refused => rfl

/-- Calls leave the slot of a frozen scope as it is. -/
theorem IsFrozen.getElem?_run (hfrozen : store.IsFrozen id) (operations : List Operation) :
    (store.run operations).slots[id]? = store.slots[id]? := by
  induction operations generalizing store with
  | nil => rfl
  | cons operation operations ih =>
    -- the slot is what it was after one call, so the scope is still frozen for the others
    have hstep := hfrozen.getElem?_perform operation
    rw [run_cons, ih (hfrozen.of_getElem?_eq hstep), hstep]

/-! ## Whole scopes -/

/-- The numbers below a scope depend on the children of the scopes that it reaches only. -/
theorem numberTree_congr
    (hsame : ∀ below, store.Reaches id below → later.childrenOf below = store.childrenOf below)
    (levels : Nat) : later.numberTree levels id = store.numberTree levels id := by
  induction levels generalizing id with
  | zero => rfl
  | succ levels ih =>
    rw [numberTree, numberTree, hsame id .refl]
    congr 1
    refine List.map_congr_left fun child hchild => ih fun below hbelow => ?_
    exact hsame below (.head hchild hbelow)

/-- Levels beyond those that are enough add nothing. -/
theorem IsForest.numberTree_eq (hforest : store.IsForest) {levels levels' : Nat}
    (hlevels : store.size ≤ id + levels) (hlevels' : store.size ≤ id + levels') :
    store.numberTree levels id = store.numberTree levels' id := by
  have hzero {id : Nat} (hid : store.size ≤ id) (count : Nat) :
      store.numberTree count id = .node id [] := by
    cases count with
    | zero => rfl
    | succ count => rw [numberTree, childrenOf_eq_nil hid, List.map_nil]
  induction levels generalizing id levels' with
  | zero =>
    rw [Nat.add_zero] at hlevels
    rw [hzero hlevels, hzero hlevels]
  | succ levels ih =>
    cases levels' with
    | zero =>
      rw [Nat.add_zero] at hlevels'
      rw [hzero hlevels', hzero hlevels']
    | succ levels' =>
      rw [numberTree, numberTree]
      congr 1
      refine List.map_congr_left fun child hchild => ?_
      exact ih (hforest.size_le_of_isChild hlevels hchild)
        (hforest.size_le_of_isChild hlevels' hchild)

/-- The listing of a scope shows the contents of the scopes that the walk meets. -/
theorem map_label_walk_scope (store : Store) (id : Nat) :
    (store.scope id).walk.map Tree.label = (store.walk id).map store.contentsOf := by
  rw [scope, walk, Tree.walk_eq_subtrees, Tree.walk_eq_subtrees, Tree.map_label_subtrees_map]

/-- Relabelling the numbers below a scope depends on the numbers that it reaches only. -/
theorem map_numberTree_congr {α : Type} {f g : Nat → α}
    (hsame : ∀ below, store.Reaches id below → f below = g below) (levels : Nat) :
    (store.numberTree levels id).map f = (store.numberTree levels id).map g := by
  induction levels generalizing id with
  | zero => simp [numberTree, Tree.map, hsame id .refl]
  | succ levels ih =>
    rw [numberTree, Tree.map, Tree.map, hsame id .refl, Tree.mapAll_eq_map, Tree.mapAll_eq_map,
      List.map_map, List.map_map]
    congr 1
    refine List.map_congr_left fun child hchild => ih fun below hbelow => ?_
    exact hsame below (.head hchild hbelow)

/-- A scope is what it was if no slot has changed that it reaches. -/
theorem IsForest.scope_congr (hforest : store.IsForest) (hsize : store.size ≤ later.size)
    (hsame : ∀ below, store.Reaches id below → later.slots[below]? = store.slots[below]?) :
    later.walk id = store.walk id ∧ later.scope id = store.scope id := by
  have hnumbers : later.numberTree later.size id = store.numberTree store.size id := by
    have hchildren (below : Nat) (hbelow : store.Reaches id below) :
        later.childrenOf below = store.childrenOf below := by
      rw [childrenOf, hsame below hbelow, childrenOf]
    -- first at the levels of the later store, which are more than enough for the earlier one
    rw [numberTree_congr hchildren]
    exact hforest.numberTree_eq (by omega) (by omega)
  refine ⟨?_, ?_⟩
  · rw [walk, hnumbers, walk]
  · rw [scope, hnumbers, scope]
    refine map_numberTree_congr (fun below hbelow => ?_) store.size
    rw [contentsOf, contents?, hsame below hbelow, contentsOf, contents?]

/-- Calls leave a frozen scope with everything below it as it is. -/
theorem WellFormed.scope_run (hstore : store.WellFormed) (hfrozen : store.IsFrozen id)
    (operations : List Operation) :
    (store.run operations).walk id = store.walk id ∧
      (store.run operations).scope id = store.scope id := by
  refine hstore.scope_congr (size_le_size_run store operations) fun below hbelow => ?_
  exact (hstore.isFrozen_of_reaches hfrozen hbelow).getElem?_run operations

/-! ## Freezing again, and refusals -/

/-- A freeze leaves every walk as it is. -/
@[simp] theorem walk_freeze (store : Store) (id other : Nat) :
    (store.freeze id).walk other = store.walk other := by
  have hnumbers : (store.freeze id).numberTree store.size other = store.numberTree store.size other :=
    numberTree_congr (fun below _ => childrenOf_freeze store id below) store.size
  rw [walk, size_freeze, hnumbers, walk]

/-- What is frozen once is not changed by being frozen again. -/
theorem freeze_freeze (store : Store) (id : Nat) : (store.freeze id).freeze id = store.freeze id := by
  apply ext_getElem?
  intro other
  rw [getElem?_freeze, walk_freeze, getElem?_freeze, Option.map_map]
  congr 1
  funext slot
  by_cases hmem : other ∈ store.walk id <;> simp [hmem]

/-- A scope in the store is open exactly if it is not frozen. -/
theorem isOpen_iff_not_isFrozen (hsize : id < store.size) :
    store.IsOpen id ↔ ¬ store.IsFrozen id := by
  have hslot : store.slots[id]? = some store.slots[id] := Array.getElem?_eq_getElem hsize
  rw [isOpen_iff, IsFrozen, hslot]
  simp

/-- A frozen scope refuses every change, a file below it included, and says that it is frozen. -/
theorem IsFrozen.refuses (hfrozen : store.IsFrozen id) :
    ∃ header, store.header? id = some header ∧
      (∀ opened, store.openChild id opened = .error (.frozen header)) ∧
      ∀ fact, store.record id fact = .error (.frozen header) := by
  obtain ⟨slot, hslot, hfrozen⟩ := hfrozen
  have hcontents : store.contents? id = some slot.contents := by
    rw [contents?, hslot]
    rfl
  have hcheck : store.checkOpen id = .error (.frozen slot.contents.header) := by
    simp [checkOpen, hcontents, hfrozen]
  refine ⟨slot.contents.header, ?_, ?_, ?_⟩
  · rw [header?, hcontents]
    rfl
  · intro opened
    rw [openChild, hcheck]
    rfl
  · intro fact
    rw [record, hcheck]
    rfl

/-- An open scope refuses a file below it. -/
theorem IsOpen.openChild_file (hopen : store.IsOpen id) :
    store.openChild id .file = .error .nestedFile := by
  rw [openChild, show store.checkOpen id = .ok () from hopen]
  rfl

/-- A call that is refused leaves the store as it is. -/
theorem perform_refused {operation : Operation} {error : StoreError}
    (hrefused : (store.perform operation).2 = .refused error) :
    (store.perform operation).1 = store := by
  have hperformed := store.perform_performed operation
  generalize store.perform operation = outcome at hperformed hrefused ⊢
  cases hperformed with
  | refused => rfl
  | addedRoot | opened | recorded | froze => cases hrefused

end Store

end JavaOutline
