import JavaOutline.Proofs.Scope.Walk

/-!
# Histories of a store

A store comes about by calls: a root is added, a scope is opened below another, a fact is recorded,
or a scope is frozen with everything below it. A call may name any scope, in the store or not, and
may be refused. `Performed` lists what a call can do, and everything about a store that a call keeps
is read off that list. The scopes always form a forest, in which no scope but a root is a file and in
which everything below a frozen scope is frozen.
-/

namespace JavaOutline

/-- A call on a store of scopes. -/
inductive Operation where
  | addRoot (header : Header)
  | openChild (id : Nat) (header : Header)
  | record (id : Nat) (fact : Fact)
  | freeze (id : Nat)
deriving DecidableEq, Repr

/-- The scope at which a call opens another one; a root is opened at none. -/
def Operation.parent? : Operation → Option Nat
  | openChild id _ => some id
  | _ => none

/-- What a call gives back. -/
inductive Answer where
  /-- The number of a new scope. -/
  | created (id : Nat)
  | done
  | refused (error : StoreError)
deriving DecidableEq, Repr

/-- The slot with its contents closed to changes. -/
def Slot.freeze (slot : Slot) : Slot :=
  { slot with contents := slot.contents.freeze }

/-- A slot is frozen once and for all. -/
@[simp] theorem Slot.freeze_freeze (slot : Slot) : slot.freeze.freeze = slot.freeze := rfl

namespace Store

/-- The store after a call, and what the call gives back. -/
def perform (store : Store) : Operation → Store × Answer
  | .addRoot header => (store.addRoot header, .created store.size)
  | .openChild id header =>
    match store.openChild id header with
    | .ok (changed, child) => (changed, .created child)
    | .error error => (store, .refused error)
  | .record id fact =>
    match store.record id fact with
    | .ok changed => (changed, .done)
    | .error error => (store, .refused error)
  | .freeze id => (store.freeze id, .done)

/-- The store after several calls. -/
def run (store : Store) (operations : List Operation) : Store :=
  operations.foldl (fun store operation => (store.perform operation).1) store

/-- Several calls with what each gives back. -/
def transcript (store : Store) : List Operation → List (Operation × Answer)
  | [] => []
  | operation :: operations =>
    (operation, (store.perform operation).2) ::
      (store.perform operation).1.transcript operations

@[simp] theorem run_nil (store : Store) : store.run [] = store := rfl

@[simp] theorem run_cons (store : Store) (operation : Operation) (operations : List Operation) :
    store.run (operation :: operations) = (store.perform operation).1.run operations := rfl

/-- Calls are done in two parts. -/
theorem run_append (store : Store) (first second : List Operation) :
    store.run (first ++ second) = (store.run first).run second :=
  List.foldl_append ..

/-- What each call keeps, all calls keep. -/
theorem run_induction {motive : Store → Prop}
    (hstep : ∀ store operation, motive store → motive (store.perform operation).1)
    {store : Store} (hstore : motive store) (operations : List Operation) :
    motive (store.run operations) := by
  induction operations generalizing store with
  | nil => exact hstore
  | cons operation operations ih => exact ih (hstep store operation hstore)

/-! ## What a call can do -/

/-- The outcomes that a call can have. -/
inductive Performed (store : Store) : Operation → Store × Answer → Prop where
  | addedRoot (header : Header) :
      Performed store (.addRoot header) (store.addRoot header, .created store.size)
  | opened (id : Nat) (header : Header) (hopen : store.IsOpen id) (hfile : header ≠ .file) :
      Performed store (.openChild id header) (store.extend id [] [header], .created store.size)
  | recorded (id : Nat) (fact : Fact) (hopen : store.IsOpen id) :
      Performed store (.record id fact) (store.extend id [fact] [], .done)
  | froze (id : Nat) : Performed store (.freeze id) (store.freeze id, .done)
  | refused (operation : Operation) (error : StoreError) :
      Performed store operation (store, .refused error)

/-- Every call has one of these outcomes. -/
theorem perform_performed (store : Store) (operation : Operation) :
    store.Performed operation (store.perform operation) := by
  cases operation with
  | addRoot header => exact .addedRoot header
  | openChild id header =>
    rw [perform]
    split
    · rename_i changed child hopened
      obtain ⟨hopen, hfile, rfl, rfl⟩ := openChild_eq_ok_iff.mp hopened
      exact .opened id header hopen hfile
    · exact .refused ..
  | record id fact =>
    rw [perform]
    split
    · rename_i changed hrecorded
      obtain ⟨hopen, rfl⟩ := record_eq_ok_iff.mp hrecorded
      exact .recorded id fact hopen
    · exact .refused ..
  | freeze id => exact .froze id

/-- A root is added like a scope below none. -/
theorem addRoot_eq_extend (store : Store) (header : Header) :
    store.addRoot header = store.extend store.size [] [header] := by
  apply ext_getElem?
  intro other
  rw [getElem?_extend, addRoot, Array.getElem?_push]
  change (if other = store.size then _ else _) = _
  rcases Nat.lt_trichotomy other store.size with hlt | rfl | hgt
  · simp [hlt, Nat.ne_of_lt hlt]
  · simp [Slot.fresh]
  · have hnone : store.slots[other]? = none := Array.getElem?_eq_none (Nat.le_of_lt hgt)
    have hpast : [header][other - store.size]? = none := List.getElem?_eq_none (by simp; omega)
    rw [if_neg (Nat.ne_of_gt hgt), if_neg (Nat.lt_asymm hgt), hnone, hpast]
    rfl

/-! ## Views of a store -/

/-- The header of a scope. -/
def header? (store : Store) (id : Nat) : Option Header :=
  (store.contents? id).map Contents.header

/-- A scope is in the store and frozen. -/
def IsFrozen (store : Store) (id : Nat) : Prop :=
  ∃ slot, store.slots[id]? = some slot ∧ slot.contents.frozen = true

variable {store : Store} {id child other : Nat} {facts : List Fact} {headers : List Header}

/-- No scope is both open and frozen. -/
theorem IsOpen.not_isFrozen (hopen : store.IsOpen id) : ¬ store.IsFrozen id := by
  rintro ⟨slot, hslot, hfrozen⟩
  obtain ⟨slot', hslot', hopen⟩ := isOpen_iff.mp hopen
  rw [hslot, Option.some.injEq] at hslot'
  rw [hslot', hopen] at hfrozen
  cases hfrozen

/-- A frozen scope is in the store. -/
theorem IsFrozen.lt_size (hfrozen : store.IsFrozen id) : id < store.size := by
  obtain ⟨slot, hslot, _⟩ := hfrozen
  exact (Array.getElem?_eq_some_iff.mp hslot).1

/-- The children of a scope after an extension. -/
theorem childrenOf_extend (store : Store) (id : Nat) (facts : List Fact) (headers : List Header)
    (other : Nat) :
    (store.extend id facts headers).childrenOf other =
      if other = id ∧ id < store.size then
        store.childrenOf id ++ List.range' store.size headers.length
      else store.childrenOf other := by
  rw [childrenOf, getElem?_extend]
  by_cases hsize : other < store.size
  · have hslot : store.slots[other]? = some store.slots[other] := Array.getElem?_eq_getElem hsize
    rw [if_pos hsize, hslot]
    by_cases hid : other = id
    · subst hid
      simp [hsize, childrenOf, hslot, Slot.add]
    · simp [hid, childrenOf, hslot]
  · rw [if_neg hsize, if_neg (by omega), childrenOf_eq_nil (Nat.le_of_not_lt hsize)]
    cases headers[other - store.size]? with
    | none => rfl
    | some header => rfl

/-- The children of scopes after an extension: the old ones, and those that it opens. -/
theorem isChild_extend_iff :
    (store.extend id facts headers).IsChild other child ↔
      store.IsChild other child ∨
        other = id ∧ id < store.size ∧ store.size ≤ child ∧
          child < store.size + headers.length := by
  rw [IsChild, childrenOf_extend, IsChild]
  by_cases hid : other = id ∧ id < store.size
  · obtain ⟨rfl, hsize⟩ := hid
    simp [hsize, List.mem_range'_1]
  · rw [if_neg hid]
    constructor
    · exact .inl
    · rintro (hchild | ⟨hother, hsize, _⟩)
      · exact hchild
      · exact absurd ⟨hother, hsize⟩ hid

/-- The headers after an extension: the old ones, and then those of the scopes that it opens. -/
theorem header?_extend :
    (store.extend id facts headers).header? other =
      if other < store.size then store.header? other else headers[other - store.size]? := by
  rw [header?, contents?, getElem?_extend]
  by_cases hsize : other < store.size
  · have hslot : store.slots[other]? = some store.slots[other] := Array.getElem?_eq_getElem hsize
    rw [if_pos hsize, if_pos hsize, header?, contents?, hslot]
    by_cases hid : other = id
    · simp [hid, Slot.add, Contents.recordAll_frozen_header]
    · simp [hid]
  · rw [if_neg hsize, if_neg hsize]
    cases headers[other - store.size]? with
    | none => rfl
    | some header => rfl

/-- An extension freezes nothing and leaves frozen what is. -/
theorem isFrozen_extend_iff :
    (store.extend id facts headers).IsFrozen other ↔ store.IsFrozen other := by
  rw [IsFrozen, getElem?_extend, IsFrozen]
  by_cases hsize : other < store.size
  · have hslot : store.slots[other]? = some store.slots[other] := Array.getElem?_eq_getElem hsize
    rw [if_pos hsize, hslot]
    by_cases hid : other = id
    · simp [hid, Slot.add, Contents.recordAll_frozen_header]
    · simp [hid]
  · have hnone : store.slots[other]? = none := Array.getElem?_eq_none (Nat.le_of_not_lt hsize)
    rw [if_neg hsize, hnone]
    cases headers[other - store.size]? with
    | none => simp
    | some header => simp [Slot.fresh, Contents.fresh]

/-! ## Freezing -/

/-- Freezing several slots, one after the other, freezes each of them. -/
theorem getElem?_foldl_freeze (ids : List Nat) (slots : Array Slot) (other : Nat) :
    (ids.foldl (fun slots below => slots.modify below Slot.freeze) slots)[other]? =
      slots[other]?.map fun slot => if other ∈ ids then slot.freeze else slot := by
  induction ids generalizing slots with
  | nil => simp
  | cons first ids ih =>
    rw [List.foldl_cons, ih, Array.getElem?_modify]
    by_cases hfirst : first = other
    · subst hfirst
      rw [if_pos rfl, Option.map_map]
      congr 1
      funext slot
      by_cases hmem : first ∈ ids <;> simp [hmem, Slot.freeze_freeze]
    · rw [if_neg hfirst]
      simp [Ne.symm hfirst]

/-- The slots after a freeze: those that the walk meets are frozen. -/
theorem getElem?_freeze (store : Store) (id other : Nat) :
    (store.freeze id).slots[other]? =
      store.slots[other]?.map fun slot => if other ∈ store.walk id then slot.freeze else slot :=
  getElem?_foldl_freeze ..

/-- A freeze leaves the children of each scope as they are. -/
@[simp] theorem childrenOf_freeze (store : Store) (id other : Nat) :
    (store.freeze id).childrenOf other = store.childrenOf other := by
  rw [childrenOf, getElem?_freeze, childrenOf]
  cases store.slots[other]? with
  | none => rfl
  | some slot => by_cases hmem : other ∈ store.walk id <;> simp [hmem, Slot.freeze]

/-- A freeze adds no scope. -/
@[simp] theorem size_freeze (store : Store) (id : Nat) : (store.freeze id).size = store.size := by
  have hfold (ids : List Nat) (slots : Array Slot) :
      (ids.foldl (fun slots below => slots.modify below Slot.freeze) slots).size = slots.size := by
    induction ids generalizing slots with
    | nil => rfl
    | cons first ids ih => rw [List.foldl_cons, ih, Array.size_modify]
  exact hfold (store.walk id) store.slots

/-- A freeze leaves the headers as they are. -/
@[simp] theorem header?_freeze (store : Store) (id other : Nat) :
    (store.freeze id).header? other = store.header? other := by
  rw [header?, contents?, getElem?_freeze, header?, contents?]
  cases store.slots[other]? with
  | none => rfl
  | some slot =>
    by_cases hmem : other ∈ store.walk id <;> simp [hmem, Slot.freeze, Contents.freeze]

/-- What is frozen after a freeze: what was, and what the walk meets. -/
theorem isFrozen_freeze_iff :
    (store.freeze id).IsFrozen other ↔
      store.IsFrozen other ∨ other < store.size ∧ other ∈ store.walk id := by
  rw [IsFrozen, getElem?_freeze, IsFrozen]
  by_cases hsize : other < store.size
  · have hslot : store.slots[other]? = some store.slots[other] := Array.getElem?_eq_getElem hsize
    rw [hslot]
    by_cases hmem : other ∈ store.walk id <;> simp [hmem, hsize, Slot.freeze, Contents.freeze]
  · have hnone : store.slots[other]? = none := Array.getElem?_eq_none (Nat.le_of_not_lt hsize)
    simp [hnone, hsize]

/-! ## What every call keeps -/

/-- The scopes form a forest, only roots are files, and what is below a frozen scope is frozen. -/
structure WellFormed (store : Store) : Prop extends store.IsForest where
  /-- No child is a file. -/
  header_child : ∀ {id child}, store.IsChild id child → store.header? child ≠ some .file
  /-- The children of a frozen scope are frozen. -/
  frozen_child : ∀ {id child}, store.IsFrozen id → store.IsChild id child → store.IsFrozen child

/-- A store without scopes is well-formed. -/
theorem wellFormed_empty : Store.empty.WellFormed := by
  have hnone (id child : Nat) : ¬ Store.empty.IsChild id child := by
    simp [IsChild, childrenOf, empty]
  exact {
    lt_child := fun h => absurd h (hnone _ _)
    child_lt_size := fun h => absurd h (hnone _ _)
    nodup := fun id => by simp [childrenOf, empty]
    parent_unique := fun h => absurd h (hnone _ _)
    header_child := fun h => absurd h (hnone _ _)
    frozen_child := fun _ h => absurd h (hnone _ _) }

namespace WellFormed

/-- An extension keeps a store well-formed if it is at an open scope and opens no file there; scopes
that are opened at none are roots and may be files. -/
theorem extend (hstore : store.WellFormed)
    (hwhere : id < store.size → store.IsOpen id ∧ Header.file ∉ headers) :
    (store.extend id facts headers).WellFormed where
  lt_child := by
    intro parent child hchild
    rcases isChild_extend_iff.mp hchild with hold | ⟨rfl, hsize, hnew, _⟩
    · exact hstore.lt_child hold
    · omega
  child_lt_size := by
    intro parent child hchild
    rw [size_extend]
    rcases isChild_extend_iff.mp hchild with hold | ⟨_, _, _, hnew⟩
    · have hlt := hstore.child_lt_size hold
      omega
    · exact hnew
  nodup := by
    intro parent
    rw [childrenOf_extend]
    split
    · refine List.nodup_append'.mpr ⟨hstore.nodup id, List.nodup_range', ?_⟩
      intro child hold hnew
      have hlt := hstore.child_lt_size hold
      rw [List.mem_range'_1] at hnew
      omega
    · exact hstore.nodup parent
  parent_unique := by
    intro first second child hfirst hsecond
    rcases isChild_extend_iff.mp hfirst with hold | ⟨rfl, _, hnew, _⟩
    · have hlt := hstore.child_lt_size hold
      rcases isChild_extend_iff.mp hsecond with hold' | ⟨_, _, hnew, _⟩
      · exact hstore.parent_unique hold hold'
      · omega
    · rcases isChild_extend_iff.mp hsecond with hold | ⟨hsame, _, _, _⟩
      · have hlt := hstore.child_lt_size hold
        omega
      · exact hsame.symm
  header_child := by
    intro parent child hchild
    rw [header?_extend]
    rcases isChild_extend_iff.mp hchild with hold | ⟨_, hsize, hnew, _⟩
    · rw [if_pos (hstore.child_lt_size hold)]
      exact hstore.header_child hold
    · rw [if_neg (Nat.not_lt_of_le hnew)]
      intro hfile
      exact (hwhere hsize).2 (List.mem_of_getElem? hfile)
  frozen_child := by
    intro parent child hfrozen hchild
    rw [isFrozen_extend_iff] at hfrozen ⊢
    rcases isChild_extend_iff.mp hchild with hold | ⟨rfl, hsize, _, _⟩
    · exact hstore.frozen_child hfrozen hold
    · exact absurd hfrozen (hwhere hsize).1.not_isFrozen

/-- A freeze keeps a store well-formed: a walk that meets a scope meets its children. -/
theorem freeze (hstore : store.WellFormed) (id : Nat) : (store.freeze id).WellFormed := by
  have hchild {parent child : Nat} (h : (store.freeze id).IsChild parent child) :
      store.IsChild parent child := by
    rwa [IsChild, childrenOf_freeze] at h
  refine { lt_child := ?_, child_lt_size := ?_, nodup := ?_, parent_unique := ?_,
           header_child := ?_, frozen_child := ?_ }
  · intro parent child h
    exact hstore.lt_child (hchild h)
  · intro parent child h
    rw [size_freeze]
    exact hstore.child_lt_size (hchild h)
  · intro parent
    rw [childrenOf_freeze]
    exact hstore.nodup parent
  · intro first second child hfirst hsecond
    exact hstore.parent_unique (hchild hfirst) (hchild hsecond)
  · intro parent child h
    rw [header?_freeze]
    exact hstore.header_child (hchild h)
  · intro parent child hfrozen h
    rw [isFrozen_freeze_iff] at hfrozen ⊢
    rcases hfrozen with hfrozen | ⟨_, hwalk⟩
    · exact .inl (hstore.frozen_child hfrozen (hchild h))
    · -- a walk that meets a scope goes on to its children
      refine .inr ⟨hstore.child_lt_size (hchild h), ?_⟩
      rw [hstore.mem_walk_iff] at hwalk ⊢
      exact hwalk.tail (hchild h)

/-- Every call keeps a store well-formed. -/
theorem perform (hstore : store.WellFormed) (operation : Operation) :
    (store.perform operation).1.WellFormed := by
  have hperformed := store.perform_performed operation
  generalize store.perform operation = outcome at hperformed
  cases hperformed with
  | addedRoot header =>
    change (store.addRoot header).WellFormed
    rw [addRoot_eq_extend]
    exact hstore.extend fun hlt => absurd hlt (Nat.lt_irrefl _)
  | opened id header hopen hfile =>
    exact hstore.extend fun _ => ⟨hopen, by simpa using Ne.symm hfile⟩
  | recorded id fact hopen => exact hstore.extend fun _ => ⟨hopen, by simp⟩
  | froze id => exact hstore.freeze id
  | refused => exact hstore

/-- All calls keep a store well-formed. -/
theorem run (hstore : store.WellFormed) (operations : List Operation) :
    (store.run operations).WellFormed :=
  run_induction (fun _ operation h => h.perform operation) hstore operations

/-- A child has a header, and it is not that of a file. -/
theorem exists_header_of_isChild (hstore : store.WellFormed) (hchild : store.IsChild id child) :
    ∃ header, store.header? child = some header ∧ header ≠ .file := by
  have hlt : child < store.slots.size := hstore.child_lt_size hchild
  have hheader : store.header? child = some store.slots[child].contents.header := by
    rw [header?, contents?, Array.getElem?_eq_getElem hlt]
    rfl
  refine ⟨_, hheader, fun hfile => hstore.header_child hchild ?_⟩
  rw [hheader, hfile]

/-- Everything that a frozen scope reaches is frozen. -/
theorem isFrozen_of_reaches (hstore : store.WellFormed) (hfrozen : store.IsFrozen id)
    (h : store.Reaches id other) : store.IsFrozen other := by
  induction h with
  | refl => exact hfrozen
  | tail _ hchild ih => exact hstore.frozen_child ih hchild

end WellFormed

/-! ## Where scopes come from -/

/-- A call removes no scope. -/
theorem size_le_size_perform (store : Store) (operation : Operation) :
    store.size ≤ (store.perform operation).1.size := by
  have hperformed := store.perform_performed operation
  generalize store.perform operation = outcome at hperformed
  cases hperformed with
  | addedRoot header => simp [addRoot_eq_extend]
  | opened => simp
  | recorded => simp
  | froze => simp
  | refused => exact Nat.le_refl _

/-- Calls remove no scope. -/
theorem size_le_size_run (store : Store) (operations : List Operation) :
    store.size ≤ (store.run operations).size :=
  run_induction (motive := fun later => store.size ≤ later.size)
    (fun later operation h => Nat.le_trans h (later.size_le_size_perform operation))
    (Nat.le_refl store.size) operations

/-- A call puts no scope that was there before into a list of children, and takes none out. -/
theorem isChild_perform_iff (hchild : child < store.size) (operation : Operation) :
    (store.perform operation).1.IsChild other child ↔ store.IsChild other child := by
  have hextend {id : Nat} {facts : List Fact} {headers : List Header} :
      (store.extend id facts headers).IsChild other child ↔ store.IsChild other child := by
    rw [isChild_extend_iff, or_iff_left]
    omega
  have hperformed := store.perform_performed operation
  generalize store.perform operation = outcome at hperformed
  cases hperformed with
  | addedRoot header =>
    rw [addRoot_eq_extend]
    exact hextend
  | opened => exact hextend
  | recorded => exact hextend
  | froze id => rw [IsChild, childrenOf_freeze, IsChild]
  | refused => exact Iff.rfl

/-- Calls put no scope that was there before into a list of children, and take none out. -/
theorem isChild_run_iff (hchild : child < store.size) (operations : List Operation) :
    (store.run operations).IsChild other child ↔ store.IsChild other child := by
  induction operations generalizing store with
  | nil => exact Iff.rfl
  | cons operation operations ih =>
    have hlt := Nat.lt_of_lt_of_le hchild (store.size_le_size_perform operation)
    rw [run_cons, ih hlt, isChild_perform_iff hchild]

/-- A call that creates a scope gives it the next number and puts it into the list of children of
the scope at which it is opened, and of no other. -/
theorem IsForest.perform_created (hforest : store.IsForest) {operation : Operation}
    (hcreated : (store.perform operation).2 = .created id) :
    id = store.size ∧ (store.perform operation).1.size = store.size + 1 ∧
      ∀ other, (store.perform operation).1.IsChild other id ↔ operation.parent? = some other := by
  have hnone (other : Nat) : ¬ store.IsChild other store.size :=
    fun h => Nat.lt_irrefl _ (hforest.child_lt_size h)
  have hperformed := store.perform_performed operation
  generalize store.perform operation = outcome at hperformed hcreated ⊢
  cases hperformed with
  | addedRoot header =>
    cases hcreated
    refine ⟨rfl, by simp [addRoot_eq_extend], fun other => ?_⟩
    rw [addRoot_eq_extend, isChild_extend_iff]
    simp [hnone, Operation.parent?]
  | opened parent header hopen hfile =>
    cases hcreated
    refine ⟨rfl, by simp, fun other => ?_⟩
    rw [isChild_extend_iff]
    simp [hnone, hopen.lt_size, Operation.parent?, eq_comm]
  | recorded => cases hcreated
  | froze => cases hcreated
  | refused => cases hcreated

/-- A call that adds a scope creates it. -/
theorem perform_eq_created {operation : Operation} (hold : store.size ≤ id)
    (hnew : id < (store.perform operation).1.size) :
    (store.perform operation).2 = .created id := by
  have hperformed := store.perform_performed operation
  generalize store.perform operation = outcome at hperformed hnew ⊢
  cases hperformed with
  | addedRoot header =>
    have hsize : id < store.size + 1 := by simpa [addRoot_eq_extend] using hnew
    rw [show id = store.size by omega]
  | opened parent header hopen hfile =>
    have hsize : id < store.size + 1 := by simpa using hnew
    rw [show id = store.size by omega]
  | recorded =>
    have hsize : id < store.size := by simpa using hnew
    omega
  | froze =>
    have hsize : id < store.size := by simpa using hnew
    omega
  | refused => exact absurd hnew (Nat.not_lt_of_le hold)

/-- Every scope that calls add is created by one of them. -/
theorem exists_created (operations : List Operation) (hold : store.size ≤ id)
    (hnew : id < (store.run operations).size) :
    ∃ operation, (operation, .created id) ∈ store.transcript operations := by
  induction operations generalizing store with
  | nil => exact absurd hnew (Nat.not_lt_of_le hold)
  | cons operation operations ih =>
    by_cases hfirst : id < (store.perform operation).1.size
    · refine ⟨operation, ?_⟩
      rw [transcript, perform_eq_created hold hfirst]
      exact List.mem_cons_self
    · obtain ⟨later, hlater⟩ := ih (Nat.le_of_not_lt hfirst) hnew
      exact ⟨later, List.mem_cons_of_mem _ hlater⟩

/-- After any further calls, a scope that a call created is in the list of children of the scope at
which the call opened it, and of no other. -/
theorem WellFormed.isChild_run_iff_of_created (hstore : store.WellFormed) {operation : Operation}
    {operations : List Operation}
    (hcreated : (operation, .created id) ∈ store.transcript operations) :
    (store.run operations).IsChild other id ↔ operation.parent? = some other := by
  induction operations generalizing store with
  | nil => cases hcreated
  | cons first operations ih =>
    rcases List.mem_cons.mp hcreated with hfirst | hlater
    · -- nothing that comes later lists the new scope again
      obtain ⟨rfl, hanswer⟩ := Prod.mk.inj hfirst
      obtain ⟨rfl, hsize, hchild⟩ := hstore.perform_created hanswer.symm
      rw [run_cons, isChild_run_iff (by omega), hchild]
    · exact ih (hstore.perform first) hlater

end Store

/-- The scopes after any calls. Each of them was created by a call, and it is in the list of children
of the scope at which the call opened it, exactly once, and in no other; a root is in none. No scope
is below itself. The loop over a stack of scopes ends from everywhere, and it meets the scope where
it starts and everything below it, each once. Nothing below a scope is a file, and everything below a
frozen scope is frozen. -/
theorem scopes_form_forest (operations : List Operation) :
    let store := Store.empty.run operations
    let calls := Store.empty.transcript operations
    (∀ id < store.size, ∃ operation, (operation, .created id) ∈ calls) ∧
    (∀ operation id, (operation, .created id) ∈ calls → ∀ other,
      (store.childrenOf other).count id = if operation.parent? = some other then 1 else 0) ∧
    (∀ id, ¬ store.IsBelow id id) ∧
    (∀ id visited, store.Walks [id] visited ↔ visited = store.walk id) ∧
    (∀ id, (store.walk id).Nodup ∧
      ∀ other, other ∈ store.walk id ↔ other = id ∨ store.IsBelow id other) ∧
    (∀ id below, store.IsBelow id below →
      ∃ header, store.header? below = some header ∧ header ≠ .file) ∧
    ∀ id below, store.IsFrozen id → store.IsBelow id below → store.IsFrozen below := by
  intro store calls
  have hstore : store.WellFormed := Store.wellFormed_empty.run operations
  refine ⟨?_, ?_, ?_, hstore.walks_iff, ?_, ?_, ?_⟩
  · intro id hid
    exact Store.exists_created operations (Nat.zero_le id) hid
  · intro operation id hcreated other
    have hchild : store.IsChild other id ↔ operation.parent? = some other :=
      Store.wellFormed_empty.isChild_run_iff_of_created hcreated
    by_cases hparent : operation.parent? = some other
    · rw [if_pos hparent]
      exact List.count_eq_one_of_mem (hstore.nodup other) (hchild.mpr hparent)
    · rw [if_neg hparent]
      exact List.count_eq_zero_of_not_mem fun h => hparent (hchild.mp h)
  · intro id hbelow
    exact Nat.lt_irrefl id (hstore.lt_of_isBelow hbelow)
  · intro id
    refine ⟨hstore.nodup_walk id, fun other => ?_⟩
    rw [hstore.mem_walk_iff, Store.reaches_iff]
  · intro id below hbelow
    obtain ⟨parent, _, hchild⟩ := Relation.TransGen.tail'_iff.mp hbelow
    exact hstore.exists_header_of_isChild hchild
  · intro id below hfrozen hbelow
    exact hstore.isFrozen_of_reaches hfrozen hbelow.to_reflTransGen

end JavaOutline
