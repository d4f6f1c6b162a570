import JavaOutline.Scope.Store

/-!
# What changes do to a store

A store is seen slot by slot. `Store.extend` is the one change that recording facts and opening
scopes amount to: the slot of a scope gets some facts and the numbers of some children, and those
children come last, freshly opened. Recording a fact and opening a scope succeed exactly at an open
scope (and not for a file), and then they are extensions; extensions at one scope add up.
-/

namespace JavaOutline

/-- The contents with several facts more, each last of its sort. -/
def Contents.recordAll (contents : Contents) (facts : List Fact) : Contents :=
  facts.foldl Contents.record contents

/-- Several facts are recorded in two parts. -/
theorem Contents.recordAll_append (contents : Contents) (first second : List Fact) :
    contents.recordAll (first ++ second) = (contents.recordAll first).recordAll second :=
  List.foldl_append ..

/-- Recording facts changes neither the header nor whether changes are refused. -/
theorem Contents.recordAll_frozen_header (contents : Contents) (facts : List Fact) :
    (contents.recordAll facts).frozen = contents.frozen ∧
      (contents.recordAll facts).header = contents.header := by
  induction facts generalizing contents with
  | nil => exact ⟨rfl, rfl⟩
  | cons fact facts ih =>
    have hrest := ih (contents.record fact)
    cases fact <;> exact hrest

/-- The slot of a scope just opened. -/
def Slot.fresh (header : Header) : Slot :=
  ⟨.fresh header, []⟩

/-- A slot with some facts and some children more. -/
def Slot.add (slot : Slot) (facts : List Fact) (opened : List Nat) : Slot :=
  ⟨slot.contents.recordAll facts, slot.children ++ opened⟩

/-- Nothing added leaves a slot as it is. -/
@[simp] theorem Slot.add_nil (slot : Slot) : slot.add [] [] = slot := by
  simp [add, Contents.recordAll]

/-- Two additions to a slot are one. -/
theorem Slot.add_add (slot : Slot) (facts facts' : List Fact) (opened opened' : List Nat) :
    (slot.add facts opened).add facts' opened' = slot.add (facts ++ facts') (opened ++ opened') := by
  simp [add, Contents.recordAll_append]

namespace Store

/-- A store is known by its slots. -/
theorem ext_getElem? {first second : Store} (h : ∀ id : Nat, first.slots[id]? = second.slots[id]?) :
    first = second := by
  obtain ⟨slots⟩ := first
  obtain ⟨slots'⟩ := second
  exact congrArg Store.mk (Array.ext_getElem? h)

/-- A scope that is in the store and not frozen. -/
def IsOpen (store : Store) (id : Nat) : Prop :=
  store.checkOpen id = .ok ()

/-- A scope is open if its slot is there and not frozen. -/
theorem isOpen_iff {store : Store} {id : Nat} :
    store.IsOpen id ↔ ∃ slot, store.slots[id]? = some slot ∧ slot.contents.frozen = false := by
  unfold IsOpen checkOpen contents?
  cases hslot : store.slots[id]? with
  | none => simp
  | some slot => cases hfrozen : slot.contents.frozen <;> simp [hfrozen]

/-- An open scope is in the store. -/
theorem IsOpen.lt_size {store : Store} {id : Nat} (h : store.IsOpen id) : id < store.size := by
  obtain ⟨slot, hslot, _⟩ := isOpen_iff.mp h
  exact (Array.getElem?_eq_some_iff.mp hslot).1

/-- A store with some facts recorded in a scope and some scopes opened below it. -/
def extend (store : Store) (id : Nat) (facts : List Fact) (headers : List Header) : Store :=
  ⟨store.slots.modify id (fun slot => slot.add facts (List.range' store.size headers.length)) ++
    (headers.map Slot.fresh).toArray⟩

/-- An extension adds one slot for each scope that is opened. -/
@[simp] theorem size_extend (store : Store) (id : Nat) (facts : List Fact) (headers : List Header) :
    (store.extend id facts headers).size = store.size + headers.length := by
  simp [extend, size]

/-- The slots after an extension: the old ones, one of them changed, and then the new ones. -/
theorem getElem?_extend (store : Store) (id : Nat) (facts : List Fact) (headers : List Header)
    (other : Nat) :
    (store.extend id facts headers).slots[other]? =
      if other < store.size then
        store.slots[other]?.map fun slot =>
          if other = id then slot.add facts (List.range' store.size headers.length) else slot
      else headers[other - store.size]?.map Slot.fresh := by
  unfold extend
  rw [Array.getElem?_append, Array.size_modify, Array.getElem?_modify]
  change (if other < store.size then _ else _) = _
  by_cases hsize : other < store.size
  · rw [if_pos hsize, if_pos hsize]
    by_cases hid : other = id
    · simp [hid]
    · simp [hid, Ne.symm hid]
  · rw [if_neg hsize, if_neg hsize]
    simp [size]

/-- Nothing added leaves a store as it is. -/
@[simp] theorem extend_nil (store : Store) (id : Nat) : store.extend id [] [] = store := by
  apply ext_getElem?
  intro other
  rw [getElem?_extend]
  by_cases hsize : other < store.size
  · simp [hsize]
  · have hnone : store.slots[other]? = none := Array.getElem?_eq_none (Nat.le_of_not_lt hsize)
    simp [hsize, hnone]

/-- Two extensions at one scope are one. -/
theorem extend_extend (store : Store) {id : Nat} (hid : id < store.size)
    (facts facts' : List Fact) (headers headers' : List Header) :
    (store.extend id facts headers).extend id facts' headers' =
      store.extend id (facts ++ facts') (headers ++ headers') := by
  apply ext_getElem?
  intro other
  simp only [getElem?_extend, size_extend, List.length_append]
  by_cases hsize : other < store.size
  · rw [if_pos (by omega), if_pos hsize, if_pos hsize, Option.map_map]
    congr 1
    funext slot
    by_cases hother : other = id
    · simp [hother, Slot.add_add]
    · simp [hother]
  · have hother : other ≠ id := by omega
    rw [if_neg hsize, if_neg hsize, List.getElem?_append]
    by_cases hnew : other < store.size + headers.length
    · rw [if_pos hnew, if_pos (by omega)]
      simp [hother, Function.comp_def]
    · rw [if_neg hnew, if_neg (by omega), Nat.sub_add_eq]

/-- An extension leaves every open scope open. -/
theorem IsOpen.extend {store : Store} {known : Nat} (h : store.IsOpen known) (id : Nat)
    (facts : List Fact) (headers : List Header) :
    (store.extend id facts headers).IsOpen known := by
  obtain ⟨slot, hslot, hfrozen⟩ := isOpen_iff.mp h
  rw [isOpen_iff, getElem?_extend, if_pos h.lt_size, hslot]
  refine ⟨_, rfl, ?_⟩
  split
  · exact (slot.contents.recordAll_frozen_header facts).1.trans hfrozen
  · exact hfrozen

/-- The scopes that an extension opens are open. -/
theorem isOpen_extend_of_le (store : Store) (id : Nat) (facts : List Fact) (headers : List Header)
    {opened : Nat} (hold : store.size ≤ opened) (hnew : opened < store.size + headers.length) :
    (store.extend id facts headers).IsOpen opened := by
  have hlength : opened - store.size < headers.length := by omega
  rw [isOpen_iff, getElem?_extend, if_neg (by omega), List.getElem?_eq_getElem hlength]
  exact ⟨_, rfl, rfl⟩

/-- A fact is recorded exactly in an open scope. -/
theorem record_eq_ok_iff {store changed : Store} {id : Nat} {fact : Fact} :
    store.record id fact = .ok changed ↔
      store.IsOpen id ∧ changed = store.extend id [fact] [] := by
  have hextend : (⟨store.slots.modify id fun slot =>
      { slot with contents := slot.contents.record fact }⟩ : Store) = store.extend id [fact] [] := by
    simp [extend, Slot.add, Contents.recordAll]
  unfold record IsOpen
  cases store.checkOpen id with
  | error fault => simp [bind, Except.bind]
  | ok passed =>
    rw [← hextend]
    simp [bind, Except.bind, pure, Except.pure, eq_comm]

/-- A scope is opened exactly below an open scope, and not for a file. -/
theorem openChild_eq_ok_iff {store changed : Store} {id child : Nat} {header : Header} :
    store.openChild id header = .ok (changed, child) ↔
      store.IsOpen id ∧ header ≠ .file ∧ changed = store.extend id [] [header] ∧
        child = store.size := by
  have hextend : (⟨(store.slots.modify id fun slot =>
      { slot with children := slot.children ++ [store.size] }).push ⟨.fresh header, []⟩⟩ : Store) =
        store.extend id [] [header] := by
    simp [extend, Slot.add, Contents.recordAll, Slot.fresh]
  unfold openChild IsOpen
  cases store.checkOpen id with
  | error fault => simp [bind, Except.bind]
  | ok passed =>
    by_cases hfile : header = .file
    · simp [hfile, bind, Except.bind]
    · rw [← hextend]
      simp [hfile, bind, Except.bind, pure, Except.pure, eq_comm]

end Store

end JavaOutline
