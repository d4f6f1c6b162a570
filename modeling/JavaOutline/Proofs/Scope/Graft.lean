import JavaOutline.Proofs.Scope.Finality

/-!
# One store grafted onto another

Take a store that was filled from a fresh root, and a scope of some other store. Grafting puts the
first store in at that scope: what the root holds goes behind what the scope holds, and the scopes
below the root come last, under new numbers. Extending the fresh store and then grafting it is
grafting it and then extending at the new number, so that a run in a fresh store can be followed step
by step in the other one. Below the root, the grafted scopes are the same as before.
-/

namespace JavaOutline

/-- The contents with the facts of others behind their own. -/
def Contents.append (contents added : Contents) : Contents :=
  { contents with
    imports := contents.imports ++ added.imports
    fields := contents.fields ++ added.fields
    invocations := contents.invocations ++ added.invocations }

/-- Nothing is added by a scope that was just opened. -/
@[simp] theorem Contents.append_fresh (contents : Contents) (header : Header) :
    contents.append (.fresh header) = contents := by
  simp [append, fresh]

/-- Facts recorded in what is added are recorded behind all others. -/
theorem Contents.append_recordAll (contents added : Contents) (facts : List Fact) :
    contents.append (added.recordAll facts) = (contents.append added).recordAll facts := by
  induction facts generalizing added with
  | nil => rfl
  | cons fact facts ih =>
    have hfact : contents.append (added.record fact) = (contents.append added).record fact := by
      cases fact <;> simp [append, record]
    rw [recordAll, List.foldl_cons, ← recordAll, ih, hfact]
    rfl

/-- The slot with its children under other numbers. -/
def Slot.renumber (number : Nat → Nat) (slot : Slot) : Slot :=
  { slot with children := slot.children.map number }

/-- What is added to a slot can be renumbered before or after. -/
theorem Slot.renumber_add (number : Nat → Nat) (slot : Slot) (facts : List Fact)
    (opened : List Nat) :
    (slot.add facts opened).renumber number =
      (slot.renumber number).add facts (opened.map number) := by
  simp [renumber, add]

/-- The new number of a grafted scope: the root becomes `scope`, and the others are numbered from
`next` on. -/
def graftedNumber (scope next : Nat) : Nat → Nat
  | 0 => scope
  | id + 1 => next + id

/-- Numbers in a row stay in a row below the root. -/
theorem map_graftedNumber_range' {scope next first : Nat} (hfirst : 0 < first) (count : Nat) :
    (List.range' first count).map (graftedNumber scope next) =
      List.range' (next + (first - 1)) count := by
  obtain ⟨before, rfl⟩ : ∃ before, first = before + 1 := ⟨first - 1, by omega⟩
  induction count generalizing before with
  | zero => rfl
  | succ count ih =>
    rw [List.range'_succ, List.range'_succ, List.map_cons, ih (before + 1) (Nat.succ_pos _)]
    simp only [graftedNumber, Nat.add_sub_cancel]
    rfl

namespace Store

/-- A store with another one put in at a scope. -/
def graft (store : Store) (scope : Nat) (added : Store) : Store :=
  let number := graftedNumber scope store.size
  let join := fun (slot : Slot) => (⟨slot.contents.append (added.contentsOf 0),
    slot.children ++ (added.childrenOf 0).map number⟩ : Slot)
  ⟨store.slots.modify scope join ++ (added.slots.toList.tail.map (Slot.renumber number)).toArray⟩

variable {store added : Store} {scope id : Nat}

/-- All scopes but the root of the store that is put in are new. -/
theorem size_graft (store : Store) (scope : Nat) (added : Store) :
    (store.graft scope added).size = store.size + (added.size - 1) := by
  simp [graft, size]

/-- The slots after grafting: the old ones, one of them with the root added, and then the new ones.
-/
theorem getElem?_graft (store : Store) (scope : Nat) (added : Store) (id : Nat) :
    (store.graft scope added).slots[id]? =
      if id < store.size then
        store.slots[id]?.map fun slot =>
          if id = scope then
            ⟨slot.contents.append (added.contentsOf 0),
              slot.children ++ (added.childrenOf 0).map (graftedNumber scope store.size)⟩
          else slot
      else added.slots[id - store.size + 1]?.map
        (Slot.renumber (graftedNumber scope store.size)) := by
  unfold graft
  rw [Array.getElem?_append, Array.size_modify, Array.getElem?_modify]
  change (if id < store.size then _ else _) = _
  by_cases hsize : id < store.size
  · rw [if_pos hsize, if_pos hsize]
    by_cases hid : id = scope
    · simp [hid]
    · simp [hid, Ne.symm hid]
  · rw [if_neg hsize, if_neg hsize]
    simp [size]

/-- A root just opened adds nothing. -/
theorem graft_ofRoot (store : Store) (scope : Nat) (header : Header) :
    store.graft scope (.ofRoot header) = store := by
  apply ext_getElem?
  intro id
  have hcontents : (Store.ofRoot header).contentsOf 0 = .fresh header := rfl
  have hchildren : (Store.ofRoot header).childrenOf 0 = [] := rfl
  rw [getElem?_graft, hcontents, hchildren]
  by_cases hsize : id < store.size
  · simp [hsize]
  · have hnone : store.slots[id]? = none := Array.getElem?_eq_none (Nat.le_of_not_lt hsize)
    simp [hsize, hnone, ofRoot, addRoot, empty]

/-- The contents of a scope after an extension. -/
theorem contentsOf_extend (hid : id < store.size) (other : Nat) (facts : List Fact)
    (headers : List Header) :
    (store.extend other facts headers).contentsOf id =
      if id = other then (store.contentsOf id).recordAll facts else store.contentsOf id := by
  have hslot : store.slots[id]? = some store.slots[id] := Array.getElem?_eq_getElem hid
  rw [contentsOf, contents?, getElem?_extend, if_pos hid, contentsOf, contents?, hslot]
  by_cases hother : id = other
  · simp [hother, Slot.add]
  · simp [hother]

/-- Extending the store that is put in, at one of its scopes, is extending the other store at the new
number of that scope. -/
theorem extend_graft (hscope : scope < store.size) (hid : id < added.size) (facts : List Fact)
    (headers : List Header) :
    (store.graft scope added).extend (graftedNumber scope store.size id) facts headers =
      store.graft scope (added.extend id facts headers) := by
  have hroot : 0 < added.size := Nat.lt_of_le_of_lt (Nat.zero_le id) hid
  have hopened : (List.range' added.size headers.length).map (graftedNumber scope store.size) =
      List.range' (store.graft scope added).size headers.length := by
    rw [map_graftedNumber_range' hroot, size_graft]
  apply ext_getElem?
  intro other
  rw [getElem?_extend, getElem?_graft, getElem?_graft, ← hopened, size_graft]
  by_cases hold : other < store.size
  · rw [if_pos (by omega), if_pos hold, if_pos hold, Option.map_map, contentsOf_extend hroot,
      childrenOf_extend]
    congr 1
    funext slot
    cases id with
    | zero =>
      -- the extension is at the root, so it shows in the slot of the scope
      by_cases hother : other = scope
      · simp [graftedNumber, hother, hroot, Slot.add, Contents.append_recordAll]
      · simp [graftedNumber, hother]
    | succ id =>
      have hother : other ≠ store.size + id := by omega
      simp [graftedNumber, hother]
  · rw [if_neg hold, if_neg hold, getElem?_extend]
    by_cases hnew : other - store.size + 1 < added.size
    · rw [if_pos hnew, if_pos (by omega), Option.map_map, Option.map_map]
      congr 1
      funext slot
      have hsame : other = graftedNumber scope store.size id ↔ other - store.size + 1 = id := by
        cases id with
        | zero => simp only [graftedNumber]; omega
        | succ id => simp only [graftedNumber]; omega
      by_cases hother : other - store.size + 1 = id
      · simp [hsame, hother, Slot.renumber_add]
      · simp [hsame, hother]
    · rw [if_neg hnew, if_neg (by omega), Option.map_map]
      congr 2
      omega

/-! ## Views of a grafted store -/

/-- A scope that can be changed can still be, after grafting. -/
theorem IsOpen.graft (hopen : store.IsOpen scope) (hadded : added.IsOpen id) :
    (store.graft scope added).IsOpen (graftedNumber scope store.size id) := by
  cases id with
  | zero =>
    obtain ⟨slot, hslot, hfrozen⟩ := isOpen_iff.mp hopen
    rw [isOpen_iff, graftedNumber, getElem?_graft, if_pos hopen.lt_size, hslot, Option.map_some,
      if_pos rfl]
    exact ⟨_, rfl, hfrozen⟩
  | succ id =>
    obtain ⟨slot, hslot, hfrozen⟩ := isOpen_iff.mp hadded
    rw [isOpen_iff, graftedNumber, getElem?_graft, if_neg (by omega), Nat.add_sub_cancel_left, hslot]
    exact ⟨_, rfl, hfrozen⟩

/-- Grafting changes no slot but that of its scope. -/
theorem getElem?_graft_of_ne (hid : id < store.size) (hne : id ≠ scope) (added : Store) :
    (store.graft scope added).slots[id]? = store.slots[id]? := by
  rw [getElem?_graft, if_pos hid]
  simp [hne]

/-- The contents of the scope of a graft: the old ones, and behind them the facts of the root. -/
theorem contents?_graft_self (hscope : scope < store.size) (added : Store) :
    (store.graft scope added).contents? scope =
      (store.contents? scope).map fun contents => contents.append (added.contentsOf 0) := by
  rw [contents?, getElem?_graft, if_pos hscope, contents?, Option.map_map, Option.map_map]
  simp [Function.comp_def]

/-- The slot of a scope that was below the root. -/
theorem getElem?_graft_graftedNumber (hid : 0 < id) :
    (store.graft scope added).slots[graftedNumber scope store.size id]? =
      added.slots[id]?.map (Slot.renumber (graftedNumber scope store.size)) := by
  obtain ⟨before, rfl⟩ : ∃ before, id = before + 1 := ⟨id - 1, by omega⟩
  rw [graftedNumber, getElem?_graft, if_neg (by omega), Nat.add_sub_cancel_left]

/-- The children of the scope of a graft: the old ones, and then those of the root. -/
theorem childrenOf_graft_self (hscope : scope < store.size) (added : Store) :
    (store.graft scope added).childrenOf scope =
      store.childrenOf scope ++ (added.childrenOf 0).map (graftedNumber scope store.size) := by
  have hslot : store.slots[scope]? = some store.slots[scope] := Array.getElem?_eq_getElem hscope
  have hold : store.childrenOf scope = store.slots[scope].children := by rw [childrenOf, hslot]
  rw [childrenOf, getElem?_graft, if_pos hscope, hslot, hold]
  simp

/-- The children of a scope that was below the root, under their new numbers. -/
theorem childrenOf_graft_graftedNumber (hid : 0 < id) :
    (store.graft scope added).childrenOf (graftedNumber scope store.size id) =
      (added.childrenOf id).map (graftedNumber scope store.size) := by
  rw [childrenOf, getElem?_graft_graftedNumber hid, childrenOf]
  cases added.slots[id]? <;> rfl

/-- The contents of a scope that was below the root are the same. -/
theorem contentsOf_graft_graftedNumber (hid : 0 < id) :
    (store.graft scope added).contentsOf (graftedNumber scope store.size id) =
      added.contentsOf id := by
  rw [contentsOf, contents?, getElem?_graft_graftedNumber hid, contentsOf, contents?]
  cases added.slots[id]? <;> rfl

/-- The numbers below a scope that was below the root are the new ones of those below it. -/
theorem numberTree_graft (hforest : added.IsForest) (hid : 0 < id) (levels : Nat) :
    (store.graft scope added).numberTree levels (graftedNumber scope store.size id) =
      (added.numberTree levels id).map (graftedNumber scope store.size) := by
  induction levels generalizing id with
  | zero => simp [numberTree, Tree.map]
  | succ levels ih =>
    rw [numberTree, numberTree, Tree.map, Tree.mapAll_eq_map, childrenOf_graft_graftedNumber hid,
      List.map_map, List.map_map]
    congr 1
    refine List.map_congr_left fun child hchild => ?_
    exact ih (Nat.lt_trans hid (hforest.lt_child hchild))

/-- A scope that was below the root is the same scope, with everything below it. -/
theorem scope_graft (hscope : scope < store.size) (hforest : added.IsForest) (hid : 0 < id) :
    (store.graft scope added).scope (graftedNumber scope store.size id) = added.scope id := by
  have hsize := size_graft store scope added
  have hlevels : added.numberTree (store.graft scope added).size id =
      added.numberTree added.size id :=
    hforest.numberTree_eq (by omega) (Nat.le_add_left ..)
  rw [Store.scope, numberTree_graft hforest hid, Tree.map_map, hlevels, Store.scope]
  refine map_numberTree_congr (fun below hbelow => ?_) _
  exact contentsOf_graft_graftedNumber (Nat.lt_of_lt_of_le hid (hforest.le_of_reaches hbelow))

/-- An old child of the scope of a graft is the same scope, with everything below it. -/
theorem scope_graft_of_isChild (hforest : store.IsForest) {child : Nat}
    (hchild : store.IsChild scope child) (added : Store) :
    (store.graft scope added).scope child = store.scope child := by
  have hsize : store.size ≤ (store.graft scope added).size := by
    rw [size_graft]
    exact Nat.le_add_right ..
  refine (hforest.scope_congr hsize fun below hbelow => ?_).2
  have hlt := Nat.lt_of_lt_of_le (hforest.lt_child hchild) (hforest.le_of_reaches hbelow)
  by_cases hid : below < store.size
  · exact getElem?_graft_of_ne hid (Nat.ne_of_gt hlt) added
  · -- what a child reaches is itself or a child, and so in the store
    rcases Relation.ReflTransGen.cases_tail hbelow with rfl | ⟨parent, _, hlast⟩
    · exact absurd (hforest.child_lt_size hchild) hid
    · exact absurd (hforest.child_lt_size hlast) hid

/-- The children of the scope of a graft are, as scopes, its old children and then those of the
root. -/
theorem map_scope_childrenOf_graft (hscope : scope < store.size) (hforest : store.IsForest)
    (hadded : added.IsForest) :
    ((store.graft scope added).childrenOf scope).map (store.graft scope added).scope =
      (store.childrenOf scope).map store.scope ++ (added.childrenOf 0).map added.scope := by
  rw [childrenOf_graft_self hscope, List.map_append, List.map_map]
  congr 1
  · exact List.map_congr_left fun child hchild => scope_graft_of_isChild hforest hchild added
  · refine List.map_congr_left fun child hchild => ?_
    exact scope_graft hscope hadded (hadded.lt_child hchild)

end Store

end JavaOutline
