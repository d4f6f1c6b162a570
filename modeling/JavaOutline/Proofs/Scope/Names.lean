import JavaOutline.Proofs.Scope.Finality
import JavaOutline.Proofs.Tree

/-!
# Stores in which everything has a name

`IsNamed` says of headers, facts and contents that every name in them is a name: not blank, and with
a segment if it is dotted. A store is an outline if everything in it is named, its first scope is the
only file, and its packages have nothing in them. Recording facts and opening scopes in a scope that
is no package keeps a store an outline, as long as what is added is named. What holds of every slot
of an outline is then read off the tree of its scopes.
-/

namespace JavaOutline

/-! ## Names in what is recorded -/

/-- The name that a header carries is one; a file carries none. -/
def Header.IsNamed : Header → Prop
  | file => True
  | package segments => IsDottedName segments
  | type _ _ name => IsName name
  | record _ name _ => IsName name
  | function _ _ name _ _ => IsName name

/-- The path of a call is a dotted name, and the type of a created object is named at any depth. -/
def Invocation.IsNamed : Invocation → Prop
  | call _ path _ => IsDottedName path
  | creation type _ => type.IsNamed

/-- The names in a field are names: its own and those in its type. -/
def Field.IsNamed (field : Field) : Prop :=
  IsName field.identifier ∧ field.type.IsNamed

/-- Every name in a fact is one. -/
def Fact.IsNamed : Fact → Prop
  | importing declaration => IsDottedName declaration.segments
  | field declared => declared.IsNamed
  | invocation made => made.IsNamed

/-- Every name in the header and in the facts of a scope is one. -/
structure Contents.IsNamed (contents : Contents) : Prop where
  header : contents.header.IsNamed
  imports : ∀ declaration ∈ contents.imports, IsDottedName declaration.segments
  fields : ∀ declared ∈ contents.fields, declared.IsNamed
  invocations : ∀ made ∈ contents.invocations, made.IsNamed

/-- Segments with a name among them are a name when they are joined. -/
theorem IsDottedName.isName_dotted {segments : List String} (h : IsDottedName segments) :
    IsName (dotted segments) := by
  obtain ⟨hsegments, hnames⟩ := h
  obtain ⟨first, rest, rfl⟩ := List.exists_cons_of_ne_nil hsegments
  have hfirst : Text.isBlankText first = false := hnames first List.mem_cons_self
  have hstart : dotted (first :: rest) = first ++ dotted ("" :: rest) := by
    rw [dotted, dotted, ← String.intercalate_cons_append, String.append_empty]
  rw [Text.isBlankText] at hfirst
  rw [IsName, hstart, Text.isBlankText, String.toList_append, List.all_append, hfirst,
    Bool.false_and]

/-- The last segment of a dotted name is there, and it is a name. -/
theorem IsDottedName.exists_getLast? {segments : List String} (h : IsDottedName segments) :
    ∃ last, segments.getLast? = some last ∧ IsName last :=
  ⟨segments.getLast h.1, List.getLast?_eq_some_getLast h.1, h.2 _ (List.getLast_mem h.1)⟩

/-- A header that is named and no file gives its scope a name. -/
theorem Header.IsNamed.isName_name {header : Header} (h : header.IsNamed) (hfile : header ≠ .file) :
    IsName header.name := by
  cases header with
  | file => exact absurd rfl hfile
  | package segments => exact IsDottedName.isName_dotted h
  | type sort modifiers name => exact h
  | record modifiers name parameters => exact h
  | function sort modifiers name parameters returnType => exact h

/-- Only the header of a file opens a file. -/
theorem Header.eq_file_of_kind {header : Header} (h : header.kind = .file) : header = .file := by
  cases header with
  | file => rfl
  | package | record => cases h
  | type sort => cases sort <;> cases h
  | function sort => cases sort <;> cases h

/-- Only the header of a package opens a package. -/
theorem Header.exists_eq_package_of_kind {header : Header} (h : header.kind = .package) :
    ∃ segments, header = .package segments := by
  cases header with
  | package segments => exact ⟨segments, rfl⟩
  | file | record => cases h
  | type sort => cases sort <;> cases h
  | function sort => cases sort <;> cases h

/-- A scope just opened is named if its header is. -/
theorem Contents.isNamed_fresh {header : Header} (h : header.IsNamed) :
    (Contents.fresh header).IsNamed where
  header := h
  imports := by simp [fresh]
  fields := by simp [fresh]
  invocations := by simp [fresh]

/-- Recording a named fact keeps contents named. -/
theorem Contents.IsNamed.record {contents : Contents} (hcontents : contents.IsNamed) {fact : Fact}
    (hfact : fact.IsNamed) : (contents.record fact).IsNamed := by
  cases fact with
  | importing declaration =>
    refine { hcontents with imports := List.forall_mem_append.mpr ⟨hcontents.imports, ?_⟩ }
    exact List.forall_mem_singleton.mpr hfact
  | field declared =>
    refine { hcontents with fields := List.forall_mem_append.mpr ⟨hcontents.fields, ?_⟩ }
    exact List.forall_mem_singleton.mpr hfact
  | invocation made =>
    refine { hcontents with
      invocations := List.forall_mem_append.mpr ⟨hcontents.invocations, ?_⟩ }
    exact List.forall_mem_singleton.mpr hfact

/-- Recording named facts keeps contents named. -/
theorem Contents.IsNamed.recordAll {contents : Contents} (hcontents : contents.IsNamed)
    {facts : List Fact} (hfacts : ∀ fact ∈ facts, fact.IsNamed) :
    (contents.recordAll facts).IsNamed := by
  induction facts generalizing contents with
  | nil => exact hcontents
  | cons fact facts ih =>
    rw [List.forall_mem_cons] at hfacts
    exact ih (hcontents.record hfacts.1) hfacts.2

/-! ## Outlines -/

/-- A slot of an outline: named, a file only at number zero, and empty if it is a package. -/
structure Slot.IsOutlined (id : Nat) (slot : Slot) : Prop where
  isNamed : slot.contents.IsNamed
  file_iff : slot.contents.header = .file ↔ id = 0
  eq_fresh : ∀ segments, slot.contents.header = .package segments →
    slot = .fresh (.package segments)

namespace Store

/-- Every slot is one of an outline. -/
def IsOutline (store : Store) : Prop :=
  ∀ (id : Nat) (slot : Slot), store.slots[id]? = some slot → slot.IsOutlined id

/-- A scope is there and is no package. -/
def IsEnterable (store : Store) (id : Nat) : Prop :=
  ∃ header, store.header? id = some header ∧ header.kind ≠ .package

variable {store : Store} {id : Nat} {facts : List Fact} {headers : List Header}

/-- A store with a file for its root is an outline. -/
theorem isOutline_ofRoot_file : (Store.ofRoot .file).IsOutline := by
  intro id slot hslot
  have hslots : (Store.ofRoot .file).slots = #[Slot.fresh .file] := rfl
  rw [hslots] at hslot
  cases id with
  | zero =>
    obtain rfl : Slot.fresh .file = slot := by simpa using hslot
    exact ⟨Contents.isNamed_fresh trivial, by simp [Slot.fresh, Contents.fresh], nofun⟩
  | succ id => simp at hslot

/-- A scope that can be entered has a slot, which is no package. -/
theorem IsEnterable.exists_slot (hid : store.IsEnterable id) :
    ∃ slot, store.slots[id]? = some slot ∧ slot.contents.header.kind ≠ .package := by
  obtain ⟨header, hheader, hkind⟩ := hid
  rw [header?, contents?, Option.map_map] at hheader
  obtain ⟨slot, hslot, rfl⟩ := Option.map_eq_some_iff.mp hheader
  exact ⟨slot, hslot, hkind⟩

/-- A scope that can be entered is in the store. -/
theorem IsEnterable.lt_size (hid : store.IsEnterable id) : id < store.size := by
  obtain ⟨slot, hslot, _⟩ := hid.exists_slot
  exact (Array.getElem?_eq_some_iff.mp hslot).1

/-- Adding to a store leaves every scope enterable that is so. -/
theorem IsEnterable.extend (hid : store.IsEnterable id) (other : Nat) (facts : List Fact)
    (headers : List Header) : (store.extend other facts headers).IsEnterable id := by
  have hsize := hid.lt_size
  obtain ⟨header, hheader, hkind⟩ := hid
  exact ⟨header, by rw [header?_extend, if_pos hsize, hheader], hkind⟩

/-- Adding named facts, and scopes that are named and no files, in a scope that is no package keeps a
store an outline. -/
theorem IsOutline.extend (hstore : store.IsOutline) (hid : store.IsEnterable id)
    (hfacts : ∀ fact ∈ facts, fact.IsNamed)
    (hheaders : ∀ header ∈ headers, header ≠ .file ∧ header.IsNamed) :
    (store.extend id facts headers).IsOutline := by
  obtain ⟨entered, hentered, hkind⟩ := hid.exists_slot
  intro other slot hslot
  rw [getElem?_extend] at hslot
  split at hslot
  · obtain ⟨old, hold, rfl⟩ := Option.map_eq_some_iff.mp hslot
    have houtlined := hstore other old hold
    split
    · rename_i hsame
      subst hsame
      obtain rfl : entered = old := Option.some.inj (hentered.symm.trans hold)
      obtain ⟨_, hheader⟩ := entered.contents.recordAll_frozen_header facts
      refine ⟨houtlined.isNamed.recordAll hfacts, ?_, ?_⟩
      · rw [Slot.add, hheader]
        exact houtlined.file_iff
      · intro segments hpackage
        rw [Slot.add, hheader] at hpackage
        exact absurd (congrArg Header.kind hpackage) hkind
    · exact houtlined
  · rename_i hsize
    obtain ⟨header, hheader, rfl⟩ := Option.map_eq_some_iff.mp hslot
    obtain ⟨hfile, hnamed⟩ := hheaders header (List.mem_of_getElem? hheader)
    have hroot : 0 < store.size := Nat.lt_of_le_of_lt (Nat.zero_le id) hid.lt_size
    refine ⟨Contents.isNamed_fresh hnamed, ⟨fun h => absurd h hfile, ?_⟩, ?_⟩
    · rintro rfl
      exact absurd hroot hsize
    · intro segments hpackage
      exact congrArg Slot.fresh hpackage

/-! ## The tree of the scopes -/

/-- The root of the tree below a number shows the contents of that number. -/
theorem label_map_numberTree (levels : Nat) :
    ((store.numberTree levels id).map store.contentsOf).label = store.contentsOf id := by
  cases levels <;> rfl

/-- The tree below a number without children is a single node. -/
theorem children_map_numberTree (hchildren : store.childrenOf id = []) (levels : Nat) :
    ((store.numberTree levels id).map store.contentsOf).children = [] := by
  cases levels with
  | zero => rfl
  | succ levels => rw [numberTree, hchildren, Tree.map, Tree.mapAll_eq_map]; rfl

/-- What stands below the root of the tree of a number is the tree of a number below it. -/
theorem exists_isBelow_of_mem_subtreesAll {levels : Nat} {below : Scope}
    (hbelow : below ∈
      Tree.subtreesAll ((store.numberTree levels id).map store.contentsOf).children) :
    ∃ number rest, store.IsBelow id number ∧
      below = (store.numberTree rest number).map store.contentsOf := by
  induction levels generalizing id with
  | zero => simp [numberTree, Tree.map, Tree.mapAll] at hbelow
  | succ levels ih =>
    rw [numberTree, Tree.map, Tree.children_node, Tree.mapAll_eq_map, List.map_map,
      Tree.subtreesAll_eq_flatMap, List.mem_flatMap] at hbelow
    obtain ⟨_, hmem, hbelow⟩ := hbelow
    obtain ⟨child, hchild, rfl⟩ := List.mem_map.mp hmem
    rw [Function.comp_apply, Tree.subtrees_eq_cons] at hbelow
    rcases List.mem_cons.mp hbelow with rfl | hbelow
    · exact ⟨child, levels, .single hchild, rfl⟩
    · obtain ⟨number, rest, hnumber, htree⟩ := ih hbelow
      exact ⟨number, rest, .head hchild hnumber, htree⟩

/-- A node of the tree of a scope shows a slot, and it has no children if the slot has none. -/
def ShowsSlot (store : Store) (id : Nat) (below : Scope) : Prop :=
  ∃ slot, store.slots[id]? = some slot ∧ below.label = slot.contents ∧
    (slot.children = [] → below.children = [])

/-- The tree of a number shows the slot of that number. -/
theorem showsSlot_map_numberTree (hid : id < store.size) (levels : Nat) :
    store.ShowsSlot id ((store.numberTree levels id).map store.contentsOf) := by
  have hslot : store.slots[id]? = some store.slots[id] := Array.getElem?_eq_getElem hid
  refine ⟨_, hslot, ?_, fun hchildren => ?_⟩
  · rw [label_map_numberTree, contentsOf, contents?, hslot]
    rfl
  · apply children_map_numberTree
    rw [childrenOf, hslot]
    exact hchildren

/-- Every scope below another one shows a slot with a higher number. -/
theorem IsForest.exists_showsSlot_of_mem_descendants (hforest : store.IsForest) {below : Scope}
    (hbelow : below ∈ (store.scope id).descendants) :
    ∃ number, id < number ∧ store.ShowsSlot number below := by
  rw [Scope.descendants, Tree.walk_eq_subtrees, Tree.subtrees_eq_cons, List.tail_cons] at hbelow
  obtain ⟨number, rest, hnumber, rfl⟩ := exists_isBelow_of_mem_subtreesAll hbelow
  obtain ⟨parent, _, hchild⟩ := Relation.TransGen.tail'_iff.mp hnumber
  exact ⟨number, hforest.lt_of_isBelow hnumber,
    showsSlot_map_numberTree (hforest.child_lt_size hchild) rest⟩

/-- Every scope of a tree shows a slot. -/
theorem IsForest.exists_showsSlot_of_mem_walk (hforest : store.IsForest) (hid : id < store.size)
    {below : Scope} (hbelow : below ∈ (store.scope id).walk) :
    ∃ number, store.ShowsSlot number below := by
  rw [Tree.walk_eq_subtrees, Tree.subtrees_eq_cons] at hbelow
  rcases List.mem_cons.mp hbelow with rfl | hbelow
  · exact ⟨id, showsSlot_map_numberTree hid store.size⟩
  · have hdescendants : below ∈ (store.scope id).descendants := by
      rwa [Scope.descendants, Tree.walk_eq_subtrees, Tree.subtrees_eq_cons, List.tail_cons]
    obtain ⟨number, _, hshows⟩ := hforest.exists_showsSlot_of_mem_descendants hdescendants
    exact ⟨number, hshows⟩

end Store

end JavaOutline
