import JavaOutline.Proofs.Scope.Names

/-!
# What queries find

A query goes along the loop of a walk, and one for scopes drops the first scope that the loop meets.
`Tree.walk_eq_cons_flatMap` turns the loop into a recursion over the children, and every query
follows it: the answer for a scope is what the scope itself gives and then the answers for its
children, in order. In a store the scopes of a walk have numbers, by which two scopes that show the
same are still told apart. There the queries for scopes share out what is below a scope by kind, so
that nothing is lost and nothing is found twice; a file is found by none of them, but no file is below
another scope.
-/

namespace JavaOutline

/-- The kinds of scope that there are queries for. -/
def ScopeKind.queried : List ScopeKind :=
  [package, classType, interfaceType, enumType, record, function, constructor]

/-- There is a query for every kind of scope but files. -/
theorem ScopeKind.mem_queried_iff {kind : ScopeKind} : kind ∈ queried ↔ kind ≠ file := by
  cases kind <;> decide

/-! ## Queries follow the children -/

namespace Scope

/-- What is collected along a walk comes from the scope itself and then from each child. -/
theorem flatMap_walk {α : Type} (collect : Scope → List α) (scope : Scope) :
    scope.walk.flatMap collect =
      collect scope ++ scope.children.flatMap fun child => child.walk.flatMap collect := by
  rw [Tree.walk_eq_cons_flatMap, List.flatMap_cons, List.flatMap_assoc]

/-- What is below a scope are its children and what is below each of them. -/
theorem descendants_eq_flatMap (scope : Scope) :
    scope.descendants = scope.children.flatMap Tree.walk := by
  rw [descendants, Tree.walk_eq_cons_flatMap, List.tail_cons]

/-- A query for scopes gives each child if it has the kind, and then what the query gives for it. -/
theorem descendantsOfKind_eq_flatMap (kind : ScopeKind) (scope : Scope) :
    descendantsOfKind kind scope = scope.children.flatMap fun child =>
      (if Scope.kind child = kind then [child] else []) ++ descendantsOfKind kind child := by
  rw [descendantsOfKind, descendants_eq_flatMap, List.filter_flatMap]
  refine List.flatMap_congr fun child _ => ?_
  rw [descendantsOfKind, descendants_eq_flatMap, Tree.walk_eq_cons_flatMap, List.filter_cons]
  by_cases hkind : Scope.kind child = kind <;> simp [hkind]

/-- No query for scopes gives the scope that is asked. -/
theorem not_mem_descendantsOfKind (kind : ScopeKind) (scope : Scope) :
    scope ∉ descendantsOfKind kind scope := by
  intro hmem
  rw [descendantsOfKind, descendants, Tree.walk_eq_subtrees, Tree.subtrees_eq_cons,
    List.tail_cons] at hmem
  exact Tree.not_mem_subtreesAll_children scope (List.mem_filter.mp hmem).1

end Scope

/-! ## Queries in a store -/

namespace Store

variable {store : Store} {id below : Nat}

/-- The root of the scope of a number shows the contents of that number. -/
@[simp] theorem label_scope (store : Store) (id : Nat) :
    (store.scope id).label = store.contentsOf id :=
  label_map_numberTree store.size

/-- The numbers of the scopes of a kind below a scope, in the order of a walk. -/
def numbersOfKind (store : Store) (kind : ScopeKind) (id : Nat) : List Nat :=
  (store.walk id).tail.filter fun below => (store.contentsOf below).header.kind == kind

/-- With enough levels, the trees below a number are those of the numbers that it reaches. -/
theorem IsForest.subtrees_numberTree (hforest : store.IsForest) {levels : Nat}
    (hlevels : store.size ≤ id + levels) :
    (store.numberTree levels id).subtrees =
      (store.preorder levels id).map (store.numberTree store.size) := by
  have htree {id levels : Nat} (hlevels : store.size ≤ id + levels) :
      store.numberTree levels id = store.numberTree store.size id :=
    hforest.numberTree_eq hlevels (Nat.le_add_left ..)
  induction levels generalizing id with
  | zero =>
    rw [preorder_zero, List.map_singleton, ← htree hlevels, numberTree, Tree.subtrees,
      Tree.subtreesAll_nil]
  | succ levels ih =>
    rw [Tree.subtrees_eq_cons, htree hlevels, preorder_succ, List.map_cons, List.map_flatMap,
      ← htree hlevels, numberTree, Tree.children_node, Tree.subtreesAll_eq_flatMap,
      List.flatMap_map]
    refine congrArg _ (List.flatMap_congr fun child hchild => ?_)
    exact ih (hforest.size_le_of_isChild hlevels hchild)

/-- The walk of a scope meets the scopes of the numbers that the walk of its number meets. -/
theorem IsForest.walk_scope (hforest : store.IsForest) (id : Nat) :
    (store.scope id).walk = (store.walk id).map store.scope := by
  rw [scope, Tree.walk_eq_subtrees, Tree.subtrees_map,
    hforest.subtrees_numberTree (Nat.le_add_left ..), List.map_map, walk_eq_preorder]
  rfl

/-- The children of a scope are the scopes of the numbers that its slot lists. -/
theorem IsForest.children_scope (hforest : store.IsForest) (id : Nat) :
    (store.scope id).children = (store.childrenOf id).map store.scope := by
  -- one level more makes no difference, and shows the children
  have htree : store.numberTree store.size id = store.numberTree (store.size + 1) id :=
    hforest.numberTree_eq (Nat.le_add_left ..) (by omega)
  rw [scope, htree, numberTree, Tree.children_map, Tree.children_node, List.map_map]
  rfl

/-- The walk of a number meets it and then what the walks of its children meet. -/
theorem IsForest.walk_eq_cons_flatMap (hforest : store.IsForest) (id : Nat) :
    store.walk id = id :: (store.childrenOf id).flatMap store.walk := by
  have hlisting {id levels : Nat} (hlevels : store.size ≤ id + levels) :
      store.preorder levels id = store.walk id := by
    rw [walk_eq_preorder, preorder, hforest.numberTree_eq hlevels (Nat.le_add_left ..), preorder]
  have hlevels : store.size ≤ id + (store.size + 1) := by omega
  rw [← hlisting hlevels, preorder_succ]
  refine congrArg _ (List.flatMap_congr fun child hchild => hlisting ?_)
  exact hforest.size_le_of_isChild hlevels hchild

/-- A walk goes on from its scope to what is below it. -/
theorem IsForest.mem_tail_walk_iff (hforest : store.IsForest) :
    below ∈ (store.walk id).tail ↔ store.IsBelow id below := by
  have hcons := hforest.walk_eq_cons_flatMap id
  have hnodup := hforest.nodup_walk id
  have hmem : below ∈ store.walk id ↔ below = id ∨ store.IsBelow id below := by
    rw [hforest.mem_walk_iff, reaches_iff]
  rw [hcons, List.nodup_cons] at hnodup
  rw [hcons, List.mem_cons] at hmem
  rw [hcons, List.tail_cons]
  constructor
  · intro htail
    rcases hmem.mp (.inr htail) with rfl | hbelow
    · exact absurd htail hnodup.1
    · exact hbelow
  · intro hbelow
    rcases hmem.mpr (.inr hbelow) with rfl | htail
    · exact absurd (hforest.lt_of_isBelow hbelow) (Nat.lt_irrefl _)
    · exact htail

/-- The numbers of a kind are the scopes of that kind below a scope. -/
theorem IsForest.mem_numbersOfKind_iff (hforest : store.IsForest) {kind : ScopeKind} :
    below ∈ store.numbersOfKind kind id ↔
      store.IsBelow id below ∧ (store.contentsOf below).header.kind = kind := by
  rw [numbersOfKind, List.mem_filter, hforest.mem_tail_walk_iff, beq_iff_eq]

/-- A query for scopes gives the scopes of the numbers of its kind. -/
theorem IsForest.descendantsOfKind_scope (hforest : store.IsForest) (kind : ScopeKind) (id : Nat) :
    Scope.descendantsOfKind kind (store.scope id) =
      (store.numbersOfKind kind id).map store.scope := by
  rw [Scope.descendantsOfKind, Scope.descendants, hforest.walk_scope, ← List.map_tail,
    List.filter_map, numbersOfKind]
  simp only [Function.comp_def, Scope.kind, label_scope]

/-- What is below a scope has one of the kinds that there are queries for. -/
theorem WellFormed.kind_mem_queried (hstore : store.WellFormed) (hbelow : store.IsBelow id below) :
    (store.contentsOf below).header.kind ∈ ScopeKind.queried := by
  obtain ⟨parent, _, hchild⟩ := Relation.TransGen.tail'_iff.mp hbelow
  obtain ⟨header, hheader, hfile⟩ := hstore.exists_header_of_isChild hchild
  obtain ⟨contents, hcontents, rfl⟩ := Option.map_eq_some_iff.mp hheader
  rw [ScopeKind.mem_queried_iff, contentsOf, hcontents, Option.getD_some]
  exact fun hkind => hfile (Header.eq_file_of_kind hkind)

end Store

/-- Queries lose nothing and repeat nothing. In the store after any calls, the loop from a scope ends
and meets the scope and then what it meets from each child, in order; the scopes that it meets are
those of the numbers in the walk of the store, where no number comes twice. Every import, field and
invocation that is found is in the list of the scope itself or is found for a child, in the same order.
A query for scopes gives each child of its kind, followed by what it gives for that child, and never
the scope that is asked. What is below a scope is found by exactly one of the seven queries, where it
is found once and in the order of the walk, and nothing else is found. -/
theorem queries_share_out_descendants (operations : List Operation) (id : Nat) :
    let store := Store.empty.run operations
    let scope := store.scope id
    (∀ visited, store.Walks [id] visited ↔ visited = store.walk id) ∧
    store.walk id = id :: (store.childrenOf id).flatMap store.walk ∧
    scope.walk = (store.walk id).map store.scope ∧
    scope.children = (store.childrenOf id).map store.scope ∧
    scope.walk = scope :: scope.children.flatMap Tree.walk ∧
    Scope.allImports scope = scope.label.imports ++ scope.children.flatMap Scope.allImports ∧
    Scope.allFields scope = scope.label.fields ++ scope.children.flatMap Scope.allFields ∧
    Scope.allInvocations scope =
      scope.label.invocations ++ scope.children.flatMap Scope.allInvocations ∧
    (∀ kind, Scope.descendantsOfKind kind scope = scope.children.flatMap fun child =>
      (if Scope.kind child = kind then [child] else []) ++ Scope.descendantsOfKind kind child) ∧
    (∀ kind, Scope.descendantsOfKind kind scope =
      (store.numbersOfKind kind id).map store.scope) ∧
    (∀ kind, scope ∉ Scope.descendantsOfKind kind scope ∧ id ∉ store.numbersOfKind kind id) ∧
    (store.walk id).Nodup ∧
    (∀ kind, (store.numbersOfKind kind id).Sublist (store.walk id)) ∧
    ∀ below, store.IsBelow id below ↔
      ∃! kind, kind ∈ ScopeKind.queried ∧ below ∈ store.numbersOfKind kind id := by
  intro store scope
  have hstore : store.WellFormed := Store.wellFormed_empty.run operations
  have hforest : store.IsForest := hstore.toIsForest
  refine ⟨hforest.walks_iff id, hforest.walk_eq_cons_flatMap id, hforest.walk_scope id,
    hforest.children_scope id, scope.walk_eq_cons_flatMap, Scope.flatMap_walk _ scope,
    Scope.flatMap_walk _ scope, Scope.flatMap_walk _ scope,
    fun kind => Scope.descendantsOfKind_eq_flatMap kind scope,
    fun kind => hforest.descendantsOfKind_scope kind id, ?_, hforest.nodup_walk id, ?_, ?_⟩
  · intro kind
    refine ⟨Scope.not_mem_descendantsOfKind kind scope, fun hmem => ?_⟩
    have hself := (hforest.mem_numbersOfKind_iff.mp hmem).1
    exact Nat.lt_irrefl id (hforest.lt_of_isBelow hself)
  · intro kind
    exact List.filter_sublist.trans (List.tail_sublist _)
  · intro below
    constructor
    · intro hbelow
      refine ⟨(store.contentsOf below).header.kind, ?_, ?_⟩
      · exact ⟨hstore.kind_mem_queried hbelow, hforest.mem_numbersOfKind_iff.mpr ⟨hbelow, rfl⟩⟩
      · intro kind hkind
        exact (hforest.mem_numbersOfKind_iff.mp hkind.2).2.symm
    · rintro ⟨kind, ⟨_, hmem⟩, _⟩
      exact (hforest.mem_numbersOfKind_iff.mp hmem).1

end JavaOutline
