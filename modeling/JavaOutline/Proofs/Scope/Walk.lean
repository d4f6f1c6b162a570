import JavaOutline.Proofs.Scope.Store
import Mathlib.Data.List.Nodup
import Mathlib.Logic.Relation

/-!
# Walks over a forest of scopes

In a store the scopes form a forest: a child has a higher number than its parent, is in one list of
children only and there only once. A walk is a loop over a stack of numbers, each of which gives way
to the numbers of its children; nothing about a store as such makes this loop end. `Walks` says that
it ends and what it meets on the way. In a forest it ends from every scope, and it meets the scope
and everything below it exactly once. The listing that `Store.walk` works out level by level is what
the loop meets, because no path down is longer than the number of scopes.
-/

namespace JavaOutline.Store

variable {store : Store} {id child other below : Nat}

/-! ## Below a scope -/

/-- A scope is in the list of children of another. -/
def IsChild (store : Store) (id child : Nat) : Prop :=
  child ∈ store.childrenOf id

/-- A scope is below another, over one list of children or several. -/
def IsBelow (store : Store) (id below : Nat) : Prop :=
  Relation.TransGen store.IsChild id below

/-- A scope is another one or below it. -/
def Reaches (store : Store) (id below : Nat) : Prop :=
  Relation.ReflTransGen store.IsChild id below

/-- To be reached is to be the scope itself or to be below it. -/
theorem reaches_iff : store.Reaches id below ↔ below = id ∨ store.IsBelow id below :=
  Relation.reflTransGen_iff_eq_or_transGen

/-- The scopes form a forest. -/
structure IsForest (store : Store) : Prop where
  /-- Children are numbered higher than their parent. -/
  lt_child : ∀ {id child}, store.IsChild id child → id < child
  /-- Children are in the store. -/
  child_lt_size : ∀ {id child}, store.IsChild id child → child < store.size
  /-- No child is listed twice. -/
  nodup : ∀ id, (store.childrenOf id).Nodup
  /-- No child is listed by two scopes. -/
  parent_unique : ∀ {first second child}, store.IsChild first child → store.IsChild second child →
    first = second

/-- A number that is not in the store has no children. -/
theorem childrenOf_eq_nil (hid : store.size ≤ id) : store.childrenOf id = [] := by
  rw [childrenOf, Array.getElem?_eq_none hid]

namespace IsForest

/-- What a scope reaches is numbered no lower than the scope. -/
theorem le_of_reaches (hforest : store.IsForest) (h : store.Reaches id below) : id ≤ below := by
  induction h with
  | refl => exact Nat.le_refl id
  | tail _ hchild ih => exact Nat.le_trans ih (Nat.le_of_lt (hforest.lt_child hchild))

/-- What is below a scope is numbered higher than the scope. -/
theorem lt_of_isBelow (hforest : store.IsForest) (h : store.IsBelow id below) : id < below := by
  obtain ⟨child, hchild, hbelow⟩ := Relation.TransGen.head'_iff.mp h
  exact Nat.lt_of_lt_of_le (hforest.lt_child hchild) (hforest.le_of_reaches hbelow)

/-- Of two scopes that reach a third one, one reaches the other. -/
theorem reaches_total (hforest : store.IsForest) {first second : Nat}
    (hfirst : store.Reaches first below) (hsecond : store.Reaches second below) :
    store.Reaches first second ∨ store.Reaches second first := by
  have hunique : Relator.RightUnique (Function.swap store.IsChild) :=
    fun _ _ _ hone htwo => hforest.parent_unique hone htwo
  exact (Relation.ReflTransGen.total_of_right_unique hunique
    (Relation.reflTransGen_swap.mpr hfirst) (Relation.reflTransGen_swap.mpr hsecond)).symm.imp
    Relation.reflTransGen_swap.mp Relation.reflTransGen_swap.mp

/-- No child of a scope reaches another child of it. -/
theorem eq_of_reaches_sibling (hforest : store.IsForest) {first second : Nat}
    (hfirst : store.IsChild id first) (hsecond : store.IsChild id second)
    (h : store.Reaches first second) : first = second := by
  rcases Relation.ReflTransGen.cases_tail h with rfl | ⟨parent, hreaches, hchild⟩
  · rfl
  · -- the last step on the way comes from the common parent, which is numbered too low
    obtain rfl := hforest.parent_unique hchild hsecond
    have hle := hforest.le_of_reaches hreaches
    have hlt := hforest.lt_child hfirst
    omega

end IsForest

/-! ## Listings level by level -/

/-- The numbers of a scope and of everything below it down to some number of levels, in preorder. -/
def preorder (store : Store) (levels id : Nat) : List Nat :=
  (store.numberTree levels id).subtrees.map Tree.label

/-- A walk goes down as many levels as there are scopes. -/
theorem walk_eq_preorder (store : Store) (id : Nat) :
    store.walk id = store.preorder store.size id := by
  rw [walk, Tree.walk_eq_subtrees]
  rfl

/-- Without levels there is the scope alone. -/
theorem preorder_zero (store : Store) (id : Nat) : store.preorder 0 id = [id] := by
  simp [preorder, numberTree, Tree.subtrees]

/-- A scope comes first, and then what is below each of its children. -/
theorem preorder_succ (store : Store) (levels id : Nat) :
    store.preorder (levels + 1) id =
      id :: (store.childrenOf id).flatMap (store.preorder levels) := by
  rw [preorder, numberTree, Tree.subtrees, List.map_cons, Tree.label_node]
  congr 1
  induction store.childrenOf id with
  | nil => simp
  | cons child rest ih =>
    rw [List.map_cons, Tree.subtreesAll_cons, List.map_append, ih]
    rfl

/-- The levels below a child are enough if those below its parent are. -/
theorem IsForest.size_le_of_isChild (hforest : store.IsForest) {levels : Nat}
    (hlevels : store.size ≤ id + (levels + 1)) (hchild : store.IsChild id child) :
    store.size ≤ child + levels := by
  have hlt := hforest.lt_child hchild
  omega

/-- With enough levels, the listing holds what the scope reaches. -/
theorem IsForest.mem_preorder_iff (hforest : store.IsForest) {levels : Nat}
    (hlevels : store.size ≤ id + levels) :
    other ∈ store.preorder levels id ↔ store.Reaches id other := by
  induction levels generalizing id with
  | zero =>
    have hnone : ∀ child, ¬ store.IsChild id child := by
      rw [Nat.add_zero] at hlevels
      simp [IsChild, childrenOf_eq_nil hlevels]
    rw [preorder_zero, List.mem_singleton, Reaches, Relation.ReflTransGen.cases_head_iff]
    simp [hnone, eq_comm]
  | succ levels ih =>
    rw [preorder_succ, List.mem_cons, List.mem_flatMap, Reaches,
      Relation.ReflTransGen.cases_head_iff, eq_comm]
    refine or_congr_right (exists_congr fun child => and_congr_right fun hchild => ?_)
    exact ih (hforest.size_le_of_isChild hlevels hchild)

/-- With enough levels, nothing is listed twice. -/
theorem IsForest.nodup_preorder (hforest : store.IsForest) {levels : Nat}
    (hlevels : store.size ≤ id + levels) : (store.preorder levels id).Nodup := by
  induction levels generalizing id with
  | zero => simp [preorder_zero]
  | succ levels ih =>
    have hmem {child other : Nat} (hchild : store.IsChild id child) :
        other ∈ store.preorder levels child ↔ store.Reaches child other :=
      hforest.mem_preorder_iff (hforest.size_le_of_isChild hlevels hchild)
    rw [preorder_succ, List.nodup_cons, List.nodup_flatMap]
    refine ⟨?_, ?_, ?_⟩
    · rw [List.mem_flatMap]
      rintro ⟨child, hchild, hid⟩
      have hle := hforest.le_of_reaches ((hmem hchild).mp hid)
      have hlt := hforest.lt_child hchild
      omega
    · intro child hchild
      exact ih (hforest.size_le_of_isChild hlevels hchild)
    · -- what two children both reach would lie on one path down through both of them
      apply (hforest.nodup id).pairwise_of_forall_ne
      intro first hfirst second hsecond hne
      change List.Disjoint _ _
      intro other hone htwo
      rcases hforest.reaches_total ((hmem hfirst).mp hone) ((hmem hsecond).mp htwo)
        with hreaches | hreaches
      · exact hne (hforest.eq_of_reaches_sibling hfirst hsecond hreaches)
      · exact hne (hforest.eq_of_reaches_sibling hsecond hfirst hreaches).symm

/-! ## The loop -/

/-- A loop over a stack of numbers ends, and these are the numbers that it meets. -/
inductive Walks (store : Store) : List Nat → List Nat → Prop where
  | done : Walks store [] []
  | visit {id : Nat} {pending visited : List Nat}
      (hrest : Walks store (store.childrenOf id ++ pending) visited) :
      Walks store (id :: pending) (id :: visited)

/-- The loop meets the same numbers each time. -/
theorem Walks.unique {pending visited visited' : List Nat} (h : store.Walks pending visited)
    (h' : store.Walks pending visited') : visited = visited' := by
  induction h generalizing visited' with
  | done =>
    cases h'
    rfl
  | visit _ ih =>
    cases h' with
    | visit hrest => rw [ih hrest]

/-- If the loop ends after each of some numbers, it ends after all of them. -/
theorem Walks.append {children pending visited : List Nat} {listing : Nat → List Nat}
    (hchildren : ∀ child ∈ children, ∀ pending visited, store.Walks pending visited →
      store.Walks (child :: pending) (listing child ++ visited))
    (h : store.Walks pending visited) :
    store.Walks (children ++ pending) (children.flatMap listing ++ visited) := by
  induction children with
  | nil => exact h
  | cons child children ih =>
    rw [List.forall_mem_cons] at hchildren
    rw [List.flatMap_cons, List.append_assoc]
    exact hchildren.1 _ _ (ih hchildren.2)

/-- With enough levels, the loop meets what is listed. -/
theorem IsForest.walks_preorder (hforest : store.IsForest) {levels : Nat}
    (hlevels : store.size ≤ id + levels) {pending visited : List Nat}
    (h : store.Walks pending visited) :
    store.Walks (id :: pending) (store.preorder levels id ++ visited) := by
  induction levels generalizing id pending visited with
  | zero =>
    rw [Nat.add_zero] at hlevels
    rw [preorder_zero]
    apply Walks.visit
    rwa [childrenOf_eq_nil hlevels]
  | succ levels ih =>
    rw [preorder_succ]
    apply Walks.visit
    apply Walks.append _ h
    intro child hchild pending visited hpending
    exact ih (hforest.size_le_of_isChild hlevels hchild) hpending

/-! ## The walk of a forest -/

/-- The loop from a scope ends, and it meets the walk. -/
theorem IsForest.walks_iff (hforest : store.IsForest) (id : Nat) (visited : List Nat) :
    store.Walks [id] visited ↔ visited = store.walk id := by
  have hwalks : store.Walks [id] (store.walk id) := by
    have h := hforest.walks_preorder (Nat.le_add_left store.size id) Walks.done
    rwa [List.append_nil, ← walk_eq_preorder] at h
  constructor
  · intro h
    exact h.unique hwalks
  · rintro rfl
    exact hwalks

/-- A walk meets what the scope reaches. -/
theorem IsForest.mem_walk_iff (hforest : store.IsForest) :
    other ∈ store.walk id ↔ store.Reaches id other := by
  rw [walk_eq_preorder]
  exact hforest.mem_preorder_iff (Nat.le_add_left ..)

/-- A walk meets nothing twice. -/
theorem IsForest.nodup_walk (hforest : store.IsForest) (id : Nat) : (store.walk id).Nodup := by
  rw [walk_eq_preorder]
  exact hforest.nodup_preorder (Nat.le_add_left ..)

end JavaOutline.Store
