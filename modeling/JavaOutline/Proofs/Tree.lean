import JavaOutline.Tree
import Mathlib.Data.List.Basic

/-!
# Induction on trees

A property of trees that passes from the subtrees of a node to the node holds of all trees.
Functions that go through a list of subtrees are then treated by an induction on the list inside,
with the property known of each of its members. Listings and outlines of a tree go along with its
children and with a relabelling in this way.
-/

namespace JavaOutline.Tree

universe u v w

variable {α : Type u} {β : Type v} {γ : Type w}

/-- Induction from the direct subtrees to the tree. -/
@[elab_as_elim]
theorem induct {motive : Tree α → Prop}
    (node : ∀ label children, (∀ child ∈ children, motive child) → motive (.node label children))
    (tree : Tree α) : motive tree :=
  @Tree.rec α motive (fun children => ∀ child ∈ children, motive child) node
    (fun _ hmem => absurd hmem (List.not_mem_nil))
    (fun _ _ hhead htail _ hmem => (List.mem_cons.mp hmem).elim (· ▸ hhead) (htail _)) tree

/-- The listings of several trees are those of each tree, one after the other. -/
theorem subtreesAll_eq_flatMap (trees : List (Tree α)) :
    subtreesAll trees = trees.flatMap subtrees := by
  induction trees with
  | nil => simp
  | cons tree trees ih => simp [ih]

/-- A tree of a list has no more nodes than all trees of the list together. -/
theorem size_le_sizeAll {tree : Tree α} {trees : List (Tree α)} (hmem : tree ∈ trees) :
    tree.size ≤ sizeAll trees := by
  induction trees with
  | nil => cases hmem
  | cons first rest ih =>
    rw [sizeAll_cons]
    rcases List.mem_cons.mp hmem with rfl | hrest
    · exact Nat.le_add_right ..
    · exact Nat.le_trans (ih hrest) (Nat.le_add_left ..)

/-- A child has fewer nodes than the tree. -/
theorem size_lt_of_mem_children {tree child : Tree α} (hchild : child ∈ tree.children) :
    child.size < tree.size := by
  rw [size_eq tree]
  exact Nat.lt_succ_of_le (size_le_sizeAll hchild)

/-- A walk meets the tree and then what the walks of its children meet. -/
theorem walk_eq_cons_flatMap (tree : Tree α) : tree.walk = tree :: tree.children.flatMap walk := by
  have hwalk : (walk : Tree α → List (Tree α)) = subtrees := funext walk_eq_subtrees
  rw [hwalk, subtrees_eq_cons, subtreesAll_eq_flatMap]

/-- Nothing that is listed below a tree has more nodes than the tree. -/
theorem size_le_of_mem_subtrees {tree below : Tree α} (hbelow : below ∈ tree.subtrees) :
    below.size ≤ tree.size := by
  induction tree using induct with
  | node root children ih =>
    rw [subtrees, List.mem_cons, subtreesAll_eq_flatMap, List.mem_flatMap] at hbelow
    rcases hbelow with rfl | ⟨child, hchild, hbelow⟩
    · exact Nat.le_refl _
    · have hle := ih child hchild hbelow
      have hlt : child.size < (node root children).size := size_lt_of_mem_children hchild
      omega

/-- A tree is not among the trees below it. -/
theorem not_mem_subtreesAll_children (tree : Tree α) : tree ∉ subtreesAll tree.children := by
  intro hmem
  rw [subtreesAll_eq_flatMap, List.mem_flatMap] at hmem
  obtain ⟨child, hchild, hbelow⟩ := hmem
  have hle := size_le_of_mem_subtrees hbelow
  have hlt := size_lt_of_mem_children hchild
  omega

/-- What is below a child is below the tree. -/
theorem subtrees_subset_of_mem_children {tree child : Tree α} (hchild : child ∈ tree.children) :
    child.subtrees ⊆ tree.subtrees := by
  intro below hbelow
  rw [subtrees_eq_cons, subtreesAll_eq_flatMap]
  exact List.mem_cons_of_mem _ (List.mem_flatMap.mpr ⟨child, hchild, hbelow⟩)

/-- An outline shows the labels of the listing. -/
theorem map_snd_outline (depth : Nat) (tree : Tree α) :
    (tree.outline depth).map Prod.snd = tree.subtrees.map label := by
  induction tree using induct generalizing depth with
  | node root children ih =>
    rw [outline, subtrees, outlineAll_eq_flatMap, subtreesAll_eq_flatMap, List.map_cons,
      List.map_cons, List.map_flatMap, List.map_flatMap, label_node]
    exact congrArg _ (List.flatMap_congr fun child hchild => ih child hchild (depth + 1))

/-- Relabelling a tree relabels its root. -/
@[simp] theorem label_map (f : α → β) (tree : Tree α) : (tree.map f).label = f tree.label := by
  cases tree
  rw [map, label_node, label_node]

/-- Relabelling a tree relabels its children. -/
@[simp] theorem children_map (f : α → β) (tree : Tree α) :
    (tree.map f).children = tree.children.map (map f) := by
  cases tree
  rw [map, children_node, children_node, mapAll_eq_map]

/-- Relabelling a tree relabels every tree that is listed. -/
theorem subtrees_map (f : α → β) (tree : Tree α) :
    (tree.map f).subtrees = tree.subtrees.map (map f) := by
  induction tree using induct with
  | node root children ih =>
    rw [subtrees_eq_cons, subtrees_eq_cons, List.map_cons, children_map, subtreesAll_eq_flatMap,
      subtreesAll_eq_flatMap, List.flatMap_map, List.map_flatMap]
    exact congrArg _ (List.flatMap_congr ih)

/-- Relabelling a tree relabels its listing. -/
theorem map_label_subtrees_map (f : α → β) (tree : Tree α) :
    (tree.map f).subtrees.map label = (tree.subtrees.map label).map f := by
  rw [subtrees_map, List.map_map, List.map_map]
  exact List.map_congr_left fun below _ => label_map f below

/-- Relabelling twice is relabelling once. -/
theorem map_map (g : β → γ) (f : α → β) (tree : Tree α) :
    (tree.map f).map g = tree.map (g ∘ f) := by
  induction tree using induct with
  | node root children ih =>
    rw [map, map, map, mapAll_eq_map, mapAll_eq_map, mapAll_eq_map, List.map_map]
    exact congrArg _ (List.map_congr_left ih)

/-- Relabelling a tree with its own labels gives the tree. -/
theorem map_id (tree : Tree α) : tree.map id = tree := by
  induction tree using induct with
  | node root children ih =>
    rw [map, mapAll_eq_map, List.map_congr_left ih, List.map_id']
    rfl

/-- Relabelling a tree keeps its height. -/
theorem height_map (f : α → β) (tree : Tree α) : (tree.map f).height = tree.height := by
  induction tree using induct with
  | node root children ih =>
    rw [map, height, height, mapAll_eq_map]
    congr 1
    induction children with
    | nil => rfl
    | cons child children ihChildren =>
      rw [List.forall_mem_cons] at ih
      rw [List.map_cons, heightAll, heightAll, ih.1, ihChildren ih.2]

/-- Relabelling a tree relabels its outline. -/
theorem outline_map (f : α → β) (depth : Nat) (tree : Tree α) :
    (tree.map f).outline depth = (tree.outline depth).map fun entry => (entry.1, f entry.2) := by
  induction tree using induct generalizing depth with
  | node root children ih =>
    rw [map, outline, outline, outlineAll_eq_flatMap, outlineAll_eq_flatMap, mapAll_eq_map,
      List.flatMap_map, List.map_cons, List.map_flatMap]
    exact congrArg _ (List.flatMap_congr fun child hchild => ih child hchild (depth + 1))

end JavaOutline.Tree
