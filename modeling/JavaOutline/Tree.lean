/-!
# Ordered trees

Syntax trees and scope trees are both finite trees with an ordered list of subtrees at each
node, so the shape is defined once, over any type of label. Two ways of listing a tree stand
side by side. `subtrees` is the structural preorder: a node, then the listing of each child
in turn. `walk` keeps an explicit list of pending trees and never recurses into a child, which
is how long chains are visited without a deep call stack; `walk_eq_subtrees` says that the two
listings are the same.
-/

namespace JavaOutline

universe u v

/-- A finite tree whose nodes carry a label and an ordered list of subtrees. -/
inductive Tree (α : Type u) where
  | node (label : α) (children : List (Tree α))

namespace Tree

variable {α : Type u} {β : Type v}

/-- The label at the root. -/
def label : Tree α → α
  | node a _ => a

/-- The direct subtrees, left to right. -/
def children : Tree α → List (Tree α)
  | node _ ts => ts

@[simp] theorem label_node (a : α) (ts : List (Tree α)) : (node a ts).label = a := rfl

@[simp] theorem children_node (a : α) (ts : List (Tree α)) : (node a ts).children = ts := rfl

mutual
/-- The number of nodes. -/
def size : Tree α → Nat
  | node _ ts => sizeAll ts + 1
/-- The number of nodes of all trees of a list. -/
def sizeAll : List (Tree α) → Nat
  | [] => 0
  | t :: ts => size t + sizeAll ts
end

@[simp] theorem size_node (a : α) (ts : List (Tree α)) : (node a ts).size = sizeAll ts + 1 := by
  rw [size]

@[simp] theorem sizeAll_nil : sizeAll ([] : List (Tree α)) = 0 := by
  rw [sizeAll]

@[simp] theorem sizeAll_cons (t : Tree α) (ts : List (Tree α)) :
    sizeAll (t :: ts) = t.size + sizeAll ts := by
  rw [sizeAll]

@[simp] theorem sizeAll_append (ts us : List (Tree α)) :
    sizeAll (ts ++ us) = sizeAll ts + sizeAll us := by
  induction ts with
  | nil => simp
  | cons t ts ih => simp [ih, Nat.add_assoc]

/-- A tree has one node more than its children together. -/
theorem size_eq (t : Tree α) : t.size = sizeAll t.children + 1 := by
  cases t
  simp

/-- Leaving out leading children leaves no more nodes than there were. -/
theorem sizeAll_drop_le (n : Nat) (ts : List (Tree α)) : sizeAll (ts.drop n) ≤ sizeAll ts := by
  have h := sizeAll_append (ts.take n) (ts.drop n)
  rw [List.take_append_drop] at h
  omega

mutual
/-- The number of levels. -/
def height : Tree α → Nat
  | node _ ts => heightAll ts + 1
/-- The greatest number of levels of the trees of a list. -/
def heightAll : List (Tree α) → Nat
  | [] => 0
  | t :: ts => max (height t) (heightAll ts)
end

mutual
/-- Relabels every node and keeps the shape. -/
def map (f : α → β) : Tree α → Tree β
  | node a ts => node (f a) (mapAll f ts)
/-- Relabels every node of every tree of a list. -/
def mapAll (f : α → β) : List (Tree α) → List (Tree β)
  | [] => []
  | t :: ts => map f t :: mapAll f ts
end

@[simp] theorem mapAll_eq_map (f : α → β) (ts : List (Tree α)) : mapAll f ts = ts.map (map f) := by
  induction ts with
  | nil => simp [mapAll]
  | cons t ts ih => simp [mapAll, ih]

mutual
/-- Every subtree in preorder: the tree itself, then the listing of each child. -/
def subtrees : Tree α → List (Tree α)
  | node a ts => node a ts :: subtreesAll ts
/-- The preorder listings of the trees of a list, one after the other. -/
def subtreesAll : List (Tree α) → List (Tree α)
  | [] => []
  | t :: ts => subtrees t ++ subtreesAll ts
end

@[simp] theorem subtreesAll_nil : subtreesAll ([] : List (Tree α)) = [] := by
  rw [subtreesAll]

@[simp] theorem subtreesAll_cons (t : Tree α) (ts : List (Tree α)) :
    subtreesAll (t :: ts) = t.subtrees ++ subtreesAll ts := by
  rw [subtreesAll]

@[simp] theorem subtreesAll_append (ts us : List (Tree α)) :
    subtreesAll (ts ++ us) = subtreesAll ts ++ subtreesAll us := by
  induction ts with
  | nil => simp
  | cons t ts ih => simp [ih]

/-- A listing starts with the tree itself. -/
theorem subtrees_eq_cons (t : Tree α) : t.subtrees = t :: subtreesAll t.children := by
  cases t
  rw [subtrees, children_node]

mutual
/-- The labels in preorder, each with its depth counted from `depth` at the root. -/
def outline (depth : Nat) : Tree α → List (Nat × α)
  | node a ts => (depth, a) :: outlineAll (depth + 1) ts
/-- The outlines of the trees of a list, one after the other, all roots at `depth`. -/
def outlineAll (depth : Nat) : List (Tree α) → List (Nat × α)
  | [] => []
  | t :: ts => outline depth t ++ outlineAll depth ts
end

/-- The outlines of sibling trees all start at one depth. -/
theorem outlineAll_eq_flatMap (depth : Nat) (ts : List (Tree α)) :
    outlineAll depth ts = ts.flatMap (outline depth) := by
  induction ts with
  | nil => simp [outlineAll]
  | cons t ts ih => simp [outlineAll, ih]

/-- Visits a list of pending trees: the first is listed and its children go before the rest. -/
def walkFrom : List (Tree α) → List (Tree α)
  | [] => []
  | t :: pending => t :: walkFrom (t.children ++ pending)
termination_by pending => sizeAll pending
decreasing_by
  rw [sizeAll_append, sizeAll_cons, size_eq t]
  omega

/-- Every subtree, visited from a list of pending trees. -/
def walk (t : Tree α) : List (Tree α) :=
  walkFrom [t]

/-- Visiting pending trees lists them one after the other in preorder. -/
theorem walkFrom_eq_subtreesAll (ts : List (Tree α)) : walkFrom ts = subtreesAll ts := by
  fun_induction walkFrom ts with
  | case1 => simp
  | case2 t pending ih => simp [ih, subtrees_eq_cons t]

/-- The walk over pending trees is the structural preorder. -/
theorem walk_eq_subtrees (t : Tree α) : t.walk = t.subtrees := by
  simp [walk, walkFrom_eq_subtreesAll]

end Tree

end JavaOutline
