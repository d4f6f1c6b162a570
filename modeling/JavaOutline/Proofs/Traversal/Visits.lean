import JavaOutline.Proofs.Traversal.Effects
import JavaOutline.Proofs.Traversal.Recursion
import JavaOutline.Proofs.Tree

/-!
# The visits of a traversal

`IsVisited` says which nodes of a tree are visited, and `visitsOf` lists them in preorder, each with
the number of the scope in which it is visited. Both are worked out from the kinds of the nodes
alone; a scope is numbered when the visit that opens it has its turn, so the numbers follow from how
many scopes there were at the start. `handled` is the loop of the traversal with the address of each
pending tree kept. What it handles are these visits, in this order, up to the first that fails, and
a traversal does nothing else than to carry them out.
-/

namespace JavaOutline

/-- Where a node stands in a tree: the positions of the children on the way to it from the root. -/
abbrev Address := List Nat

/-- The nodes that a traversal visits: the root, and of a visited node the children that the rules
keep. -/
inductive IsVisited (root : SyntaxTree) : Address → SyntaxTree → Prop where
  | root : IsVisited root [] root
  | child {address : Address} {index : Nat} {parent node : SyntaxTree}
      (hparent : IsVisited root address parent) (hkept : firstVisited parent ≤ index)
      (hnode : parent.children[index]? = some node) : IsVisited root (address ++ [index]) node

/-- What is below a visited node is below the root. -/
theorem IsVisited.subtrees_subset {root node : SyntaxTree} {address : Address}
    (h : IsVisited root address node) : node.subtrees ⊆ root.subtrees := by
  induction h with
  | root => exact List.Subset.refl _
  | child _ _ hnode ih =>
    exact List.Subset.trans (Tree.subtrees_subset_of_mem_children (List.mem_of_getElem? hnode)) ih

/-- The visit of the node at an address, in a scope. -/
structure Visit where
  address : Address
  scope : Nat
  tree : SyntaxTree

namespace Visit

/-- Whether a visit opens a scope. -/
def opens (visit : Visit) : Bool :=
  opensScope visit.tree

/-- The pending tree of a visit. -/
def job (visit : Visit) : Nat × SyntaxTree :=
  (visit.scope, visit.tree)

end Visit

/-- The visits that open a scope. -/
def openings (visits : List Visit) : List Visit :=
  visits.filter Visit.opens

@[simp] theorem openings_nil : openings [] = [] := rfl

@[simp] theorem openings_append (first second : List Visit) :
    openings (first ++ second) = openings first ++ openings second :=
  List.filter_append ..

/-- A visit that opens a scope is the first of those that do. -/
theorem openings_cons_of_opens {visit : Visit} (h : visit.opens = true) (rest : List Visit) :
    openings (visit :: rest) = visit :: openings rest :=
  List.filter_cons_of_pos h

/-- A visit that opens no scope is none of those that do. -/
theorem openings_cons_of_not_opens {visit : Visit} (h : visit.opens = false) (rest : List Visit) :
    openings (visit :: rest) = openings rest :=
  List.filter_cons_of_neg (by simp [h])

/-- The number of scopes that visits open, counted from the first visit on. -/
theorem length_openings_cons (visit : Visit) (rest : List Visit) :
    (openings (visit :: rest)).length = visit.opens.toNat + (openings rest).length := by
  cases hopens : visit.opens with
  | false => simp [openings_cons_of_not_opens hopens]
  | true => simp [openings_cons_of_opens hopens, Nat.add_comm]

mutual
/-- The visits of a tree whose root stands at an address and is visited in a scope. Scopes opened on
the way are numbered from `next` on. -/
def visitsOf (address : Address) (scope next : Nat) : SyntaxTree → List Visit
  | .node label children =>
    ⟨address, scope, .node label children⟩ ::
      visitsFrom address (if opensScope (.node label children) then next else scope)
        (next + (opensScope (.node label children)).toNat)
        (firstVisited (.node label children)) 0 children
/-- The visits of the children from position `first` on, where the list starts at `index`. -/
def visitsFrom (address : Address) (scope next first index : Nat) : List SyntaxTree → List Visit
  | [] => []
  | child :: rest =>
    if index < first then visitsFrom address scope next first (index + 1) rest
    else
      let own := visitsOf (address ++ [index]) scope next child
      own ++ visitsFrom address scope (next + (openings own).length) first (index + 1) rest
end

/-- The visits of a tree start with its root. -/
theorem visitsOf_eq_cons (address : Address) (scope next : Nat) (tree : SyntaxTree) :
    visitsOf address scope next tree = ⟨address, scope, tree⟩ ::
      visitsFrom address (if opensScope tree then next else scope)
        (next + (opensScope tree).toNat) (firstVisited tree) 0 tree.children := by
  obtain ⟨label, children⟩ := tree
  rw [visitsOf]
  rfl

/-! ## The loop -/

/-- The visits of the children from position `first` on, without what is below them. -/
def childVisits (address : Address) (scope first index : Nat) : List SyntaxTree → List Visit
  | [] => []
  | child :: rest =>
    if index < first then childVisits address scope first (index + 1) rest
    else ⟨address ++ [index], scope, child⟩ :: childVisits address scope first (index + 1) rest

/-- No child stands from the number of children on. -/
theorem childVisits_length (address : Address) (scope index : Nat) (children : List SyntaxTree) :
    childVisits address scope (index + children.length) index children = [] := by
  induction children generalizing index with
  | nil => rfl
  | cons child rest ih =>
    rw [childVisits, if_pos (by simp), List.length_cons, Nat.add_comm rest.length, ← Nat.add_assoc]
    exact ih (index + 1)

/-- The children from a position on, as pending trees. -/
theorem map_job_childVisits (address : Address) (scope first index : Nat)
    (children : List SyntaxTree) :
    (childVisits address scope first index children).map Visit.job =
      (children.drop (first - index)).map fun child => (scope, child) := by
  induction children generalizing index with
  | nil => simp [childVisits]
  | cons child rest ih =>
    by_cases hindex : index < first
    · obtain ⟨skipped, hskipped⟩ : ∃ skipped, first - index = skipped + 1 :=
        ⟨first - index - 1, by omega⟩
      rw [childVisits, if_pos hindex, ih, hskipped, List.drop_succ_cons,
        show first - (index + 1) = skipped by omega]
    · rw [childVisits, if_neg hindex, List.map_cons, ih, show first - index = 0 by omega,
        show first - (index + 1) = 0 by omega]
      rfl

/-- The visits that a descent leads to. -/
def Visit.targets (visit : Visit) (opened : Nat) : Descent → List Visit
  | .nowhere => []
  | .around first => childVisits visit.address visit.scope first 0 visit.tree.children
  | .inside first => childVisits visit.address opened first 0 visit.tree.children

/-- The visits that a descent leads to are the pending trees that it leads to. -/
theorem Visit.map_job_targets (visit : Visit) (opened : Nat) (descent : Descent) :
    (visit.targets opened descent).map Visit.job =
      descent.targets visit.scope opened visit.tree.children := by
  cases descent with
  | nowhere => rfl
  | around first => exact map_job_childVisits ..
  | inside first => exact map_job_childVisits ..

/-- A script that does not fail leads to the children that the rules keep. -/
theorem Visit.targets_eq {source : SourceText} {visit : Visit} {descent : Descent}
    (hok : (scriptOf source visit.tree).ending = .ok descent) (opened : Nat) :
    visit.targets opened descent =
      childVisits visit.address (if opensScope visit.tree then opened else visit.scope)
        (firstVisited visit.tree) 0 visit.tree.children := by
  rcases (scriptOf_callsFor source visit.tree).descent_cases hok with
    ⟨rfl, hfirst⟩ | ⟨rfl, hopens⟩ | ⟨rfl, hopens⟩
  · have hnone := childVisits_length visit.address
      (if opensScope visit.tree then opened else visit.scope) 0 visit.tree.children
    rw [Nat.zero_add, ← hfirst] at hnone
    rw [hnone]
    rfl
  · rw [hopens]
    rfl
  · rw [hopens]
    rfl

/-- A script that does not fail leads to the children that the rules keep, as pending trees. -/
theorem targets_eq_drop {source : SourceText} {tree : SyntaxTree} {descent : Descent}
    (hok : (scriptOf source tree).ending = .ok descent) (scope opened : Nat) :
    descent.targets scope opened tree.children =
      (tree.children.drop (firstVisited tree)).map
        fun child => (if opensScope tree then opened else scope, child) := by
  have hjobs := Visit.map_job_targets ⟨[], scope, tree⟩ opened descent
  rw [Visit.targets_eq hok, map_job_childVisits] at hjobs
  exact hjobs.symm

/-- The visits of pending trees, one tree after the other. -/
def visitsOfEach (next : Nat) : List Visit → List Visit
  | [] => []
  | visit :: pending =>
    let own := visitsOf visit.address visit.scope next visit.tree
    own ++ visitsOfEach (next + (openings own).length) pending

/-- Going through children is going through their visits as pending trees. -/
theorem visitsFrom_eq_visitsOfEach (address : Address) (scope next first index : Nat)
    (children : List SyntaxTree) :
    visitsFrom address scope next first index children =
      visitsOfEach next (childVisits address scope first index children) := by
  induction children generalizing next index with
  | nil => rw [visitsFrom, childVisits, visitsOfEach]
  | cons child rest ih =>
    rw [visitsFrom, childVisits]
    split
    · exact ih next (index + 1)
    · simp only [visitsOfEach, ih]

/-- Pending trees are visited in two parts, the second numbered after the first. -/
theorem visitsOfEach_append (next : Nat) (first second : List Visit) :
    visitsOfEach next (first ++ second) =
      visitsOfEach next first ++
        visitsOfEach (next + (openings (visitsOfEach next first)).length) second := by
  induction first generalizing next with
  | nil => simp [visitsOfEach]
  | cons visit first ih =>
    simp only [List.cons_append, visitsOfEach, ih, openings_append, List.length_append,
      List.append_assoc, Nat.add_assoc]

namespace Progress

/-- The visits of the traversal loop: as `traverse`, with the address of each pending tree. -/
def handled (source : SourceText) : List Visit → Progress → List Visit
  | [], _ => []
  | visit :: pending, progress =>
    match progress.visit source visit.scope visit.tree with
    | (_, .error _, _) => [visit]
    | (progress, .ok descent, opened) =>
      visit :: handled source (visit.targets opened descent ++ pending) progress
termination_by pending => Tree.sizeAll (pending.map Visit.tree)
decreasing_by
  have htrees (visits : List Visit) :
      visits.map Visit.tree = (visits.map Visit.job).map Prod.snd := by
    simp [Visit.job, Function.comp_def]
  have h := Descent.sizeAll_targets_le visit.scope opened visit.tree.children descent
  rw [List.map_append, Tree.sizeAll_append, List.map_cons, Tree.sizeAll_cons,
    Tree.size_eq visit.tree, htrees (visit.targets opened descent), Visit.map_job_targets]
  omega

/-- Carries out visits one after the other, up to the first that fails. -/
def visitEach (source : SourceText) : List Visit → Progress → Progress × Option Failure
  | [], progress => (progress, none)
  | visit :: rest, progress =>
    match progress.visit source visit.scope visit.tree with
    | (progress, .error failure, _) => (progress, some failure)
    | (progress, .ok _, _) => visitEach source rest progress

/-- The visits that are carried out: all up to the first that fails, which is included. -/
def reached (source : SourceText) : List Visit → Progress → List Visit
  | [], _ => []
  | visit :: rest, progress =>
    match progress.visit source visit.scope visit.tree with
    | (_, .error _, _) => [visit]
    | (progress, .ok _, _) => visit :: reached source rest progress

/-- A traversal carries out the visits that it handles. -/
theorem traverse_eq_visitEach_handled (source : SourceText) (pending : List Visit)
    (progress : Progress) :
    traverse source (pending.map Visit.job) progress =
      visitEach source (handled source pending progress) progress := by
  fun_induction handled source pending progress with
  | case1 progress => rw [List.map_nil, traverse, visitEach]
  | case2 visit pending progress reached failure opened hvisit =>
    rw [List.map_cons, Visit.job, traverse, visitEach, hvisit]
  | case3 visit pending progress reached descent opened hvisit ih =>
    rw [List.map_cons, Visit.job, traverse, visitEach, hvisit]
    rw [List.map_append, Visit.map_job_targets] at ih
    exact ih

/-- What a traversal handles are the visits that the kinds of the nodes give, as far as they can be
carried out. -/
theorem handled_eq_reached (source : SourceText) (pending : List Visit) (progress : Progress) :
    handled source pending progress =
      reached source (visitsOfEach progress.store.size pending) progress := by
  fun_induction handled source pending progress with
  | case1 progress => rfl
  | case2 visit pending progress reached failure opened hvisit =>
    rw [visitsOfEach, visitsOf_eq_cons, List.cons_append, Progress.reached, hvisit]
  | case3 visit pending progress reached descent opened hvisit ih =>
    obtain ⟨hok, _, hsize, hopened⟩ := visit_eq_ok hvisit
    rw [visitsOfEach, visitsOf_eq_cons, List.cons_append, Progress.reached, hvisit]
    simp only
    have hscope : (if opensScope visit.tree then opened else visit.scope) = opened := by
      rw [hopened]
      split <;> rfl
    rw [ih, visitsOfEach_append, Visit.targets_eq hok, ← visitsFrom_eq_visitsOfEach, hscope, hsize,
      ← hopened, length_openings_cons, Nat.add_assoc]
    rfl

/-- Carrying out visits never gets beyond those that are reached. -/
theorem visitEach_reached (source : SourceText) (visits : List Visit) (progress : Progress) :
    visitEach source (reached source visits progress) progress =
      visitEach source visits progress := by
  fun_induction reached source visits progress with
  | case1 progress => rfl
  | case2 visit rest progress reached failure opened hvisit =>
    rw [visitEach, visitEach, hvisit]
  | case3 visit rest progress reached descent opened hvisit ih =>
    rw [visitEach, visitEach, hvisit]
    exact ih

end Progress

end JavaOutline
