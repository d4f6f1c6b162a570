import JavaOutline.Proofs.Traversal.Visits

/-!
# The order of the visits

Addresses are compared from the root on, an address before all that extend it; this is the preorder
of the nodes. The visits of a tree come in strictly increasing order of their addresses, they are
exactly the visited nodes, and where they are follows from the kinds of the nodes. So a traversal
handles no node twice, and it handles no more nodes than there are.
-/

namespace JavaOutline

/-- What stands below a later child comes after what stands below an earlier one. -/
theorem Address.lt_of_children {address first second : Address} {index later : Nat}
    (hfirst : address ++ [index] <+: first) (hsecond : address ++ [later] <+: second)
    (hlater : index < later) : first < second := by
  obtain ⟨below, rfl⟩ := hfirst
  obtain ⟨below', rfl⟩ := hsecond
  rw [List.append_assoc, List.append_assoc]
  apply List.append_left_lt
  exact List.cons_lt_cons_iff.mpr (.inl hlater)

/-- What stands below a node comes after it. -/
theorem Address.lt_of_child {address below : Address} {index : Nat}
    (h : address ++ [index] <+: below) : address < below := by
  obtain ⟨rest, rfl⟩ := h
  have hlt : address ++ [] < address ++ index :: rest :=
    List.append_left_lt (List.nil_lt_cons index rest)
  rwa [List.append_nil, List.append_cons] at hlt

mutual
/-- Every visit of a tree is below the address of the tree. -/
theorem prefix_of_mem_visitsOf (address : Address) (scope next : Nat) (tree : SyntaxTree)
    (visit : Visit) (hmem : visit ∈ visitsOf address scope next tree) :
    address <+: visit.address := by
  obtain ⟨label, children⟩ := tree
  rw [visitsOf, List.mem_cons] at hmem
  rcases hmem with rfl | hmem
  · exact List.prefix_rfl
  · obtain ⟨index, _, hbelow⟩ := prefix_of_mem_visitsFrom _ _ _ _ _ children visit hmem
    exact (List.prefix_append address [index]).trans hbelow
/-- Every visit of children is below the address of one of them. -/
theorem prefix_of_mem_visitsFrom (address : Address) (scope next first index : Nat)
    (children : List SyntaxTree) (visit : Visit)
    (hmem : visit ∈ visitsFrom address scope next first index children) :
    ∃ position, index ≤ position ∧ address ++ [position] <+: visit.address := by
  cases children with
  | nil => simp [visitsFrom] at hmem
  | cons child rest =>
    rw [visitsFrom] at hmem
    split at hmem
    · obtain ⟨position, hle, hbelow⟩ := prefix_of_mem_visitsFrom _ _ _ _ _ rest visit hmem
      exact ⟨position, by omega, hbelow⟩
    · rcases List.mem_append.mp hmem with hmem | hmem
      · exact ⟨index, Nat.le_refl index, prefix_of_mem_visitsOf _ _ _ child visit hmem⟩
      · obtain ⟨position, hle, hbelow⟩ := prefix_of_mem_visitsFrom _ _ _ _ _ rest visit hmem
        exact ⟨position, by omega, hbelow⟩
end

mutual
/-- The visits of a tree are in preorder. -/
theorem visitsOf_pairwise (address : Address) (scope next : Nat) (tree : SyntaxTree) :
    (visitsOf address scope next tree).Pairwise fun first second =>
      first.address < second.address := by
  obtain ⟨label, children⟩ := tree
  rw [visitsOf, List.pairwise_cons]
  refine ⟨?_, visitsFrom_pairwise ..⟩
  intro visit hmem
  obtain ⟨index, _, hbelow⟩ := prefix_of_mem_visitsFrom _ _ _ _ _ children visit hmem
  exact Address.lt_of_child hbelow
/-- The visits of children are in preorder. -/
theorem visitsFrom_pairwise (address : Address) (scope next first index : Nat)
    (children : List SyntaxTree) :
    (visitsFrom address scope next first index children).Pairwise fun first second =>
      first.address < second.address := by
  cases children with
  | nil =>
    rw [visitsFrom]
    exact List.Pairwise.nil
  | cons child rest =>
    rw [visitsFrom]
    split
    · exact visitsFrom_pairwise address scope next first (index + 1) rest
    · refine List.pairwise_append.mpr ⟨visitsOf_pairwise _ _ _ child,
        visitsFrom_pairwise _ _ _ _ _ rest, ?_⟩
      intro visit hvisit later hlater
      have hbelow := prefix_of_mem_visitsOf _ _ _ child visit hvisit
      obtain ⟨position, hle, hbelow'⟩ := prefix_of_mem_visitsFrom _ _ _ _ _ rest later hlater
      exact Address.lt_of_children hbelow hbelow' hle
end

/-- No two visits of a tree have one address. -/
theorem visitsOf_nodup (address : Address) (scope next : Nat) (tree : SyntaxTree) :
    ((visitsOf address scope next tree).map Visit.address).Nodup := by
  rw [List.Nodup, List.pairwise_map]
  apply (visitsOf_pairwise address scope next tree).imp
  intro first second hlt heq
  rw [heq] at hlt
  exact List.lt_irrefl second.address hlt

/-! ## The visits are the visited nodes -/

mutual
/-- Below a visited node, only visited nodes are visited. -/
theorem isVisited_of_mem_visitsOf {root : SyntaxTree} (address : Address) (scope next : Nat)
    (tree : SyntaxTree) (hroot : IsVisited root address tree) (visit : Visit)
    (hmem : visit ∈ visitsOf address scope next tree) :
    IsVisited root visit.address visit.tree := by
  obtain ⟨label, children⟩ := tree
  rw [visitsOf, List.mem_cons] at hmem
  rcases hmem with rfl | hmem
  · exact hroot
  · exact isVisited_of_mem_visitsFrom address _ _ _ 0 children
      (fun position node hkept hnode => hroot.child hkept (by simpa using hnode)) visit hmem
/-- Of the children that are kept, only visited nodes are visited. -/
theorem isVisited_of_mem_visitsFrom {root : SyntaxTree} (address : Address)
    (scope next first index : Nat) (children : List SyntaxTree)
    (hchildren : ∀ position node, first ≤ index + position → children[position]? = some node →
      IsVisited root (address ++ [index + position]) node)
    (visit : Visit) (hmem : visit ∈ visitsFrom address scope next first index children) :
    IsVisited root visit.address visit.tree := by
  cases children with
  | nil => simp [visitsFrom] at hmem
  | cons child rest =>
    have hrest : ∀ position node, first ≤ index + 1 + position → rest[position]? = some node →
        IsVisited root (address ++ [index + 1 + position]) node := by
      intro position node hkept hnode
      rw [Nat.add_right_comm, Nat.add_assoc] at hkept ⊢
      exact hchildren (position + 1) node hkept hnode
    rw [visitsFrom] at hmem
    split at hmem
    · exact isVisited_of_mem_visitsFrom _ _ _ _ _ rest hrest visit hmem
    · rename_i hindex
      rcases List.mem_append.mp hmem with hmem | hmem
      · have hchild := hchildren 0 child (Nat.le_of_not_lt hindex) rfl
        exact isVisited_of_mem_visitsOf _ _ _ child hchild visit hmem
      · exact isVisited_of_mem_visitsFrom _ _ _ _ _ rest hrest visit hmem
end

/-- Every child that is kept is visited. -/
theorem exists_mem_visitsFrom (address : Address) (scope next first start : Nat)
    (children : List SyntaxTree) (index : Nat) (node : SyntaxTree) (hkept : first ≤ start + index)
    (hnode : children[index]? = some node) :
    ∃ visit ∈ visitsFrom address scope next first start children,
      visit.address = address ++ [start + index] ∧ visit.tree = node := by
  induction children generalizing next start index with
  | nil => simp at hnode
  | cons child rest ih =>
    rw [visitsFrom]
    cases index with
    | zero =>
      obtain rfl : child = node := by simpa using hnode
      rw [if_neg (by omega), visitsOf_eq_cons]
      exact ⟨_, List.mem_cons_self, rfl, rfl⟩
    | succ index =>
      have hshift : start + (index + 1) = start + 1 + index := by omega
      rw [hshift] at hkept ⊢
      split
      · exact ih next (start + 1) index hkept hnode
      · obtain ⟨visit, hmem, hvisit⟩ := ih _ (start + 1) index hkept hnode
        exact ⟨visit, List.mem_append_right _ hmem, hvisit⟩

mutual
/-- With a node, the children of it that are kept are visited. -/
theorem exists_child_mem_visitsOf (address : Address) (scope next : Nat) (tree : SyntaxTree)
    (visit : Visit) (hmem : visit ∈ visitsOf address scope next tree) (index : Nat)
    (node : SyntaxTree) (hkept : firstVisited visit.tree ≤ index)
    (hnode : visit.tree.children[index]? = some node) :
    ∃ below ∈ visitsOf address scope next tree,
      below.address = visit.address ++ [index] ∧ below.tree = node := by
  obtain ⟨label, children⟩ := tree
  rw [visitsOf] at hmem ⊢
  rcases List.mem_cons.mp hmem with rfl | hmem
  · obtain ⟨below, hbelow, haddress, htree⟩ := exists_mem_visitsFrom address
      (if opensScope (.node label children) then next else scope)
      (next + (opensScope (.node label children)).toNat) (firstVisited (.node label children)) 0
      children index node (by simpa using hkept) hnode
    exact ⟨below, List.mem_cons_of_mem _ hbelow, by simpa using haddress, htree⟩
  · obtain ⟨below, hbelow, hrest⟩ :=
      exists_child_mem_visitsFrom _ _ _ _ _ children visit hmem index node hkept hnode
    exact ⟨below, List.mem_cons_of_mem _ hbelow, hrest⟩
/-- With a node below some children, the children of it that are kept are visited. -/
theorem exists_child_mem_visitsFrom (address : Address) (scope next first start : Nat)
    (children : List SyntaxTree) (visit : Visit)
    (hmem : visit ∈ visitsFrom address scope next first start children) (index : Nat)
    (node : SyntaxTree) (hkept : firstVisited visit.tree ≤ index)
    (hnode : visit.tree.children[index]? = some node) :
    ∃ below ∈ visitsFrom address scope next first start children,
      below.address = visit.address ++ [index] ∧ below.tree = node := by
  cases children with
  | nil => simp [visitsFrom] at hmem
  | cons child rest =>
    rw [visitsFrom] at hmem ⊢
    split at hmem
    · rename_i hstart
      rw [if_pos hstart]
      exact exists_child_mem_visitsFrom _ _ _ _ _ rest visit hmem index node hkept hnode
    · rename_i hstart
      rw [if_neg hstart]
      rcases List.mem_append.mp hmem with hmem | hmem
      · obtain ⟨below, hbelow, hrest⟩ :=
          exists_child_mem_visitsOf _ _ _ child visit hmem index node hkept hnode
        exact ⟨below, List.mem_append_left _ hbelow, hrest⟩
      · obtain ⟨below, hbelow, hrest⟩ :=
          exists_child_mem_visitsFrom _ _ _ _ _ rest visit hmem index node hkept hnode
        exact ⟨below, List.mem_append_right _ hbelow, hrest⟩
end

/-- The visits of a tree are its visited nodes. -/
theorem isVisited_iff_mem_visitsOf (root : SyntaxTree) (scope next : Nat) (address : Address)
    (tree : SyntaxTree) :
    IsVisited root address tree ↔
      ∃ visit ∈ visitsOf [] scope next root, visit.address = address ∧ visit.tree = tree := by
  constructor
  · intro hvisited
    induction hvisited with
    | root =>
      rw [visitsOf_eq_cons]
      exact ⟨_, List.mem_cons_self, rfl, rfl⟩
    | child hparent hkept hnode ih =>
      obtain ⟨visit, hmem, rfl, rfl⟩ := ih
      exact exists_child_mem_visitsOf _ _ _ root visit hmem _ _ hkept hnode
  · rintro ⟨visit, hmem, rfl, rfl⟩
    exact isVisited_of_mem_visitsOf [] scope next root .root visit hmem

mutual
/-- A tree has no more visits than nodes. -/
theorem length_visitsOf_le (address : Address) (scope next : Nat) (tree : SyntaxTree) :
    (visitsOf address scope next tree).length ≤ tree.size := by
  obtain ⟨label, children⟩ := tree
  rw [visitsOf, List.length_cons, Tree.size_node]
  exact Nat.succ_le_succ (length_visitsFrom_le ..)
/-- Children have no more visits than nodes. -/
theorem length_visitsFrom_le (address : Address) (scope next first index : Nat)
    (children : List SyntaxTree) :
    (visitsFrom address scope next first index children).length ≤ Tree.sizeAll children := by
  cases children with
  | nil => simp [visitsFrom]
  | cons child rest =>
    rw [visitsFrom, Tree.sizeAll_cons]
    split
    · exact Nat.le_trans (length_visitsFrom_le _ _ _ _ _ rest) (Nat.le_add_left ..)
    · rw [List.length_append]
      exact Nat.add_le_add (length_visitsOf_le _ _ _ child) (length_visitsFrom_le _ _ _ _ _ rest)
end

/-! ## The kinds of the nodes decide -/

/-- The kinds of the nodes of a tree, with its shape. -/
def kindsOf (tree : SyntaxTree) : Tree String :=
  tree.map SyntaxNode.kind

/-- Where a visit takes place, and whether it opens a scope. -/
def Visit.place (visit : Visit) : Address × Nat × Bool :=
  (visit.address, visit.scope, visit.opens)

/-- The kind of the root is one of the kinds of a tree. -/
theorem label_kindsOf (tree : SyntaxTree) : (kindsOf tree).label = tree.label.kind := by
  obtain ⟨label, children⟩ := tree
  simp [kindsOf, Tree.map]

/-- The kinds of the children of a tree. -/
theorem children_kindsOf (tree : SyntaxTree) :
    (kindsOf tree).children = tree.children.map kindsOf := by
  obtain ⟨label, children⟩ := tree
  simp [kindsOf, Tree.map]

/-- The position of the first child of some kind, read off the kinds of the children. -/
theorem firstIndex_eq (isWanted : String → Bool) (children : List SyntaxTree) :
    firstIndex isWanted children =
      (children.map kindsOf).findIdx fun child => isWanted child.label := by
  rw [List.findIdx_map]
  simp [firstIndex, Function.comp_def, label_kindsOf]

/-- Whether a node opens a scope, read off the kinds. -/
theorem opensScope_congr {first second : SyntaxTree} (hkinds : kindsOf first = kindsOf second) :
    opensScope first = opensScope second := by
  have hlabel := congrArg Tree.label hkinds
  have hchildren := congrArg (fun kinds => kinds.children.any fun child => isNameNode child.label)
    hkinds
  simp only [label_kindsOf, children_kindsOf, List.any_map, Function.comp_def] at hlabel hchildren
  rw [opensScope, opensScope, hlabel, hchildren]

/-- The position of the first child that is visited, read off the kinds. -/
theorem firstVisited_congr {first second : SyntaxTree} (hkinds : kindsOf first = kindsOf second) :
    firstVisited first = firstVisited second := by
  have hlabel := congrArg Tree.label hkinds
  have hchildren := congrArg Tree.children hkinds
  have hlength := congrArg (fun kinds => kinds.children.length) hkinds
  simp only [label_kindsOf, children_kindsOf, List.length_map] at hlabel hchildren hlength
  simp only [firstVisited, bodyIndex, declaratorIndex, firstIndex_eq, hlabel, hchildren, hlength]

/-- The number of scopes that visits open, read off their places. -/
theorem length_openings_eq (visits : List Visit) :
    (openings visits).length = ((visits.map Visit.place).countP fun place => place.2.2) := by
  rw [List.countP_map, openings, ← List.countP_eq_length_filter]
  rfl

mutual
/-- Trees with the same kinds have their visits at the same places. -/
theorem visitsOf_congr (address : Address) (scope next : Nat) (first second : SyntaxTree)
    (hkinds : kindsOf first = kindsOf second) :
    (visitsOf address scope next first).map Visit.place =
      (visitsOf address scope next second).map Visit.place := by
  have hopens := opensScope_congr hkinds
  have hfirst := firstVisited_congr hkinds
  have hchildren := congrArg Tree.children hkinds
  rw [children_kindsOf, children_kindsOf] at hchildren
  obtain ⟨label, children⟩ := first
  rw [visitsOf, visitsOf_eq_cons, List.map_cons, List.map_cons, hopens, hfirst,
    visitsFrom_congr _ _ _ _ _ children second.children hchildren]
  simp [Visit.place, Visit.opens, hopens]
/-- Children with the same kinds have their visits at the same places. -/
theorem visitsFrom_congr (address : Address) (scope next start index : Nat)
    (first second : List SyntaxTree) (hkinds : first.map kindsOf = second.map kindsOf) :
    (visitsFrom address scope next start index first).map Visit.place =
      (visitsFrom address scope next start index second).map Visit.place := by
  cases first with
  | nil =>
    obtain rfl : second = [] := by simpa [eq_comm] using hkinds
    rfl
  | cons child rest =>
    cases second with
    | nil => simp at hkinds
    | cons child' rest' =>
      rw [List.map_cons, List.map_cons, List.cons.injEq] at hkinds
      rw [visitsFrom, visitsFrom]
      split
      · exact visitsFrom_congr _ _ _ _ _ rest rest' hkinds.2
      · have hchild := visitsOf_congr (address ++ [index]) scope next child child' hkinds.1
        rw [List.map_append, List.map_append, hchild, length_openings_eq, hchild,
          ← length_openings_eq, visitsFrom_congr _ _ _ _ _ rest rest' hkinds.2]
end

/-! ## Every node once -/

namespace Progress

/-- The visits that are carried out are the first of those to be carried out. -/
theorem reached_prefix (source : SourceText) (visits : List Visit) (progress : Progress) :
    reached source visits progress <+: visits := by
  fun_induction reached source visits progress with
  | case1 progress => exact List.prefix_rfl
  | case2 visit rest progress reached failure opened hvisit =>
    exact List.cons_prefix_cons.mpr ⟨rfl, List.nil_prefix⟩
  | case3 visit rest progress reached descent opened hvisit ih =>
    exact List.cons_prefix_cons.mpr ⟨rfl, ih⟩

end Progress

/-- The visits that the traversal loop handles when it fills a scope from a tree. -/
def handledBy (source : SourceText) (tree : SyntaxTree) (store : Store) (scope : Nat) :
    List Visit :=
  Progress.handled source [⟨[], scope, tree⟩] ⟨store, []⟩

/-- What the loop handles are the visits of the tree, as far as they can be carried out. -/
theorem handledBy_eq (source : SourceText) (tree : SyntaxTree) (store : Store) (scope : Nat) :
    handledBy source tree store scope =
      Progress.reached source (visitsOf [] scope store.size tree) ⟨store, []⟩ := by
  rw [handledBy, Progress.handled_eq_reached]
  simp [visitsOfEach]

/-- Filling a scope carries out the visits that the loop handles. -/
theorem fill_eq_visitEach_handledBy (source : SourceText) (tree : SyntaxTree) (store : Store)
    (scope : Nat) :
    fill source tree store scope =
      Progress.visitEach source (handledBy source tree store scope) ⟨store, []⟩ :=
  Progress.traverse_eq_visitEach_handled source [⟨[], scope, tree⟩] ⟨store, []⟩

/-- Filling a scope carries out the visits of the tree, as far as they can be carried out. -/
theorem fill_eq_visitEach_visitsOf (source : SourceText) (tree : SyntaxTree) (store : Store)
    (scope : Nat) :
    fill source tree store scope =
      Progress.visitEach source (visitsOf [] scope store.size tree) ⟨store, []⟩ := by
  rw [fill_eq_visitEach_handledBy, handledBy_eq, Progress.visitEach_reached]

/-- Filling a scope from a list of pending trees is the plain recursion, whatever the store and the
scope: the same scopes, the same journal and the same failure, if any. The loop comes to its end
after at most as many visits as the tree has nodes, what it does is to carry out the visits that it
handles, and it handles no node twice. -/
theorem fill_eq_recurse_each_once (source : SourceText) (tree : SyntaxTree) (store : Store)
    (scope : Nat) :
    fill source tree store scope = Progress.recurse source scope tree ⟨store, []⟩ ∧
      fill source tree store scope =
        Progress.visitEach source (handledBy source tree store scope) ⟨store, []⟩ ∧
      (∀ visit ∈ handledBy source tree store scope, IsVisited tree visit.address visit.tree) ∧
      ((handledBy source tree store scope).map Visit.address).Nodup ∧
      (handledBy source tree store scope).length ≤ tree.size := by
  have hreached : handledBy source tree store scope <+: visitsOf [] scope store.size tree := by
    rw [handledBy_eq]
    exact Progress.reached_prefix ..
  refine ⟨?_, fill_eq_visitEach_handledBy .., ?_, ?_, ?_⟩
  · rw [fill, Progress.traverse_eq_recurseEach, Progress.recurseEach]
    split
    · rename_i hrecurse
      exact hrecurse.symm
    · rename_i hrecurse
      exact hrecurse.symm
  · intro visit hmem
    exact isVisited_of_mem_visitsOf [] scope store.size tree .root visit (hreached.mem hmem)
  · exact (hreached.map Visit.address).sublist.nodup (visitsOf_nodup [] scope store.size tree)
  · exact Nat.le_trans hreached.length_le (length_visitsOf_le [] scope store.size tree)

end JavaOutline
