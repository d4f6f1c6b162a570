import JavaOutline.Proofs.Tree
import JavaOutline.Traversal.Script

/-!
# Trees that are alike

Two syntax trees are alike if their nodes correspond one to one, in the same order and with the same
kinds, where the second tree may have comments on top that the first one lacks. How two nodes
correspond is left open: they may be equal, or one may stand further down in a longer text, and a
tree that is alike to itself has some property at each of its nodes. Children are looked for by kinds
that no comment has, and what is found on both sides is alike as well.
-/

namespace JavaOutline

/-! ## Lists with members left out -/

/-- Two lists whose members correspond one to one and in order, but for some members of the second
list that are skipped. -/
inductive Aligned {α β : Type} (Pair : α → β → Prop) (Skipped : β → Prop) :
    List α → List β → Prop where
  | nil : Aligned Pair Skipped [] []
  | cons {first : α} {first' : β} {rest : List α} {rest' : List β} (hfirst : Pair first first')
      (hrest : Aligned Pair Skipped rest rest') :
      Aligned Pair Skipped (first :: rest) (first' :: rest')
  | skip {first' : β} {rest : List α} {rest' : List β} (hfirst : Skipped first')
      (hrest : Aligned Pair Skipped rest rest') : Aligned Pair Skipped rest (first' :: rest')

namespace Aligned

variable {α β γ δ : Type} {Pair : α → β → Prop} {Skipped : β → Prop}

/-- Members that correspond to their images make a list correspond to its image. -/
theorem of_map {image : α → β} {members : List α}
    (hmembers : ∀ member ∈ members, Pair member (image member)) :
    Aligned Pair Skipped members (members.map image) := by
  induction members with
  | nil => exact .nil
  | cons member rest ih =>
    rw [List.forall_mem_cons] at hmembers
    exact .cons hmembers.1 (ih hmembers.2)

/-- Two correspondences are put one after the other. -/
theorem append {first second : List α} {first' second' : List β}
    (hfirst : Aligned Pair Skipped first first') (hsecond : Aligned Pair Skipped second second') :
    Aligned Pair Skipped (first ++ second) (first' ++ second') := by
  induction hfirst with
  | nil => exact hsecond
  | cons hpair _ ih => exact .cons hpair ih
  | skip hskipped _ ih => exact .skip hskipped ih

/-- The images of lists that correspond do so, if the images of their members do. -/
theorem map {Pair' : γ → δ → Prop} {Skipped' : δ → Prop} {image : α → γ} {image' : β → δ}
    {members : List α} {members' : List β} (h : Aligned Pair Skipped members members')
    (hpair : ∀ member member', Pair member member' → Pair' (image member) (image' member'))
    (hskipped : ∀ member', Skipped member' → Skipped' (image' member')) :
    Aligned Pair' Skipped' (members.map image) (members'.map image') := by
  induction h with
  | nil => exact .nil
  | cons hfirst _ ih => exact .cons (hpair _ _ hfirst) ih
  | skip hfirst _ ih => exact .skip (hskipped _ hfirst) ih

end Aligned

/-! ## Things that may be missing -/

/-- Of two things that may be there and correspond, both are there or none is. -/
theorem isSome_eq_of_rel {α β : Type} {Pair : α → β → Prop} {found : Option α} {found' : Option β}
    (h : Option.Rel Pair found found') : found'.isSome = found.isSome := by
  cases h with
  | none => rfl
  | some => rfl

/-- What corresponds by a change is there changed, or not there. -/
theorem eq_map_of_rel {α β : Type} {change : α → β} {found : Option α} {found' : Option β}
    (h : Option.Rel (fun value value' => change value = value') found found') :
    found' = found.map change := by
  cases h with
  | none => rfl
  | some h => rw [← h, Option.map_some]

/-! ## Comments -/

/-- What is wanted is no comment if it is neither of the two kinds of comment. -/
theorem eq_false_of_isComment (isWanted : String → Bool) (hline : isWanted "line_comment" = false)
    (hblock : isWanted "block_comment" = false) (kind : String) (hcomment : isComment kind = true) :
    isWanted kind = false := by
  rw [isComment, Bool.or_eq_true, beq_iff_eq, beq_iff_eq] at hcomment
  rcases hcomment with rfl | rfl
  · exact hline
  · exact hblock

/-- A comment is of no other kind. -/
theorem ne_of_isComment {kind word : String} (hword : isComment word = false)
    (hcomment : isComment kind = true) : kind ≠ word := by
  rintro rfl
  rw [hcomment] at hword
  cases hword

/-- A comment is no name. -/
theorem isNameNode_of_isComment (kind : String) (hcomment : isComment kind = true) :
    isNameNode kind = false :=
  eq_false_of_isComment isNameNode rfl rfl kind hcomment

/-- A comment without children. -/
def SyntaxTree.IsBareComment (tree : SyntaxTree) : Prop :=
  isComment tree.label.kind = true ∧ tree.children = []

/-! ## Trees -/

/-- Two trees whose nodes correspond, but for comments without children that only the second one
has. -/
inductive Alike (Node : SyntaxNode → SyntaxNode → Prop) : SyntaxTree → SyntaxTree → Prop where
  | node {root root' : SyntaxNode} {children children' : List SyntaxTree}
      (hkind : root'.kind = root.kind) (hroot : Node root root')
      (hchildren : Aligned (Alike Node) SyntaxTree.IsBareComment children children') :
      Alike Node (.node root children) (.node root' children')

/-- Two lists of trees that are alike one by one, but for comments that only the second one has. -/
abbrev AllAlike (Node : SyntaxNode → SyntaxNode → Prop) :
    List SyntaxTree → List SyntaxTree → Prop :=
  Aligned (Alike Node) SyntaxTree.IsBareComment

namespace Alike

variable {Node : SyntaxNode → SyntaxNode → Prop} {tree tree' : SyntaxTree}

/-- The roots of trees that are alike have one kind. -/
theorem kind_eq (h : Alike Node tree tree') : tree'.label.kind = tree.label.kind := by
  cases h with
  | node hkind => exact hkind

/-- The roots of trees that are alike correspond. -/
theorem label (h : Alike Node tree tree') : Node tree.label tree'.label := by
  cases h with
  | node hkind hroot => exact hroot

/-- The children of trees that are alike are alike. -/
theorem children (h : Alike Node tree tree') : AllAlike Node tree.children tree'.children := by
  cases h with
  | node hkind hroot hchildren => exact hchildren

/-- A tree is alike to its image if every node corresponds to its own image. -/
theorem of_map (image : SyntaxNode → SyntaxNode) (hkind : ∀ node, (image node).kind = node.kind)
    (tree : SyntaxTree) (htree : ∀ below ∈ tree.subtrees, Node below.label (image below.label)) :
    Alike Node tree (tree.map image) := by
  induction tree using Tree.induct with
  | node root children ih =>
    have hroot := htree (.node root children) (by simp [Tree.subtrees_eq_cons])
    rw [Tree.map, Tree.mapAll_eq_map]
    refine .node (hkind root) hroot (.of_map fun child hchild => ih child hchild ?_)
    have hsubset : child.subtrees ⊆ (Tree.node root children).subtrees :=
      Tree.subtrees_subset_of_mem_children hchild
    exact fun below hbelow => htree below (hsubset hbelow)

/-- A tree is alike to itself if every node corresponds to itself. -/
theorem refl (tree : SyntaxTree) (htree : ∀ below ∈ tree.subtrees, Node below.label below.label) :
    Alike Node tree tree := by
  have hmap := of_map id (fun _ => rfl) tree htree
  rwa [Tree.map_id] at hmap

end Alike

/-! ## Looking for kinds -/

/-- The first child is at position zero if it is wanted. -/
theorem firstIndex_cons_of_pos {isWanted : String → Bool} {child : SyntaxTree}
    (h : isWanted child.label.kind = true) (rest : List SyntaxTree) :
    firstIndex isWanted (child :: rest) = 0 := by
  simp [firstIndex, List.findIdx_cons, h]

/-- A first child that is not wanted moves the first that is by one position. -/
theorem firstIndex_cons_of_neg {isWanted : String → Bool} {child : SyntaxTree}
    (h : isWanted child.label.kind = false) (rest : List SyntaxTree) :
    firstIndex isWanted (child :: rest) = firstIndex isWanted rest + 1 := by
  simp [firstIndex, List.findIdx_cons, h]

namespace AllAlike

variable {Node : SyntaxNode → SyntaxNode → Prop} {children children' : List SyntaxTree}
  {isWanted : String → Bool} (hwanted : ∀ kind, isComment kind = true → isWanted kind = false)

include hwanted

/-- The first children that are wanted are alike. -/
theorem find? (h : AllAlike Node children children') :
    Option.Rel (Alike Node) (children.find? fun child => isWanted child.label.kind)
      (children'.find? fun child => isWanted child.label.kind) := by
  induction h with
  | nil => exact .none
  | @cons child child' rest rest' hchild hrest ih =>
    cases hkind : isWanted child.label.kind with
    | true =>
      rw [List.find?_cons_of_pos (by simpa using hkind),
        List.find?_cons_of_pos (by simpa [hchild.kind_eq] using hkind)]
      exact .some hchild
    | false =>
      rw [List.find?_cons_of_neg (by simp [hkind]),
        List.find?_cons_of_neg (by simp [hchild.kind_eq, hkind])]
      exact ih
  | skip hcomment _ ih =>
    rw [List.find?_cons_of_neg (by simp [hwanted _ hcomment.1])]
    exact ih

/-- The children that are wanted are alike one by one. -/
theorem filter (h : AllAlike Node children children') :
    Aligned (fun child child' => isWanted child.label.kind = true ∧ Alike Node child child')
      (fun _ => False) (children.filter fun child => isWanted child.label.kind)
      (children'.filter fun child => isWanted child.label.kind) := by
  induction h with
  | nil => exact .nil
  | @cons child child' rest rest' hchild hrest ih =>
    cases hkind : isWanted child.label.kind with
    | true =>
      rw [List.filter_cons_of_pos (by simpa using hkind),
        List.filter_cons_of_pos (by simpa [hchild.kind_eq] using hkind)]
      exact .cons ⟨hkind, hchild⟩ ih
    | false =>
      rw [List.filter_cons_of_neg (by simp [hkind]),
        List.filter_cons_of_neg (by simp [hchild.kind_eq, hkind])]
      exact ih
  | skip hcomment _ ih =>
    rw [List.filter_cons_of_neg (by simp [hwanted _ hcomment.1])]
    exact ih

/-- Both sides have a child that is wanted, or none has. -/
theorem any_eq (h : AllAlike Node children children') :
    (children'.any fun child => isWanted child.label.kind) =
      children.any fun child => isWanted child.label.kind := by
  rw [← List.isSome_find?, ← List.isSome_find?]
  exact isSome_eq_of_rel (find? hwanted h)

/-- Children are split alike at the first that is wanted: those before it are alike, also together
with it, and those from it on are alike. -/
theorem split_firstIndex (h : AllAlike Node children children') :
    AllAlike Node (children.take (firstIndex isWanted children))
      (children'.take (firstIndex isWanted children')) ∧
    AllAlike Node (children.take (firstIndex isWanted children + 1))
      (children'.take (firstIndex isWanted children' + 1)) ∧
    AllAlike Node (children.drop (firstIndex isWanted children))
      (children'.drop (firstIndex isWanted children')) := by
  induction h with
  | nil => exact ⟨.nil, .nil, .nil⟩
  | @cons child child' rest rest' hchild hrest ih =>
    obtain ⟨hbefore, hwith, hafter⟩ := ih
    cases hkind : isWanted child.label.kind with
    | true =>
      rw [firstIndex_cons_of_pos hkind, firstIndex_cons_of_pos (hchild.kind_eq ▸ hkind)]
      exact ⟨.nil, .cons hchild .nil, .cons hchild hrest⟩
    | false =>
      rw [firstIndex_cons_of_neg hkind, firstIndex_cons_of_neg (hchild.kind_eq ▸ hkind)]
      exact ⟨.cons hchild hbefore, .cons hchild hwith, hafter⟩
  | skip hcomment _ ih =>
    obtain ⟨hbefore, hwith, hafter⟩ := ih
    rw [firstIndex_cons_of_neg (hwanted _ hcomment.1)]
    exact ⟨.skip hcomment hbefore, .skip hcomment hwith, hafter⟩

end AllAlike

end JavaOutline
