import JavaOutline.Proofs.Text.Lines
import JavaOutline.Proofs.Tree
import JavaOutline.Syntax.Listing
import Mathlib.Data.List.TakeDrop

/-!
# A listing keeps the whole tree

The listing of a syntax tree is read back to the tree. A line is taken apart from its end: the four
numbers hold no blank and no bracket, so the last two points of a line are found whatever stands in
the kind before them. The blanks in front of a line give the depth of its node, as long as no kind is
empty or starts with a blank, and a kind without line ends leaves the lines as they are. From the
depths in preorder the tree is put together from its end as well: when a node is reached, the trees
behind it that are deeper are exactly its children. So two trees with one listing are the same.
-/

namespace JavaOutline

/-! ## Numbers -/

/-- The digits from `0` to `9` are read one by one. -/
theorem mapM_asciiDigit? {digits : List Char} (hdigits : ∀ c ∈ digits, c.isDigit = true) :
    digits.mapM Text.asciiDigit? = some (digits.map fun c => c.toNat - '0'.toNat) := by
  induction digits with
  | nil => rfl
  | cons c digits ih =>
    rw [List.forall_mem_cons] at hdigits
    have hvalue : Text.asciiDigit? c = some (c.toNat - '0'.toNat) := by
      rw [Text.asciiDigit?, if_pos (by simpa [Char.isDigit, Char.le_def] using hdigits.1)]
    simp [hvalue, ih hdigits.2]

/-- The digits of a number stand for it. -/
theorem ofDigits_toDigits (n : Nat) :
    Text.ofDigits ((Nat.toDigits 10 n).map fun c => c.toNat - '0'.toNat) = n := by
  have hvalue := Nat.ofDigitChars_toDigits (b := 10) (n := n) (by decide) (by decide)
  rw [Nat.ofDigitChars_eq_foldl] at hvalue
  rw [Text.ofDigits, List.foldl_map]
  exact hvalue

/-- A whole number as listings show it: its digits, behind a sign if it is negative. -/
theorem toList_toString_int (n : Int) :
    (toString n).toList =
      if 0 ≤ n then Nat.toDigits 10 n.toNat else '-' :: Nat.toDigits 10 (-n).toNat := by
  rw [Int.toString_eq_repr, Int.repr_eq_if]
  split
  · rw [Nat.repr_eq_ofList_toDigits, String.toList_ofList]
  · rw [Nat.repr_eq_ofList_toDigits, String.toList_append, String.toList_ofList]
    simp

/-- A whole number is shown by digits and signs alone. -/
theorem isDigit_or_eq_sign {n : Int} {c : Char} (hc : c ∈ (toString n).toList) :
    c.isDigit = true ∨ c = '-' := by
  have hdigit {m : Nat} (h : c ∈ Nat.toDigits 10 m) : c.isDigit = true :=
    Nat.isDigit_of_mem_toDigits (by decide) (by decide) h
  rw [toList_toString_int] at hc
  split at hc
  · exact .inl (hdigit hc)
  · rcases List.mem_cons.mp hc with hsign | hc
    · exact .inr hsign
    · exact .inl (hdigit hc)

/-- A character that is neither a digit nor a sign is not in a whole number. -/
theorem not_mem_toString_int {c : Char} (hdigit : c.isDigit = false) (hsign : c ≠ '-') (n : Int) :
    c ∉ (toString n).toList := by
  intro hc
  rcases isDigit_or_eq_sign hc with h | h
  · rw [hdigit] at h
    cases h
  · exact hsign h

/-- The text of a point, part by part. -/
theorem Point.text_eq (point : Point) :
    point.text = "[" ++ toString point.row ++ ", " ++ toString point.column ++ "]" := rfl

/-- The text of a node, part by part. -/
theorem SyntaxNode.text_eq (node : SyntaxNode) :
    node.text = node.kind ++ " " ++ node.span.start.text ++ " - " ++ node.span.stop.text := rfl

namespace SyntaxTree

/-- A whole number is read back. -/
theorem readInt?_toString (n : Int) : readInt? (toString n).toList = some n := by
  have hdigits (m : Nat) : ∀ c ∈ Nat.toDigits 10 m, c.isDigit = true :=
    fun _ hc => Nat.isDigit_of_mem_toDigits (by decide) (by decide) hc
  have hempty (m : Nat) : (Nat.toDigits 10 m).isEmpty = false := by
    simp [Nat.toDigits_ne_nil]
  rw [toList_toString_int]
  split
  · rename_i hn
    unfold readInt?
    split
    · -- a sign is no digit
      rename_i digits hsign
      have h := hdigits n.toNat '-' (by rw [hsign]; exact List.mem_cons_self)
      exact absurd h (by decide)
    · simp only [hempty, mapM_asciiDigit? (hdigits _), Option.map_some, ofDigits_toDigits]
      simp [Int.toNat_of_nonneg hn]
  · rename_i hn
    simp only [readInt?, hempty, mapM_asciiDigit? (hdigits _), Option.map_some, ofDigits_toDigits]
    simp
    omega

/-! ## Lines -/

/-- A stretch of characters of one sort ends at the first of another sort. -/
theorem span_append_cons {p : Char → Bool} {cs rest : List Char} {c : Char}
    (hcs : ∀ d ∈ cs, p d = true) (hc : p c = false) :
    (cs ++ c :: rest).span p = (cs, c :: rest) := by
  rw [List.span_eq_takeWhile_dropWhile, List.takeWhile_append_of_pos hcs,
    List.dropWhile_append_of_pos hcs, List.takeWhile_cons_of_neg (by simp [hc]),
    List.dropWhile_cons_of_neg (by simp [hc]), List.append_nil]

/-- A point is taken off the end of a line, whatever stands before it. -/
theorem takePoint?_text (point : Point) (before : List Char) :
    takePoint? (point.text.toList.reverse ++ before) = some (point, before) := by
  obtain ⟨row, column⟩ := point
  have hblank : ∀ c ∈ (toString column).toList.reverse, decide (c ≠ ' ') = true := by
    intro c hc
    refine decide_eq_true fun h => ?_
    rw [List.mem_reverse, h] at hc
    exact not_mem_toString_int (by decide) (by decide) column hc
  have hbracket : ∀ c ∈ (toString row).toList.reverse, decide (c ≠ '[') = true := by
    intro c hc
    refine decide_eq_true fun h => ?_
    rw [List.mem_reverse, h] at hc
    exact not_mem_toString_int (by decide) (by decide) row hc
  have hline : (Point.text ⟨row, column⟩).toList.reverse ++ before =
      ']' :: ((toString column).toList.reverse ++
        ' ' :: ',' :: ((toString row).toList.reverse ++ '[' :: before)) := by
    simp [Point.text_eq]
  rw [hline, takePoint?, span_append_cons hblank (by decide)]
  simp only
  rw [span_append_cons hbracket (by decide)]
  simp only [List.reverse_reverse, readInt?_toString]
  rfl

/-- A node is read back from its text, whatever its kind. -/
theorem readNode?_text (node : SyntaxNode) : readNode? node.text.toList = some node := by
  obtain ⟨kind, start, stop⟩ := node
  have hline : (SyntaxNode.text ⟨kind, start, stop⟩).toList.reverse =
      stop.text.toList.reverse ++
        ' ' :: '-' :: ' ' :: (start.text.toList.reverse ++ ' ' :: kind.toList.reverse) := by
    simp [SyntaxNode.text_eq]
  rw [readNode?, hline, takePoint?_text]
  simp only
  rw [takePoint?_text]
  simp

/-- The kind of a node can be told in a listing: it is not empty, has no line end, and does not start
with a blank. -/
def IsListable (kind : String) : Prop :=
  kind ≠ "" ∧ Text.IsOneLine kind ∧ kind.toList.head? ≠ some ' '

instance (kind : String) : Decidable (IsListable kind) :=
  inferInstanceAs (Decidable (_ ∧ _))

/-- A level of depth puts two blanks in front. -/
theorem indentAt_eq (indent : String) (depth : Nat) :
    indentAt indent depth = String.ofList (List.replicate (2 * depth) ' ') ++ indent := by
  induction depth with
  | zero => simp [indentAt]
  | succ depth ih =>
    rw [indentAt, ih, ← String.append_assoc, Nat.mul_succ, Nat.add_comm, List.replicate_add,
      String.ofList_append]
    rfl

/-- The indentation of a line whose root is not indented. -/
theorem toList_indentAt_empty (depth : Nat) :
    (indentAt "" depth).toList = List.replicate (2 * depth) ' ' := by
  rw [indentAt_eq, String.append_empty, String.toList_ofList]

/-- The text of a listable node starts with something but a blank. -/
theorem exists_text_eq_cons {node : SyntaxNode} (hnode : IsListable node.kind) :
    ∃ c rest, node.text.toList = c :: rest ∧ c ≠ ' ' := by
  obtain ⟨hempty, _, hhead⟩ := hnode
  cases hkind : node.kind.toList with
  | nil => exact absurd (String.toList_eq_nil_iff.mp hkind) hempty
  | cons c rest =>
    rw [hkind, List.head?_cons] at hhead
    exact ⟨c, _, by simp [SyntaxNode.text_eq, hkind]; rfl, fun h => hhead (congrArg some h)⟩

/-- A line is read back. -/
theorem readLine?_indentAt (depth : Nat) {node : SyntaxNode} (hnode : IsListable node.kind) :
    readLine? (indentAt "" depth ++ node.text).toList = some (depth, node) := by
  obtain ⟨c, rest, htext, hc⟩ := exists_text_eq_cons hnode
  have hnodeText := readNode?_text node
  rw [htext] at hnodeText
  have hblanks : ∀ d ∈ List.replicate (2 * depth) ' ', decide (d = ' ') = true := by
    intro d hd
    exact decide_eq_true (List.eq_of_mem_replicate hd)
  rw [String.toList_append, toList_indentAt_empty, htext, readLine?,
    span_append_cons hblanks (decide_eq_false hc)]
  simp [hnodeText]

/-- A line holds no line end. -/
theorem isOneLine_line (depth : Nat) {node : SyntaxNode} (hnode : IsListable node.kind) :
    Text.IsOneLine (indentAt "" depth ++ node.text) := by
  have hnumber (n : Int) : Text.IsOneLine (toString n) :=
    not_mem_toString_int (by decide) (by decide) n
  have hpoint (point : Point) : Text.IsOneLine point.text := by
    simp only [Point.text_eq, Text.isOneLine_append, hnumber, and_true]
    decide
  have hindent : Text.IsOneLine (indentAt "" depth) := by
    rw [Text.IsOneLine, toList_indentAt_empty]
    exact fun h => absurd (List.eq_of_mem_replicate h) (by decide)
  simp only [SyntaxNode.text_eq, Text.isOneLine_append, hindent, hnode.2.1, hpoint, true_and,
    and_true]
  decide

/-- Lines are read back all together. -/
theorem mapM_readLine? {entries : List (Nat × SyntaxNode)}
    (hentries : ∀ entry ∈ entries, IsListable entry.2.kind) :
    ((outlineLines "" entries).map String.toList).mapM readLine? = some entries := by
  induction entries with
  | nil => rfl
  | cons entry entries ih =>
    rw [List.forall_mem_cons] at hentries
    have hrest := ih hentries.2
    rw [outlineLines] at hrest
    rw [outlineLines, List.map_cons, List.map_cons, List.mapM_cons,
      readLine?_indentAt entry.1 hentries.1, hrest]
    rfl

/-! ## Trees -/

/-- No tree of a list is deeper than some depth at its start. -/
def StartsAt (depth : Nat) (following : List (Nat × SyntaxTree)) : Prop :=
  ∀ entry ∈ following.head?, entry.1 ≤ depth

/-- A node takes the trees right behind it that are one level deeper as its children. -/
theorem placeNode_eq {depth : Nat} {node : SyntaxNode} {children : List SyntaxTree}
    {following : List (Nat × SyntaxTree)} (hfollowing : StartsAt depth following) :
    placeNode depth node (children.map (fun child => (depth + 1, child)) ++ following) =
      some ((depth, .node node children) :: following) := by
  have hbelow : ∀ entry ∈ children.map fun child => (depth + 1, child),
      decide (depth < entry.1) = true := by
    simp
  have hafter : following.takeWhile (fun entry => decide (depth < entry.1)) = [] ∧
      following.dropWhile (fun entry => decide (depth < entry.1)) = following := by
    cases following with
    | nil => simp
    | cons entry following =>
      have hle : entry.1 ≤ depth := hfollowing entry rfl
      simp [Nat.not_lt_of_le hle]
  rw [placeNode, List.span_eq_takeWhile_dropWhile, List.takeWhile_append_of_pos hbelow,
    List.dropWhile_append_of_pos hbelow, hafter.1, hafter.2]
  simp [Function.comp_def]

mutual
/-- The outline of a tree is put together to the tree, in front of what follows. -/
theorem assemble_outline (depth : Nat) (tree : SyntaxTree) {lines : List (Nat × SyntaxNode)}
    {following : List (Nat × SyntaxTree)} (hlines : assemble lines = some following)
    (hfollowing : StartsAt depth following) :
    assemble (tree.outline depth ++ lines) = some ((depth, tree) :: following) := by
  obtain ⟨node, children⟩ := tree
  have hdeeper : StartsAt (depth + 1) following :=
    fun entry hentry => Nat.le_succ_of_le (hfollowing entry hentry)
  rw [Tree.outline, List.cons_append, assemble,
    assemble_outlineAll (depth + 1) children hlines hdeeper]
  exact placeNode_eq hfollowing
/-- The outlines of several trees of one depth are put together to the trees, in front of what follows.
-/
theorem assemble_outlineAll (depth : Nat) (trees : List SyntaxTree)
    {lines : List (Nat × SyntaxNode)} {following : List (Nat × SyntaxTree)}
    (hlines : assemble lines = some following) (hfollowing : StartsAt depth following) :
    assemble (Tree.outlineAll depth trees ++ lines) =
      some (trees.map (fun tree => (depth, tree)) ++ following) := by
  cases trees with
  | nil =>
    rw [Tree.outlineAll]
    exact hlines
  | cons tree trees =>
    have hrest := assemble_outlineAll depth trees hlines hfollowing
    rw [Tree.outlineAll, List.append_assoc]
    refine assemble_outline depth tree hrest ?_
    cases trees with
    | nil => exact hfollowing
    | cons next trees => simp [StartsAt]
end

/-- Every kind in a tree can be told in a listing. -/
def HasListableKinds (tree : SyntaxTree) : Prop :=
  ∀ below ∈ tree.subtrees, IsListable below.label.kind

instance (tree : SyntaxTree) : Decidable (HasListableKinds tree) :=
  inferInstanceAs (Decidable (∀ below ∈ tree.subtrees, _))

/-- A listing is read back to its tree. -/
theorem readListing?_render {tree : SyntaxTree} (htree : HasListableKinds tree) :
    readListing? (render "" tree) = some tree := by
  have hentries : ∀ entry ∈ tree.outline 0, IsListable entry.2.kind := by
    intro entry hentry
    have hlabel : entry.2 ∈ (tree.outline 0).map Prod.snd := List.mem_map_of_mem hentry
    rw [Tree.map_snd_outline] at hlabel
    obtain ⟨below, hbelow, hlabel⟩ := List.mem_map.mp hlabel
    rw [← hlabel]
    exact htree below hbelow
  have hlines : Text.lines (render "" tree).toList =
      (outlineLines "" (tree.outline 0)).map String.toList := by
    have hne : outlineLines "" (tree.outline 0) ≠ [] := by
      obtain ⟨node, children⟩ := tree
      simp [outlineLines, Tree.outline]
    rw [render, listing_eq_outlineLines, Text.lines_intercalate hne, List.map_eq_flatMap]
    refine List.flatMap_congr fun line hline => Text.lines_eq_singleton ?_
    obtain ⟨entry, hentry, rfl⟩ := List.mem_map.mp hline
    exact isOneLine_line entry.1 (hentries entry hentry)
  have hassemble : assemble (tree.outline 0) = some [(0, tree)] := by
    have hnothing : assemble [] = some [] := rfl
    have hwhole := assemble_outline 0 tree hnothing (by simp [StartsAt])
    rwa [List.append_nil] at hwhole
  rw [readListing?, hlines, mapM_readLine? hentries]
  simp [hassemble]

end SyntaxTree

/-- A listing shows a tree exactly and keeps all of it. Its lines are the nodes in preorder, each
behind two blanks for every level of depth and the indentation of the root, as its kind and the four
numbers of its span. If no kind is empty, holds a line end or starts with a blank, the listing without
indentation is read back to the tree, so that no other such tree has the same listing. -/
theorem listing_keeps_tree (indent : String) (tree other : SyntaxTree) :
    SyntaxTree.render indent tree = "\n".intercalate ((tree.outline 0).map fun entry =>
      String.ofList (List.replicate (2 * entry.1) ' ') ++ indent ++ entry.2.kind ++
        " [" ++ toString entry.2.span.start.row ++ ", " ++ toString entry.2.span.start.column ++
        "] - [" ++ toString entry.2.span.stop.row ++ ", " ++ toString entry.2.span.stop.column ++
        "]") ∧
    (tree.outline 0).map Prod.snd = tree.walk.map Tree.label ∧
    (SyntaxTree.HasListableKinds tree →
      SyntaxTree.readListing? (SyntaxTree.render "" tree) = some tree) ∧
    (SyntaxTree.HasListableKinds tree → SyntaxTree.HasListableKinds other →
      SyntaxTree.render "" tree = SyntaxTree.render "" other → tree = other) := by
  refine ⟨?_, ?_, SyntaxTree.readListing?_render, ?_⟩
  · rw [SyntaxTree.render, SyntaxTree.listing_eq_outlineLines, SyntaxTree.outlineLines]
    refine congrArg _ (List.map_congr_left fun entry _ => ?_)
    rw [SyntaxTree.indentAt_eq, SyntaxNode.text_eq, Point.text_eq, Point.text_eq]
    simp only [String.append_assoc]
    rfl
  · rw [Tree.map_snd_outline, Tree.walk_eq_subtrees]
  · intro htree hother hsame
    have hread := SyntaxTree.readListing?_render htree
    rw [hsame, SyntaxTree.readListing?_render hother] at hread
    exact (Option.some.inj hread).symm

/-- A tree with brackets and dashes in a kind, numbers of either sign, and a node behind a deeper one. -/
def bracketedTree : SyntaxTree :=
  .node ⟨"a [1, 2] - [3, 4]", ⟨-1, 0⟩, ⟨70000000000000000000, -25⟩⟩
    [.node ⟨"- [", ⟨0, 0⟩, ⟨0, 9⟩⟩ [.node ⟨"]", ⟨0, 1⟩, ⟨0, 2⟩⟩ []],
      .node ⟨"\t \r", ⟨1, 0⟩, ⟨1, 0⟩⟩ []]

/-- It is read back from its listing, and no other tree has that listing. -/
theorem bracketedTree_kept :
    SyntaxTree.HasListableKinds bracketedTree ∧
      SyntaxTree.render "" bracketedTree =
        "a [1, 2] - [3, 4] [-1, 0] - [70000000000000000000, -25]\n  - [ [0, 0] - [0, 9]\n" ++
          "    ] [0, 1] - [0, 2]\n  \t \r [1, 0] - [1, 0]" ∧
      SyntaxTree.readListing? (SyntaxTree.render "" bracketedTree) = some bracketedTree ∧
      ∀ other, SyntaxTree.HasListableKinds other →
        SyntaxTree.render "" bracketedTree = SyntaxTree.render "" other →
        bracketedTree = other := by
  have hkinds : SyntaxTree.HasListableKinds bracketedTree := by decide
  have hkept (other : SyntaxTree) := listing_keeps_tree "" bracketedTree other
  refine ⟨hkinds, ?_, (hkept bracketedTree).2.2.1 hkinds, fun other => (hkept other).2.2.2 hkinds⟩
  rw [(hkept bracketedTree).1]
  decide +kernel

end JavaOutline
