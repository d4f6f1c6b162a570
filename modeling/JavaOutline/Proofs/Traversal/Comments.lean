import JavaOutline.Proofs.Traversal.Likeness

/-!
# Comments do not matter

`AddsComments` relates a tree to any tree that has some comments more, anywhere below the root. Every
reading of a node goes by kinds that no comment has, so it gives the same for both trees, and a
comment that is visited calls for nothing. Trees that differ by added comments are alike, in
particular, and they fill a scope in the same way.
-/

namespace JavaOutline

mutual
/-- A tree and the same tree with comments added at any places below the root. -/
inductive AddsComments : SyntaxTree → SyntaxTree → Prop where
  | node (label : SyntaxNode) {children children' : List SyntaxTree}
      (hchildren : AddsCommentsAmong children children') :
      AddsComments (.node label children) (.node label children')
/-- The children of a node and the same children with comments added between and inside them. -/
inductive AddsCommentsAmong : List SyntaxTree → List SyntaxTree → Prop where
  | nil : AddsCommentsAmong [] []
  | cons {child child' : SyntaxTree} {rest rest' : List SyntaxTree}
      (hchild : AddsComments child child') (hrest : AddsCommentsAmong rest rest') :
      AddsCommentsAmong (child :: rest) (child' :: rest')
  | comment (label : SyntaxNode) (hcomment : isComment label.kind = true)
      {rest rest' : List SyntaxTree} (hrest : AddsCommentsAmong rest rest') :
      AddsCommentsAmong rest (.node label [] :: rest')
end

mutual
/-- Trees that differ by added comments are alike. -/
theorem AddsComments.alike {tree tree' : SyntaxTree} (h : AddsComments tree tree') :
    Alike Eq tree tree' := by
  cases h with
  | node label hchildren => exact .node rfl rfl hchildren.allAlike
/-- Children that differ by added comments are alike. -/
theorem AddsCommentsAmong.allAlike {children children' : List SyntaxTree}
    (h : AddsCommentsAmong children children') : AllAlike Eq children children' := by
  cases h with
  | nil => exact .nil
  | cons hchild hrest => exact .cons hchild.alike hrest.allAlike
  | comment label hcomment hrest => exact .skip ⟨hcomment, rfl⟩ hrest.allAlike
end

/-- Comments added anywhere below the root change nothing of how a scope is filled: neither the
scopes and what they record, nor the journal, nor whether and how it fails. -/
theorem fill_eq_of_addsComments (source : SourceText) {tree tree' : SyntaxTree}
    (hcomments : AddsComments tree tree') (store : Store) (scope : Nat) :
    fill source tree' store scope = fill source tree store scope := by
  rcases fill_agrees (.ofSource source) (fun _ => rfl) hcomments.alike store scope with
    ⟨_, _, hnever⟩ | ⟨hprogress, hfailure⟩
  · exact hnever.elim
  · have hsame : (fill source tree' store scope).2 = (fill source tree store scope).2.map id :=
      eq_map_of_rel hfailure
    rw [Option.map_id] at hsame
    exact Prod.ext hprogress hsame

/-- The tree of the field declaration `/**/int/**/a;`, with both comments left out or put in. -/
def plainOrCommented (comments : List SyntaxTree) : SyntaxTree :=
  .node ⟨"field_declaration", ⟨0, 0⟩, ⟨0, 13⟩⟩
    (comments ++ .node ⟨"integral_type", ⟨0, 4⟩, ⟨0, 7⟩⟩ [] ::
      (comments ++ [.node ⟨"variable_declarator", ⟨0, 11⟩, ⟨0, 12⟩⟩
        [.node ⟨"identifier", ⟨0, 11⟩, ⟨0, 12⟩⟩ []]]))

/-- A field declaration is recorded alike with a comment before its type and one after it. -/
theorem fill_plainOrCommented :
    fill ⟨.ascii, [[47, 42, 42, 47, 105, 110, 116, 47, 42, 42, 47, 97, 59]]⟩
        (plainOrCommented [.node ⟨"block_comment", ⟨0, 0⟩, ⟨0, 4⟩⟩ []]) (.ofRoot .file) 0 =
      fill ⟨.ascii, [[47, 42, 42, 47, 105, 110, 116, 47, 42, 42, 47, 97, 59]]⟩
        (plainOrCommented []) (.ofRoot .file) 0 := by
  have hadds : AddsComments (plainOrCommented [])
      (plainOrCommented [.node ⟨"block_comment", ⟨0, 0⟩, ⟨0, 4⟩⟩ []]) := by
    refine .node _ (.comment _ rfl (.cons (.node _ .nil) (.comment _ rfl (.cons ?_ .nil))))
    exact .node _ (.cons (.node _ .nil) .nil)
  exact fill_eq_of_addsComments _ hadds _ 0

end JavaOutline
