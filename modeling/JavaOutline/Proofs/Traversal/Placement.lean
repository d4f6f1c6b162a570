import JavaOutline.Proofs.Source.Placement
import JavaOutline.Proofs.Traversal.Likeness

/-!
# Where a text stands does not matter

A text with others above and below it is outlined like the text alone, if the syntax tree is moved
down with it. The text of a node is the same further down, and a failure comes again, with its row
moved down if it names one. The exception is a span that does not fit the text alone, since further
down it may fit. The two texts are compared, and what is known of single nodes carries over to a
traversal in any store.
-/

namespace JavaOutline

/-! ## Trees further down -/

/-- A node that is so many rows further down. -/
def SyntaxNode.moveDown (rows : Nat) (node : SyntaxNode) : SyntaxNode :=
  { node with span := node.span.moveDown rows }

/-- A tree whose nodes are all so many rows further down. -/
def SyntaxTree.moveDown (rows : Nat) (tree : SyntaxTree) : SyntaxTree :=
  tree.map (SyntaxNode.moveDown rows)

/-- A failure that is met so many rows further down. Only a type that is not understood is reported
with its row. -/
def Failure.moveDown (rows : Nat) : Failure → Failure
  | .unrecognizedType kind text row => .unrecognizedType kind text (row + rows)
  | failure => failure

/-- A tree further down is alike to the tree. -/
theorem SyntaxTree.alike_moveDown (rows : Nat) (tree : SyntaxTree) :
    Alike (fun node node' => node.moveDown rows = node') tree (SyntaxTree.moveDown rows tree) :=
  .of_map (SyntaxNode.moveDown rows) (fun _ => rfl) tree fun _ _ => rfl

/-- A text compared with a longer one in which it stands further down. Nodes are moved down, and so
are failures. Nothing is said once a span does not fit the text alone. -/
def Comparison.ofHoldsAt {whole part : SourceText} {rows : Nat} (hholds : whole.HoldsAt rows part) :
    Comparison where
  source := part
  source' := whole
  Node node node' := node.moveDown rows = node'
  Text _ := True
  Fails failure failure' := failure.moveDown rows = failure'
  GivesUp failure := ∃ fault, failure = .unreadable (.malformed fault)
  read := by
    rintro node _ rfl
    unfold SyntaxNode.read
    by_cases hfits : part.Fits node.span
    · have hextract := hholds.extract_moveDown hfits node.kind
      rw [SyntaxNode.moveDown, hextract]
      cases part.extract node.kind node.span with
      | error error => exact .error rfl
      | ok text => exact .ok ⟨rfl, fun _ => trivial⟩
    · obtain ⟨fault, hfault⟩ := (SourceText.extract_eq_malformed_iff node.kind).mpr hfits
      rw [hfault]
      exact .givesUp ⟨fault, rfl⟩ _
  fixed _ _ := trivial
  unrecognizedType := by
    rintro node _ rfl text
    rfl
  unnamed _ _ _ := rfl

/-- Where a text stands does not matter for its outline. Let a text stand below so many rows of
another one, and above any further text, and let the tree be moved down with it. If a scope is filled
from the tree alone, it is filled alike from the tree further down, with the same scopes and the same
journal. If a type is not understood, the same happens further down, with the row moved and with the
same scopes and journal up to then. Every other failure comes again as it is, except that of a span
that does not fit the text. -/
theorem fill_independent_of_position (above text below : String) (tree : SyntaxTree)
    (store : Store) (scope : Nat) :
    let rows := (SourceText.ofString above).lineCount
    let alone := fill (.ofString text) tree store scope
    let inside := fill (.ofString (above ++ "\n" ++ text ++ "\n" ++ below))
      (SyntaxTree.moveDown rows tree) store scope
    (alone.2 = none → inside = alone) ∧
    (∀ kind written row, alone.2 = some (.unrecognizedType kind written row) →
      inside = (alone.1, some (.unrecognizedType kind written (row + rows)))) ∧
    ∀ failure, alone.2 = some failure →
      (∀ fault, failure ≠ .unreadable (.malformed fault)) →
      inside = (alone.1, some (failure.moveDown rows)) := by
  intro rows alone inside
  have hholds := SourceText.holdsAt_ofString above text below
  have hmoved : (∃ fault, alone.2 = some (.unreadable (.malformed fault))) ∨
      inside = (alone.1, alone.2.map (Failure.moveDown rows)) := by
    rcases fill_agrees (.ofHoldsAt hholds) (fun _ => rfl) (tree.alike_moveDown rows) store scope with
      ⟨_, hfailure, fault, rfl⟩ | ⟨hprogress, hfailure⟩
    · exact .inl ⟨fault, hfailure⟩
    · exact .inr (Prod.ext hprogress (eq_map_of_rel hfailure))
  have hfails : ∀ failure, alone.2 = some failure →
      (∀ fault, failure ≠ .unreadable (.malformed fault)) →
      inside = (alone.1, some (failure.moveDown rows)) := by
    intro failure hfailure hfits
    rcases hmoved with ⟨fault, hfault⟩ | hmoved
    · rw [hfailure, Option.some.injEq] at hfault
      exact absurd hfault (hfits fault)
    · rw [hmoved, hfailure]
      rfl
  refine ⟨?_, ?_, hfails⟩
  · intro hnone
    rcases hmoved with ⟨fault, hfault⟩ | hmoved
    · rw [hnone] at hfault
      cases hfault
    · rw [hmoved, hnone, Option.map_none, ← hnone]
  · intro kind written row hfailure
    exact hfails _ hfailure (by simp)

end JavaOutline
