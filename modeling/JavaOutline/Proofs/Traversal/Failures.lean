import JavaOutline.Proofs.Source.Extraction
import JavaOutline.Proofs.Traversal.FirstFailure
import JavaOutline.Proofs.Traversal.Likeness

/-!
# Which failures there are

Suppose that every node of a syntax tree starts and stops in the source text, and not inside a
character. Then no reading cuts a character in two, and what can still go wrong with a node is of
three sorts: a span with its ends in the wrong order, a type that is not understood, and a name that
is blank or missing. This is known of the text of a single node, so by the laws of the readings it
holds of every script, and of a whole traversal of an open scope.
-/

namespace JavaOutline

/-! ## Trees that lie in a text -/

/-- A point is in a text: its row is there, its column is in the row, and no character is cut. -/
def Point.LiesIn (point : Point) (text : String) : Prop :=
  0 ≤ point.row ∧ point.row < (SourceText.ofString text).lineCount ∧
  0 ≤ point.column ∧
  point.column ≤ ((SourceText.ofString text).bytesOf point.row.toNat).length ∧
  Text.Encoding.utf8.IsBoundary text.toList ((SourceText.ofString text).offset point)

instance (point : Point) (text : String) : Decidable (point.LiesIn text) :=
  inferInstanceAs (Decidable (_ ∧ _))

/-- Both ends of a span are in a text, in whatever order. -/
def Span.LiesIn (span : Span) (text : String) : Prop :=
  span.start.LiesIn text ∧ span.stop.LiesIn text

instance (span : Span) (text : String) : Decidable (span.LiesIn text) :=
  inferInstanceAs (Decidable (_ ∧ _))

/-- The span of every node of a tree is in a text. -/
def SyntaxTree.LiesIn (tree : SyntaxTree) (text : String) : Prop :=
  ∀ node ∈ tree.subtrees, node.label.span.LiesIn text

instance (tree : SyntaxTree) (text : String) : Decidable (SyntaxTree.LiesIn tree text) :=
  inferInstanceAs (Decidable (∀ node ∈ tree.subtrees, node.label.span.LiesIn text))

namespace SyntaxTree.LiesIn

variable {text : String} {tree : SyntaxTree}

/-- The visited nodes of a tree in a text are in the text. -/
theorem of_isVisited (htree : LiesIn tree text) {address : Address} {node : SyntaxTree}
    (hnode : IsVisited tree address node) : LiesIn node text :=
  fun below hbelow => htree below (hnode.subtrees_subset hbelow)

end SyntaxTree.LiesIn

/-! ## Sorts of failure -/

/-- A span out of order, a type that is not understood, or a name that is blank or missing. -/
inductive Failure.IsOrdinary : Failure → Prop where
  | malformed (fault : SpanFault) : IsOrdinary (.unreadable (.malformed fault))
  | unrecognizedType (kind text : String) (row : Int) : IsOrdinary (.unrecognizedType kind text row)
  | unnamed (kind : EntityKind) (part : String) (fault : NameFault) :
      IsOrdinary (.rejected ⟨kind, [⟨[.key part], .invalidName fault⟩]⟩)

section

variable {text : String}

/-- The text of a node in the text can be read unless its ends are in the wrong order. -/
theorem read_isOrdinary {node : SyntaxNode} (hnode : node.span.LiesIn text) {failure : Failure}
    (hfails : node.read (.ofString text) = .error failure) : failure.IsOrdinary := by
  cases hextract : (SourceText.ofString text).extract node.kind node.span with
  | ok result =>
    rw [SyntaxNode.read, hextract] at hfails
    cases hfails
  | error error =>
    rw [SyntaxNode.read, hextract] at hfails
    cases hfails
    cases error with
    | malformed fault => exact .malformed fault
    | undecodable =>
      -- nothing that starts and stops between characters cuts one
      have hfits : (SourceText.ofString text).Fits node.span := by
        refine Decidable.byContradiction fun hnot => ?_
        obtain ⟨fault, hfault⟩ := (SourceText.extract_eq_malformed_iff node.kind).mpr hnot
        rw [hextract] at hfault
        cases hfault
      have hlines : (SourceText.ofString text).lines =
          (Text.Encoding.utf8.layout text.toList).splitOn newline := rfl
      have hcuts := (hfits.extract_eq_undecodable_iff (fun _ _ => .inl rfl) hlines _).mp hextract
      rcases hcuts.2.2 with hstart | hstop
      · exact absurd hstart hnode.1.2.2.2.2.not_cutsCharacter
      · exact absurd hstop hnode.2.2.2.2.2.not_cutsCharacter

/-- A text compared with itself, for nodes in the text and with ordinary failures. -/
def Comparison.ofNodesIn (text : String) : Comparison where
  source := .ofString text
  source' := .ofString text
  Node node node' := node = node' ∧ node.span.LiesIn text
  Text _ := True
  Fails failure _ := failure.IsOrdinary
  GivesUp _ := False
  read := by
    rintro node _ ⟨rfl, hnode⟩
    exact .refl (fun _ _ _ => trivial) fun _ => read_isOrdinary hnode
  fixed _ _ := trivial
  unrecognizedType _ _ := .unrecognizedType ..
  unnamed kind part fault := .unnamed kind part fault

/-- The script of a node that lies in the text fails with an ordinary failure, if it fails. -/
theorem scriptOf_isOrdinary {tree : SyntaxTree} (htree : SyntaxTree.LiesIn tree text)
    {failure : Failure} (hfails : (scriptOf (.ofString text) tree).ending = .error failure) :
    failure.IsOrdinary := by
  have hself : Alike (Comparison.ofNodesIn text).Node tree tree :=
    .refl tree fun below hbelow => ⟨rfl, htree below hbelow⟩
  rcases ((Comparison.ofNodesIn text).scriptOf_agrees hself).fails_or_givesUp hfails with
    ⟨_, hordinary⟩ | hnever
  · exact hordinary
  · exact hnever.elim

/-- A traversal of a tree that lies in the text, in an open scope, fails with an ordinary failure, if
it fails: that of its first failing node. -/
theorem fill_isOrdinary {tree : SyntaxTree} (htree : SyntaxTree.LiesIn tree text)
    {store : Store} {scope : Nat} (hopen : store.IsOpen scope) {failure : Failure}
    (hfails : (fill (.ofString text) tree store scope).2 = some failure) :
    failure.IsOrdinary := by
  rcases all_succeed_or_first_fails (.ofString text) (visitsOf [] scope store.size tree) with
    hok | ⟨before, visit, later, first, hsplit, hbefore, hfirst⟩
  · rw [(fill_of_all_succeed hopen hok).1] at hfails
    cases hfails
  · rw [(fill_of_first_fails hopen hsplit hbefore hfirst).1] at hfails
    cases hfails
    have hmem : visit ∈ visitsOf [] scope store.size tree := by simp [hsplit]
    have hvisited := isVisited_of_mem_visitsOf [] scope store.size tree .root visit hmem
    exact scriptOf_isOrdinary (htree.of_isVisited hvisited) hfirst

end

end JavaOutline
