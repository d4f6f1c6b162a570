import JavaOutline.Proofs.Except
import JavaOutline.Proofs.Source.Extraction
import JavaOutline.Proofs.Text.Lines
import JavaOutline.Proofs.Traversal.Likeness
import JavaOutline.Proofs.Traversal.ShownItems

/-!
# What is read off single rows

Headers and facts are made of texts that are read off the source, and a text that goes over several
rows keeps the line ends between them. A row itself holds no line end, so what is read off a single
row is one line. If none of the nodes whose text may be kept goes on in another row, then the laws of
the readings say that everything a script puts together is made of texts of one line, and so it is one
line as well: names, types at any depth, the parts of a declaration and those of a call.
-/

namespace JavaOutline

open Text (IsOneLine)

/-! ## Rows -/

/-- A row of a source holds no line end. -/
theorem SourceText.newline_not_mem_bytesOf (text : String) (row : Nat) :
    newline ∉ (SourceText.ofString text).bytesOf row := by
  rw [bytesOf, List.getD_eq_getElem?_getD]
  cases hrow : (SourceText.ofString text).lines[row]? with
  | none => simp
  | some bytes =>
    intro hmem
    exact (Text.mem_and_ne_of_mem_splitOn (List.mem_of_getElem? hrow) hmem).2 rfl

/-- What is decoded from bytes without line ends is one line. -/
theorem isOneLine_of_decode? {bytes : List UInt8} {text : String}
    (h : Text.Encoding.utf8.decode? bytes = some text) (hbytes : newline ∉ bytes) :
    IsOneLine text := by
  obtain ⟨_, rfl⟩ := Text.Encoding.encode?_eq_some_iff.mp (Text.Encoding.decode?_eq_some_iff.mp h)
  exact fun hmem => hbytes (List.mem_flatMap.mpr ⟨'\n', hmem, by decide⟩)

/-- A span starts and stops in the same row. -/
def Span.IsInOneRow (span : Span) : Prop :=
  span.start.row = span.stop.row

instance (span : Span) : Decidable span.IsInOneRow :=
  inferInstanceAs (Decidable (_ = _))

variable {text : String}

/-- What is read off a single row is one line. -/
theorem read_isOneLine {node : SyntaxNode} (hnode : node.span.IsInOneRow) {value : String}
    (hvalue : node.read (.ofString text) = .ok value) : IsOneLine value := by
  rw [SyntaxNode.read, mapError_eq_ok_iff, SourceText.extract] at hvalue
  split at hvalue
  · cases hvalue
  · rename_i region hregion
    split at hvalue
    · cases hvalue
    · rename_i decoded hdecoded
      cases hvalue
      obtain ⟨_, rfl⟩ := SourceText.locate_eq_ok_iff.mp hregion
      have hrow : (SourceText.regionOf node.span).startRow =
          (SourceText.regionOf node.span).stopRow := congrArg Int.toNat hnode
      refine isOneLine_of_decode? hdecoded fun hmem => ?_
      rw [SourceText.slice, if_pos hrow] at hmem
      exact SourceText.newline_not_mem_bytesOf text _
        (List.mem_of_mem_take (List.mem_of_mem_drop hmem))

/-! ## Trees whose kept texts are single rows -/

/-- No node of a tree whose text may be kept goes on in another row. -/
def SyntaxTree.IsUnbroken (tree : SyntaxTree) : Prop :=
  ∀ node ∈ tree.subtrees, isKept node.label.kind = true → node.label.span.IsInOneRow

instance (tree : SyntaxTree) : Decidable (SyntaxTree.IsUnbroken tree) :=
  inferInstanceAs (Decidable (∀ node ∈ tree.subtrees,
    isKept node.label.kind = true → node.label.span.IsInOneRow))

namespace SyntaxTree.IsUnbroken

variable {tree : SyntaxTree}

/-- The visited nodes of an unbroken tree are unbroken. -/
theorem of_isVisited (htree : IsUnbroken tree) {address : Address} {node : SyntaxTree}
    (hnode : IsVisited tree address node) : IsUnbroken node :=
  fun below hbelow => htree below (hnode.subtrees_subset hbelow)

end SyntaxTree.IsUnbroken

/-- A text compared with itself, for nodes that stand in one row if their text may be kept. -/
def Comparison.ofRows (text : String) : Comparison where
  source := .ofString text
  source' := .ofString text
  Node node node' := node = node' ∧ (isKept node.kind = true → node.span.IsInOneRow)
  Text := IsOneLine
  Fails _ _ := True
  GivesUp _ := False
  read := by
    rintro node _ ⟨rfl, hnode⟩
    exact .refl (fun _ hvalue hkept => read_isOneLine (hnode hkept) hvalue) fun _ _ => trivial
  fixed := by decide
  unrecognizedType _ _ := trivial
  unnamed _ _ _ := trivial

/-! ## Headers and facts -/

/-- The word for a kind of scope is one line. -/
theorem ScopeKind.isOneLine_word (kind : ScopeKind) : IsOneLine kind.word := by
  cases kind <;> decide

/-- Segments that are one line each are one line when they are joined. -/
theorem isOneLine_dotted {segments : List String} (h : ∀ segment ∈ segments, IsOneLine segment) :
    IsOneLine (dotted segments) :=
  Text.isOneLine_intercalate (by decide) h

/-- A type whose names are one line each is one line, however deep its arguments are. -/
theorem JavaType.IsMadeOf.isOneLine {type : JavaType} (h : type.IsMadeOf IsOneLine) :
    IsOneLine type.text := by
  induction h with
  | plain _ htext =>
    rw [JavaType.text]
    exact htext
  | @generic name arguments _ htext _ ih =>
    have hjoined : IsOneLine (", ".intercalate (arguments.map JavaType.text)) :=
      Text.isOneLine_intercalate (by decide) (List.forall_mem_map.mpr ih)
    rw [JavaType.text, texts_eq_map]
    simp +decide [htext, hjoined]

/-- A header whose texts are one line each is one line. -/
theorem Header.IsMadeOf.isOneLine {header : Header} (h : header.IsMadeOf IsOneLine) :
    IsOneLine header.text := by
  cases header with
  | file => decide
  | package segments => simp +decide [Header.text, isOneLine_dotted h.2]
  | type sort modifiers name =>
    obtain ⟨_, hmodifiers, hname⟩ := h
    simp +decide [Header.text, hmodifiers, hname, ScopeKind.isOneLine_word]
  | record modifiers name parameters =>
    obtain ⟨_, hmodifiers, hname, hparameters⟩ := h
    simp +decide [Header.text, hmodifiers, hname, hparameters]
  | function sort modifiers name parameters returnType =>
    obtain ⟨_, hmodifiers, hname, hparameters, hreturnType⟩ := h
    cases sort <;>
      simp +decide [Header.text, hmodifiers, hname, hparameters, hreturnType]

/-- A fact whose texts are one line each is one line. -/
theorem Fact.IsMadeOf.isOneLine {fact : Fact} (h : fact.IsMadeOf IsOneLine) :
    IsOneLine (ReportItem.fact fact).text := by
  cases fact with
  | importing declaration =>
    have hsegments := isOneLine_dotted h.2
    rw [ReportItem.text_importing, Import.text, Import.qualifiedName]
    split <;> simp +decide [hsegments]
  | field declared =>
    obtain ⟨_, hmodifiers, hidentifier, htype⟩ := h
    simp +decide [Field.text, hmodifiers, hidentifier, htype.isOneLine]
  | invocation made =>
    cases made with
    | call receiver path arguments =>
      obtain ⟨_, hreceiver, hpath, harguments⟩ := h
      have hnames := isOneLine_dotted hpath
      rw [ReportItem.text_invocation, Invocation.text]
      split <;> simp +decide [hnames, hreceiver, harguments]
    | creation type arguments =>
      simp +decide [Invocation.text, h.1.isOneLine, h.2]

/-! ## Scripts -/

/-- Everything that the script of an unbroken node shows is one line. -/
theorem scriptOf_showsLines {tree : SyntaxTree} (htree : SyntaxTree.IsUnbroken tree) :
    ∀ item ∈ (scriptOf (.ofString text) tree).items, IsOneLine item.text := by
  intro item hitem
  have hself : Alike (Comparison.ofRows text).Node tree tree :=
    .refl tree fun below hbelow => ⟨rfl, htree below hbelow⟩
  obtain ⟨step, hstep, hshows⟩ := List.mem_filterMap.mp hitem
  have hmade := ((Comparison.ofRows text).scriptOf_agrees hself).isMadeOf step hstep
  cases step with
  | enter header =>
    cases hshows
    exact Header.IsMadeOf.isOneLine hmade
  | record fact =>
    cases hshows
    exact Fact.IsMadeOf.isOneLine hmade
  | note message => cases hshows

end JavaOutline
