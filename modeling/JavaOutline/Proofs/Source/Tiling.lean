import JavaOutline.Failure
import JavaOutline.Proofs.Except
import JavaOutline.Proofs.Source.Extraction

/-!
# Nodes that tile a span

If one span ends where another starts, the text from the start of the first to the stop of the
second is their two texts in a row, in one line or over several. Nodes tile a span if they stand in
it one after the other, from its start to its stop, with nothing but blanks between them. Then the
text of the span is that of the nodes in a row, up to blanks. So if each node is printed as its
text, up to blanks, the whole is too, and separators between the nodes can be left to the printer.
-/

namespace JavaOutline

namespace Text.Encoding

/-- Two stretches of bytes in a row are decoded to their two texts in a row. -/
theorem decode?_append {encoding : Encoding} {front back : List UInt8} {s t : String}
    (hfront : encoding.decode? front = some s) (hback : encoding.decode? back = some t) :
    encoding.decode? (front ++ back) = some (s ++ t) := by
  rw [decode?_eq_some_iff, encode?_eq_some_iff] at hfront hback ⊢
  obtain ⟨hholds, rfl⟩ := hfront
  obtain ⟨hholds', rfl⟩ := hback
  rw [String.toList_append, layout_append]
  exact ⟨List.forall_mem_append.mpr ⟨hholds, hholds'⟩, rfl⟩

end Text.Encoding

namespace SourceText

variable {source : SourceText} {start middle stop : Point}

/-- The text of a span is read exactly if the span fits and its bytes are decoded. -/
theorem extract_eq_ok_iff {kind : String} {span : Span} {text : String} :
    source.extract kind span = .ok text ↔
      source.Fits span ∧ source.encoding.decode? (source.slice (regionOf span)) = some text := by
  by_cases hfits : source.Fits span
  · rw [hfits.extract_eq kind, decoded_eq_ok_iff, and_iff_right hfits]
  · obtain ⟨fault, hfault⟩ := (extract_eq_malformed_iff kind).mpr hfits
    simp [hfault, hfits]

/-- The kind of a node counts for complaints only. -/
theorem extract_eq_ok_of_kind {kind : String} {span : Span} {text : String}
    (h : source.extract kind span = .ok text) (kind' : String) :
    source.extract kind' span = .ok text :=
  extract_eq_ok_iff.mpr (extract_eq_ok_iff.mp h)

/-- Two spans in a row that fit make up a span that fits. -/
theorem Fits.append (hfront : source.Fits ⟨start, middle⟩) (hback : source.Fits ⟨middle, stop⟩) :
    source.Fits ⟨start, stop⟩ := by
  simp only [Fits] at *
  omega

/-- The bytes of two spans in a row are the bytes of the span that they make up. -/
theorem Fits.slice_append (hfront : source.Fits ⟨start, middle⟩)
    (hback : source.Fits ⟨middle, stop⟩) :
    source.slice (regionOf ⟨start, middle⟩) ++ source.slice (regionOf ⟨middle, stop⟩) =
      source.slice (regionOf ⟨start, stop⟩) := by
  rw [hfront.slice_eq_stretch, hback.slice_eq_stretch, (hfront.append hback).slice_eq_stretch]
  have hstart : source.offset start ≤ source.offset middle := hfront.offset_le.1
  have hstop : source.offset middle ≤ source.offset stop := hback.offset_le.1
  have hmiddle : source.offset middle ≤ ([newline].intercalate source.lines).length :=
    hfront.offset_le.2
  generalize [newline].intercalate source.lines = bytes at hmiddle ⊢
  have hsplit : bytes.take (source.offset stop) =
      bytes.take (source.offset middle) ++
        (bytes.take (source.offset stop)).drop (source.offset middle) := by
    have hjoined := List.take_append_drop (source.offset middle) (bytes.take (source.offset stop))
    rw [List.take_take, Nat.min_eq_left hstop] at hjoined
    exact hjoined.symm
  have hlength : source.offset start ≤ (bytes.take (source.offset middle)).length := by
    rw [List.length_take]
    omega
  conv_rhs => rw [hsplit, List.drop_append_of_le_length hlength]

/-- The texts of two spans in a row are the text of the span that they make up. -/
theorem extract_append {kind kind' : String} {s t : String}
    (hfront : source.extract kind ⟨start, middle⟩ = .ok s)
    (hback : source.extract kind' ⟨middle, stop⟩ = .ok t) (kind'' : String) :
    source.extract kind'' ⟨start, stop⟩ = .ok (s ++ t) := by
  obtain ⟨hfits, hdecode⟩ := extract_eq_ok_iff.mp hfront
  obtain ⟨hfits', hdecode'⟩ := extract_eq_ok_iff.mp hback
  rw [extract_eq_ok_iff, ← hfits.slice_append hfits']
  exact ⟨hfits.append hfits', Text.Encoding.decode?_append hdecode hdecode'⟩

/-- There is nothing but blanks between two points of a source text. -/
def IsGap (source : SourceText) (start stop : Point) : Prop :=
  (source.extract "" ⟨start, stop⟩).map Text.isBlankText = .ok true

instance (source : SourceText) (start stop : Point) : Decidable (source.IsGap start stop) :=
  inferInstanceAs (Decidable (_ = _))

/-- Between two points with a gap there is a text of blanks. -/
theorem IsGap.exists_extract (hgap : source.IsGap start stop) :
    ∃ text, source.extract "" ⟨start, stop⟩ = .ok text ∧ Text.deleteBlanks text = "" := by
  unfold IsGap at hgap
  cases hextract : source.extract "" ⟨start, stop⟩ with
  | error error =>
    rw [hextract] at hgap
    cases hgap
  | ok text =>
    rw [hextract] at hgap
    exact ⟨text, rfl, Text.deleteBlanks_of_isBlankText (Except.ok.inj hgap)⟩

end SourceText

/-! ## Tilings -/

/-- Nodes stand in a span one after the other, from its start to its stop, with nothing but blanks
between them. -/
def Tiles (source : SourceText) : Span → List SyntaxTree → Prop
  | _, [] => False
  | span, [node] => node.label.span = span
  | span, node :: next :: rest =>
    node.label.span.start = span.start ∧
      source.IsGap node.label.span.stop next.label.span.start ∧
      Tiles source ⟨next.label.span.start, span.stop⟩ (next :: rest)

/-- Decides whether nodes tile a span. -/
def Tiles.decide (source : SourceText) :
    (span : Span) → (nodes : List SyntaxTree) → Decidable (Tiles source span nodes)
  | _, [] => .isFalse id
  | span, [node] => inferInstanceAs (Decidable (node.label.span = span))
  | span, node :: next :: rest =>
    haveI := Tiles.decide source ⟨next.label.span.start, span.stop⟩ (next :: rest)
    inferInstanceAs (Decidable (node.label.span.start = span.start ∧
      source.IsGap node.label.span.stop next.label.span.start ∧
      Tiles source ⟨next.label.span.start, span.stop⟩ (next :: rest)))

instance (source : SourceText) (span : Span) (nodes : List SyntaxTree) :
    Decidable (Tiles source span nodes) :=
  Tiles.decide source span nodes

/-- What is read of a node is the text of its span. -/
theorem SyntaxNode.read_eq_ok_iff {source : SourceText} {node : SyntaxNode} {text : String} :
    node.read source = .ok text ↔ source.extract node.kind node.span = .ok text :=
  mapError_eq_ok_iff

/-- The texts of nodes, one by one. -/
abbrev HaveTexts (source : SourceText) : List SyntaxTree → List String → Prop :=
  List.Forall₂ fun node text => node.label.read source = .ok text

/-- Nodes that tile a span can be read in it: its text is the texts of the nodes in a row, up to
blanks. -/
theorem Tiles.exists_extract {source : SourceText} {span : Span} {nodes : List SyntaxTree}
    {texts : List String} (htiles : Tiles source span nodes)
    (htexts : HaveTexts source nodes texts) (kind : String) :
    ∃ text, source.extract kind span = .ok text ∧
      Text.deleteBlanks text = Text.deleteBlanks (String.join texts) := by
  induction htexts generalizing span with
  | nil => exact htiles.elim
  | cons hread hrest ih =>
    rw [SyntaxNode.read_eq_ok_iff] at hread
    cases hrest with
    | nil =>
      obtain rfl : _ = span := htiles
      have hwhole := SourceText.extract_eq_ok_of_kind hread kind
      exact ⟨_, hwhole, by rw [String.join_cons, String.join_nil, String.append_empty]⟩
    | cons hnext hrest =>
      -- the first node, the gap behind it, and the other nodes
      obtain ⟨hstart, hgap, hothers⟩ := htiles
      obtain ⟨gap, hread', hblank⟩ := hgap.exists_extract
      obtain ⟨others, hread'', htexts⟩ := ih hothers
      have hwhole := SourceText.extract_append (SourceText.extract_append hread hread' "") hread'' kind
      rw [hstart] at hwhole
      refine ⟨_, hwhole, ?_⟩
      simp only [Text.deleteBlanks_append, hblank, htexts, String.join_cons, String.append_empty]

/-! ## Tokens and printed texts -/

/-- A node is a token: its kind and its text are one and the same word. -/
def IsToken (source : SourceText) (word : String) (node : SyntaxTree) : Prop :=
  node.label.kind = word ∧ node.label.read source = .ok word

instance (source : SourceText) (word : String) (node : SyntaxTree) :
    Decidable (IsToken source word node) :=
  inferInstanceAs (Decidable (_ ∧ _))

/-- A text prints a node back: it is the text of the node, up to blanks. -/
def PrintsBack (source : SourceText) (node : SyntaxTree) (printed : String) : Prop :=
  ∃ text, source.extract node.label.kind node.label.span = .ok text ∧
    Text.deleteBlanks printed = Text.deleteBlanks text

/-- The text of a node prints it back. -/
theorem printsBack_of_read {source : SourceText} {node : SyntaxTree} {text : String}
    (hread : node.label.read source = .ok text) : PrintsBack source node text :=
  ⟨text, SyntaxNode.read_eq_ok_iff.mp hread, rfl⟩

/-- If one text prints a node back, then exactly those do that are the same up to blanks. -/
theorem PrintsBack.iff_deleteBlanks_eq {source : SourceText} {node : SyntaxTree}
    {printed printed' : String} (h : PrintsBack source node printed) :
    PrintsBack source node printed' ↔ Text.deleteBlanks printed' = Text.deleteBlanks printed := by
  obtain ⟨text, hextract, htext⟩ := h
  constructor
  · rintro ⟨text', hextract', htext'⟩
    obtain rfl : text = text' := Except.ok.inj (hextract.symm.trans hextract')
    exact htext'.trans htext.symm
  · intro hsame
    exact ⟨text, hextract, hsame.trans htext⟩

/-- Nodes that are printed back one by one print a span back that they tile. -/
theorem Tiles.printsBack {source : SourceText} {root : SyntaxNode} {nodes below : List SyntaxTree}
    {printed : List String} (htiles : Tiles source root.span nodes)
    (hprinted : List.Forall₂ (PrintsBack source) nodes printed) :
    PrintsBack source (.node root below) (String.join printed) := by
  have htexts : ∃ texts, HaveTexts source nodes texts ∧
      Text.deleteBlanks (String.join printed) = Text.deleteBlanks (String.join texts) := by
    clear htiles
    induction hprinted with
    | nil => exact ⟨[], .nil, rfl⟩
    | cons hnode _ ih =>
      obtain ⟨text, hread, hsame⟩ := hnode
      obtain ⟨texts, hreads, hrest⟩ := ih
      refine ⟨text :: texts, .cons (SyntaxNode.read_eq_ok_iff.mpr hread) hreads, ?_⟩
      rw [String.join_cons, String.join_cons, Text.deleteBlanks_append, Text.deleteBlanks_append,
        hsame, hrest]
  obtain ⟨texts, hreads, hsame⟩ := htexts
  obtain ⟨text, hread, hblank⟩ := htiles.exists_extract hreads root.kind
  exact ⟨text, hread, hsame.trans hblank.symm⟩

/-! ## Separated nodes -/

/-- The members of a list with a token between each two of them, and none at the end. -/
inductive Separated (source : SourceText) (word : String) :
    List SyntaxTree → List SyntaxTree → Prop where
  | none : Separated source word [] []
  | single (member : SyntaxTree) : Separated source word [member] [member]
  | more {member mark next : SyntaxTree} {nodes members : List SyntaxTree}
      (hmark : IsToken source word mark) (hrest : Separated source word nodes (next :: members)) :
      Separated source word (member :: mark :: nodes) (member :: next :: members)

/-- If the members of a separated list are printed back one by one, then the whole list is printed
back, node by node, as the members with the separator between them. -/
theorem Separated.exists_printed {source : SourceText} {word separator : String}
    {nodes members : List SyntaxTree} {printed : List String}
    (hseparated : Separated source word nodes members)
    (hprinted : List.Forall₂ (PrintsBack source) members printed)
    (hseparator : Text.deleteBlanks separator = Text.deleteBlanks word) :
    ∃ texts, List.Forall₂ (PrintsBack source) nodes texts ∧
      Text.deleteBlanks (separator.intercalate printed) =
        Text.deleteBlanks (String.join texts) := by
  induction hseparated generalizing printed with
  | none =>
    cases hprinted
    exact ⟨[], .nil, by rw [String.intercalate_nil, String.join_nil]⟩
  | single member =>
    obtain ⟨text, _, hmember, hnone, rfl⟩ := List.forall₂_cons_left_iff.mp hprinted
    cases hnone
    refine ⟨[text], .cons hmember .nil, ?_⟩
    rw [String.intercalate_singleton, String.join_cons, String.join_nil, String.append_empty]
  | more hmark _ ih =>
    obtain ⟨text, _, hmember, hmembers, rfl⟩ := List.forall₂_cons_left_iff.mp hprinted
    obtain ⟨texts, hnodes, hsame⟩ := ih hmembers
    obtain ⟨text', printed, _, _, rfl⟩ := List.forall₂_cons_left_iff.mp hmembers
    refine ⟨text :: word :: texts, .cons hmember (.cons (printsBack_of_read hmark.2) hnodes), ?_⟩
    rw [String.intercalate_cons_cons, String.join_cons, String.join_cons]
    simp only [Text.deleteBlanks_append, hseparator, hsame, String.append_assoc]

end JavaOutline
