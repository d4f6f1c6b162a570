import JavaOutline.Proofs.Source.Tiling
import JavaOutline.Proofs.Traversal.TypeGrammar

/-!
# Types are printed as they are written

In a tiled type, every generic type is a name and then a list of type arguments in angle brackets,
with nothing but blanks between its parts. The type that is read from such a node, at any depth and
over any number of lines, is printed as the text of the node, up to blanks.
-/

namespace JavaOutline

/-- The nodes of a type leave out nothing but blanks, in every generic type that is an argument of it
at any depth, and in the type itself. -/
inductive IsTiledType (source : SourceText) : SyntaxTree → Prop where
  /-- Nothing is asked of a type without arguments. -/
  | plain {tree : SyntaxTree} (hkind : tree.label.kind ≠ "generic_type") : IsTiledType source tree
  /-- A generic type is a name and a list of types in angle brackets, with commas between them. -/
  | generic {root arguments : SyntaxNode} {name opening closing : SyntaxTree}
      {nodes types : List SyntaxTree} (hkind : root.kind = "generic_type")
      (hname : isTypeName name.label.kind) (harguments : arguments.kind = "type_arguments")
      (hopening : IsToken source "<" opening) (hclosing : IsToken source ">" closing)
      (hseparated : Separated source "," nodes types)
      (htypes : ∀ type ∈ types, isTypeNode type.label.kind)
      (hwhole : Tiles source root.span [name, .node arguments (opening :: nodes ++ [closing])])
      (hlist : Tiles source arguments.span (opening :: nodes ++ [closing]))
      (htiled : ∀ type ∈ types, IsTiledType source type) :
      IsTiledType source (.node root [name, .node arguments (opening :: nodes ++ [closing])])

/-! ## The parts of a tiled type -/

section

variable {source : SourceText} {nodes types : List SyntaxTree}

/-- A type is neither punctuation nor a comment. -/
theorem not_skipped_of_isTypeNode {kind : String} (h : isTypeNode kind) :
    ¬ (isArgumentPunctuation kind || isComment kind) = true := by
  intro hskipped
  simp only [isArgumentPunctuation, isComment, Bool.or_eq_true, beq_iff_eq] at hskipped
  rcases hskipped with ((rfl | rfl) | rfl) | (rfl | rfl) <;> exact absurd h (by decide)

/-- A name and a list of type arguments have one name. -/
theorem typeNameNodes_name_arguments {name : SyntaxTree} {arguments : SyntaxNode}
    (hname : isTypeName name.label.kind) (harguments : arguments.kind = "type_arguments") :
    typeNameNodes [name, .node arguments nodes] = [name] := by
  obtain ⟨root, below⟩ := name
  rw [Tree.label_node] at hname
  have hother : ¬ isTypeName arguments.kind := by
    rw [harguments]
    decide
  rw [typeNameNodes_cons_of_isTypeName hname, typeNameNodes_cons_of_not_isTypeName hother]
  rfl

/-- A name and a list of type arguments have the arguments of the list. -/
theorem typeArgumentNodes_name_arguments {name : SyntaxTree} {arguments : SyntaxNode}
    (hname : isTypeName name.label.kind) (harguments : arguments.kind = "type_arguments") :
    typeArgumentNodes [name, .node arguments nodes] = argumentNodes nodes := by
  obtain ⟨root, below⟩ := name
  rw [Tree.label_node] at hname
  rw [typeArgumentNodes_cons_of_not_arguments (ne_typeArguments_of_isTypeName hname),
    typeArgumentNodes_cons_of_arguments harguments]
  exact List.append_nil _

/-- A token of the punctuation between type arguments stands for no argument. -/
theorem IsToken.argumentNodes_cons {word : String} {mark : SyntaxTree}
    (hmark : IsToken source word mark) (hword : isArgumentPunctuation word) :
    argumentNodes (mark :: nodes) = argumentNodes nodes := by
  apply argumentNodes_cons_of_skipped
  rw [hmark.1, hword, Bool.true_or]

/-- Of types with commas between them, exactly the types stand for arguments. -/
theorem Separated.argumentNodes_eq (hseparated : Separated source "," nodes types)
    (htypes : ∀ type ∈ types, isTypeNode type.label.kind) : argumentNodes nodes = types := by
  induction hseparated with
  | none => rfl
  | single type =>
    rw [argumentNodes_cons_of_argument (not_skipped_of_isTypeNode (htypes type List.mem_cons_self))]
    rfl
  | more hmark _ ih =>
    obtain ⟨htype, hothers⟩ := List.forall_mem_cons.mp htypes
    rw [argumentNodes_cons_of_argument (not_skipped_of_isTypeNode htype),
      hmark.argumentNodes_cons (by decide), ih hothers]

/-- Of a list in angle brackets, exactly the types stand for arguments. -/
theorem argumentNodes_brackets {opening closing : SyntaxTree} (hopening : IsToken source "<" opening)
    (hclosing : IsToken source ">" closing) (hseparated : Separated source "," nodes types)
    (htypes : ∀ type ∈ types, isTypeNode type.label.kind) :
    argumentNodes (opening :: nodes ++ [closing]) = types := by
  have hnone : argumentNodes [closing] = [] := hclosing.argumentNodes_cons (by decide)
  rw [List.cons_append, hopening.argumentNodes_cons (by decide)]
  unfold argumentNodes at hnone ⊢
  rw [List.filter_append, hnone, List.append_nil]
  exact hseparated.argumentNodes_eq htypes

end

/-! ## Printing back -/

/-- A list in angle brackets is printed back if its types are. -/
theorem Tiles.printsBack_brackets {source : SourceText} {arguments : SyntaxNode}
    {opening closing : SyntaxTree} {nodes types : List SyntaxTree} {printed : List String}
    (hlist : Tiles source arguments.span (opening :: nodes ++ [closing]))
    (hopening : IsToken source "<" opening) (hclosing : IsToken source ">" closing)
    (hseparated : Separated source "," nodes types)
    (hprinted : List.Forall₂ (PrintsBack source) types printed) :
    PrintsBack source (.node arguments (opening :: nodes ++ [closing]))
      ("<" ++ ", ".intercalate printed ++ ">") := by
  obtain ⟨texts, hnodes, hsame⟩ := hseparated.exists_printed hprinted
    (show Text.deleteBlanks ", " = Text.deleteBlanks "," by decide)
  have hall : List.Forall₂ (PrintsBack source) (opening :: nodes ++ [closing])
      ("<" :: texts ++ [">"]) :=
    .cons (printsBack_of_read hopening.2)
      (List.rel_append hnodes (.cons (printsBack_of_read hclosing.2) .nil))
  rw [(hlist.printsBack hall).iff_deleteBlanks_eq]
  simp only [Text.deleteBlanks_append, hsame, List.cons_append, String.join_cons, String.join_append,
    String.join_nil, String.append_empty, String.append_assoc]

/-- The type that is read from a tiled type is printed as the text of the node, up to blanks. -/
theorem readType_prints_back {source : SourceText} {tree : SyntaxTree} {type : JavaType}
    (htiled : IsTiledType source tree) (hread : readType source tree = .ok type) :
    PrintsBack source tree type.text := by
  induction htiled generalizing type with
  | plain hkind =>
    cases readType_eq_ok_iff.mp hread with
    | plain _ hname =>
      rw [JavaType.text]
      exact printsBack_of_read hname
    | generic hgeneric => exact absurd hgeneric hkind
  | @generic root arguments name opening closing nodes types hkind hname harguments hopening hclosing
      hseparated htypes hwhole hlist _ ih =>
    cases readType_eq_ok_iff.mp hread with
    | plain hplain =>
      rw [hkind] at hplain
      exact absurd hplain (by decide)
    | @generic _ _ names last read _ hnames hlast _ hargs =>
      rw [typeNameNodes_name_arguments hname harguments] at hnames
      rw [typeArgumentNodes_name_arguments hname harguments,
        argumentNodes_brackets hopening hclosing hseparated htypes] at hargs
      -- the arguments are printed back by induction, one by one
      have hprinted : List.Forall₂ (PrintsBack source) types (read.map JavaType.text) := by
        rw [List.forall₂_map_right_iff]
        refine ((List.forall₂_and_left types read).mpr ⟨ih, hargs⟩).imp ?_
        rintro node argument ⟨hprints, hargument⟩
        exact hprints (readType_eq_ok_iff.mpr hargument)
      have hbrackets := hlist.printsBack_brackets hopening hclosing hseparated hprinted
      obtain ⟨text, _, htext, hnone, rfl⟩ := List.forall₂_cons_left_iff.mp hnames
      cases hnone
      obtain rfl : text = last := Option.some.inj hlast
      have hparts : List.Forall₂ (PrintsBack source)
          [name, .node arguments (opening :: nodes ++ [closing])] [text, _] :=
        .cons (printsBack_of_read htext) (.cons hbrackets .nil)
      rw [(hwhole.printsBack hparts).iff_deleteBlanks_eq, JavaType.text, JavaType.texts_eq_map]
      simp only [String.join_cons, String.join_nil, String.append_empty, String.append_assoc]

/-- A type over two lines, with an accented letter and with an empty list of arguments in it. -/
def wrappedType : String := "Map<Clé,\n  List<>>"

/-- The node of the inner list type. -/
def wrappedListNode : SyntaxTree :=
  .node ⟨"generic_type", ⟨1, 2⟩, ⟨1, 8⟩⟩
    [.node ⟨"type_identifier", ⟨1, 2⟩, ⟨1, 6⟩⟩ [],
      .node ⟨"type_arguments", ⟨1, 6⟩, ⟨1, 8⟩⟩
        [.node ⟨"<", ⟨1, 6⟩, ⟨1, 7⟩⟩ [], .node ⟨">", ⟨1, 7⟩, ⟨1, 8⟩⟩ []]]

/-- The node of the whole type. -/
def wrappedTypeNode : SyntaxTree :=
  .node ⟨"generic_type", ⟨0, 0⟩, ⟨1, 9⟩⟩
    [.node ⟨"type_identifier", ⟨0, 0⟩, ⟨0, 3⟩⟩ [],
      .node ⟨"type_arguments", ⟨0, 3⟩, ⟨1, 9⟩⟩
        [.node ⟨"<", ⟨0, 3⟩, ⟨0, 4⟩⟩ [], .node ⟨"type_identifier", ⟨0, 4⟩, ⟨0, 8⟩⟩ [],
          .node ⟨",", ⟨0, 8⟩, ⟨0, 9⟩⟩ [], wrappedListNode, .node ⟨">", ⟨1, 8⟩, ⟨1, 9⟩⟩ []]]

/-- The inner type is tiled. -/
theorem isTiledType_wrappedListNode : IsTiledType (.ofString wrappedType) wrappedListNode :=
  @IsTiledType.generic _ _ _ _ _ _ [] [] rfl (by decide) rfl (by decide +kernel) (by decide +kernel)
    .none (by decide) (by decide +kernel) (by decide +kernel) (by simp)

/-- It is printed in one line. -/
theorem wrappedType_prints_back :
    IsTiledType (.ofString wrappedType) wrappedTypeNode ∧
      readType (.ofString wrappedType) wrappedTypeNode =
        .ok (.generic "Map" [.plain "Clé", .generic "List" []]) ∧
      PrintsBack (.ofString wrappedType) wrappedTypeNode "Map<Clé, List<>>" := by
  have htiled : IsTiledType (.ofString wrappedType) wrappedTypeNode := by
    refine @IsTiledType.generic _ _ _ _ _ _ [_, _, _] [_, _] rfl (by decide) rfl
      (by decide +kernel) (by decide +kernel) (.more (by decide +kernel) (.single _))
      (by decide +kernel) (by decide +kernel) (by decide +kernel) ?_
    intro type hmem
    rcases List.mem_pair.mp hmem with rfl | rfl
    · exact .plain (by decide)
    · exact isTiledType_wrappedListNode
  have hread : readType (.ofString wrappedType) wrappedTypeNode =
      .ok (.generic "Map" [.plain "Clé", .generic "List" []]) := by
    decide +kernel
  have htext : (JavaType.generic "Map" [.plain "Clé", .generic "List" []]).text =
      "Map<Clé, List<>>" := by
    decide +kernel
  rw [← htext]
  exact ⟨htiled, hread, readType_prints_back htiled hread⟩

end JavaOutline
