import JavaOutline.Proofs.Source.Tiling
import JavaOutline.Proofs.Traversal.Effects
import JavaOutline.Proofs.Traversal.TypeGrammar

/-!
# Qualified names are printed as they are written

In a tiled name, names with a dot between each two of them make up a larger one, with nothing but
blanks between these parts, in any shape and to any depth. However the parts are nested, the
segments that are read are the texts of the identifiers from left to right, and joined by dots they
are the text of the name, up to blanks. A package is opened under the first name of its declaration.
An import takes the segments of its only name, and an asterisk behind the name adds one more;
whether it is static can be said anywhere.
-/

namespace JavaOutline

/-! ## Names and their identifiers -/

/-- The nodes of a name leave out nothing but blanks: it is an identifier, or is made of such names
with dots between them. -/
inductive IsTiledName (source : SourceText) : SyntaxTree → Prop where
  | plain {tree : SyntaxTree} (hkind : tree.label.kind = "identifier") : IsTiledName source tree
  | joined {root : SyntaxNode} {nodes names : List SyntaxTree}
      (hkind : root.kind = "scoped_identifier") (hseparated : Separated source "." nodes names)
      (htiles : Tiles source root.span nodes)
      (hnames : ∀ name ∈ names, IsTiledName source name) : IsTiledName source (.node root nodes)

mutual
/-- The identifiers that a name is made of, from left to right. -/
def identifiersOf : SyntaxTree → List SyntaxTree
  | .node root children =>
    if root.kind = "identifier" then [.node root children] else identifiersOfAll children
/-- The identifiers of all names in a list. -/
def identifiersOfAll : List SyntaxTree → List SyntaxTree
  | [] => []
  | tree :: rest =>
    if isNameNode tree.label.kind then identifiersOf tree ++ identifiersOfAll rest
    else identifiersOfAll rest
end

/-- An identifier is made of itself. -/
theorem identifiersOf_of_identifier {tree : SyntaxTree} (hkind : tree.label.kind = "identifier") :
    identifiersOf tree = [tree] := by
  obtain ⟨root, children⟩ := tree
  rw [Tree.label_node] at hkind
  rw [identifiersOf, if_pos hkind]

/-- The names in a list of nodes. -/
def namesAmong (nodes : List SyntaxTree) : List SyntaxTree :=
  nodes.filter fun node => isNameNode node.label.kind

/-- A name in front is the first of the names. -/
theorem namesAmong_cons_of_name {node : SyntaxTree} {rest : List SyntaxTree}
    (h : isNameNode node.label.kind) : namesAmong (node :: rest) = node :: namesAmong rest :=
  List.filter_cons_of_pos h

/-- Another node in front is no name. -/
theorem namesAmong_cons_of_not_name {node : SyntaxTree} {rest : List SyntaxTree}
    (h : ¬ isNameNode node.label.kind) : namesAmong (node :: rest) = namesAmong rest :=
  List.filter_cons_of_neg h

/-- The identifiers of a list are those of its names, one after the other. -/
theorem identifiersOfAll_eq_flatMap (nodes : List SyntaxTree) :
    identifiersOfAll nodes = (namesAmong nodes).flatMap identifiersOf := by
  induction nodes with
  | nil =>
    rw [identifiersOfAll]
    rfl
  | cons node rest ih =>
    rw [identifiersOfAll, ih]
    by_cases hname : isNameNode node.label.kind
    · rw [if_pos hname, namesAmong_cons_of_name hname, List.flatMap_cons]
    · rw [if_neg hname, namesAmong_cons_of_not_name hname]

section

variable {source : SourceText}

mutual
/-- The segments of a name are read exactly if they are the texts of its identifiers. -/
theorem readSegments_eq_ok_iff {tree : SyntaxTree} {segments : List String} :
    readSegments source tree = .ok segments ↔ HaveTexts source (identifiersOf tree) segments := by
  obtain ⟨root, children⟩ := tree
  rw [readSegments, identifiersOf]
  split
  · simp only [bind_eq_ok_iff, pure, Except.pure, Except.ok.injEq, HaveTexts,
      List.forall₂_cons_left_iff, List.forall₂_nil_left_iff, Tree.label_node]
    constructor
    · rintro ⟨text, hread, rfl⟩
      exact ⟨text, [], hread, rfl, rfl⟩
    · rintro ⟨text, _, hread, rfl, rfl⟩
      exact ⟨text, hread, rfl⟩
  · exact readSegmentsAll_eq_ok_iff
/-- The segments of several names are the texts of their identifiers. -/
theorem readSegmentsAll_eq_ok_iff {trees : List SyntaxTree} {segments : List String} :
    readSegmentsAll source trees = .ok segments ↔
      HaveTexts source (identifiersOfAll trees) segments := by
  cases trees with
  | nil =>
    rw [readSegmentsAll, identifiersOfAll, HaveTexts, List.forall₂_nil_left_iff, Except.ok.injEq,
      eq_comm]
  | cons tree rest =>
    rw [readSegmentsAll, identifiersOfAll]
    split
    · simp only [bind_eq_ok_iff, pure, Except.pure, Except.ok.injEq, HaveTexts,
        forall₂_append_left_iff]
      constructor
      · rintro ⟨own, hown, more, hmore, rfl⟩
        exact ⟨own, more, rfl, readSegments_eq_ok_iff.mp hown, readSegmentsAll_eq_ok_iff.mp hmore⟩
      · rintro ⟨own, more, rfl, hown, hmore⟩
        exact ⟨own, readSegments_eq_ok_iff.mpr hown, more, readSegmentsAll_eq_ok_iff.mpr hmore, rfl⟩
    · exact readSegmentsAll_eq_ok_iff
end

/-- A tiled name is a name. -/
theorem IsTiledName.isNameNode {tree : SyntaxTree} (htiled : IsTiledName source tree) :
    isNameNode tree.label.kind := by
  cases htiled with
  | plain hkind =>
    rw [hkind]
    decide
  | joined hkind =>
    rw [Tree.label_node, hkind]
    decide

/-- Of names with dots between them, exactly the names are names. -/
theorem Separated.namesAmong_eq {nodes names : List SyntaxTree}
    (hseparated : Separated source "." nodes names)
    (hnames : ∀ name ∈ names, isNameNode name.label.kind) : namesAmong nodes = names := by
  induction hseparated with
  | none => rfl
  | single name => exact namesAmong_cons_of_name (hnames name List.mem_cons_self)
  | @more name mark next nodes names hmark _ ih =>
    obtain ⟨hname, hothers⟩ := List.forall_mem_cons.mp hnames
    have hdot : ¬ isNameNode mark.label.kind := by
      rw [hmark.1]
      decide
    rw [namesAmong_cons_of_name hname, namesAmong_cons_of_not_name hdot, ih hothers]

end

/-! ## Printing back -/

/-- Dotted names that are joined by dots are one dotted name. -/
theorem dotted_map_dotted {parts : List (List String)} (hparts : ∀ part ∈ parts, part ≠ []) :
    dotted (parts.map dotted) = dotted parts.flatten := by
  induction parts with
  | nil => rfl
  | cons part parts ih =>
    obtain ⟨hpart, hrest⟩ := List.forall_mem_cons.mp hparts
    cases parts with
    | nil => simp [dotted]
    | cons next parts =>
      have hnext : (next :: parts).flatten ≠ [] := by
        have hne := hrest next List.mem_cons_self
        simp [hne]
      have hmap : (next :: parts).map dotted ≠ [] := by simp
      calc dotted ((part :: next :: parts).map dotted)
          = dotted part ++ "." ++ dotted ((next :: parts).map dotted) :=
            String.intercalate_cons_of_ne_nil hmap
        _ = dotted part ++ "." ++ dotted (next :: parts).flatten := by rw [ih hrest]
        _ = dotted (part ++ (next :: parts).flatten) :=
            (String.intercalate_append_of_ne_nil hpart hnext).symm
        _ = dotted (part :: next :: parts).flatten := rfl

section

variable {source : SourceText} {name : SyntaxTree} {texts : List String}

/-- The texts of what several nodes are made of are the texts for each node, one after the other. -/
theorem HaveTexts.exists_parts {f : SyntaxTree → List SyntaxTree} {nodes : List SyntaxTree}
    (htexts : HaveTexts source (nodes.flatMap f) texts) :
    ∃ parts, texts = parts.flatten ∧
      List.Forall₂ (fun node part => HaveTexts source (f node) part) nodes parts := by
  induction nodes generalizing texts with
  | nil =>
    cases htexts
    exact ⟨[], rfl, .nil⟩
  | cons node nodes ih =>
    rw [List.flatMap_cons] at htexts
    obtain ⟨front, back, rfl, hfront, hback⟩ := forall₂_append_left_iff.mp htexts
    obtain ⟨parts, rfl, hparts⟩ := ih hback
    exact ⟨front :: parts, rfl, .cons hfront hparts⟩

/-- A tiled name has an identifier, and it is printed back by the texts of its identifiers with dots
between them. -/
theorem IsTiledName.printsBack (htiled : IsTiledName source name)
    (htexts : HaveTexts source (identifiersOf name) texts) :
    texts ≠ [] ∧ PrintsBack source name (dotted texts) := by
  induction htiled generalizing texts with
  | plain hkind =>
    rw [identifiersOf_of_identifier hkind] at htexts
    obtain ⟨text, _, hread, hnone, rfl⟩ := List.forall₂_cons_left_iff.mp htexts
    cases hnone
    exact ⟨by simp, by simpa [dotted] using printsBack_of_read hread⟩
  | @joined root nodes names hkind hseparated htiles hnames ih =>
    have hother : root.kind ≠ "identifier" := by
      rw [hkind]
      decide
    have hamong := hseparated.namesAmong_eq fun name hname => (hnames name hname).isNameNode
    rw [identifiersOf, if_neg hother, identifiersOfAll_eq_flatMap, hamong] at htexts
    obtain ⟨parts, rfl, hparts⟩ := htexts.exists_parts
    -- each of the names in it is printed back, by induction
    have hboth : List.Forall₂ (fun name part => part ≠ [] ∧ PrintsBack source name (dotted part))
        names parts := by
      refine ((List.forall₂_and_left names parts).mpr ⟨ih, hparts⟩).imp ?_
      rintro name part ⟨hname, hpart⟩
      exact hname hpart
    have hne : ∀ part ∈ parts, part ≠ [] := by
      have hflip : List.Forall₂ (fun part name => part ≠ [] ∧ PrintsBack source name (dotted part))
          parts names := hboth.flip
      exact ((List.forall₂_and_left parts names).mp hflip).1
    have hprinted : List.Forall₂ (PrintsBack source) names (parts.map dotted) :=
      List.forall₂_map_right_iff.mpr (hboth.imp fun _ _ both => both.2)
    obtain ⟨printed, hnodes, hsame⟩ := hseparated.exists_printed hprinted rfl
    have hwhole : PrintsBack source (.node root nodes) (String.join printed) :=
      htiles.printsBack hnodes
    refine ⟨?_, ?_⟩
    · cases hboth with
      | nil =>
        cases hseparated
        exact htiles.elim
      | cons hfirst _ => simp [hfirst.1]
    · rw [hwhole.iff_deleteBlanks_eq, ← hsame, ← dotted_map_dotted hne]
      rfl

end

/-! ## Packages -/

/-- A package declaration with a given first name. -/
def DeclaresPackage (name tree : SyntaxTree) : Prop :=
  tree.label.kind = "package_declaration" ∧
    (tree.children.find? fun child => isNameNode child.label.kind) = some name

/-- The script of a package opens a scope with the segments of the first name. -/
theorem DeclaresPackage.scriptOf_eq {source : SourceText} {name tree : SyntaxTree}
    {texts : List String} (hpackage : DeclaresPackage name tree)
    (hread : readSegments source name = .ok texts) (htexts : IsDottedName texts) :
    scriptOf source tree =
      ⟨[.enter (.package texts), .note ("Opened package scope " ++ dotted texts)],
        .ok .nowhere⟩ := by
  have hheader : (Header.packageOf texts).mapError Failure.rejected = .ok (.package texts) := by
    rw [mapError_eq_ok_iff, Header.packageOf, accept_eq_ok_iff]
    exact ⟨texts, checkSegments_eq_ok_iff.mpr ⟨htexts, rfl⟩, rfl⟩
  rw [scriptOf, hpackage.1]
  simp only [Construct.ofKind, packageScript, hpackage.2, hread, bind, Except.bind, hheader]
  rfl

/-! ## Imports -/

/-- Whether a node has a child of some kind. -/
def SyntaxTree.hasChild (kind : String) (tree : SyntaxTree) : Bool :=
  tree.children.any fun child => child.label.kind == kind

/-- An import declaration with a given name as its only one, and with no more than one asterisk,
which stands behind the name. -/
inductive ImportsName (name : SyntaxTree) : SyntaxTree → Prop where
  | intro {root : SyntaxNode} {before after : List SyntaxTree}
      (hkind : root.kind = "import_declaration") (hbefore : namesAmong before = [])
      (hafter : namesAmong after = [])
      (hfirst : ∀ child ∈ before, child.label.kind ≠ "asterisk")
      (hsingle : (after.countP fun child => child.label.kind == "asterisk") ≤ 1) :
      ImportsName name (.node root (before ++ name :: after))

/-- What an import declaration adds to the segments of its name. -/
def importSuffix (tree : SyntaxTree) : List String :=
  if tree.hasChild "asterisk" then ["*"] else []

section

variable {source : SourceText} {name tree : SyntaxTree} {texts : List String}

/-- Children without names add their asterisks to the segments, and a static import stays one. -/
theorem foldlM_importParts_of_no_names {children : List SyntaxTree}
    (hnames : namesAmong children = []) (parts : ImportParts) :
    children.foldlM (ImportParts.add source) parts =
      .ok ⟨parts.segments ++
          List.replicate (children.countP fun child => child.label.kind == "asterisk") "*",
        parts.isStatic || children.any fun child => child.label.kind == "static"⟩ := by
  induction children generalizing parts with
  | nil => simp [pure, Except.pure]
  | cons child rest ih =>
    have hname : ¬ isNameNode child.label.kind := by
      intro hname
      rw [namesAmong_cons_of_name hname] at hnames
      cases hnames
    rw [namesAmong_cons_of_not_name hname] at hnames
    rw [List.foldlM_cons, ImportParts.add]
    by_cases hstatic : child.label.kind = "static"
    · rw [if_pos hstatic]
      simp [bind, Except.bind, ih hnames, hstatic]
    · rw [if_neg hstatic, if_neg hname]
      by_cases hasterisk : child.label.kind = "asterisk"
      · rw [if_pos hasterisk]
        simp [bind, Except.bind, ih hnames, hasterisk, List.replicate_succ]
      · rw [if_neg hasterisk]
        have hother : (child.label.kind == "static") = false := beq_eq_false_iff_ne.mpr hstatic
        simp [bind, Except.bind, ih hnames, hasterisk, hother]

/-- A list with no more than one node of some kind has as many of them as it says whether it has
one. -/
theorem replicate_countP_of_le_one {nodes : List SyntaxTree} {isWanted : SyntaxTree → Bool}
    (hsingle : nodes.countP isWanted ≤ 1) (text : String) :
    List.replicate (nodes.countP isWanted) text = if nodes.any isWanted then [text] else [] := by
  by_cases hany : nodes.any isWanted
  · have hpos : 0 < nodes.countP isWanted := by
      rw [List.countP_pos_iff]
      exact List.any_eq_true.mp hany
    rw [if_pos hany, show nodes.countP isWanted = 1 by omega]
    rfl
  · have hzero : nodes.countP isWanted = 0 := by
      rw [List.countP_eq_zero]
      intro node hnode hwanted
      exact hany (List.any_eq_true.mpr ⟨node, hnode, hwanted⟩)
    rw [if_neg hany, hzero]
    rfl

/-- The parts of an import are the segments of its only name, with the asterisk behind them. -/
theorem ImportsName.foldlM_eq (himport : ImportsName name tree)
    (hname : isNameNode name.label.kind) (hread : readSegments source name = .ok texts) :
    tree.children.foldlM (ImportParts.add source) ⟨[], false⟩ =
      .ok ⟨texts ++ importSuffix tree, tree.hasChild "static"⟩ := by
  cases himport with
  | @intro root before after hkind hbefore hafter hfirst hsingle =>
    have hstatic : name.label.kind ≠ "static" := by
      intro hkind
      rw [hkind] at hname
      revert hname
      decide
    have hasterisk : name.label.kind ≠ "asterisk" := by
      intro hkind
      rw [hkind] at hname
      revert hname
      decide
    have hadd (parts : ImportParts) :
        ImportParts.add source parts name = .ok { parts with segments := texts } := by
      rw [ImportParts.add, if_neg hstatic, if_pos hname, hread]
      rfl
    have hnone : (before.any fun child => child.label.kind == "asterisk") = false := by
      rw [List.any_eq_false]
      intro child hchild
      simpa using hfirst child hchild
    simp only [Tree.children_node, List.foldlM_append, List.foldlM_cons,
      foldlM_importParts_of_no_names hbefore, hadd, foldlM_importParts_of_no_names hafter, bind,
      Except.bind, replicate_countP_of_le_one hsingle, importSuffix, SyntaxTree.hasChild,
      List.any_append, List.any_cons, beq_eq_false_iff_ne.mpr hstatic,
      beq_eq_false_iff_ne.mpr hasterisk, hnone, Bool.false_or]

/-- The script of an import records the segments of its only name. -/
theorem ImportsName.scriptOf_eq (himport : ImportsName name tree)
    (hname : isNameNode name.label.kind) (hread : readSegments source name = .ok texts)
    (htexts : IsDottedName texts) :
    scriptOf source tree =
      let declaration : Import := ⟨texts ++ importSuffix tree, tree.hasChild "static"⟩
      ⟨[.record (.importing declaration), .note ("Recorded " ++ declaration.text)],
        .ok .nowhere⟩ := by
  have hkind : tree.label.kind = "import_declaration" := by
    cases himport with
    | intro hkind => exact hkind
  have hsegments : IsDottedName (texts ++ importSuffix tree) := by
    refine ⟨by simp [htexts.1], List.forall_mem_append.mpr ⟨htexts.2, ?_⟩⟩
    intro segment hsegment
    rw [importSuffix] at hsegment
    split at hsegment
    · obtain rfl := List.mem_singleton.mp hsegment
      decide
    · cases hsegment
  have haccept : (Import.of (texts ++ importSuffix tree) (tree.hasChild "static")).mapError
      Failure.rejected = .ok ⟨texts ++ importSuffix tree, tree.hasChild "static"⟩ := by
    rw [mapError_eq_ok_iff, Import.of, accept_eq_ok_iff]
    exact ⟨_, checkSegments_eq_ok_iff.mpr ⟨hsegments, rfl⟩, rfl⟩
  rw [scriptOf, hkind]
  simp only [Construct.ofKind, importScript, himport.foldlM_eq hname hread, bind, Except.bind,
    haccept]
  rfl

/-- With an asterisk, what is shown of an import is its name and `.*`. -/
theorem dotted_append_importSuffix (htexts : texts ≠ []) (tree : SyntaxTree) :
    dotted (texts ++ importSuffix tree) =
      dotted texts ++ if tree.hasChild "asterisk" then ".*" else "" := by
  rw [importSuffix]
  split
  · rw [dotted, String.intercalate_append_of_ne_nil htexts (by simp), String.append_assoc]
    rfl
  · rw [List.append_nil, String.append_empty]

end

/-! ## Main result -/

/-- A node below which nothing is visited has its effect, and the traversal goes on behind it. -/
theorem Progress.traverse_cons_of_nowhere {source : SourceText} {scope : Nat} {tree : SyntaxTree}
    {pending : List (Nat × SyntaxTree)} {progress : Progress}
    (hopen : progress.store.IsOpen scope) (hending : (scriptOf source tree).ending = .ok .nowhere) :
    traverse source ((scope, tree) :: pending) progress =
      traverse source pending (progress.after scope (scriptOf source tree)) := by
  rw [traverse, visit_of_isOpen hopen, hending]
  rfl

/-- A tiled name whose identifiers can be read and are not blank can be read itself. A package that
is declared under it opens a scope, and an import of it is recorded; both are named by the texts of
its identifiers from left to right, which joined by dots are the text of the name, up to blanks. An
asterisk behind the name of an import adds `.*`, and the import is static exactly if that is said
somewhere. -/
theorem qualified_names_print_back {source : SourceText} {name : SyntaxTree} {texts : List String}
    (htiled : IsTiledName source name) (htexts : HaveTexts source (identifiersOf name) texts)
    (hnames : ∀ text ∈ texts, IsName text) :
    ∃ written, source.extract name.label.kind name.label.span = .ok written ∧
      ∀ tree scope pending (progress : Progress), progress.store.IsOpen scope →
        (DeclaresPackage name tree →
          ∃ opened child, progress.store.openChild scope (.package texts) = .ok (opened, child) ∧
            Progress.traverse source ((scope, tree) :: pending) progress =
              Progress.traverse source pending
                ⟨opened, progress.journal ++ ["Opened package scope " ++ dotted texts]⟩ ∧
            Text.deleteBlanks (Header.package texts).name = Text.deleteBlanks written) ∧
        (ImportsName name tree →
          ∃ declaration recorded,
            progress.store.record scope (.importing declaration) = .ok recorded ∧
            Progress.traverse source ((scope, tree) :: pending) progress =
              Progress.traverse source pending
                ⟨recorded, progress.journal ++ ["Recorded " ++ declaration.text]⟩ ∧
            declaration.segments = texts ++ (if tree.hasChild "asterisk" then ["*"] else []) ∧
            declaration.isStatic = tree.hasChild "static" ∧
            Text.deleteBlanks declaration.qualifiedName =
              Text.deleteBlanks written ++ if tree.hasChild "asterisk" then ".*" else "") := by
  obtain ⟨hsome, written, hextract, hprinted⟩ := htiled.printsBack htexts
  have hread : readSegments source name = .ok texts := readSegments_eq_ok_iff.mpr htexts
  refine ⟨written, hextract, ?_⟩
  intro tree scope pending progress hopen
  constructor
  · intro hpackage
    have hscript := hpackage.scriptOf_eq hread ⟨hsome, hnames⟩
    refine ⟨_, _, Store.openChild_eq_ok_iff.mpr ⟨hopen, by simp, rfl, rfl⟩, ?_, hprinted⟩
    rw [Progress.traverse_cons_of_nowhere hopen (by rw [hscript]), hscript]
    rfl
  · intro himport
    have hscript := himport.scriptOf_eq htiled.isNameNode hread ⟨hsome, hnames⟩
    refine ⟨⟨texts ++ importSuffix tree, tree.hasChild "static"⟩, _,
      Store.record_eq_ok_iff.mpr ⟨hopen, rfl⟩, ?_, rfl, rfl, ?_⟩
    · rw [Progress.traverse_cons_of_nowhere hopen (by rw [hscript]), hscript]
      rfl
    · have hmark : ∀ asterisk : Bool,
          Text.deleteBlanks (if asterisk then ".*" else "") = if asterisk then ".*" else "" := by
        decide
      change Text.deleteBlanks (dotted (texts ++ importSuffix tree)) = _
      rw [dotted_append_importSuffix hsome, Text.deleteBlanks_append, hprinted, hmark]

/-- An import of all members of a nested type, over two lines. -/
def wrappedImport : String := "import static café . io\n  .Files.*;"

/-- The node of the name, which is nested to the left. -/
def wrappedName : SyntaxTree :=
  .node ⟨"scoped_identifier", ⟨0, 14⟩, ⟨1, 8⟩⟩
    [.node ⟨"scoped_identifier", ⟨0, 14⟩, ⟨0, 24⟩⟩
        [.node ⟨"identifier", ⟨0, 14⟩, ⟨0, 19⟩⟩ [], .node ⟨".", ⟨0, 20⟩, ⟨0, 21⟩⟩ [],
          .node ⟨"identifier", ⟨0, 22⟩, ⟨0, 24⟩⟩ []],
      .node ⟨".", ⟨1, 2⟩, ⟨1, 3⟩⟩ [], .node ⟨"identifier", ⟨1, 3⟩, ⟨1, 8⟩⟩ []]

/-- The node of the import. -/
def wrappedImportNode : SyntaxTree :=
  .node ⟨"import_declaration", ⟨0, 0⟩, ⟨1, 11⟩⟩
    ([.node ⟨"import", ⟨0, 0⟩, ⟨0, 6⟩⟩ [], .node ⟨"static", ⟨0, 7⟩, ⟨0, 13⟩⟩ []] ++
      wrappedName ::
      [.node ⟨".", ⟨1, 8⟩, ⟨1, 9⟩⟩ [], .node ⟨"asterisk", ⟨1, 9⟩, ⟨1, 10⟩⟩ [],
        .node ⟨";", ⟨1, 10⟩, ⟨1, 11⟩⟩ []])

/-- It is recorded in one line, with three identifiers and the asterisk. -/
theorem wrappedImport_printed :
    ∃ written declaration recorded,
      (SourceText.ofString wrappedImport).extract wrappedName.label.kind wrappedName.label.span =
        .ok written ∧
      (Store.ofRoot .file).record 0 (.importing declaration) = .ok recorded ∧
      fill (.ofString wrappedImport) wrappedImportNode (.ofRoot .file) 0 =
        (⟨recorded, ["Recorded " ++ declaration.text]⟩, none) ∧
      declaration.segments = ["café", "io", "Files", "*"] ∧ declaration.isStatic = true ∧
      Text.deleteBlanks declaration.qualifiedName = Text.deleteBlanks written ++ ".*" := by
  have htiled : IsTiledName (.ofString wrappedImport) wrappedName := by
    refine .joined rfl (.more (by decide +kernel) (.single _)) (by decide +kernel) ?_
    simp only [List.forall_mem_cons, List.not_mem_nil, false_implies, implies_true, and_true]
    refine ⟨.joined rfl (.more (by decide +kernel) (.single _)) (by decide +kernel) ?_, .plain rfl⟩
    simp only [List.forall_mem_cons, List.not_mem_nil, false_implies, implies_true, and_true]
    exact ⟨.plain rfl, .plain rfl⟩
  have htexts : HaveTexts (.ofString wrappedImport) (identifiersOf wrappedName)
      ["café", "io", "Files"] := by
    rw [← readSegments_eq_ok_iff]
    decide +kernel
  have himport : ImportsName wrappedName wrappedImportNode :=
    .intro rfl rfl rfl (by decide) (by decide)
  obtain ⟨written, hwritten, hall⟩ := qualified_names_print_back htiled htexts (by decide)
  obtain ⟨declaration, recorded, hrecord, hfill, hsegments, hstatic, hname⟩ :=
    (hall wrappedImportNode 0 [] ⟨.ofRoot .file, []⟩ rfl).2 himport
  refine ⟨written, declaration, recorded, hwritten, hrecord, ?_, hsegments, hstatic, hname⟩
  rw [fill, hfill, Progress.traverse]
  rfl

end JavaOutline
