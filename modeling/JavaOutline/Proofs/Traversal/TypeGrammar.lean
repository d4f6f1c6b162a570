import JavaOutline.Proofs.Except
import JavaOutline.Proofs.Traversal.Rules
import JavaOutline.Proofs.Tree
import Mathlib.Data.List.Forall2

/-!
# Exactly the types of a grammar are read

`HasType` says which type a node stands for without going through the children in any order: a
generic type has the last of its names and the types of all its arguments. `typeProblems` lists
everything that keeps a node from standing for a type, as if reading went on after a failure, from
left to right and with what is inside a node before what is wrong with the node itself. Reading
gives a type exactly if `HasType` does, and otherwise fails with the first of the problems.
-/

namespace JavaOutline

/-! ## The grammar -/

/-- The children of a generic type that give it a name. -/
def typeNameNodes (children : List SyntaxTree) : List SyntaxTree :=
  children.filter fun child => isTypeName child.label.kind

/-- Whether a node in a list of type arguments stands for a type. -/
def isTypeArgument (kind : String) : Bool :=
  !(isArgumentPunctuation kind || isComment kind)

/-- The nodes in a list of type arguments that stand for types. -/
def argumentNodes (nodes : List SyntaxTree) : List SyntaxTree :=
  nodes.filter fun node => isTypeArgument node.label.kind

/-- The nodes that stand for the arguments of a generic type, those of all its lists in order. -/
def typeArgumentNodes (children : List SyntaxTree) : List SyntaxTree :=
  (children.filter fun child => child.label.kind == "type_arguments").flatMap fun list =>
    argumentNodes list.children

/-- The type that a node stands for. -/
inductive HasType (source : SourceText) : SyntaxTree → JavaType → Prop where
  /-- A type without arguments is its text. -/
  | plain {root : SyntaxNode} {children : List SyntaxTree} {name : String}
      (hkind : isPlainType root.kind) (hread : root.read source = .ok name) (hname : IsName name) :
      HasType source (.node root children) (.plain name)
  /-- A generic type has the last of its names and the types of its arguments. -/
  | generic {root : SyntaxNode} {children : List SyntaxTree} {names : List String} {name : String}
      {types : List JavaType} (hkind : root.kind = "generic_type")
      (hnames : List.Forall₂ (fun node name => node.label.read source = .ok name)
        (typeNameNodes children) names)
      (hlast : names.getLast? = some name) (hname : IsName name)
      (htypes : List.Forall₂ (HasType source) (typeArgumentNodes children) types) :
      HasType source (.node root children) (.generic name types)

/-! ## Problems -/

/-- What keeps a node from standing for a type: the node that is at fault, and the failure. -/
abbrev TypeProblem := SyntaxTree × Failure

/-- The problem of a node whose text cannot be read. -/
def textProblems (source : SourceText) (node : SyntaxTree) : List TypeProblem :=
  match node.label.read source with
  | .ok _ => []
  | .error failure => [(node, failure)]

/-- The problem of a node that is no type, which is shown by its kind, its text and its row. -/
def noTypeProblems (source : SourceText) (node : SyntaxTree) : List TypeProblem :=
  match node.label.read source with
  | .ok text => [(node, .unrecognizedType node.label.kind text node.label.span.start.row)]
  | .error failure => [(node, failure)]

/-- The problem of a type whose name is blank. -/
def nameProblems (kind : EntityKind) (node : SyntaxTree) (name : String) : List TypeProblem :=
  if IsName name then [] else [(node, .rejected ⟨kind, [⟨[.key "name"], .invalidName .blank⟩]⟩)]

/-- The problems of a type without arguments. -/
def plainProblems (source : SourceText) (node : SyntaxTree) : List TypeProblem :=
  match node.label.read source with
  | .ok name => nameProblems .plainType node name
  | .error failure => [(node, failure)]

/-- The problems of a generic type itself, apart from those inside it: it has no name, or its last
name is blank. A name that cannot be read is a problem inside it. -/
def genericProblems (source : SourceText) (node : SyntaxTree) : List TypeProblem :=
  match (typeNameNodes node.children).getLast? with
  | none => noTypeProblems source node
  | some last =>
    match last.label.read source with
    | .ok name => nameProblems .genericType node name
    | .error _ => []

mutual
/-- Everything that keeps a node from standing for a type. -/
def typeProblems (source : SourceText) : SyntaxTree → List TypeProblem
  | .node root children =>
    if root.kind = "generic_type" then
      partProblems source children ++ genericProblems source (.node root children)
    else if isPlainType root.kind then plainProblems source (.node root children)
    else noTypeProblems source (.node root children)
/-- The problems in the children of a generic type, child by child. -/
def partProblems (source : SourceText) : List SyntaxTree → List TypeProblem
  | [] => []
  | .node root children :: rest =>
    (if isTypeName root.kind then textProblems source (.node root children)
      else if root.kind = "type_arguments" then argumentProblems source children
      else []) ++ partProblems source rest
/-- The problems in a list of type arguments, type by type. -/
def argumentProblems (source : SourceText) : List SyntaxTree → List TypeProblem
  | [] => []
  | node :: rest =>
    (if isTypeArgument node.label.kind then typeProblems source node else []) ++
      argumentProblems source rest
end

/-! ## Reading along the grammar -/

/-- Two lists correspond to a third one if its two parts correspond to them. -/
theorem forall₂_append_left_iff {α β : Type} {R : α → β → Prop} {first second : List α}
    {whole : List β} :
    List.Forall₂ R (first ++ second) whole ↔
      ∃ front back, whole = front ++ back ∧ List.Forall₂ R first front ∧
        List.Forall₂ R second back := by
  induction first generalizing whole with
  | nil => simp
  | cons a first ih =>
    rw [List.cons_append, List.forall₂_cons_left_iff]
    constructor
    · rintro ⟨b, rest, hhead, hrest, rfl⟩
      obtain ⟨front, back, rfl, hfront, hback⟩ := ih.mp hrest
      exact ⟨b :: front, back, rfl, .cons hhead hfront, hback⟩
    · rintro ⟨_, back, rfl, hfront, hback⟩
      cases hfront with
      | cons hhead hfront => exact ⟨_, _, hhead, ih.mpr ⟨_, back, rfl, hfront, hback⟩, rfl⟩

section

variable {source : SourceText} {root : SyntaxNode} {below rest : List SyntaxTree}

/-- A name in front is the first of the names. -/
theorem typeNameNodes_cons_of_isTypeName (h : isTypeName root.kind) :
    typeNameNodes (.node root below :: rest) = .node root below :: typeNameNodes rest :=
  List.filter_cons_of_pos h

/-- Any other node in front is no name. -/
theorem typeNameNodes_cons_of_not_isTypeName (h : ¬ isTypeName root.kind) :
    typeNameNodes (.node root below :: rest) = typeNameNodes rest :=
  List.filter_cons_of_neg h

/-- A list of type arguments in front has the first of the arguments. -/
theorem typeArgumentNodes_cons_of_arguments (h : root.kind = "type_arguments") :
    typeArgumentNodes (.node root below :: rest) =
      argumentNodes below ++ typeArgumentNodes rest := by
  simp [typeArgumentNodes, h]

/-- Any other node in front has none. -/
theorem typeArgumentNodes_cons_of_not_arguments (h : root.kind ≠ "type_arguments") :
    typeArgumentNodes (.node root below :: rest) = typeArgumentNodes rest := by
  simp [typeArgumentNodes, h]

/-- The name of a type is no list of type arguments. -/
theorem ne_typeArguments_of_isTypeName {kind : String} (h : isTypeName kind) :
    kind ≠ "type_arguments" := by
  rintro rfl
  revert h
  decide

/-- Punctuation and comments stand for no arguments. -/
theorem argumentNodes_cons_of_skipped {node : SyntaxTree}
    (h : (isArgumentPunctuation node.label.kind || isComment node.label.kind) = true) :
    argumentNodes (node :: rest) = argumentNodes rest := by
  apply List.filter_cons_of_neg
  rw [isTypeArgument, h]
  decide

/-- Any other node stands for an argument. -/
theorem argumentNodes_cons_of_argument {node : SyntaxTree}
    (h : ¬ (isArgumentPunctuation node.label.kind || isComment node.label.kind) = true) :
    argumentNodes (node :: rest) = node :: argumentNodes rest := by
  apply List.filter_cons_of_pos
  rw [isTypeArgument, Bool.eq_false_iff.mpr h]
  rfl

/-- The last of several names is the last of the later ones, if there are any. -/
theorem getLast?_cons_eq_or (name : String) (names : List String) :
    (name :: names).getLast? = names.getLast?.or (some name) := by
  rw [List.getLast?_cons]
  cases names.getLast? <;> rfl

end

/-- A name is accepted for a type exactly if it is one. -/
theorem acceptedName_eq_ok_iff {kind : EntityKind} {name : String} {build : String → JavaType}
    {type : JavaType} :
    (accept kind "name" (checkName name) build).mapError Failure.rejected = .ok type ↔
      IsName name ∧ build name = type := by
  rw [mapError_eq_ok_iff, accept_eq_ok_iff]
  simp [checkName_eq_ok_iff]

/-- A node that is no type never gives one. -/
theorem failAsType_ne_ok {α : Type} {source : SourceText} {node : SyntaxNode} {value : α} :
    node.failAsType source ≠ .ok value := by
  intro h
  obtain ⟨text, _, hfail⟩ := bind_eq_ok_iff.mp h
  cases hfail

mutual
/-- A type is read exactly if the node has it. -/
theorem readType_eq_ok_iff {source : SourceText} {tree : SyntaxTree} {type : JavaType} :
    readType source tree = .ok type ↔ HasType source tree type := by
  obtain ⟨root, children⟩ := tree
  rw [readType]
  split
  · rename_i hkind
    rw [bind_eq_ok_iff]
    constructor
    · rintro ⟨⟨name?, types⟩, hparts, htype⟩
      obtain ⟨names, hnames, hlast, htypes⟩ := readGenericParts_eq_ok_iff.mp hparts
      cases name? with
      | none => exact absurd htype failAsType_ne_ok
      | some name =>
        obtain ⟨hname, rfl⟩ := acceptedName_eq_ok_iff.mp htype
        exact .generic hkind hnames hlast.symm hname htypes
    · intro htype
      cases htype with
      | plain hplain =>
        rw [hkind] at hplain
        exact absurd hplain (by decide)
      | generic _ hnames hlast hname htypes =>
        exact ⟨(_, _), readGenericParts_eq_ok_iff.mpr ⟨_, hnames, hlast.symm, htypes⟩,
          acceptedName_eq_ok_iff.mpr ⟨hname, rfl⟩⟩
  · rename_i hgeneric
    split
    · rename_i hkind
      rw [bind_eq_ok_iff]
      constructor
      · rintro ⟨name, hread, htype⟩
        obtain ⟨hname, rfl⟩ := acceptedName_eq_ok_iff.mp htype
        exact .plain hkind hread hname
      · intro htype
        cases htype with
        | plain _ hread hname => exact ⟨_, hread, acceptedName_eq_ok_iff.mpr ⟨hname, rfl⟩⟩
        | generic hkind => exact absurd hkind hgeneric
    · rename_i hplain
      constructor
      · intro htype
        exact absurd htype failAsType_ne_ok
      · intro htype
        cases htype with
        | plain hkind => exact absurd hkind hplain
        | generic hkind => exact absurd hkind hgeneric
/-- The parts of a generic type are read exactly if its names can be read and its arguments have
types. -/
theorem readGenericParts_eq_ok_iff {source : SourceText} {children : List SyntaxTree}
    {name? : Option String} {types : List JavaType} :
    readGenericParts source children = .ok (name?, types) ↔
      ∃ names, List.Forall₂ (fun node name => node.label.read source = .ok name)
          (typeNameNodes children) names ∧
        name? = names.getLast? ∧
        List.Forall₂ (HasType source) (typeArgumentNodes children) types := by
  cases children with
  | nil =>
    rw [readGenericParts]
    constructor
    · rintro ⟨⟩
      exact ⟨[], .nil, rfl, .nil⟩
    · rintro ⟨names, hnames, rfl, htypes⟩
      cases hnames
      cases htypes
      rfl
  | cons child rest =>
    obtain ⟨root, below⟩ := child
    rw [readGenericParts]
    split
    · rename_i hname
      rw [typeNameNodes_cons_of_isTypeName hname,
        typeArgumentNodes_cons_of_not_arguments (ne_typeArguments_of_isTypeName hname)]
      simp only [bind_eq_ok_iff]
      constructor
      · rintro ⟨name, hread, ⟨later?, arguments⟩, hrest, ⟨⟩⟩
        obtain ⟨names, hnames, rfl, htypes⟩ := readGenericParts_eq_ok_iff.mp hrest
        exact ⟨name :: names, .cons hread hnames, (getLast?_cons_eq_or name names).symm, htypes⟩
      · rintro ⟨_, hnames, rfl, htypes⟩
        cases hnames with
        | cons hread hnames =>
          refine ⟨_, hread, _, readGenericParts_eq_ok_iff.mpr ⟨_, hnames, rfl, htypes⟩, ?_⟩
          rw [getLast?_cons_eq_or]
          rfl
    · rename_i hname
      rw [typeNameNodes_cons_of_not_isTypeName hname]
      split
      · rename_i harguments
        rw [typeArgumentNodes_cons_of_arguments harguments]
        simp only [bind_eq_ok_iff, forall₂_append_left_iff]
        constructor
        · rintro ⟨own, hown, ⟨later?, arguments⟩, hrest, ⟨⟩⟩
          obtain ⟨names, hnames, rfl, htypes⟩ := readGenericParts_eq_ok_iff.mp hrest
          exact ⟨names, hnames, rfl, own, arguments, rfl, readTypes_eq_ok_iff.mp hown, htypes⟩
        · rintro ⟨names, hnames, rfl, own, arguments, rfl, hown, htypes⟩
          exact ⟨own, readTypes_eq_ok_iff.mpr hown, _,
            readGenericParts_eq_ok_iff.mpr ⟨names, hnames, rfl, htypes⟩, rfl⟩
      · rename_i hother
        rw [typeArgumentNodes_cons_of_not_arguments hother]
        exact readGenericParts_eq_ok_iff
/-- Type arguments are read exactly if they have types. -/
theorem readTypes_eq_ok_iff {source : SourceText} {trees : List SyntaxTree}
    {types : List JavaType} :
    readTypes source trees = .ok types ↔
      List.Forall₂ (HasType source) (argumentNodes trees) types := by
  cases trees with
  | nil =>
    rw [readTypes, Except.ok.injEq, argumentNodes, List.filter_nil, List.forall₂_nil_left_iff,
      eq_comm]
  | cons tree rest =>
    rw [readTypes]
    split
    · rename_i hskipped
      rw [argumentNodes_cons_of_skipped hskipped]
      exact readTypes_eq_ok_iff
    · rename_i hargument
      rw [argumentNodes_cons_of_argument hargument, List.forall₂_cons_left_iff]
      simp only [bind_eq_ok_iff]
      constructor
      · rintro ⟨type, htype, types, htypes, ⟨⟩⟩
        exact ⟨type, types, readType_eq_ok_iff.mp htype, readTypes_eq_ok_iff.mp htypes, rfl⟩
      · rintro ⟨type, types, htype, htypes, rfl⟩
        exact ⟨type, readType_eq_ok_iff.mpr htype, types, readTypes_eq_ok_iff.mpr htypes, rfl⟩
end

/-! ## Failing along the problems -/

/-- A reading reports problems: it fails with the first of them, and succeeds if there are none. -/
inductive Reports {α : Type} : Except Failure α → List TypeProblem → Prop where
  | nothing (value : α) : Reports (.ok value) []
  | first (node : SyntaxTree) (failure : Failure) (later : List TypeProblem) :
      Reports (.error failure) ((node, failure) :: later)

namespace Reports

variable {α β : Type} {reading : Except Failure α} {problems : List TypeProblem}

/-- A reading that goes on from another one reports the problems of that one first. -/
theorem bind {next : α → Except Failure β} {more : List TypeProblem}
    (hreading : Reports reading problems)
    (hnext : ∀ value, reading = .ok value → Reports (next value) more) :
    Reports (reading >>= next) (problems ++ more) := by
  cases hreading with
  | nothing value => exact hnext value rfl
  | first node failure later => exact .first node failure (later ++ more)

/-- A change of what is read reports nothing. -/
theorem bind_ok {view : α → β} (hreading : Reports reading problems) :
    Reports (reading >>= fun value => .ok (view value)) problems := by
  rw [← List.append_nil problems]
  exact hreading.bind fun value _ => .nothing (view value)

/-- A reading fails with a failure exactly if it is that of the first problem. -/
theorem eq_error_iff (hreading : Reports reading problems) {failure : Failure} :
    reading = .error failure ↔ (problems.map Prod.snd).head? = some failure := by
  cases hreading with
  | nothing value => simp
  | first node failure later => simp

end Reports

section

variable {source : SourceText}

/-- The text of a node. -/
theorem read_reports (node : SyntaxTree) :
    Reports (node.label.read source) (textProblems source node) := by
  unfold textProblems
  cases node.label.read source with
  | ok text => exact .nothing text
  | error failure => exact .first node failure []

/-- A node that is no type. -/
theorem failAsType_reports {α : Type} (node : SyntaxTree) :
    Reports (node.label.failAsType source : Except Failure α) (noTypeProblems source node) := by
  unfold SyntaxNode.failAsType noTypeProblems
  cases node.label.read source with
  | ok text => exact .first node _ []
  | error failure => exact .first node failure []

/-- A type that is made with a name. -/
theorem acceptedName_reports (kind : EntityKind) (node : SyntaxTree) (name : String)
    (build : String → JavaType) :
    Reports ((accept kind "name" (checkName name) build).mapError Failure.rejected)
      (nameProblems kind node name) := by
  unfold nameProblems checkName
  split
  · exact .nothing _
  · exact .first node _ []

/-- The last members of corresponding lists correspond. -/
theorem getLast?_rel_of_forall₂ {α β : Type} {R : α → β → Prop} {first : List α} {second : List β}
    (h : List.Forall₂ R first second) : Option.Rel R first.getLast? second.getLast? := by
  rw [← List.forall₂_reverse_iff] at h
  rw [List.getLast?_eq_head?_reverse, List.getLast?_eq_head?_reverse]
  generalize first.reverse = backward at h ⊢
  generalize second.reverse = backward' at h ⊢
  cases h with
  | nil => exact .none
  | cons hhead _ => exact .some hhead

/-- A generic type whose parts can be read. -/
theorem generic_reports {root : SyntaxNode} {children : List SyntaxTree} {names : List String}
    (hnames : List.Forall₂ (fun node name => node.label.read source = .ok name)
      (typeNameNodes children) names) (types : List JavaType) :
    Reports
      (match names.getLast? with
      | none => root.failAsType source
      | some name => (JavaType.genericOf name types).mapError Failure.rejected)
      (genericProblems source (.node root children)) := by
  have hlast := getLast?_rel_of_forall₂ hnames
  rw [genericProblems, Tree.children_node]
  generalize (typeNameNodes children).getLast? = node? at hlast ⊢
  generalize names.getLast? = name? at hlast ⊢
  cases hlast with
  | none => exact failAsType_reports (.node root children)
  | some hread =>
    simp only [hread]
    exact acceptedName_reports _ _ _ _

end

mutual
/-- A type. -/
theorem readType_reports (source : SourceText) (tree : SyntaxTree) :
    Reports (readType source tree) (typeProblems source tree) := by
  obtain ⟨root, children⟩ := tree
  rw [readType, typeProblems]
  split
  · apply (readGenericParts_reports source children).bind
    rintro ⟨name?, types⟩ hparts
    obtain ⟨names, hnames, rfl, _⟩ := readGenericParts_eq_ok_iff.mp hparts
    exact generic_reports hnames types
  · split
    · rw [plainProblems, Tree.label_node]
      cases root.read source with
      | ok name => exact acceptedName_reports _ _ _ _
      | error failure => exact .first _ failure []
    · exact failAsType_reports (.node root children)
/-- The parts of a generic type. -/
theorem readGenericParts_reports (source : SourceText) (children : List SyntaxTree) :
    Reports (readGenericParts source children) (partProblems source children) := by
  cases children with
  | nil =>
    rw [readGenericParts, partProblems]
    exact .nothing _
  | cons child rest =>
    obtain ⟨root, below⟩ := child
    have hrest := readGenericParts_reports source rest
    rw [readGenericParts, partProblems]
    split
    · exact (read_reports (.node root below)).bind fun _ _ => hrest.bind_ok
    · split
      · exact (readTypes_reports source below).bind fun _ _ => hrest.bind_ok
      · exact hrest
/-- Type arguments. -/
theorem readTypes_reports (source : SourceText) (trees : List SyntaxTree) :
    Reports (readTypes source trees) (argumentProblems source trees) := by
  cases trees with
  | nil =>
    rw [readTypes, argumentProblems]
    exact .nothing _
  | cons tree rest =>
    have hrest := readTypes_reports source rest
    rw [readTypes, argumentProblems, isTypeArgument]
    by_cases hskipped : isArgumentPunctuation tree.label.kind || isComment tree.label.kind
    · simpa [hskipped] using hrest
    · simp only [hskipped]
      exact (readType_reports source tree).bind fun _ _ => hrest.bind_ok
end

/-! ## Who is at fault -/

/-- A node that cannot stand for a type, whatever is inside it: its kind is no type's, or it is a
generic type without a name. -/
def IsNoType (node : SyntaxTree) : Prop :=
  isTypeNode node.label.kind = false ∨
    node.label.kind = "generic_type" ∧ typeNameNodes node.children = []

/-- If a problem shows a type that is not understood, then by the kind, the text and the row of the
node at fault, and that node cannot stand for a type. -/
def TypeProblem.IsExact (source : SourceText) (problem : TypeProblem) : Prop :=
  ∀ kind text row, problem.2 = .unrecognizedType kind text row →
    IsNoType problem.1 ∧ kind = problem.1.label.kind ∧
      problem.1.label.read source = .ok text ∧ row = problem.1.label.span.start.row

section

variable {source : SourceText} {node : SyntaxTree} {problem : TypeProblem}

/-- A text that cannot be read is no type that is not understood. -/
theorem isExact_of_read_eq_error {failure : Failure} (h : node.label.read source = .error failure) :
    TypeProblem.IsExact source (node, failure) := by
  rintro kind text row rfl
  unfold SyntaxNode.read at h
  cases hextract : source.extract node.label.kind node.label.span <;> rw [hextract] at h <;> cases h

/-- The problem of a text is one of its node. -/
theorem isExact_of_mem_textProblems (h : problem ∈ textProblems source node) :
    problem.1 = node ∧ problem.IsExact source := by
  unfold textProblems at h
  split at h
  · cases h
  · obtain rfl := List.mem_singleton.mp h
    exact ⟨rfl, isExact_of_read_eq_error ‹_›⟩

/-- The problem of a node that is no type shows that node. -/
theorem isExact_of_mem_noTypeProblems (hnode : IsNoType node)
    (h : problem ∈ noTypeProblems source node) : problem.1 = node ∧ problem.IsExact source := by
  unfold noTypeProblems at h
  split at h
  · rename_i text hread
    obtain rfl := List.mem_singleton.mp h
    refine ⟨rfl, ?_⟩
    rintro kind text row ⟨⟩
    exact ⟨hnode, rfl, hread, rfl⟩
  · obtain rfl := List.mem_singleton.mp h
    exact ⟨rfl, isExact_of_read_eq_error ‹_›⟩

/-- The problem of a name is one of its type. -/
theorem isExact_of_mem_nameProblems {kind : EntityKind} {name : String}
    (h : problem ∈ nameProblems kind node name) : problem.1 = node ∧ problem.IsExact source := by
  unfold nameProblems at h
  split at h
  · cases h
  · obtain rfl := List.mem_singleton.mp h
    exact ⟨rfl, fun _ _ _ hshown => nomatch hshown⟩

/-- The problem of a type without arguments is its own. -/
theorem isExact_of_mem_plainProblems (h : problem ∈ plainProblems source node) :
    problem.1 = node ∧ problem.IsExact source := by
  unfold plainProblems at h
  split at h
  · exact isExact_of_mem_nameProblems h
  · obtain rfl := List.mem_singleton.mp h
    exact ⟨rfl, isExact_of_read_eq_error ‹_›⟩

/-- The problem of a generic type itself is its own. -/
theorem isExact_of_mem_genericProblems (hkind : node.label.kind = "generic_type")
    (h : problem ∈ genericProblems source node) : problem.1 = node ∧ problem.IsExact source := by
  unfold genericProblems at h
  split at h
  · rename_i hlast
    exact isExact_of_mem_noTypeProblems (.inr ⟨hkind, List.getLast?_eq_none_iff.mp hlast⟩) h
  · split at h
    · exact isExact_of_mem_nameProblems h
    · cases h

end

mutual
/-- The problems of a tree are problems of nodes in it, and exact. -/
theorem isExact_of_mem_typeProblems {source : SourceText} {tree : SyntaxTree}
    {problem : TypeProblem} (h : problem ∈ typeProblems source tree) :
    problem.1 ∈ tree.subtrees ∧ problem.IsExact source := by
  obtain ⟨root, children⟩ := tree
  have hself (hown : problem.1 = .node root children ∧ problem.IsExact source) :
      problem.1 ∈ (Tree.node root children).subtrees ∧ problem.IsExact source := by
    rw [hown.1, Tree.subtrees_eq_cons]
    exact ⟨List.mem_cons_self, hown.2⟩
  rw [typeProblems] at h
  split at h
  · rename_i hkind
    rcases List.mem_append.mp h with hpart | hgeneric
    · obtain ⟨hmem, hexact⟩ := isExact_of_mem_partProblems hpart
      rw [Tree.subtrees_eq_cons]
      exact ⟨List.mem_cons_of_mem _ hmem, hexact⟩
    · exact hself (isExact_of_mem_genericProblems hkind hgeneric)
  · rename_i hgeneric
    split at h
    · exact hself (isExact_of_mem_plainProblems h)
    · rename_i hplain
      refine hself (isExact_of_mem_noTypeProblems (.inl ?_) h)
      simpa [isTypeNode, hgeneric] using hplain
/-- The problems in the children of a generic type are problems of nodes in them, and exact. -/
theorem isExact_of_mem_partProblems {source : SourceText} {children : List SyntaxTree}
    {problem : TypeProblem} (h : problem ∈ partProblems source children) :
    problem.1 ∈ Tree.subtreesAll children ∧ problem.IsExact source := by
  cases children with
  | nil =>
    rw [partProblems] at h
    cases h
  | cons child rest =>
    obtain ⟨root, below⟩ := child
    rw [partProblems] at h
    rw [Tree.subtreesAll_cons, Tree.subtrees_eq_cons, List.mem_append]
    rcases List.mem_append.mp h with hown | hrest
    · split at hown
      · obtain ⟨hnode, hexact⟩ := isExact_of_mem_textProblems hown
        exact ⟨.inl (hnode ▸ List.mem_cons_self), hexact⟩
      · split at hown
        · obtain ⟨hmem, hexact⟩ := isExact_of_mem_argumentProblems hown
          exact ⟨.inl (List.mem_cons_of_mem _ hmem), hexact⟩
        · cases hown
    · obtain ⟨hmem, hexact⟩ := isExact_of_mem_partProblems hrest
      exact ⟨.inr hmem, hexact⟩
/-- The problems in a list of type arguments are problems of nodes in them, and exact. -/
theorem isExact_of_mem_argumentProblems {source : SourceText} {trees : List SyntaxTree}
    {problem : TypeProblem} (h : problem ∈ argumentProblems source trees) :
    problem.1 ∈ Tree.subtreesAll trees ∧ problem.IsExact source := by
  cases trees with
  | nil =>
    rw [argumentProblems] at h
    cases h
  | cons tree rest =>
    rw [argumentProblems] at h
    rw [Tree.subtreesAll_cons, List.mem_append]
    rcases List.mem_append.mp h with hown | hrest
    · split at hown
      · obtain ⟨hmem, hexact⟩ := isExact_of_mem_typeProblems hown
        exact ⟨.inl hmem, hexact⟩
      · cases hown
    · obtain ⟨hmem, hexact⟩ := isExact_of_mem_argumentProblems hrest
      exact ⟨.inr hmem, hexact⟩
end

/-- Exactly the types of the grammar are read. A node is read as a type if and only if it has that type
in the grammar. Otherwise reading fails with the first of the problems of the node, in the order from
left to right and from the inside of a node to the node itself. A failure for a type that is not
understood shows the kind, the text and the row of a node in the tree, namely the one at fault. -/
theorem readType_follows_grammar (source : SourceText) (tree : SyntaxTree) :
    (∀ type, readType source tree = .ok type ↔ HasType source tree type) ∧
    (∀ failure, readType source tree = .error failure ↔
      ((typeProblems source tree).map Prod.snd).head? = some failure) ∧
    ∀ kind text row, readType source tree = .error (.unrecognizedType kind text row) →
      ∃ node ∈ tree.subtrees,
        (typeProblems source tree).head? = some (node, .unrecognizedType kind text row) ∧
        IsNoType node ∧ kind = node.label.kind ∧ node.label.read source = .ok text ∧
        row = node.label.span.start.row := by
  have hreports := readType_reports source tree
  refine ⟨fun type => readType_eq_ok_iff, fun failure => hreports.eq_error_iff, ?_⟩
  intro kind text row hfailure
  rw [hreports.eq_error_iff, List.head?_map, Option.map_eq_some_iff] at hfailure
  obtain ⟨⟨node, failure⟩, hfirst, rfl⟩ := hfailure
  obtain ⟨hmem, hexact⟩ := isExact_of_mem_typeProblems (List.mem_of_mem_head? hfirst)
  exact ⟨node, hmem, hfirst, hexact kind text row rfl⟩

end JavaOutline
