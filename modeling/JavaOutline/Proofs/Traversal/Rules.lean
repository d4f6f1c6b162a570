import JavaOutline.Traversal.Run

/-!
# What a node can call for

Two questions about a node are answered by the kinds of the node and of its children alone: whether
it opens a scope, and from which child on its children are visited. `CallsFor` lists the scripts
that a node can have, and `scriptOf_callsFor` says that there are no others. Whatever is proved here
of scripts is read off that list: a script that does not fail leads to exactly the children that the
rules keep and opens exactly as many scopes as the rules say, and a script that fails opens none.
-/

namespace JavaOutline

/-! ## The rules -/

/-- Whether a node opens a scope: a declaration of a type, record or function, or of a package with
a name. -/
def opensScope (tree : SyntaxTree) : Bool :=
  ["class_declaration", "interface_declaration", "enum_declaration", "record_declaration",
      "method_declaration", "constructor_declaration"].contains tree.label.kind ||
    tree.label.kind == "package_declaration" &&
      tree.children.any fun child => isNameNode child.label.kind

/-- The position of the first child that is visited: none of a package or import, those of a type or
record from its body on, those of a field from its first declarator on, and all of any other node.
-/
def firstVisited (tree : SyntaxTree) : Nat :=
  if tree.label.kind ∈ ["package_declaration", "import_declaration"] then tree.children.length
  else if tree.label.kind ∈ ["class_declaration", "interface_declaration", "enum_declaration",
      "record_declaration"] then bodyIndex tree.children
  else if tree.label.kind ∈ ["field_declaration", "constant_declaration"] then
    declaratorIndex tree.children
  else 0

/-- The kind of scope that a node of some kind opens. -/
def openedKind? : String → Option ScopeKind
  | "package_declaration" => some .package
  | "class_declaration" => some .classType
  | "interface_declaration" => some .interfaceType
  | "enum_declaration" => some .enumType
  | "record_declaration" => some .record
  | "method_declaration" => some .function
  | "constructor_declaration" => some .constructor
  | _ => none

/-- The rule on opened scopes, by what the node stands for. -/
theorem opensScope_eq (tree : SyntaxTree) :
    opensScope tree = match Construct.ofKind tree.label.kind with
      | .packageDeclaration => tree.children.any fun child => isNameNode child.label.kind
      | .typeDeclaration _ | .recordDeclaration | .functionDeclaration _ => true
      | _ => false := by
  obtain ⟨⟨kind, span⟩, children⟩ := tree
  unfold opensScope
  simp only [Tree.label_node, Tree.children_node]
  fun_cases Construct.ofKind kind <;> simp_all

/-- The rule on visited children, by what the node stands for. -/
theorem firstVisited_eq (tree : SyntaxTree) :
    firstVisited tree = match Construct.ofKind tree.label.kind with
      | .packageDeclaration | .importDeclaration => tree.children.length
      | .typeDeclaration _ | .recordDeclaration => bodyIndex tree.children
      | .fieldDeclaration => declaratorIndex tree.children
      | _ => 0 := by
  obtain ⟨⟨kind, span⟩, children⟩ := tree
  unfold firstVisited
  simp only [Tree.label_node, Tree.children_node]
  fun_cases Construct.ofKind kind <;> simp_all

/-- The kind of an opened scope, by what the node stands for. -/
theorem openedKind?_eq (kind : String) :
    openedKind? kind = match Construct.ofKind kind with
      | .packageDeclaration => some .package
      | .typeDeclaration sort => some sort.scopeKind
      | .recordDeclaration => some .record
      | .functionDeclaration sort => some sort.scopeKind
      | _ => none := by
  fun_cases Construct.ofKind kind <;>
    simp_all [openedKind?, TypeSort.scopeKind, FunctionSort.scopeKind]

/-- No child of a package is visited. -/
theorem firstVisited_of_package {tree : SyntaxTree}
    (hkind : openedKind? tree.label.kind = some .package) :
    firstVisited tree = tree.children.length := by
  have hconstruct : Construct.ofKind tree.label.kind = .packageDeclaration := by
    rw [openedKind?_eq] at hkind
    split at hkind
    · assumption
    · rename_i sort _
      cases sort <;> cases hkind
    · cases hkind
    · rename_i sort _
      cases sort <;> cases hkind
    · cases hkind
  rw [firstVisited_eq, hconstruct]

/-! ## Scripts -/

/-- The fact that a step records. -/
def Step.fact? : Step → Option Fact
  | record fact => some fact
  | _ => none

/-- The header of the scope that a step opens. -/
def Step.header? : Step → Option Header
  | enter header => some header
  | _ => none

/-- The message that a step notes. -/
def Step.message? : Step → Option String
  | note message => some message
  | _ => none

namespace Script

/-- The facts that a script records, in order. -/
def facts (script : Script) : List Fact :=
  script.steps.filterMap Step.fact?

/-- The headers of the scopes that a script opens, in order. -/
def headers (script : Script) : List Header :=
  script.steps.filterMap Step.header?

/-- The messages that a script notes, in order. -/
def messages (script : Script) : List String :=
  script.steps.filterMap Step.message?

end Script

/-- The declarators of a field declaration. -/
def declaratorsOf (children : List SyntaxTree) : List SyntaxTree :=
  children.filter fun child => child.label.kind == "variable_declarator"

/-- The type that a part of a node stands for; without that part the node itself is at fault. -/
def readPartAsType (source : SourceText) (root : SyntaxNode) (part? : Option SyntaxTree) :
    Except Failure JavaType :=
  match part? with
  | none => root.failAsType source
  | some node => readType source node

/-- The scripts that a node can have. -/
inductive CallsFor (source : SourceText) (tree : SyntaxTree) : Script → Prop where
  /-- A part of the node cannot be read, so nothing is done. -/
  | failing (failure : Failure) : CallsFor source tree ⟨[], .error failure⟩
  | passing (hkind : Construct.ofKind tree.label.kind = .other) :
      CallsFor source tree .passThrough
  | unnamedPackage (hkind : Construct.ofKind tree.label.kind = .packageDeclaration)
      (hname : (tree.children.any fun child => isNameNode child.label.kind) = false) :
      CallsFor source tree ⟨[], .ok .nowhere⟩
  | package (hkind : Construct.ofKind tree.label.kind = .packageDeclaration)
      (hname : (tree.children.any fun child => isNameNode child.label.kind) = true)
      (segments : List String) :
      CallsFor source tree
        ⟨[.enter (.package segments), .note ("Opened package scope " ++ dotted segments)],
          .ok .nowhere⟩
  | importing (hkind : Construct.ofKind tree.label.kind = .importDeclaration)
      (declaration : Import) :
      CallsFor source tree
        ⟨[.record (.importing declaration), .note ("Recorded " ++ declaration.text)],
          .ok .nowhere⟩
  /-- A type, record or function opens its scope. -/
  | opening (header : Header) (hopens : opensScope tree = true)
      (hkind : openedKind? tree.label.kind = some header.kind) :
      CallsFor source tree (.opening header (firstVisited tree))
  /-- The declarators of a field are gone through one by one, and one of them may fail. -/
  | fields (hkind : Construct.ofKind tree.label.kind = .fieldDeclaration)
      (modifiers : String) (hmodifiers : readModifiers source tree.children = .ok modifiers)
      (type : JavaType)
      (htype : readPartAsType source tree.label (fieldTypeNode? tree.children) = .ok type) :
      CallsFor source tree
        (declaratorScript source modifiers type (.around (declaratorIndex tree.children))
          (declaratorsOf tree.children))
  | invoking (hkind : Construct.ofKind tree.label.kind = .methodInvocation ∨
        Construct.ofKind tree.label.kind = .objectCreation)
      (made : Invocation) (words : String) :
      CallsFor source tree
        ⟨[.record (.invocation made), .note (words ++ made.text)], .ok (.around 0)⟩

/-- A reading that starts with another reading either fails with it or goes on from its result. -/
theorem Script.ofReading_bind {α : Type} {property : Script → Prop} (reading : Except Failure α)
    (next : α → Except Failure Script)
    (herror : ∀ failure, property ⟨[], .error failure⟩)
    (hok : ∀ value, reading = .ok value → property (.ofReading (next value))) :
    property (.ofReading (reading >>= next)) := by
  cases hreading : reading with
  | error failure => exact herror failure
  | ok value => exact hok value hreading

/-- Something is made exactly if the check of its names passes, and of what is checked. -/
theorem accept_eq_ok_iff {α β : Type} {kind : EntityKind} {part : String}
    {checked : Except NameFault α} {build : α → β} {made : β} :
    accept kind part checked build = .ok made ↔
      ∃ names, checked = .ok names ∧ build names = made := by
  cases checked <;> simp [accept]

/-- A name that is accepted is the one part of what is made of it. -/
theorem accept_eq_ok {α β : Type} {kind : EntityKind} {part : String}
    {checked : Except NameFault α} {build : α → β} {made : β}
    (h : (accept kind part checked build).mapError Failure.rejected = .ok made) :
    ∃ names, checked = .ok names ∧ made = build names := by
  cases checked with
  | error fault => cases h
  | ok names =>
    cases h
    exact ⟨names, rfl, rfl⟩

/-- A field declaration reads its modifiers, then its type, and then goes through its declarators.
-/
theorem fieldScript_eq (source : SourceText) (root : SyntaxNode) (children : List SyntaxTree) :
    fieldScript source root children = .ofReading do
      let modifiers ← readModifiers source children
      let type ← readPartAsType source root (fieldTypeNode? children)
      return declaratorScript source modifiers type (.around (declaratorIndex children))
        (declaratorsOf children) := by
  unfold fieldScript readPartAsType
  cases fieldTypeNode? children <;> rfl

/-- An object creation collects its parts and then reads its type. -/
theorem creationScript_eq (source : SourceText) (root : SyntaxNode) (children : List SyntaxTree) :
    creationScript source root children = .ofReading do
      let parts ← children.foldlM (CreationParts.add source) ⟨none, "", false⟩
      let type ← readPartAsType source root parts.typeNode?
      let creation := Invocation.creation type parts.arguments
      return ⟨[.record (.invocation creation),
        .note ("Recorded object creation " ++ creation.text)], .ok (.around 0)⟩ := by
  unfold creationScript readPartAsType
  congr 2
  funext parts
  cases parts.typeNode? <;> rfl

/-- A package calls for a scope, or for nothing. -/
theorem packageScript_callsFor (source : SourceText) (tree : SyntaxTree)
    (hkind : Construct.ofKind tree.label.kind = .packageDeclaration) :
    CallsFor source tree (packageScript source tree.children) := by
  unfold packageScript
  split
  · rename_i hfind
    apply CallsFor.unnamedPackage hkind
    simpa using hfind
  · rename_i name hfind
    apply Script.ofReading_bind _ _ CallsFor.failing
    intro segments _
    apply Script.ofReading_bind _ _ CallsFor.failing
    intro header hheader
    obtain ⟨accepted, _, rfl⟩ := accept_eq_ok hheader
    refine CallsFor.package hkind ?_ accepted
    have hfound := List.find?_some hfind
    exact List.any_eq_true.mpr ⟨name, List.mem_of_find?_eq_some hfind, hfound⟩

/-- An import calls for one fact. -/
theorem importScript_callsFor (source : SourceText) (tree : SyntaxTree)
    (hkind : Construct.ofKind tree.label.kind = .importDeclaration) :
    CallsFor source tree (importScript source tree.children) := by
  unfold importScript
  apply Script.ofReading_bind _ _ CallsFor.failing
  intro parts _
  apply Script.ofReading_bind _ _ CallsFor.failing
  intro declaration _
  exact CallsFor.importing hkind declaration

/-- A declaration whose parts give a header of the right kind calls for its scope. -/
theorem opening_callsFor {α : Type} (source : SourceText) (tree : SyntaxTree)
    (reading : Except Failure α) (headerOf : α → Except Rejection Header)
    (hopens : opensScope tree = true)
    (hkind : ∀ parts header, (headerOf parts).mapError Failure.rejected = .ok header →
      openedKind? tree.label.kind = some header.kind) :
    CallsFor source tree (.ofReading do
      let parts ← reading
      let header ← (headerOf parts).mapError .rejected
      return .opening header (firstVisited tree)) := by
  apply Script.ofReading_bind _ _ CallsFor.failing
  intro parts _
  apply Script.ofReading_bind _ _ CallsFor.failing
  intro header hheader
  exact CallsFor.opening header hopens (hkind parts header hheader)

/-- A type calls for its scope. -/
theorem typeScript_callsFor (source : SourceText) (tree : SyntaxTree) (sort : TypeSort)
    (hkind : Construct.ofKind tree.label.kind = .typeDeclaration sort) :
    CallsFor source tree (typeScript source sort tree.children) := by
  have hfirst : firstVisited tree = bodyIndex tree.children := by rw [firstVisited_eq, hkind]
  unfold typeScript
  rw [← hfirst]
  apply opening_callsFor
  · rw [opensScope_eq, hkind]
  · intro parts header hheader
    obtain ⟨name, _, rfl⟩ := accept_eq_ok hheader
    rw [openedKind?_eq, hkind]
    rfl

/-- A record calls for its scope. -/
theorem recordScript_callsFor (source : SourceText) (tree : SyntaxTree)
    (hkind : Construct.ofKind tree.label.kind = .recordDeclaration) :
    CallsFor source tree (recordScript source tree.children) := by
  have hfirst : firstVisited tree = bodyIndex tree.children := by rw [firstVisited_eq, hkind]
  unfold recordScript
  rw [← hfirst]
  apply opening_callsFor
  · rw [opensScope_eq, hkind]
  · intro parts header hheader
    obtain ⟨name, _, rfl⟩ := accept_eq_ok hheader
    rw [openedKind?_eq, hkind]
    rfl

/-- A function calls for its scope. -/
theorem functionScript_callsFor (source : SourceText) (tree : SyntaxTree) (sort : FunctionSort)
    (hkind : Construct.ofKind tree.label.kind = .functionDeclaration sort) :
    CallsFor source tree (functionScript source sort tree.children) := by
  have hfirst : firstVisited tree = 0 := by rw [firstVisited_eq, hkind]
  unfold functionScript
  rw [← hfirst]
  apply opening_callsFor
  · rw [opensScope_eq, hkind]
  · intro parts header hheader
    obtain ⟨name, _, rfl⟩ := accept_eq_ok hheader
    rw [openedKind?_eq, hkind]
    rfl

/-- A field declaration goes through its declarators if its modifiers and its type can be read. -/
theorem fieldScript_callsFor (source : SourceText) (tree : SyntaxTree)
    (hkind : Construct.ofKind tree.label.kind = .fieldDeclaration) :
    CallsFor source tree (fieldScript source tree.label tree.children) := by
  rw [fieldScript_eq]
  apply Script.ofReading_bind _ _ CallsFor.failing
  intro modifiers hmodifiers
  apply Script.ofReading_bind _ _ CallsFor.failing
  intro type htype
  exact CallsFor.fields hkind modifiers hmodifiers type htype

/-- A call calls for one fact. -/
theorem callScript_callsFor (source : SourceText) (tree : SyntaxTree)
    (hkind : Construct.ofKind tree.label.kind = .methodInvocation) :
    CallsFor source tree (callScript source tree.children) := by
  unfold callScript
  apply Script.ofReading_bind _ _ CallsFor.failing
  intro parts _
  apply Script.ofReading_bind _ _ CallsFor.failing
  intro call _
  exact CallsFor.invoking (.inl hkind) call "Recorded invocation "

/-- An object creation calls for one fact. -/
theorem creationScript_callsFor (source : SourceText) (tree : SyntaxTree)
    (hkind : Construct.ofKind tree.label.kind = .objectCreation) :
    CallsFor source tree (creationScript source tree.label tree.children) := by
  rw [creationScript_eq]
  apply Script.ofReading_bind _ _ CallsFor.failing
  intro parts _
  apply Script.ofReading_bind _ _ CallsFor.failing
  intro type _
  exact CallsFor.invoking (.inr hkind) (.creation type parts.arguments) "Recorded object creation "

/-- Every script is in the list. -/
theorem scriptOf_callsFor (source : SourceText) (tree : SyntaxTree) :
    CallsFor source tree (scriptOf source tree) := by
  unfold scriptOf
  split
  · exact packageScript_callsFor source tree ‹_›
  · exact importScript_callsFor source tree ‹_›
  · exact typeScript_callsFor source tree _ ‹_›
  · exact recordScript_callsFor source tree ‹_›
  · exact fieldScript_callsFor source tree ‹_›
  · exact functionScript_callsFor source tree _ ‹_›
  · exact callScript_callsFor source tree ‹_›
  · exact creationScript_callsFor source tree ‹_›
  · exact CallsFor.passing ‹_›

/-! ## What every script obeys -/

/-- Going through declarators ends in a descent around the node, unless one of them fails. -/
theorem declaratorScript_ending {source : SourceText} {modifiers : String} {type : JavaType}
    {descent reached : Descent} {declarators : List SyntaxTree}
    (h : (declaratorScript source modifiers type descent declarators).ending = .ok reached) :
    reached = descent := by
  induction declarators with
  | nil =>
    cases h
    rfl
  | cons declarator rest ih =>
    unfold declaratorScript at h
    split at h
    · cases h
    · exact ih h

/-- Going through declarators opens no scope. -/
theorem declaratorScript_headers (source : SourceText) (modifiers : String) (type : JavaType)
    (descent : Descent) (declarators : List SyntaxTree) :
    (declaratorScript source modifiers type descent declarators).headers = [] := by
  induction declarators with
  | nil => rfl
  | cons declarator rest ih =>
    unfold declaratorScript
    split
    · rfl
    · exact ih

section

variable {source : SourceText} {tree : SyntaxTree} {script : Script} {descent : Descent}

/-- A script that does not fail leads to the children that the rules keep: to none, or to those in
the scope around, or to those in the scope that it opened, if the rules say that it opens one. -/
theorem CallsFor.descent_cases (hcalls : CallsFor source tree script)
    (hok : script.ending = .ok descent) :
    descent = .nowhere ∧ firstVisited tree = tree.children.length ∨
      descent = .around (firstVisited tree) ∧ opensScope tree = false ∨
      descent = .inside (firstVisited tree) ∧ opensScope tree = true := by
  rw [firstVisited_eq]
  cases hcalls with
  | failing failure => cases hok
  | passing hkind =>
    cases hok
    exact .inr (.inl ⟨by rw [hkind], by rw [opensScope_eq, hkind]⟩)
  | unnamedPackage hkind hname =>
    cases hok
    exact .inl ⟨rfl, by rw [hkind]⟩
  | package hkind hname segments =>
    cases hok
    exact .inl ⟨rfl, by rw [hkind]⟩
  | importing hkind declaration =>
    cases hok
    exact .inl ⟨rfl, by rw [hkind]⟩
  | opening header hopens hkind =>
    cases hok
    exact .inr (.inr ⟨by rw [firstVisited_eq], hopens⟩)
  | fields hkind modifiers hmodifiers type htype =>
    have hdescent := declaratorScript_ending hok
    exact .inr (.inl ⟨by rw [hdescent, hkind], by rw [opensScope_eq, hkind]⟩)
  | invoking hkind made words =>
    cases hok
    rcases hkind with hkind | hkind
    · exact .inr (.inl ⟨by rw [hkind], by rw [opensScope_eq, hkind]⟩)
    · exact .inr (.inl ⟨by rw [hkind], by rw [opensScope_eq, hkind]⟩)

/-- A script that does not fail opens one scope, of the kind that its node stands for, if the rules
say that it opens one. -/
theorem CallsFor.headers_of_opens (hcalls : CallsFor source tree script)
    (hok : script.ending = .ok descent) (hopens : opensScope tree = true) :
    ∃ header, script.headers = [header] ∧ openedKind? tree.label.kind = some header.kind := by
  rw [opensScope_eq] at hopens
  cases hcalls with
  | failing failure => cases hok
  | passing hkind => simp [hkind] at hopens
  | unnamedPackage hkind hname => simp [hkind, hname] at hopens
  | package hkind hname segments =>
    refine ⟨.package segments, rfl, ?_⟩
    rw [openedKind?_eq, hkind]
    rfl
  | importing hkind declaration => simp [hkind] at hopens
  | opening header _ hkind => exact ⟨header, rfl, hkind⟩
  | fields hkind modifiers hmodifiers type htype => simp [hkind] at hopens
  | invoking hkind made words =>
    rcases hkind with hkind | hkind
    · simp [hkind] at hopens
    · simp [hkind] at hopens

/-- A script opens no scope if the rules say that it opens none. -/
theorem CallsFor.headers_of_not_opens (hcalls : CallsFor source tree script)
    (hopens : opensScope tree = false) : script.headers = [] := by
  cases hcalls with
  | package hkind hname segments =>
    rw [opensScope_eq, hkind] at hopens
    exact absurd hname (by simp [hopens])
  | opening header hopens' hkind => exact absurd hopens' (by simp [hopens])
  | fields hkind modifiers hmodifiers type htype => exact declaratorScript_headers ..
  | failing | passing | unnamedPackage | importing | invoking => rfl

/-- A script that fails opens no scope. -/
theorem CallsFor.headers_of_error {failure : Failure} (hcalls : CallsFor source tree script)
    (herror : script.ending = .error failure) : script.headers = [] := by
  cases hcalls with
  | fields hkind modifiers hmodifiers type htype => exact declaratorScript_headers ..
  | failing => rfl
  | passing | unnamedPackage | package | importing | opening | invoking => cases herror

/-- No script opens a file. -/
theorem CallsFor.file_not_mem_headers (hcalls : CallsFor source tree script) :
    Header.file ∉ script.headers := by
  intro hmem
  cases hending : script.ending with
  | error failure => simp [hcalls.headers_of_error hending] at hmem
  | ok descent =>
    cases hopens : opensScope tree with
    | false => simp [hcalls.headers_of_not_opens hopens] at hmem
    | true =>
      obtain ⟨header, hheaders, hkind⟩ := hcalls.headers_of_opens hending hopens
      rw [hheaders, List.mem_singleton] at hmem
      subst hmem
      unfold openedKind? at hkind
      split at hkind <;> cases hkind

end

end JavaOutline
