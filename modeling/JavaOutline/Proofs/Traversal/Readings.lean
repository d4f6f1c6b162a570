import JavaOutline.Proofs.Syntax.Alike
import JavaOutline.Proofs.Traversal.Rules

/-!
# One law for every reading

What a node calls for is put together from readings of the node and of those below it. A `Comparison`
sets two sources side by side and says which nodes of theirs correspond, which failures do, and what
is to hold of the texts that are kept. It has to answer for the text of a single node only. Every
reader then has its one law here: on trees that are alike, both sides give the same value, made of
names and of texts as they should be, or both fail with failures that correspond. Scripts, visits and
traversals follow from the readers.

A comparison may also say that some failures on the first side end it, and nothing is then said of
the second side. To ask something of one source alone, it is compared with itself.
-/

namespace JavaOutline

/-! ## What two readings give -/

/-- Two readings that agree: their values belong together, or their failures do. If the first one
gives up, the second may go on as it likes. -/
inductive Agree {α β : Type} (Fails : Failure → Failure → Prop) (GivesUp : Failure → Prop)
    (Value : α → β → Prop) : Except Failure α → Except Failure β → Prop where
  | ok {value : α} {value' : β} (hvalue : Value value value') :
      Agree Fails GivesUp Value (.ok value) (.ok value')
  | error {failure failure' : Failure} (hfails : Fails failure failure') :
      Agree Fails GivesUp Value (.error failure) (.error failure')
  | givesUp {failure : Failure} (hgivesUp : GivesUp failure) (reading' : Except Failure β) :
      Agree Fails GivesUp Value (.error failure) reading'

/-- One value on both sides, with a property. -/
def Same {α : Type} (property : α → Prop) (value value' : α) : Prop :=
  value = value' ∧ property value

namespace Agree

variable {α β γ δ : Type} {Fails : Failure → Failure → Prop} {GivesUp : Failure → Prop}
  {Value : α → β → Prop} {Next : γ → δ → Prop}

/-- A reading agrees with itself if its value has the property and its failure corresponds to
itself. -/
theorem refl {reading : Except Failure α} {property : α → Prop}
    (hvalue : ∀ value, reading = .ok value → property value)
    (hfails : ∀ failure, reading = .error failure → Fails failure failure) :
    Agree Fails GivesUp (Same property) reading reading := by
  cases reading with
  | ok value => exact .ok ⟨rfl, hvalue value rfl⟩
  | error failure => exact .error (hfails failure rfl)

/-- Readings agree if they start with readings that agree and go on alike. -/
theorem bind {reading : Except Failure α} {reading' : Except Failure β}
    {next : α → Except Failure γ} {next' : β → Except Failure δ}
    (hreading : Agree Fails GivesUp Value reading reading')
    (hnext : ∀ value value', Value value value' →
      Agree Fails GivesUp Next (next value) (next' value')) :
    Agree Fails GivesUp Next (reading >>= next) (reading' >>= next') := by
  cases hreading with
  | ok hvalue => exact hnext _ _ hvalue
  | error hfails => exact .error hfails
  | givesUp hgivesUp => exact .givesUp hgivesUp _

/-- Going through lists that correspond agrees, if members that correspond add alike and a member that
is skipped adds nothing. -/
theorem foldlM {Pair : γ → δ → Prop} {Skipped : δ → Prop} {members : List γ} {members' : List δ}
    (hmembers : Aligned Pair Skipped members members') {add : α → γ → Except Failure α}
    {add' : β → δ → Except Failure β}
    (hadd : ∀ parts parts' member member', Value parts parts' → Pair member member' →
      Agree Fails GivesUp Value (add parts member) (add' parts' member'))
    (hskip : ∀ parts' member', Skipped member' → add' parts' member' = .ok parts')
    {parts : α} {parts' : β} (hparts : Value parts parts') :
    Agree Fails GivesUp Value (members.foldlM add parts) (members'.foldlM add' parts') := by
  induction hmembers generalizing parts parts' with
  | nil => exact .ok hparts
  | cons hmember _ ih =>
    rw [List.foldlM_cons, List.foldlM_cons]
    exact (hadd _ _ _ _ hparts hmember).bind fun _ _ => ih
  | skip hskipped _ ih =>
    rw [List.foldlM_cons, hskip _ _ hskipped]
    exact ih hparts

end Agree

/-! ## What is kept -/

/-- The kinds of the nodes whose text may be kept as it is. -/
def isKept (kind : String) : Bool :=
  kind == "modifiers" || kind == "identifier" || kind == "formal_parameters" ||
    kind == "argument_list" || isReceiver kind || isTypeNode kind

/-- The texts that stand for what a declaration or call does not have, and the last segment of a
wildcard. -/
def fixedTexts : List String :=
  ["", "*", defaultModifiers, emptyParameters]

/-- Every name in a type, at any depth, is a name and a text with a property. -/
inductive JavaType.IsMadeOf (Text : String → Prop) : JavaType → Prop where
  | plain {name : String} (hname : IsName name) (htext : Text name) : IsMadeOf Text (.plain name)
  | generic {name : String} {arguments : List JavaType} (hname : IsName name) (htext : Text name)
      (harguments : ∀ type ∈ arguments, IsMadeOf Text type) : IsMadeOf Text (.generic name arguments)

/-- The name in a header is a name, and its texts have a property. -/
def Header.IsMadeOf (Text : String → Prop) : Header → Prop
  | file => True
  | package segments => IsDottedName segments ∧ ∀ segment ∈ segments, Text segment
  | type _ modifiers name => IsName name ∧ Text modifiers ∧ Text name
  | record modifiers name parameters =>
    IsName name ∧ Text modifiers ∧ Text name ∧ Text parameters
  | function _ modifiers name parameters returnType =>
    IsName name ∧ Text modifiers ∧ Text name ∧ Text parameters ∧ Text returnType

/-- The names in a fact are names, and its texts have a property. -/
def Fact.IsMadeOf (Text : String → Prop) : Fact → Prop
  | importing declaration =>
    IsDottedName declaration.segments ∧ ∀ segment ∈ declaration.segments, Text segment
  | field declared =>
    IsName declared.identifier ∧ Text declared.modifiers ∧ Text declared.identifier ∧
      declared.type.IsMadeOf Text
  | invocation (.call receiver path arguments) =>
    IsDottedName path ∧ Text receiver ∧ (∀ name ∈ path, Text name) ∧ Text arguments
  | invocation (.creation type arguments) => type.IsMadeOf Text ∧ Text arguments

/-- What a step opens or records is made of names and of texts with a property. -/
def Step.IsMadeOf (Text : String → Prop) : Step → Prop
  | enter header => header.IsMadeOf Text
  | record fact => fact.IsMadeOf Text
  | note _ => True

/-- The parts of a declaration are texts with a property. -/
structure DeclarationParts.AreMadeOf (Text : String → Prop) (parts : DeclarationParts) : Prop where
  modifiers : Text parts.modifiers
  name : Text parts.name
  parameters : Text parts.parameters
  returnType : Text parts.returnType

/-- The parts of a call are texts with a property. -/
structure CallParts.AreMadeOf (Text : String → Prop) (parts : CallParts) : Prop where
  receiver : Text parts.receiver
  path : ∀ name ∈ parts.path, Text name
  arguments : Text parts.arguments

/-! ## Comments are no parts -/

section

variable {comment : SyntaxTree} (hcomment : isComment comment.label.kind = true)
  (source : SourceText)

include hcomment

/-- A comment is no part of a generic type. -/
theorem readGenericParts_cons_of_isComment (rest : List SyntaxTree) :
    readGenericParts source (comment :: rest) = readGenericParts source rest := by
  obtain ⟨root, below⟩ := comment
  have hname := eq_false_of_isComment isTypeName rfl rfl root.kind hcomment
  have harguments : root.kind ≠ "type_arguments" := ne_of_isComment rfl hcomment
  rw [readGenericParts, hname, if_neg Bool.false_ne_true, if_neg harguments]

/-- A comment is no type argument. -/
theorem readTypes_cons_of_isComment (rest : List SyntaxTree) :
    readTypes source (comment :: rest) = readTypes source rest := by
  rw [readTypes, hcomment, Bool.or_true, if_pos rfl]

/-- A comment adds nothing to an import. -/
theorem ImportParts.add_of_isComment (parts : ImportParts) :
    parts.add source comment = .ok parts := by
  rw [add, if_neg (ne_of_isComment rfl hcomment),
    isNameNode_of_isComment _ hcomment, if_neg Bool.false_ne_true,
    if_neg (ne_of_isComment rfl hcomment)]

/-- A comment adds nothing to a declaration of any sort. -/
theorem DeclarationParts.add_of_isComment (parts : DeclarationParts) :
    parts.addToType source comment = .ok parts ∧ parts.addToRecord source comment = .ok parts ∧
      parts.addToFunction source comment = .ok parts := by
  have htype : parts.addToType source comment = .ok parts := by
    rw [addToType, if_neg (ne_of_isComment rfl hcomment),
      if_neg fun h => ne_of_isComment rfl hcomment h.1]
  have hrecord : parts.addToRecord source comment = .ok parts := by
    rw [addToRecord, if_neg (ne_of_isComment rfl hcomment), htype]
  refine ⟨htype, hrecord, ?_⟩
  rw [addToFunction, eq_false_of_isComment isTypeNode rfl rfl _ hcomment,
    if_neg fun h => Bool.false_ne_true h.1, hrecord]

/-- A comment adds nothing to a call. -/
theorem CallParts.add_of_isComment (parts : CallParts) :
    parts.add source comment = .ok parts := by
  rw [add, eq_false_of_isComment isReceiver rfl rfl _ hcomment,
    if_neg Bool.false_ne_true, if_neg (ne_of_isComment rfl hcomment),
    if_neg (ne_of_isComment rfl hcomment)]

/-- A comment adds nothing to an object creation. -/
theorem CreationParts.add_of_isComment (parts : CreationParts) :
    parts.add source comment = .ok parts := by
  have hcreated : isCreatedType comment.label.kind = false := by simp [isCreatedType, hcomment]
  rw [add, if_neg (ne_of_isComment rfl hcomment),
    if_neg (ne_of_isComment rfl hcomment), hcreated, if_neg fun h => Bool.false_ne_true h.2.2]

end

/-! ## Comparisons -/

/-- Two sources, which of their nodes and failures correspond, which failures end the comparison, and
what holds of the texts that are kept. -/
structure Comparison where
  source : SourceText
  source' : SourceText
  Node : SyntaxNode → SyntaxNode → Prop
  Text : String → Prop
  Fails : Failure → Failure → Prop
  /-- On the first side; nothing is said any more of the second. -/
  GivesUp : Failure → Prop
  /-- Nodes that correspond have one text, which is as it should be if it may be kept. -/
  read {node node' : SyntaxNode} (hnode : Node node node') :
    Agree Fails GivesUp (Same fun text => isKept node.kind = true → Text text)
      (node.read source) (node'.read source')
  fixed : ∀ text ∈ fixedTexts, Text text
  unrecognizedType {node node' : SyntaxNode} (hnode : Node node node') (text : String) :
    Fails (.unrecognizedType node.kind text node.span.start.row)
      (.unrecognizedType node'.kind text node'.span.start.row)
  unnamed (kind : EntityKind) (part : String) (fault : NameFault) :
    Fails (.rejected ⟨kind, [⟨[.key part], .invalidName fault⟩]⟩)
      (.rejected ⟨kind, [⟨[.key part], .invalidName fault⟩]⟩)

namespace Comparison

/-- A source compared with itself, where nothing is asked of nodes and texts. -/
def ofSource (source : SourceText) : Comparison where
  source := source
  source' := source
  Node node node' := node = node'
  Text _ := True
  Fails failure failure' := failure = failure'
  GivesUp _ := False
  read := by
    rintro node _ rfl
    exact .refl (fun _ _ _ => trivial) fun _ _ => rfl
  fixed _ _ := trivial
  unrecognizedType := by
    rintro node _ rfl text
    rfl
  unnamed _ _ _ := rfl

/-- Two readings agree as a comparison has it. -/
abbrev Agrees (c : Comparison) {α β : Type} (Value : α → β → Prop) (reading : Except Failure α)
    (reading' : Except Failure β) : Prop :=
  Agree c.Fails c.GivesUp Value reading reading'

/-- An entity that is made on both sides, with a property, or refused on both. -/
abbrev Accepts (c : Comparison) {β : Type} (property : β → Prop) (made : Except Rejection β) :
    Prop :=
  c.Agrees (Same property) (made.mapError .rejected) (made.mapError .rejected)

section

variable (c : Comparison)

/-! ## Names and types -/

section

variable {tree tree' : SyntaxTree} {root root' : SyntaxNode}

/-- The texts of nodes that correspond agree, and they are as they should be if they may be kept. -/
theorem read_kept (hroot : c.Node root root') (hkept : isKept root.kind = true) :
    c.Agrees (Same c.Text) (root.read c.source) (root'.read c.source') := by
  have hread := c.read hroot
  generalize root.read c.source = reading at hread
  generalize root'.read c.source' = reading' at hread
  cases hread with
  | ok hvalue => exact .ok ⟨hvalue.1, hvalue.2 hkept⟩
  | error hfails => exact .error hfails
  | givesUp hgivesUp => exact .givesUp hgivesUp _

/-- What is built from texts that may be kept agrees, and has what such texts give it. -/
theorem read_agrees (h : Alike c.Node tree tree') (hkept : isKept tree.label.kind = true)
    {α : Type} {property : α → Prop} {build : String → α}
    (hbuild : ∀ text, c.Text text → property (build text)) :
    c.Agrees (Same property) (do return build (← tree.label.read c.source))
      (do return build (← tree'.label.read c.source')) := by
  refine (c.read_kept h.label hkept).bind ?_
  rintro text _ ⟨rfl, htext⟩
  exact .ok ⟨rfl, hbuild _ htext⟩

/-- The complaints that nodes which correspond are no types agree. -/
theorem failAsType_agrees (hroot : c.Node root root') {α β : Type} {Value : α → β → Prop} :
    c.Agrees Value (root.failAsType c.source) (root'.failAsType c.source') := by
  refine (c.read hroot).bind ?_
  rintro text _ ⟨rfl, _⟩
  exact .error (c.unrecognizedType hroot _)

/-- An entity is made on both sides, if its names pass the check, or refused on both. -/
theorem accepts {α β : Type} {property : β → Prop} (kind : EntityKind) (part : String)
    {checked : Except NameFault α} {build : α → β}
    (hbuild : ∀ names, checked = .ok names → property (build names)) :
    c.Accepts property (accept kind part checked build) := by
  cases checked with
  | error fault => exact .error (c.unnamed kind part fault)
  | ok names => exact .ok ⟨rfl, hbuild names rfl⟩

/-- An entity with one name is made on both sides, if that is a name, or refused on both. -/
theorem accepts_name {β : Type} {property : β → Prop} (kind : EntityKind) (part : String)
    {name : String} {build : String → β} (hbuild : IsName name → property (build name)) :
    c.Accepts property (accept kind part (checkName name) build) := by
  refine c.accepts kind part fun accepted hchecked => ?_
  obtain ⟨hname, rfl⟩ := checkName_eq_ok_iff.mp hchecked
  exact hbuild hname

/-- An entity with segments is made on both sides, if they are a dotted name, or refused on both. -/
theorem accepts_segments {β : Type} {property : β → Prop} (kind : EntityKind) (part : String)
    {segments : List String} {build : List String → β}
    (hbuild : IsDottedName segments → property (build segments)) :
    c.Accepts property (accept kind part (checkSegments segments) build) := by
  refine c.accepts kind part fun accepted hchecked => ?_
  obtain ⟨hsegments, rfl⟩ := checkSegments_eq_ok_iff.mp hchecked
  exact hbuild hsegments

end

mutual
/-- Types that are read off trees that are alike agree. The recursion is on the second tree, which may
have the comments. -/
theorem readType_agrees {tree : SyntaxTree} (tree' : SyntaxTree) (h : Alike c.Node tree tree') :
    c.Agrees (Same (JavaType.IsMadeOf c.Text)) (readType c.source tree)
      (readType c.source' tree') := by
  obtain ⟨root', children'⟩ := tree'
  cases h with
  | @node root _ children _ hkind hroot hchildren =>
    rw [readType, readType, hkind]
    split
    · refine (readGenericParts_agrees children' hchildren).bind ?_
      rintro ⟨name?, arguments⟩ _ ⟨rfl, hname, harguments⟩
      cases name? with
      | none => exact c.failAsType_agrees hroot
      | some name => exact c.accepts_name _ _ fun h => .generic h (hname name rfl) harguments
    · split
      · rename_i hplain
        refine (c.read_kept hroot (by simp [isKept, isTypeNode, hplain])).bind ?_
        rintro name _ ⟨rfl, htext⟩
        exact c.accepts_name _ _ fun h => .plain h htext
      · exact c.failAsType_agrees hroot
/-- The names and the arguments of generic types agree if their children are alike. -/
theorem readGenericParts_agrees {children : List SyntaxTree} (children' : List SyntaxTree)
    (h : AllAlike c.Node children children') :
    c.Agrees (Same fun parts => (∀ name, parts.1 = some name → c.Text name) ∧
        ∀ type ∈ parts.2, type.IsMadeOf c.Text)
      (readGenericParts c.source children) (readGenericParts c.source' children') := by
  cases children' with
  | nil =>
    cases h
    rw [readGenericParts, readGenericParts]
    exact .ok ⟨rfl, nofun, nofun⟩
  | cons child' rest' =>
    cases h with
    | skip hcomment hrest =>
      rw [readGenericParts_cons_of_isComment hcomment.1]
      exact readGenericParts_agrees rest' hrest
    | cons hchild hrest =>
      have hlater := readGenericParts_agrees rest' hrest
      obtain ⟨root', below'⟩ := child'
      cases hchild with
      | @node root _ below _ hkind hroot hbelow =>
        rw [readGenericParts, readGenericParts, hkind]
        split
        · rename_i hname
          have hkept : isKept root.kind = true := by simp [isKept, isTypeNode, isPlainType, hname]
          refine (c.read_kept hroot hkept).bind ?_
          rintro name _ ⟨rfl, htext⟩
          refine hlater.bind ?_
          rintro ⟨later?, arguments⟩ _ ⟨rfl, hlast, harguments⟩
          refine .ok ⟨rfl, fun last hor => ?_, harguments⟩
          cases later? with
          | none =>
            cases hor
            exact htext
          | some later =>
            cases hor
            exact hlast last rfl
        · split
          · refine (readTypes_agrees below' hbelow).bind ?_
            rintro own _ ⟨rfl, hown⟩
            refine hlater.bind ?_
            rintro parts _ ⟨rfl, hname, harguments⟩
            exact .ok ⟨rfl, hname, List.forall_mem_append.mpr ⟨hown, harguments⟩⟩
          · exact hlater
/-- Type arguments that are alike agree as types. -/
theorem readTypes_agrees {trees : List SyntaxTree} (trees' : List SyntaxTree)
    (h : AllAlike c.Node trees trees') :
    c.Agrees (Same fun types => ∀ type ∈ types, type.IsMadeOf c.Text)
      (readTypes c.source trees) (readTypes c.source' trees') := by
  cases trees' with
  | nil =>
    cases h
    rw [readTypes, readTypes]
    exact .ok ⟨rfl, nofun⟩
  | cons tree' rest' =>
    cases h with
    | skip hcomment hrest =>
      rw [readTypes_cons_of_isComment hcomment.1]
      exact readTypes_agrees rest' hrest
    | cons htree hrest =>
      have hlater := readTypes_agrees rest' hrest
      rw [readTypes, readTypes, htree.kind_eq]
      split
      · exact hlater
      · refine (readType_agrees tree' htree).bind ?_
        rintro type _ ⟨rfl, htype⟩
        refine hlater.bind ?_
        rintro types _ ⟨rfl, htypes⟩
        exact .ok ⟨rfl, List.forall_mem_cons.mpr ⟨htype, htypes⟩⟩
end

mutual
/-- The segments of names that are alike agree. -/
theorem readSegments_agrees {tree : SyntaxTree} (tree' : SyntaxTree)
    (h : Alike c.Node tree tree') :
    c.Agrees (Same fun segments => ∀ segment ∈ segments, c.Text segment)
      (readSegments c.source tree) (readSegments c.source' tree') := by
  obtain ⟨root', children'⟩ := tree'
  cases h with
  | @node root _ children _ hkind hroot hchildren =>
    rw [readSegments, readSegments, hkind]
    split
    · rename_i hidentifier
      refine (c.read_kept hroot (by simp [isKept, hidentifier])).bind ?_
      rintro name _ ⟨rfl, htext⟩
      exact .ok ⟨rfl, List.forall_mem_singleton.mpr htext⟩
    · exact readSegmentsAll_agrees children' hchildren
/-- The segments of the names among nodes that are alike agree. -/
theorem readSegmentsAll_agrees {trees : List SyntaxTree} (trees' : List SyntaxTree)
    (h : AllAlike c.Node trees trees') :
    c.Agrees (Same fun segments => ∀ segment ∈ segments, c.Text segment)
      (readSegmentsAll c.source trees) (readSegmentsAll c.source' trees') := by
  cases trees' with
  | nil =>
    cases h
    rw [readSegmentsAll, readSegmentsAll]
    exact .ok ⟨rfl, nofun⟩
  | cons tree' rest' =>
    cases h with
    | skip hcomment hrest =>
      have hname := isNameNode_of_isComment _ hcomment.1
      rw [readSegmentsAll, hname, if_neg Bool.false_ne_true]
      exact readSegmentsAll_agrees rest' hrest
    | cons htree hrest =>
      have hlater := readSegmentsAll_agrees rest' hrest
      rw [readSegmentsAll, readSegmentsAll, htree.kind_eq]
      split
      · refine (readSegments_agrees tree' htree).bind ?_
        rintro own _ ⟨rfl, hown⟩
        refine hlater.bind ?_
        rintro more _ ⟨rfl, hmore⟩
        exact .ok ⟨rfl, List.forall_mem_append.mpr ⟨hown, hmore⟩⟩
      · exact hlater
end

/-! ## Parts -/

/-- Parts that are collected from children that are alike agree, if what each child adds does and a
comment adds nothing. -/
theorem foldlM_agrees {σ : Type} {property : σ → Prop}
    {add : SourceText → σ → SyntaxTree → Except Failure σ} {children children' : List SyntaxTree}
    (hchildren : AllAlike c.Node children children')
    (hadd : ∀ parts child child', property parts → Alike c.Node child child' →
      c.Agrees (Same property) (add c.source parts child) (add c.source' parts child'))
    (hskip : ∀ parts comment, isComment comment.label.kind = true →
      add c.source' parts comment = .ok parts) {start : σ} (hstart : property start) :
    c.Agrees (Same property) (children.foldlM (add c.source) start)
      (children'.foldlM (add c.source') start) := by
  refine Agree.foldlM hchildren ?_ (fun parts comment h => hskip parts comment h.1) ⟨rfl, hstart⟩
  rintro parts _ child child' ⟨rfl, hparts⟩ hchild
  exact hadd _ child child' hparts hchild

section

variable {child child' : SyntaxTree}

/-- What children that are alike add to an import agrees. -/
theorem addToImport_agrees {parts : ImportParts}
    (hparts : ∀ segment ∈ parts.segments, c.Text segment) (hchild : Alike c.Node child child') :
    c.Agrees (Same fun parts => ∀ segment ∈ parts.segments, c.Text segment)
      (parts.add c.source child) (parts.add c.source' child') := by
  rw [ImportParts.add, ImportParts.add, hchild.kind_eq]
  split
  · exact .ok ⟨rfl, hparts⟩
  · split
    · refine (c.readSegments_agrees child' hchild).bind ?_
      rintro segments _ ⟨rfl, hsegments⟩
      exact .ok ⟨rfl, hsegments⟩
    · split
      · have hwildcard : c.Text "*" := c.fixed "*" (by simp [fixedTexts])
        refine .ok ⟨rfl, List.forall_mem_append.mpr ⟨hparts, ?_⟩⟩
        exact List.forall_mem_singleton.mpr hwildcard
      · exact .ok ⟨rfl, hparts⟩

variable {parts : DeclarationParts}

/-- What children that are alike add to a type declaration agrees. -/
theorem addToType_agrees (hparts : parts.AreMadeOf c.Text) (hchild : Alike c.Node child child') :
    c.Agrees (Same (DeclarationParts.AreMadeOf c.Text)) (parts.addToType c.source child)
      (parts.addToType c.source' child') := by
  rw [DeclarationParts.addToType, DeclarationParts.addToType, hchild.kind_eq]
  split
  · rename_i hkind
    exact c.read_agrees hchild (by simp [isKept, hkind]) fun _ h => { hparts with modifiers := h }
  · split
    · rename_i hkind
      exact c.read_agrees hchild (by simp [isKept, hkind]) fun _ h => { hparts with name := h }
    · exact .ok ⟨rfl, hparts⟩

/-- What children that are alike add to a record declaration agrees. -/
theorem addToRecord_agrees (hparts : parts.AreMadeOf c.Text) (hchild : Alike c.Node child child') :
    c.Agrees (Same (DeclarationParts.AreMadeOf c.Text)) (parts.addToRecord c.source child)
      (parts.addToRecord c.source' child') := by
  rw [DeclarationParts.addToRecord, DeclarationParts.addToRecord, hchild.kind_eq]
  split
  · rename_i hkind
    exact c.read_agrees hchild (by simp [isKept, hkind]) fun _ h => { hparts with parameters := h }
  · exact c.addToType_agrees hparts hchild

/-- What children that are alike add to a function declaration agrees. -/
theorem addToFunction_agrees (hparts : parts.AreMadeOf c.Text)
    (hchild : Alike c.Node child child') :
    c.Agrees (Same (DeclarationParts.AreMadeOf c.Text)) (parts.addToFunction c.source child)
      (parts.addToFunction c.source' child') := by
  rw [DeclarationParts.addToFunction, DeclarationParts.addToFunction, hchild.kind_eq]
  split
  · rename_i hkind
    exact c.read_agrees hchild (by simp [isKept, hkind]) fun _ h => { hparts with returnType := h }
  · exact c.addToRecord_agrees hparts hchild

/-- What children that are alike add to a call agrees. -/
theorem addToCall_agrees {parts : CallParts} (hparts : parts.AreMadeOf c.Text)
    (hchild : Alike c.Node child child') :
    c.Agrees (Same (CallParts.AreMadeOf c.Text)) (parts.add c.source child)
      (parts.add c.source' child') := by
  rw [CallParts.add, CallParts.add, hchild.kind_eq]
  split
  · rename_i hkind
    exact c.read_agrees hchild (by simp [isKept, hkind]) fun _ h => { hparts with receiver := h }
  · split
    · rename_i hkind
      refine c.read_agrees hchild (by simp [isKept, hkind]) fun name h => ?_
      exact { hparts with
        path := List.forall_mem_append.mpr ⟨hparts.path, List.forall_mem_singleton.mpr h⟩ }
    · split
      · rename_i hkind
        exact c.read_agrees hchild (by simp [isKept, hkind])
          fun _ h => { hparts with arguments := h }
      · exact .ok ⟨rfl, hparts⟩

/-- The parts of two object creations: the same but for the nodes of the types, which are alike. -/
structure CreationsAlike (parts parts' : CreationParts) : Prop where
  typeNode : Option.Rel (Alike c.Node) parts.typeNode? parts'.typeNode?
  arguments : parts'.arguments = parts.arguments
  text : c.Text parts.arguments
  isAfterNew : parts'.isAfterNew = parts.isAfterNew

/-- What children that are alike add to object creations agrees. -/
theorem addToCreation_agrees {parts parts' : CreationParts} (hparts : c.CreationsAlike parts parts')
    (hchild : Alike c.Node child child') :
    c.Agrees c.CreationsAlike (parts.add c.source child) (parts'.add c.source' child') := by
  have hnone : parts'.typeNode?.isNone = parts.typeNode?.isNone := by
    rw [← Option.not_isSome, ← Option.not_isSome, isSome_eq_of_rel hparts.typeNode]
  rw [CreationParts.add, CreationParts.add, hchild.kind_eq, hparts.isAfterNew, hnone]
  split
  · exact .ok { hparts with isAfterNew := rfl }
  · split
    · rename_i hkind
      refine (c.read_kept hchild.label (by simp [isKept, hkind])).bind ?_
      rintro arguments _ ⟨rfl, htext⟩
      exact .ok ⟨hparts.typeNode, rfl, htext, rfl⟩
    · split
      · exact .ok ⟨.some hchild, hparts.arguments, hparts.text, rfl⟩
      · exact .ok hparts

end

/-- Parts that are alike agree as types, and so do the complaints that they are missing. -/
theorem readPartAsType_agrees {root root' : SyntaxNode} (hroot : c.Node root root')
    {part? part?' : Option SyntaxTree} (hpart : Option.Rel (Alike c.Node) part? part?') :
    c.Agrees (Same (JavaType.IsMadeOf c.Text)) (readPartAsType c.source root part?)
      (readPartAsType c.source' root' part?') := by
  cases hpart with
  | none => exact c.failAsType_agrees hroot
  | some hnode => exact c.readType_agrees _ hnode

/-- The modifiers of field declarations agree if their children are alike. -/
theorem readModifiers_agrees {children children' : List SyntaxTree}
    (hchildren : AllAlike c.Node children children') :
    c.Agrees (Same c.Text) (readModifiers c.source children)
      (readModifiers c.source' children') := by
  have hkinds := eq_false_of_isComment (· == "modifiers") rfl rfl
  have hdefault : c.Text defaultModifiers := c.fixed _ (by simp [fixedTexts])
  refine Agree.foldlM (hchildren.filter hkinds) ?_ nofun ⟨rfl, hdefault⟩
  rintro _ _ child child' _ ⟨hkind, hchild⟩
  exact c.read_kept hchild.label (by simp [isKept, beq_iff_eq.mp hkind])

/-- The nodes for the types of field declarations are alike if their children are. -/
theorem fieldTypeNode?_alike {children children' : List SyntaxTree}
    (hchildren : AllAlike c.Node children children') :
    Option.Rel (Alike c.Node) (fieldTypeNode? children) (fieldTypeNode? children') := by
  have hkinds := eq_false_of_isComment (· == "variable_declarator") rfl rfl
  have hother : ∀ kind, isComment kind = true →
      (kind != "modifiers" && !isComment kind) = false := by
    intro kind hcomment
    simp [hcomment]
  exact (hchildren.split_firstIndex hkinds).1.find? hother

/-- The fields that declarators stand for agree if the declarators are alike. -/
theorem readField_agrees {modifiers : String} (hmodifiers : c.Text modifiers) {type : JavaType}
    (htype : type.IsMadeOf c.Text) {declarator declarator' : SyntaxTree}
    (hdeclarator : Alike c.Node declarator declarator') :
    c.Agrees (Same fun field => Fact.IsMadeOf c.Text (.field field))
      (readField c.source modifiers type declarator)
      (readField c.source' modifiers type declarator') := by
  have hmade {identifier : String} (htext : c.Text identifier) :
      c.Accepts (fun field => Fact.IsMadeOf c.Text (.field field))
        (Field.of modifiers identifier type) :=
    c.accepts_name _ _ fun hname => ⟨hname, hmodifiers, htext, htype⟩
  have hfound := hdeclarator.children.find?
    (eq_false_of_isComment (· == "identifier") rfl rfl)
  unfold readField
  generalize hfind : declarator.children.find? (fun child => child.label.kind == "identifier") =
    found at hfound
  generalize declarator'.children.find? (fun child => child.label.kind == "identifier") =
    found' at hfound
  cases hfound with
  | none => exact hmade (c.fixed "" (by simp [fixedTexts]))
  | @some child child' hchild =>
    have hkind : child.label.kind = "identifier" := by simpa using List.find?_some hfind
    refine (c.read_kept hchild.label (by simp [isKept, hkind])).bind ?_
    rintro identifier _ ⟨rfl, htext⟩
    exact hmade htext

end

end Comparison

end JavaOutline
