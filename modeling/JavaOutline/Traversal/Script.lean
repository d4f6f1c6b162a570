import JavaOutline.Traversal.Types

/-!
# What a node calls for

A node of interest calls for a few steps in the scope around it, such as opening a scope, recording
a fact or noting what was done in the journal, and then says which of its children are to be visited
and in which scope. `scriptOf` works this out from the node and the source alone, without looking at
any scope. A script can also end in a failure; the steps before it still count.

Parts of a declaration are collected by going through its children once, from left to right, and the
first part that cannot be read ends the collection. A comment is never a part of anything.
-/

namespace JavaOutline

/-- One change to the scope around a node, or a note of one. -/
inductive Step where
  | enter (header : Header)
  | record (fact : Fact)
  | note (message : String)
deriving DecidableEq, Repr

/-- Which children of a node are visited: those from some position on, or none; and whether they
belong to the scope around the node or to the one that it opened. -/
inductive Descent where
  | nowhere
  | around (first : Nat)
  | inside (first : Nat)
deriving DecidableEq, Repr

/-- What a node calls for: some steps, and then a descent or a failure. -/
structure Script where
  steps : List Step
  ending : Except Failure Descent

namespace Script

/-- The script of a node that needs no steps of its own. -/
def passThrough : Script :=
  ⟨[], .ok (.around 0)⟩

/-- A script that may fail before its first step. -/
def ofReading (reading : Except Failure Script) : Script :=
  match reading with
  | .ok script => script
  | .error failure => ⟨[], .error failure⟩

end Script

/-- The position of the first child of some kind, or the number of children if there is none. -/
def firstIndex (isWanted : String → Bool) (children : List SyntaxTree) : Nat :=
  children.findIdx fun child => isWanted child.label.kind

/-- The position of the body of a declaration. -/
def bodyIndex (children : List SyntaxTree) : Nat :=
  firstIndex isDeclarationBody children

/-- The position of the first declarator of a field declaration. -/
def declaratorIndex (children : List SyntaxTree) : Nat :=
  firstIndex (· == "variable_declarator") children

/-! ## Packages and imports -/

/-- A package opens a scope named by its first name; without a name it calls for nothing. -/
def packageScript (source : SourceText) (children : List SyntaxTree) : Script :=
  match children.find? fun child => isNameNode child.label.kind with
  | none => ⟨[], .ok .nowhere⟩
  | some name => .ofReading do
    let segments ← readSegments source name
    let header ← (Header.packageOf segments).mapError .rejected
    return ⟨[.enter header, .note ("Opened package scope " ++ header.name)], .ok .nowhere⟩

/-- The parts of an import. -/
structure ImportParts where
  segments : List String
  isStatic : Bool

/-- Takes one child of an import into account. -/
def ImportParts.add (source : SourceText) (parts : ImportParts) (child : SyntaxTree) :
    Except Failure ImportParts :=
  if child.label.kind = "static" then .ok { parts with isStatic := true }
  else if isNameNode child.label.kind then do
    let segments ← readSegments source child
    return { parts with segments }
  else if child.label.kind = "asterisk" then
    .ok { parts with segments := parts.segments ++ ["*"] }
  else .ok parts

/-- An import is recorded. -/
def importScript (source : SourceText) (children : List SyntaxTree) : Script :=
  .ofReading do
    let parts ← children.foldlM (ImportParts.add source) ⟨[], false⟩
    let declaration ← (Import.of parts.segments parts.isStatic).mapError .rejected
    return ⟨[.record (.importing declaration), .note ("Recorded " ++ declaration.text)],
      .ok .nowhere⟩

/-! ## Declarations that open a scope -/

/-- The parts of a type, record or function declaration. -/
structure DeclarationParts where
  modifiers : String
  name : String
  parameters : String
  returnType : String

/-- The parts of a declaration that has none of them. -/
def DeclarationParts.none : DeclarationParts :=
  ⟨defaultModifiers, "", emptyParameters, ""⟩

namespace DeclarationParts

/-- Takes one child of a type declaration into account. The name is the first identifier with any
text. -/
def addToType (source : SourceText) (parts : DeclarationParts) (child : SyntaxTree) :
    Except Failure DeclarationParts :=
  if child.label.kind = "modifiers" then do
    let modifiers ← child.label.read source
    return { parts with modifiers }
  else if child.label.kind = "identifier" ∧ parts.name = "" then do
    let name ← child.label.read source
    return { parts with name }
  else .ok parts

/-- Takes one child of a record declaration into account. -/
def addToRecord (source : SourceText) (parts : DeclarationParts) (child : SyntaxTree) :
    Except Failure DeclarationParts :=
  if child.label.kind = "formal_parameters" then do
    let parameters ← child.label.read source
    return { parts with parameters }
  else parts.addToType source child

/-- Takes one child of a function declaration into account. A type counts as the type of the result
as long as there is no name. -/
def addToFunction (source : SourceText) (parts : DeclarationParts) (child : SyntaxTree) :
    Except Failure DeclarationParts :=
  if isTypeNode child.label.kind ∧ parts.name = "" then do
    let returnType ← child.label.read source
    return { parts with returnType }
  else parts.addToRecord source child

end DeclarationParts

/-- The script of a node that opens a scope and has children visited in it. -/
def Script.opening (header : Header) (first : Nat) : Script :=
  ⟨[.note ("Opened " ++ header.kind.word ++ " scope " ++ header.name), .enter header],
    .ok (.inside first)⟩

/-- A type opens a scope for its body; its other parts stand before the body. -/
def typeScript (source : SourceText) (sort : TypeSort) (children : List SyntaxTree) : Script :=
  .ofReading do
    let body := bodyIndex children
    let parts ← (children.take body).foldlM (DeclarationParts.addToType source) .none
    let header ← (Header.typeOf sort parts.modifiers parts.name).mapError .rejected
    return .opening header body

/-- A record opens a scope for its body; its other parts stand before the body. -/
def recordScript (source : SourceText) (children : List SyntaxTree) : Script :=
  .ofReading do
    let body := bodyIndex children
    let parts ← (children.take body).foldlM (DeclarationParts.addToRecord source) .none
    let header ← (Header.recordOf parts.modifiers parts.name parts.parameters).mapError .rejected
    return .opening header body

/-- A function opens a scope for all its children; its parts end with the parameter list. -/
def functionScript (source : SourceText) (sort : FunctionSort) (children : List SyntaxTree) :
    Script :=
  .ofReading do
    let last := firstIndex (· == "formal_parameters") children
    let parts ← (children.take (last + 1)).foldlM (DeclarationParts.addToFunction source) .none
    let header ← (Header.functionOf sort parts.modifiers parts.name parts.parameters
      parts.returnType).mapError .rejected
    return .opening header 0

/-! ## Fields -/

/-- The modifiers of a field declaration: the last of those given. -/
def readModifiers (source : SourceText) (children : List SyntaxTree) : Except Failure String :=
  (children.filter fun child => child.label.kind == "modifiers").foldlM
    (fun _ child => child.label.read source) defaultModifiers

/-- The node that stands for the type of a field declaration: the first before the declarators that
is neither modifiers nor a comment. -/
def fieldTypeNode? (children : List SyntaxTree) : Option SyntaxTree :=
  (children.take (declaratorIndex children)).find? fun child =>
    child.label.kind != "modifiers" && !isComment child.label.kind

/-- The field that one declarator stands for. -/
def readField (source : SourceText) (modifiers : String) (type : JavaType)
    (declarator : SyntaxTree) : Except Failure Field := do
  let identifier ←
    match declarator.children.find? fun child => child.label.kind == "identifier" with
    | none => pure ""
    | some child => child.label.read source
  (Field.of modifiers identifier type).mapError .rejected

/-- Records the fields of declarators one by one, up to the first that stands for none. -/
def declaratorScript (source : SourceText) (modifiers : String) (type : JavaType)
    (descent : Descent) : List SyntaxTree → Script
  | [] => ⟨[], .ok descent⟩
  | declarator :: rest =>
    match readField source modifiers type declarator with
    | .error failure => ⟨[], .error failure⟩
    | .ok field =>
      let script := declaratorScript source modifiers type descent rest
      ⟨.record (.field field) :: .note ("Recorded field " ++ field.text) :: script.steps,
        script.ending⟩

/-- A field declaration records one field for each declarator. Initializers are visited. -/
def fieldScript (source : SourceText) (root : SyntaxNode) (children : List SyntaxTree) : Script :=
  .ofReading do
    let modifiers ← readModifiers source children
    let type ← match fieldTypeNode? children with
      | none => root.failAsType source
      | some node => readType source node
    return declaratorScript source modifiers type (.around (declaratorIndex children))
      (children.filter fun child => child.label.kind == "variable_declarator")

/-! ## Invocations -/

/-- The parts of a call. -/
structure CallParts where
  receiver : String
  path : List String
  arguments : String

/-- Takes one child of a call into account. -/
def CallParts.add (source : SourceText) (parts : CallParts) (child : SyntaxTree) :
    Except Failure CallParts :=
  if isReceiver child.label.kind then do
    let receiver ← child.label.read source
    return { parts with receiver }
  else if child.label.kind = "identifier" then do
    let name ← child.label.read source
    return { parts with path := parts.path ++ [name] }
  else if child.label.kind = "argument_list" then do
    let arguments ← child.label.read source
    return { parts with arguments }
  else .ok parts

/-- A call is recorded, and what is called on or passed is visited. -/
def callScript (source : SourceText) (children : List SyntaxTree) : Script :=
  .ofReading do
    let parts ← children.foldlM (CallParts.add source) ⟨"", [], ""⟩
    let call ← (Invocation.callOf parts.receiver parts.path parts.arguments).mapError .rejected
    return ⟨[.record (.invocation call), .note ("Recorded invocation " ++ call.text)],
      .ok (.around 0)⟩

/-- The parts of an object creation. -/
structure CreationParts where
  typeNode? : Option SyntaxTree
  arguments : String
  isAfterNew : Bool

/-- Whether a node after `new` can stand for the type that is created. -/
def isCreatedType (kind : String) : Bool :=
  kind != "type_arguments" && !isAnnotationNode kind && !isComment kind

/-- Takes one child of an object creation into account. -/
def CreationParts.add (source : SourceText) (parts : CreationParts) (child : SyntaxTree) :
    Except Failure CreationParts :=
  if child.label.kind = "new" then .ok { parts with isAfterNew := true }
  else if child.label.kind = "argument_list" then do
    let arguments ← child.label.read source
    return { parts with arguments }
  else if parts.isAfterNew ∧ parts.typeNode?.isNone ∧ isCreatedType child.label.kind then
    .ok { parts with typeNode? := some child }
  else .ok parts

/-- An object creation is recorded, and what is passed is visited. -/
def creationScript (source : SourceText) (root : SyntaxNode) (children : List SyntaxTree) :
    Script :=
  .ofReading do
    let parts ← children.foldlM (CreationParts.add source) ⟨none, "", false⟩
    let type ← match parts.typeNode? with
      | none => root.failAsType source
      | some node => readType source node
    let creation := Invocation.creation type parts.arguments
    return ⟨[.record (.invocation creation), .note ("Recorded object creation " ++ creation.text)],
      .ok (.around 0)⟩

/-! ## All nodes -/

/-- What a node calls for. -/
def scriptOf (source : SourceText) (tree : SyntaxTree) : Script :=
  match Construct.ofKind tree.label.kind with
  | .packageDeclaration => packageScript source tree.children
  | .importDeclaration => importScript source tree.children
  | .typeDeclaration sort => typeScript source sort tree.children
  | .recordDeclaration => recordScript source tree.children
  | .fieldDeclaration => fieldScript source tree.label tree.children
  | .functionDeclaration sort => functionScript source sort tree.children
  | .methodInvocation => callScript source tree.children
  | .objectCreation => creationScript source tree.label tree.children
  | .other => .passThrough

end JavaOutline
