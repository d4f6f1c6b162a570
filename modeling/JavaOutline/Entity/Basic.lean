import JavaOutline.Data.Fault
import JavaOutline.Fact
import JavaOutline.Header

/-!
# Entities

The finished things that an outline is made of: types, facts and headers. An entity is only ever
made with names that are names, whether it is read off a source text or loaded from given data.
The constructors here check the one part of an entity that holds a name and refuse the entity by
the title of its kind.
-/

namespace JavaOutline

open Data (Fault Place)

/-- The kinds of entity, one for each form of data that can be loaded. -/
inductive EntityKind where
  | plainType
  | genericType
  | importing
  | field
  | call
  | creation
  | fileHeader
  | packageHeader
  | typeHeader
  | recordHeader
  | functionHeader
deriving DecidableEq, Repr

namespace EntityKind

/-- The title under which messages mention a kind of entity. -/
def title : EntityKind → String
  | plainType => "ConcreteTypeIdentifier"
  | genericType => "GenericTypeIdentifier"
  | importing => "Import"
  | field => "Field"
  | call => "FunctionInvocation"
  | creation => "ObjectCreation"
  | fileHeader => "FileHeader"
  | packageHeader => "PackageHeader"
  | typeHeader => "TypeDeclarationHeader"
  | recordHeader => "RecordHeader"
  | functionHeader => "FunctionHeader"

/-- Every kind of entity. -/
def all : List EntityKind :=
  [plainType, genericType, importing, field, call, creation, fileHeader, packageHeader, typeHeader,
   recordHeader, functionHeader]

/-- The kind of entity with a given title. -/
def titled? (title : String) : Option EntityKind :=
  all.find? (·.title == title)

end EntityKind

/-- A type, a fact or a header. -/
inductive Entity where
  | type (written : JavaType)
  | fact (recorded : Fact)
  | header (opened : Header)
deriving DecidableEq, Repr

/-- A fact as reports show it. -/
def Fact.text : Fact → String
  | importing declaration => declaration.text
  | field declared => declared.text
  | invocation made => made.text

namespace Entity

/-- An entity as reports show it. -/
def text : Entity → String
  | type written => written.text
  | fact recorded => recorded.text
  | header opened => opened.text

/-- The name of an entity that has one. -/
def name? : Entity → Option String
  | type written => some written.name
  | fact _ => none
  | header opened => some opened.name

/-- The dotted name of an import or a package. -/
def qualifiedName? : Entity → Option String
  | fact (.importing declaration) => some declaration.qualifiedName
  | header (.package segments) => some (dotted segments)
  | _ => none

/-- Whether an import is a wildcard. -/
def isWildcard? : Entity → Option Bool
  | fact (.importing declaration) => some declaration.isWildcard
  | _ => none

/-- The name of the method that a call goes to. -/
def methodName? : Entity → Option String
  | fact (.invocation made) => made.methodName?
  | _ => none

end Entity

/-- The refusal of an entity of some kind. -/
structure Rejection where
  kind : EntityKind
  faults : List Fault
deriving DecidableEq, Repr

/-- An entity with one part that holds names, made if the names are names. -/
def accept {α β : Type} (kind : EntityKind) (part : String) (checked : Except NameFault α)
    (build : α → β) : Except Rejection β :=
  match checked with
  | .ok names => .ok (build names)
  | .error fault => .error ⟨kind, [⟨[.key part], .invalidName fault⟩]⟩

/-- A type without arguments. -/
def JavaType.plainOf (name : String) : Except Rejection JavaType :=
  accept .plainType "name" (checkName name) .plain

/-- A type with arguments. -/
def JavaType.genericOf (name : String) (arguments : List JavaType) : Except Rejection JavaType :=
  accept .genericType "name" (checkName name) (.generic · arguments)

/-- An import of some segments. -/
def Import.of (segments : List String) (isStatic : Bool) : Except Rejection Import :=
  accept .importing "identifiers" (checkSegments segments) (⟨·, isStatic⟩)

/-- A field of some type. -/
def Field.of (modifiers identifier : String) (type : JavaType) : Except Rejection Field :=
  accept .field "identifier" (checkName identifier) (⟨modifiers, ·, type⟩)

/-- A call along some path. -/
def Invocation.callOf (receiver : String) (path : List String) (arguments : String) :
    Except Rejection Invocation :=
  accept .call "access_path" (checkSegments path) (.call receiver · arguments)

/-- The header of a package. -/
def Header.packageOf (segments : List String) : Except Rejection Header :=
  accept .packageHeader "identifiers" (checkSegments segments) .package

/-- The header of a class, interface or enum. -/
def Header.typeOf (sort : TypeSort) (modifiers name : String) : Except Rejection Header :=
  accept .typeHeader "name" (checkName name) (.type sort modifiers ·)

/-- The header of a record. -/
def Header.recordOf (modifiers name parameters : String) : Except Rejection Header :=
  accept .recordHeader "name" (checkName name) (.record modifiers · parameters)

/-- The header of a method or constructor. -/
def Header.functionOf (sort : FunctionSort) (modifiers name parameters returnType : String) :
    Except Rejection Header :=
  accept .functionHeader "name" (checkName name) (.function sort modifiers · parameters returnType)

end JavaOutline
