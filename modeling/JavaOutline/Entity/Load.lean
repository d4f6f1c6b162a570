import JavaOutline.Data.Load
import JavaOutline.Entity.Basic
import JavaOutline.Text.Letter

/-!
# Loading entities

Each kind of entity has a schema: its fields in a fixed order, which of them have defaults, and
what each may hold. Faults are reported field by field in that order, then for unknown fields. A
type stands in a field as one of two forms, told apart by the tag `kind`, and the faults inside a
form are placed under its tag. Types with arguments are loaded inside one another only so many
times: each of them takes up room, and where none is left the next is refused unseen.
-/

namespace JavaOutline

open Data

/-- A scope kind as faults show it. -/
def ScopeKind.shown (kind : ScopeKind) : String :=
  "<ScopeKind." ++ Text.upper kind.word ++ ": '" ++ kind.word ++ "'>"

/-- The field `kind` of a header, which has to be one of a few scope kinds. -/
def loadKind {α : Type} (default : α) (choices : List (ScopeKind × α)) (fields : Fields) :
    Checked α :=
  optional "kind" default
    (loadChoice (choices.map fun choice => (choice.1.word, choice.2))
      (choices.map fun choice => choice.1.shown))
    fields

/-- A field `kind` that can only hold one word. -/
def loadTag (word : String) (fields : Fields) : Checked Unit :=
  optional "kind" () (loadChoice [(word, ())] ["'" ++ word ++ "'"]) fields

namespace JavaType

/-- A type without arguments, from its fields. -/
def loadPlain (fields : Fields) : Checked JavaType :=
  ((Checked.map (fun _ name => plain name) (loadTag "concrete" fields)).ap
    (required "name" loadName fields)).withFaults
    (unknownFields ["kind", "name"] fields)

/-- A type with arguments, from its fields and the load of the arguments among them. -/
def loadGeneric (fields : Fields) (arguments : Checked (List JavaType)) : Checked JavaType :=
  (((Checked.map (fun _ name arguments => generic name arguments) (loadTag "generic" fields)).ap
    (required "name" loadName fields)).ap arguments).withFaults
    (unknownFields ["kind", "name", "type_parameters"] fields)

/-- A type in one of its two forms, told apart by the tag; one with arguments needs room. -/
def loadTagged (room : Nat) (fields : Fields) (arguments : Checked (List JavaType)) :
    Checked JavaType :=
  match Value.field? "kind" fields with
  | none => Checked.fail .noTag
  | some (.text "concrete") => (loadPlain fields).within (.key "concrete")
  | some (.text "generic") =>
    (if room = 0 then Checked.fail .tooDeep else loadGeneric fields arguments).within
      (.key "generic")
  | some tag => Checked.fail (.unknownTag tag.spelled)

mutual
/-- A type in either form; one with arguments leaves less room for the types inside it. -/
def load (room : Nat) : Value → Checked JavaType
  | .object fields => loadTagged room fields (loadArguments (room - 1) fields)
  | _ => Checked.fail .notObject
/-- The arguments among the fields of a type; a type need not have any. -/
def loadArguments (room : Nat) : Fields → Checked (List JavaType)
  | [] => .ok []
  | (key, value) :: fields =>
    if key == "type_parameters" then (loadList room value).within (.key "type_parameters")
    else loadArguments room fields
/-- A list of types. -/
def loadList (room : Nat) : Value → Checked (List JavaType)
  | .list items => loadEach room 0 items
  | _ => Checked.fail .notList
/-- Every type of a list, the first of them at a given index. -/
def loadEach (room index : Nat) : List Value → Checked (List JavaType)
  | [] => .ok []
  | item :: items =>
    Checked.ap (Checked.map List.cons ((load room item).within (.index index)))
      (loadEach room (index + 1) items)
end

end JavaType

/-- An import, from its fields. -/
def Import.load (fields : Fields) : Checked Import :=
  ((Checked.map Import.mk (required "identifiers" loadSegments fields)).ap
    (optional "static" false loadBool fields)).withFaults
    (unknownFields ["identifiers", "static"] fields)

/-- A field of a type, from its fields. -/
def Field.load (room : Nat) (fields : Fields) : Checked Field :=
  (((Checked.map Field.mk (required "modifiers" loadText fields)).ap
    (required "identifier" loadName fields)).ap
    (required "type_identifier" (JavaType.load room) fields)).withFaults
    (unknownFields ["modifiers", "identifier", "type_identifier"] fields)

namespace Invocation

/-- A call, from its fields. -/
def loadCall (fields : Fields) : Checked Invocation :=
  ((((Checked.map (fun _ => call) (loadTag "function" fields)).ap
    (optional "receiver" "" loadText fields)).ap
    (required "access_path" loadSegments fields)).ap
    (required "arguments" loadText fields)).withFaults
    (unknownFields ["kind", "receiver", "access_path", "arguments"] fields)

/-- The creation of an object, from its fields. -/
def loadCreation (room : Nat) (fields : Fields) : Checked Invocation :=
  (((Checked.map (fun _ => creation) (loadTag "object_creation" fields)).ap
    (required "type_identifier" (JavaType.load room) fields)).ap
    (required "arguments" loadText fields)).withFaults
    (unknownFields ["kind", "type_identifier", "arguments"] fields)

end Invocation

namespace Header

/-- The header of a file, from its fields. -/
def loadFile (fields : Fields) : Checked Header :=
  (Checked.map (fun _ => file) (loadKind () [(.file, ())] fields)).withFaults
    (unknownFields ["kind"] fields)

/-- The header of a package, from its fields. -/
def loadPackage (fields : Fields) : Checked Header :=
  ((Checked.map (fun _ => package) (loadKind () [(.package, ())] fields)).ap
    (required "identifiers" loadSegments fields)).withFaults
    (unknownFields ["kind", "identifiers"] fields)

/-- The header of a class, interface or enum, from its fields. -/
def loadType (fields : Fields) : Checked Header :=
  (((Checked.map type (loadKind .classType
      [(.classType, .classType), (.interfaceType, .interfaceType), (.enumType, .enumType)]
      fields)).ap
    (optional "modifiers" defaultModifiers loadText fields)).ap
    (required "name" loadName fields)).withFaults
    (unknownFields ["kind", "modifiers", "name"] fields)

/-- The header of a record, from its fields. -/
def loadRecord (fields : Fields) : Checked Header :=
  ((((Checked.map (fun _ => record) (loadKind () [(.record, ())] fields)).ap
    (optional "modifiers" defaultModifiers loadText fields)).ap
    (required "name" loadName fields)).ap
    (optional "formal_parameters" emptyParameters loadText fields)).withFaults
    (unknownFields ["kind", "modifiers", "name", "formal_parameters"] fields)

/-- The header of a method or constructor, from its fields. -/
def loadFunction (fields : Fields) : Checked Header :=
  (((((Checked.map function (loadKind .method
      [(.function, .method), (.constructor, .constructor)] fields)).ap
    (optional "modifiers" defaultModifiers loadText fields)).ap
    (required "name" loadName fields)).ap
    (optional "parameters" emptyParameters loadText fields)).ap
    (optional "return_type" "" loadText fields)).withFaults
    (unknownFields ["kind", "modifiers", "name", "parameters", "return_type"] fields)

end Header

namespace Entity

/-- An entity of a given kind, from its fields. -/
def loadFields (room : Nat) (kind : EntityKind) (fields : Fields) : Checked Entity :=
  match kind with
  | .plainType => (JavaType.loadPlain fields).map type
  | .genericType => (JavaType.loadGeneric fields (JavaType.loadArguments room fields)).map type
  | .importing => (Import.load fields).map fun declaration => fact (.importing declaration)
  | .field => (Field.load room fields).map fun field => fact (.field field)
  | .call => (Invocation.loadCall fields).map fun call => fact (.invocation call)
  | .creation =>
    (Invocation.loadCreation room fields).map fun creation => fact (.invocation creation)
  | .fileHeader => (Header.loadFile fields).map header
  | .packageHeader => (Header.loadPackage fields).map header
  | .typeHeader => (Header.loadType fields).map header
  | .recordHeader => (Header.loadRecord fields).map header
  | .functionHeader => (Header.loadFunction fields).map header

/-- How many types with arguments may be inside one another in an entity. Objects are loaded 255
levels deep, and the entity itself is the first. -/
def nestingLimit : Nat := 254

/-- An entity of a given kind, from any value, with room for some types with arguments inside one
another. -/
def load (kind : EntityKind) (value : Value) (room : Nat := nestingLimit) :
    Except Rejection Entity :=
  (loadObject kind.title (loadFields room kind) value).mapError (⟨kind, ·⟩)

end Entity

end JavaOutline
