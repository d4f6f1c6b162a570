import JavaOutline.Data.Value
import JavaOutline.Entity.Basic

/-!
# Dumping entities

The value that an entity is written out as: all its fields in the order of its schema, defaults
included, so that loading the value gives the entity back.
-/

namespace JavaOutline

open Data

namespace JavaType

mutual
/-- The value of a type. -/
def dump : JavaType → Value
  | plain name => .object [("kind", .text "concrete"), ("name", .text name)]
  | generic name arguments =>
    .object [("kind", .text "generic"), ("name", .text name),
      ("type_parameters", .list (dumpAll arguments))]
/-- The values of a list of types. -/
def dumpAll : List JavaType → List Value
  | [] => []
  | type :: types => dump type :: dumpAll types
end

end JavaType

/-- The value of a list of texts. -/
def dumpTexts (texts : List String) : Value :=
  .list (texts.map .text)

/-- The value of an import. -/
def Import.dump (declaration : Import) : Value :=
  .object [("identifiers", dumpTexts declaration.segments), ("static", .bool declaration.isStatic)]

/-- The value of a field. -/
def Field.dump (field : Field) : Value :=
  .object [("modifiers", .text field.modifiers), ("identifier", .text field.identifier),
    ("type_identifier", field.type.dump)]

/-- The value of an invocation. -/
def Invocation.dump : Invocation → Value
  | call receiver path arguments =>
    .object [("kind", .text "function"), ("receiver", .text receiver),
      ("access_path", dumpTexts path), ("arguments", .text arguments)]
  | creation type arguments =>
    .object [("kind", .text "object_creation"), ("type_identifier", type.dump),
      ("arguments", .text arguments)]

/-- The value of a fact. -/
def Fact.dump : Fact → Value
  | importing declaration => declaration.dump
  | field declared => declared.dump
  | invocation made => made.dump

/-- The value of a header. -/
def Header.dump (header : Header) : Value :=
  let kind := ("kind", Value.text header.kind.word)
  match header with
  | file => .object [kind]
  | package segments => .object [kind, ("identifiers", dumpTexts segments)]
  | type _ modifiers name => .object [kind, ("modifiers", .text modifiers), ("name", .text name)]
  | record modifiers name parameters =>
    .object [kind, ("modifiers", .text modifiers), ("name", .text name),
      ("formal_parameters", .text parameters)]
  | function _ modifiers name parameters returnType =>
    .object [kind, ("modifiers", .text modifiers), ("name", .text name),
      ("parameters", .text parameters), ("return_type", .text returnType)]

/-- The value of an entity. -/
def Entity.dump : Entity → Value
  | type written => written.dump
  | fact recorded => recorded.dump
  | header opened => opened.dump

end JavaOutline
