import JavaOutline.Data.Value
import JavaOutline.Entity.Basic

/-!
# Changes to finished entities

A finished entity is frozen: none of its fields can be given another value, whether it has such a
field or not. A name that starts with an underscore is no field. Giving a value to such a name does
nothing to the entity and is let pass, apart from four names that every entity has for itself: its
class, the table of its fields, the set of the fields that were given, and the references to it.
-/

namespace JavaOutline

open Data (Value)

/-- Why a change to a finished entity is refused. -/
inductive ChangeFault where
  | frozen (rejection : Rejection)
  /-- The class of an entity cannot be a value of some sort. -/
  | notAClass (sort : String)
  /-- The table of fields cannot be a value of some sort. -/
  | notATable (sort : String)
  /-- The set of the given fields cannot be replaced. -/
  | fieldsSet (kind : EntityKind)
  /-- The references to an entity cannot be replaced. -/
  | references
deriving DecidableEq, Repr

/-- The text of a refusal; that of a frozen entity lies in its rejection. -/
def ChangeFault.message? : ChangeFault → Option String
  | frozen _ => none
  | notAClass sort => some ("__class__ must be set to a class, not '" ++ sort ++ "' object")
  | notATable sort => some ("__dict__ must be set to a dictionary, not a '" ++ sort ++ "'")
  | fieldsSet kind => some ("property '__fields_set__' of '" ++ kind.title ++ "' object has no setter")
  | references => some "attribute '__weakref__' of 'SyntaxBaseModel' objects is not writable"

/-- What keeps an entity of some kind from having a name set to a value. -/
def EntityKind.changeFault? (kind : EntityKind) (name : String) (value : Value) :
    Option ChangeFault :=
  match name, value with
  | "__class__", _ => some (.notAClass value.sort)
  | "__dict__", .object _ => none
  | "__dict__", _ => some (.notATable value.sort)
  | "__fields_set__", _ => some (.fieldsSet kind)
  | "__weakref__", _ => some .references
  | _, _ =>
    if name.toList.head? = some '_' then none
    else some (.frozen ⟨kind, [⟨[.key name], .frozen⟩]⟩)

end JavaOutline
