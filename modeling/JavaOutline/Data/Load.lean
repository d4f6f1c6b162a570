import JavaOutline.Data.Fault
import JavaOutline.Data.Value

/-!
# Loading fields

The pieces that loaders are put together from: what a single value may be, and how the fields of an
object are looked up. A field is loaded only if it is there; one that is not is a fault or has a
default. Fields that no loader asks for are faults of their own, reported after all the others and
in the order given.
-/

namespace JavaOutline.Data

variable {α : Type}

/-- The fields of an object, in the order given. -/
abbrev Fields := List (String × Value)

/-- A text. -/
def loadText : Value → Checked String
  | .text s => .ok s
  | _ => Checked.fail .notText

/-- A name. -/
def loadName (value : Value) : Checked String := do
  Checked.ofName (checkName (← loadText value))

/-- Every item of a list, the first of them at a given index. -/
def loadItems (load : Value → Checked α) : Nat → List Value → Checked (List α)
  | _, [] => .ok []
  | index, item :: items =>
    Checked.ap (Checked.map List.cons ((load item).within (.index index)))
      (loadItems load (index + 1) items)

/-- A list of texts. -/
def loadTexts : Value → Checked (List String)
  | .list items => loadItems loadText 0 items
  | _ => Checked.fail .notList

/-- The segments of a dotted name. -/
def loadSegments (value : Value) : Checked (List String) := do
  Checked.ofName (checkSegments (← loadTexts value))

/-- Whether a whole number is a signed 64-bit word. -/
def fitsWord (n : Int) : Bool :=
  -(Int.pow 2 63) ≤ n && n < Int.pow 2 63

/-- The words for true and for false, in lower case. -/
def boolWords : List (String × Bool) :=
  [("0", false), ("off", false), ("f", false), ("false", false), ("n", false), ("no", false),
   ("1", true), ("on", true), ("t", true), ("true", true), ("y", true), ("yes", true)]

/-- The truth value of zero or one; another whole number is none. -/
def boolOfInt : Int → Checked Bool
  | 0 => .ok false
  | 1 => .ok true
  | _ => Checked.fail .unreadableBool

/-- A truth value: itself, zero or one, or one of a few words in any case. A number counts as whole
only if it is a 64-bit word. -/
def loadBool : Value → Checked Bool
  | .bool b => .ok b
  | .int n => if fitsWord n then boolOfInt n else Checked.fail .notBool
  | .float x =>
    match x.toWord? with
    | some n => boolOfInt n
    | none => Checked.fail .notBool
  | .text s =>
    match boolWords.lookup (String.ofList (s.toList.map Char.toLower)) with
    | some b => .ok b
    | none => Checked.fail .unreadableBool
  | _ => Checked.fail .notBool

/-- One of a few fixed words; the faults show them in their own way. -/
def loadChoice (choices : List (String × α)) (shown : List String) : Value → Checked α
  | .text s =>
    match choices.lookup s with
    | some choice => .ok choice
    | none => Checked.fail (.notAmong shown)
  | _ => Checked.fail (.notAmong shown)

/-- A field that has to be there. -/
def required (key : String) (load : Value → Checked α) (fields : Fields) : Checked α :=
  match Value.field? key fields with
  | none => .error [⟨[.key key], .missing⟩]
  | some value => (load value).within (.key key)

/-- A field with a default. -/
def optional (key : String) (default : α) (load : Value → Checked α) (fields : Fields) :
    Checked α :=
  match Value.field? key fields with
  | none => .ok default
  | some value => (load value).within (.key key)

/-- The faults of fields that are not among the known ones. -/
def unknownFields (known : List String) (fields : Fields) : List Fault :=
  (fields.filter fun field => !known.contains field.1).map fun field =>
    ⟨[.key field.1], .unknownField⟩

/-- An object, loaded from its fields and called by a title if it is none. -/
def loadObject (title : String) (load : Fields → Checked α) : Value → Checked α
  | .object fields => load fields
  | _ => Checked.fail (.notRecord title)

end JavaOutline.Data
