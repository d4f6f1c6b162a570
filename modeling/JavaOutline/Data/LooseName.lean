import JavaOutline.Data.Value
import JavaOutline.Name

/-!
# Names in untyped values

The checks of names, made of any value at all. A value with nothing in it is a blank name and has no
segments. Segments can be the items of a list, the keys of an object or the characters of a text;
any other value has none to go through, and an item that is no text is no name.
-/

namespace JavaOutline.Data

/-- Why a value is not accepted as a name or as segments. -/
inductive LooseNameFault where
  | refused (fault : NameFault)
  /-- A value of some sort stands where a text should. -/
  | notText (sort : String)
  /-- A value of some sort has nothing to go through. -/
  | notIterable (sort : String)
deriving DecidableEq, Repr

/-- The text of a complaint. -/
def LooseNameFault.message : LooseNameFault → String
  | refused fault => fault.message
  | notText sort => "'" ++ sort ++ "' object has no attribute 'strip'"
  | notIterable sort => "'" ++ sort ++ "' object is not iterable"

namespace Value

/-- Whether a value has nothing in it: no items, no characters, zero or false. -/
def isVacant : Value → Bool
  | null => true
  | bool b => !b
  | int n => n == 0
  | float x => x.toInt? == some 0
  | text s => s == ""
  | list items => items.isEmpty
  | object fields => fields.isEmpty

/-- The values that a value is made up of, if it can be gone through. -/
def parts? : Value → Option (List Value)
  | text s => some (s.toList.map fun c => text c.toString)
  | list items => some items
  | object fields => some (fields.map fun field => text field.1)
  | _ => none

end Value

/-- Accepts a value as a name, or says why not. -/
def checkLooseName (value : Value) : Except LooseNameFault Unit :=
  if value.isVacant then .error (.refused .blank)
  else match value with
    | .text s => ((checkName s).map fun _ => ()).mapError .refused
    | _ => .error (.notText value.sort)

/-- Accepts a value as segments, or says why not. -/
def checkLooseSegments (value : Value) : Except LooseNameFault Unit :=
  if value.isVacant then .error (.refused .noSegments)
  else match value.parts? with
    | none => .error (.notIterable value.sort)
    | some parts => parts.forM checkLooseName

end JavaOutline.Data
