import JavaOutline.Data.BinaryFloat
import JavaOutline.Text.Quoted

/-!
# Untyped values

Data to be loaded arrives as a value of one of seven sorts. The fields of an object keep the order
in which they were given, since unknown ones are reported in that order, and no key occurs twice.
Whole numbers and numbers with a fraction are kept apart, since a few fields accept one and refuse
the other.
-/

namespace JavaOutline.Data

/-- A value as it is given, before it is known to be anything in particular. -/
inductive Value where
  | null
  | bool (b : Bool)
  | int (n : Int)
  | float (x : BinaryFloat)
  | text (s : String)
  | list (items : List Value)
  | object (fields : List (String × Value))

namespace Value

/-- The value of a key among the fields of an object. -/
def field? (key : String) (fields : List (String × Value)) : Option Value :=
  (fields.find? fun field => field.1 == key).map Prod.snd

/-- The word by which messages mention the sort of a value. -/
def sort : Value → String
  | null => "NoneType"
  | bool _ => "bool"
  | int _ => "int"
  | float _ => "float"
  | text _ => "str"
  | list _ => "list"
  | object _ => "dict"

mutual
/-- A value as messages spell it inside another value, where texts are quoted. -/
def spelledInside : Value → String
  | null => "None"
  | bool true => "True"
  | bool false => "False"
  | int n => toString n
  | float x => x.text
  | text s => Text.quoted s
  | list items => "[" ++ ", ".intercalate (spelledItems items) ++ "]"
  | object fields => "\x7b" ++ ", ".intercalate (spelledFields fields) ++ "\x7d"
/-- The items of a list as messages spell them. -/
def spelledItems : List Value → List String
  | [] => []
  | item :: items => spelledInside item :: spelledItems items
/-- The fields of an object as messages spell them. -/
def spelledFields : List (String × Value) → List String
  | [] => []
  | (key, value) :: fields => (Text.quoted key ++ ": " ++ spelledInside value) :: spelledFields fields
end

/-- A value as messages spell it: a text stands for itself. -/
def spelled : Value → String
  | text s => s
  | value => value.spelledInside

end Value

end JavaOutline.Data
