import JavaOutline.Name

/-!
# Java types

A type is written either as a bare name, such as `String` or `int[]`, or as a name with type
arguments in angle brackets, such as `Map<Int, List<String>>`. Arguments are types again, to any
depth.
-/

namespace JavaOutline

/-- A type as it is written in a source text. -/
inductive JavaType where
  | plain (name : String)
  | generic (name : String) (arguments : List JavaType)
deriving Repr

namespace JavaType

mutual
/-- Decides whether two types are the same. -/
def decEq : (a b : JavaType) → Decidable (a = b)
  | plain m, plain n => decidable_of_iff (m = n) (by simp)
  | plain _, generic _ _ => .isFalse (by simp)
  | generic _ _, plain _ => .isFalse (by simp)
  | generic m as, generic n bs =>
    match decEqAll as bs with
    | .isTrue h => decidable_of_iff (m = n) (by simp [h])
    | .isFalse h => .isFalse (by simp [h])
/-- Decides whether two lists of types are the same. -/
def decEqAll : (as bs : List JavaType) → Decidable (as = bs)
  | [], [] => .isTrue rfl
  | [], _ :: _ => .isFalse (by simp)
  | _ :: _, [] => .isFalse (by simp)
  | a :: as, b :: bs =>
    match decEq a b, decEqAll as bs with
    | .isTrue h, .isTrue h' => .isTrue (by rw [h, h'])
    | .isFalse h, _ => .isFalse (by simp [h])
    | _, .isFalse h => .isFalse (by simp [h])
end

instance : DecidableEq JavaType := decEq

/-- The name, without any arguments. -/
def name : JavaType → String
  | plain name => name
  | generic name _ => name

mutual
/-- A type as reports show it. -/
def text : JavaType → String
  | plain name => name
  | generic name arguments => name ++ "<" ++ ", ".intercalate (texts arguments) ++ ">"
/-- The types of a list as reports show them. -/
def texts : List JavaType → List String
  | [] => []
  | type :: types => text type :: texts types
end

@[simp] theorem texts_eq_map (types : List JavaType) : texts types = types.map text := by
  induction types with
  | nil => simp [texts]
  | cons type types ih => simp [texts, ih]

mutual
/-- Every name in a type, at any depth, is a name. -/
def IsNamed : JavaType → Prop
  | plain name => IsName name
  | generic name arguments => IsName name ∧ AreNamed arguments
/-- Every name in every type of a list is a name. -/
def AreNamed : List JavaType → Prop
  | [] => True
  | type :: types => IsNamed type ∧ AreNamed types
end

end JavaType

end JavaOutline
