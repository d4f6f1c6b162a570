import JavaOutline.JavaType

/-!
# Facts

What a scope records besides its child scopes: the imports, fields and invocations found directly
in it. Each has the text under which reports and logs show it.
-/

namespace JavaOutline

/-- An import; the last segment is the imported type or member, or the asterisk. -/
structure Import where
  segments : List String
  isStatic : Bool
deriving DecidableEq, Repr

namespace Import

/-- The segments joined by dots. -/
def qualifiedName (declaration : Import) : String :=
  dotted declaration.segments

/-- Whether the import names everything in a package or type. -/
def isWildcard (declaration : Import) : Bool :=
  declaration.segments.getLast? == some "*"

/-- An import as reports show it. -/
def text (declaration : Import) : String :=
  (if declaration.isStatic then "import static " else "import ") ++ declaration.qualifiedName

end Import

/-- A field of a type; its initializer is not part of it. -/
structure Field where
  modifiers : String
  identifier : String
  type : JavaType
deriving DecidableEq, Repr

/-- A field as reports show it. -/
def Field.text (field : Field) : String :=
  field.modifiers ++ " " ++ field.identifier ++ ": " ++ field.type.text

/-- A use of a function or of a constructor. -/
inductive Invocation where
  /-- A call: what stands before the path as text, the plain names up to the method's, and the
  argument list as text. -/
  | call (receiver : String) (path : List String) (arguments : String)
  /-- The creation of an object, with the argument list as text. -/
  | creation (type : JavaType) (arguments : String)
deriving DecidableEq, Repr

namespace Invocation

/-- The name of the method that a call goes to. -/
def methodName? : Invocation → Option String
  | call _ path _ => path.getLast?
  | creation _ _ => none

/-- An invocation as reports show it. -/
def text : Invocation → String
  | call receiver path arguments =>
    (if receiver = "" then dotted path else receiver ++ "." ++ dotted path) ++ arguments
  | creation type arguments => "new " ++ type.text ++ arguments

end Invocation

/-- Something that a scope records. -/
inductive Fact where
  | importing (declaration : Import)
  | field (declared : Field)
  | invocation (made : Invocation)
deriving DecidableEq, Repr

end JavaOutline
