import JavaOutline.Name
import JavaOutline.Syntax.Node

/-!
# Scope headers

A scope is opened by a file, a package, a type, a record or a function, and its header says which
and carries the name and the text that reports show for it. Declarations without modifiers are
shown with the modifier `default`.
-/

namespace JavaOutline

/-- The eight kinds of scope. -/
inductive ScopeKind where
  | file
  | package
  | classType
  | interfaceType
  | enumType
  | record
  | function
  | constructor
deriving DecidableEq, Repr

namespace ScopeKind

/-- The word for a kind of scope. -/
def word : ScopeKind → String
  | file => "file"
  | package => "package"
  | classType => "class"
  | interfaceType => "interface"
  | enumType => "enum"
  | record => "record"
  | function => "function"
  | constructor => "constructor"

end ScopeKind

/-- The kind of scope that a type declaration opens. -/
def TypeSort.scopeKind : TypeSort → ScopeKind
  | classType => .classType
  | interfaceType => .interfaceType
  | enumType => .enumType

/-- The kind of scope that a function declaration opens. -/
def FunctionSort.scopeKind : FunctionSort → ScopeKind
  | method => .function
  | constructor => .constructor

/-- The modifiers of a declaration that has none. -/
def defaultModifiers : String := "default"

/-- The parameter list of a declaration that has none. -/
def emptyParameters : String := "()"

/-- What opens a scope. -/
inductive Header where
  | file
  | package (segments : List String)
  | type (sort : TypeSort) (modifiers name : String)
  | record (modifiers name parameters : String)
  | function (sort : FunctionSort) (modifiers name parameters returnType : String)
deriving DecidableEq, Repr

namespace Header

/-- The kind of scope that a header opens. -/
def kind : Header → ScopeKind
  | file => .file
  | package _ => .package
  | type sort _ _ => sort.scopeKind
  | record _ _ _ => .record
  | function sort _ _ _ _ => sort.scopeKind

/-- The name of a scope; a file has none. -/
def name : Header → String
  | file => ""
  | package segments => dotted segments
  | type _ _ name => name
  | record _ name _ => name
  | function _ _ name _ _ => name

/-- A header as reports show it. -/
def text : Header → String
  | file => "File"
  | package segments => "Package " ++ dotted segments
  | type sort modifiers name => modifiers ++ " " ++ sort.scopeKind.word ++ " " ++ name
  | record modifiers name parameters => modifiers ++ " record " ++ name ++ parameters
  | function sort modifiers name parameters returnType =>
    let signature := modifiers ++ " " ++ name ++ parameters
    match sort with
    | .method => signature ++ ": " ++ returnType
    | .constructor => signature

end Header

end JavaOutline
