import JavaOutline.Source.Span
import JavaOutline.Tree

/-!
# Syntax trees and node kinds

A syntax tree is what the Java parser makes of a source text: each node has a kind, named by a
word of the grammar, and a span. Only a few kinds mean something here. `Construct` sorts the
kinds that start a declaration or an expression of interest; the predicates below name the parts
that such a construct is made of. Every other kind is passed through.
-/

namespace JavaOutline

/-- One node of a syntax tree, without its children. -/
structure SyntaxNode where
  kind : String
  span : Span
deriving DecidableEq, Repr

/-- A syntax tree: nodes in the order of the source. -/
abbrev SyntaxTree := Tree SyntaxNode

namespace SyntaxTree

/-- The kind of the root node. -/
def kind (tree : SyntaxTree) : String :=
  tree.label.kind

/-- The span of the root node. -/
def span (tree : SyntaxTree) : Span :=
  tree.label.span

end SyntaxTree

/-- The three sorts of declaration that share one shape of header. -/
inductive TypeSort where
  | classType
  | interfaceType
  | enumType
deriving DecidableEq, Repr

/-- The two sorts of function. -/
inductive FunctionSort where
  | method
  | constructor
deriving DecidableEq, Repr

/-- What a node stands for. -/
inductive Construct where
  | packageDeclaration
  | importDeclaration
  | typeDeclaration (sort : TypeSort)
  | recordDeclaration
  | fieldDeclaration
  | functionDeclaration (sort : FunctionSort)
  | methodInvocation
  | objectCreation
  /-- A node of no interest of its own. -/
  | other
deriving DecidableEq, Repr

/-- What a node of a given kind stands for. -/
def Construct.ofKind : String → Construct
  | "package_declaration" => packageDeclaration
  | "import_declaration" => importDeclaration
  | "class_declaration" => typeDeclaration .classType
  | "interface_declaration" => typeDeclaration .interfaceType
  | "enum_declaration" => typeDeclaration .enumType
  | "record_declaration" => recordDeclaration
  | "field_declaration" => fieldDeclaration
  | "constant_declaration" => fieldDeclaration
  | "method_declaration" => functionDeclaration .method
  | "constructor_declaration" => functionDeclaration .constructor
  | "method_invocation" => methodInvocation
  | "object_creation_expression" => objectCreation
  | _ => other

/-! ## Parts of a construct -/

/-- A comment, which may stand between any two nodes. -/
def isComment (kind : String) : Bool :=
  kind == "line_comment" || kind == "block_comment"

/-- A name, plain or dotted. -/
def isNameNode (kind : String) : Bool :=
  kind == "identifier" || kind == "scoped_identifier"

/-- The body of a type or record declaration. -/
def isDeclarationBody (kind : String) : Bool :=
  kind == "class_body" || kind == "interface_body" || kind == "enum_body"
    || kind == "annotation_type_body"

/-- An annotation. -/
def isAnnotationNode (kind : String) : Bool :=
  kind == "annotation" || kind == "marker_annotation"

/-- An expression before the dot of a call that is kept as text. -/
def isReceiver (kind : String) : Bool :=
  kind == "field_access" || kind == "this" || kind == "super"

/-- The name of a type, plain or dotted. -/
def isTypeName (kind : String) : Bool :=
  kind == "type_identifier" || kind == "scoped_type_identifier"

/-- A type written without type arguments. -/
def isPlainType (kind : String) : Bool :=
  isTypeName kind || kind == "integral_type" || kind == "floating_point_type"
    || kind == "boolean_type" || kind == "void_type" || kind == "array_type" || kind == "wildcard"

/-- Any type. -/
def isTypeNode (kind : String) : Bool :=
  isPlainType kind || kind == "generic_type"

/-- A token between type arguments that is no type. -/
def isArgumentPunctuation (kind : String) : Bool :=
  kind == "<" || kind == ">" || kind == ","

end JavaOutline
