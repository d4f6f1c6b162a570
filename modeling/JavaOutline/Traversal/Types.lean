import JavaOutline.Failure

/-!
# Reading types and names off a syntax tree

A type node is either a type without arguments, taken as its text, or a generic type, whose
children are read from left to right: the last name counts, and every list of type arguments adds
its types. A dotted name is read off the identifiers in it, however they are nested.
-/

namespace JavaOutline

mutual
/-- The type that a node stands for. -/
def readType (source : SourceText) : SyntaxTree → Except Failure JavaType
  | .node root children =>
    if root.kind = "generic_type" then do
      let (name?, arguments) ← readGenericParts source children
      match name? with
      | none => root.failAsType source
      | some name => (JavaType.genericOf name arguments).mapError .rejected
    else if isPlainType root.kind then do
      let name ← root.read source
      (JavaType.plainOf name).mapError .rejected
    else root.failAsType source
/-- The last name and all type arguments among the children of a generic type. -/
def readGenericParts (source : SourceText) :
    List SyntaxTree → Except Failure (Option String × List JavaType)
  | [] => .ok (none, [])
  | .node root children :: rest =>
    if isTypeName root.kind then do
      let name ← root.read source
      let (later?, arguments) ← readGenericParts source rest
      return (later?.or (some name), arguments)
    else if root.kind = "type_arguments" then do
      let own ← readTypes source children
      let (name?, arguments) ← readGenericParts source rest
      return (name?, own ++ arguments)
    else readGenericParts source rest
/-- The types in a list of type arguments, without punctuation and comments. -/
def readTypes (source : SourceText) : List SyntaxTree → Except Failure (List JavaType)
  | [] => .ok []
  | tree :: rest =>
    if isArgumentPunctuation tree.label.kind || isComment tree.label.kind then
      readTypes source rest
    else do
      let type ← readType source tree
      let types ← readTypes source rest
      return type :: types
end

mutual
/-- The segments of a name: its text, or the segments of the names in it. -/
def readSegments (source : SourceText) : SyntaxTree → Except Failure (List String)
  | .node root children =>
    if root.kind = "identifier" then do return [← root.read source]
    else readSegmentsAll source children
/-- The segments of all names in a list. -/
def readSegmentsAll (source : SourceText) : List SyntaxTree → Except Failure (List String)
  | [] => .ok []
  | tree :: rest =>
    if isNameNode tree.label.kind then do
      let own ← readSegments source tree
      let more ← readSegmentsAll source rest
      return own ++ more
    else readSegmentsAll source rest
end

end JavaOutline
