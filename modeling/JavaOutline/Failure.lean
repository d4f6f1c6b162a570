import JavaOutline.Entity.Basic
import JavaOutline.Scope.Store
import JavaOutline.Source.Lines

/-!
# Failures of an analysis

What can go wrong between a syntax tree and its outline. A span can fail to fit the source or cut a
character in two, a type can be written in a way that is not understood, a name can turn out blank,
and the scope to fill can be frozen.
-/

namespace JavaOutline

/-- Why a syntax tree has no outline. -/
inductive Failure where
  /-- The text of a node cannot be read. -/
  | unreadable (error : ReadError)
  /-- A node stands where a type should and is none; its kind, text and row. -/
  | unrecognizedType (kind text : String) (row : Int)
  /-- Something read off the source is no proper entity. -/
  | rejected (rejection : Rejection)
  /-- The scope cannot be changed. -/
  | refused (error : StoreError)
deriving DecidableEq, Repr

namespace Failure

/-- The text of a failure of the analysis proper; the other failures are reported in ways of
their own. -/
def analysisMessage? : Failure → Option String
  | unreadable (.malformed fault) => some fault.message
  | unrecognizedType kind text row =>
    some s!"Unrecognized type syntax '{kind}' at line {row + 1}: {text}"
  | _ => none

end Failure

/-- The text of a node. -/
def SyntaxNode.read (source : SourceText) (node : SyntaxNode) : Except Failure String :=
  (source.extract node.kind node.span).mapError .unreadable

/-- Fails because a node is no type. -/
def SyntaxNode.failAsType {α : Type} (source : SourceText) (node : SyntaxNode) :
    Except Failure α := do
  let text ← node.read source
  .error (.unrecognizedType node.kind text node.span.start.row)

end JavaOutline
