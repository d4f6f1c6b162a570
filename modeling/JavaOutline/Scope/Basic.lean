import JavaOutline.Fact
import JavaOutline.Header
import JavaOutline.Tree

/-!
# Scopes

A scope is a tree: each node holds a header, the facts recorded directly under it, in the order of
their recording, and whether it is finished. Queries flatten a scope in preorder. Those for scopes
leave out the scope that is asked; those for facts include its own.
-/

namespace JavaOutline

/-- What one scope holds, apart from its child scopes. -/
structure Contents where
  header : Header
  imports : List Import
  fields : List Field
  invocations : List Invocation
  frozen : Bool
deriving DecidableEq, Repr

namespace Contents

/-- A scope just opened: nothing recorded, and open to changes. -/
def fresh (header : Header) : Contents :=
  ⟨header, [], [], [], false⟩

/-- The contents with one fact more, last of its sort. -/
def record (contents : Contents) : Fact → Contents
  | .importing declaration => { contents with imports := contents.imports ++ [declaration] }
  | .field declared => { contents with fields := contents.fields ++ [declared] }
  | .invocation made => { contents with invocations := contents.invocations ++ [made] }

/-- The number of facts of the same sort as a given one. -/
def countLike (contents : Contents) : Fact → Nat
  | .importing _ => contents.imports.length
  | .field _ => contents.fields.length
  | .invocation _ => contents.invocations.length

/-- The same contents, closed to changes. -/
def freeze (contents : Contents) : Contents :=
  { contents with frozen := true }

/-- Whether two contents show the same; it does not matter whether they are frozen. -/
def same (a b : Contents) : Bool :=
  a.header == b.header && a.imports == b.imports && a.fields == b.fields
    && a.invocations == b.invocations

end Contents

/-- A scope with everything below it. -/
abbrev Scope := Tree Contents

namespace Scope

/-- The kind of a scope. -/
def kind (scope : Scope) : ScopeKind :=
  scope.label.header.kind

/-- The name of a scope. -/
def name (scope : Scope) : String :=
  scope.label.header.name

/-- A scope as queries show it. -/
def text (scope : Scope) : String :=
  scope.label.header.text

/-- Every scope below a scope, in preorder. -/
def descendants (scope : Scope) : List Scope :=
  scope.walk.tail

/-- The scopes of one kind below a scope. -/
def descendantsOfKind (kind : ScopeKind) (scope : Scope) : List Scope :=
  scope.descendants.filter fun below => Scope.kind below == kind

/-- Every import in a scope and below it. -/
def allImports (scope : Scope) : List Import :=
  scope.walk.flatMap fun visited => visited.label.imports

/-- Every field in a scope and below it. -/
def allFields (scope : Scope) : List Field :=
  scope.walk.flatMap fun visited => visited.label.fields

/-- Every invocation in a scope and below it. -/
def allInvocations (scope : Scope) : List Invocation :=
  scope.walk.flatMap fun visited => visited.label.invocations

mutual
/-- Whether two scopes show the same, child by child. -/
def same : Scope → Scope → Bool
  | .node a as, .node b bs => a.same b && sameAll as bs
/-- Whether two lists of scopes show the same, one by one. -/
def sameAll : List Scope → List Scope → Bool
  | [], [] => true
  | a :: as, b :: bs => same a b && sameAll as bs
  | _, _ => false
end

end Scope

end JavaOutline
