import JavaOutline.Traversal.Script

/-!
# Filling scopes from a syntax tree

A traversal visits the nodes of a syntax tree once, in preorder, and carries out what each calls for
in the scope that it belongs to. It keeps a list of pending trees, each with its scope, and goes on
until the list is empty or something fails; what was recorded before a failure stays recorded. Each
visit replaces a pending tree by some of its children, so the number of pending nodes goes down.
-/

namespace JavaOutline

/-- Where a traversal stands: the scopes so far and the journal of what was done. -/
structure Progress where
  store : Store
  journal : List String
deriving DecidableEq, Repr

/-- Carries out steps in a scope. The second number is the scope that was opened last, which is the
scope itself as long as none was; it is given back if no step is refused. -/
def Progress.perform (scope : Nat) :
    List Step → Progress → Nat → Progress × Except StoreError Nat
  | [], progress, opened => (progress, .ok opened)
  | .note message :: steps, progress, opened =>
    perform scope steps { progress with journal := progress.journal ++ [message] } opened
  | .record fact :: steps, progress, opened =>
    match progress.store.record scope fact with
    | .error error => (progress, .error error)
    | .ok store => perform scope steps { progress with store } opened
  | .enter header :: steps, progress, _ =>
    match progress.store.openChild scope header with
    | .error error => (progress, .error error)
    | .ok (store, child) => perform scope steps { progress with store } child

/-- The children of a node that a descent leads to, each with its scope. -/
def Descent.targets (scope opened : Nat) (children : List SyntaxTree) :
    Descent → List (Nat × SyntaxTree)
  | nowhere => []
  | around first => (children.drop first).map fun child => (scope, child)
  | inside first => (children.drop first).map fun child => (opened, child)

/-- No descent leads to more nodes than the node has below it. -/
theorem Descent.sizeAll_targets_le (scope opened : Nat) (children : List SyntaxTree)
    (descent : Descent) :
    Tree.sizeAll ((descent.targets scope opened children).map Prod.snd) ≤ Tree.sizeAll children := by
  cases descent with
  | nowhere => simp [targets]
  | around first => simpa [targets, Function.comp_def] using Tree.sizeAll_drop_le first children
  | inside first => simpa [targets, Function.comp_def] using Tree.sizeAll_drop_le first children

/-- Visits one node: carries out its script in a scope and finds the children to visit next. -/
def Progress.visit (source : SourceText) (scope : Nat) (tree : SyntaxTree) (progress : Progress) :
    Progress × Except Failure Descent × Nat :=
  let script := scriptOf source tree
  match progress.perform scope script.steps scope with
  | (progress, .error error) => (progress, .error (.refused error), scope)
  | (progress, .ok opened) => (progress, script.ending, opened)

/-- Visits pending trees until none is left or one fails. -/
def Progress.traverse (source : SourceText) :
    List (Nat × SyntaxTree) → Progress → Progress × Option Failure
  | [], progress => (progress, none)
  | (scope, tree) :: pending, progress =>
    match progress.visit source scope tree with
    | (progress, .error failure, _) => (progress, some failure)
    | (progress, .ok descent, opened) =>
      traverse source (descent.targets scope opened tree.children ++ pending) progress
termination_by pending => Tree.sizeAll (pending.map Prod.snd)
decreasing_by
  rw [List.map_append, Tree.sizeAll_append, List.map_cons, Tree.sizeAll_cons, Tree.size_eq tree]
  have h := Descent.sizeAll_targets_le scope opened tree.children descent
  omega

/-- Fills a scope of a store from a syntax tree. -/
def fill (source : SourceText) (tree : SyntaxTree) (store : Store) (scope : Nat) :
    Progress × Option Failure :=
  Progress.traverse source [(scope, tree)] ⟨store, []⟩

end JavaOutline
