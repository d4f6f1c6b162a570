import JavaOutline.Proofs.Traversal.Rules

/-!
# A traversal as a recursion

The plain reading of a traversal is a recursion on the tree: visit the node, stop if that fails, and
otherwise go through the children that its descent leads to, one after the other, each completely
before the next. The list of pending trees is what is left to do of that recursion, so a traversal
of any pending trees is the recursion on each of them in turn. Nothing is asked of the store: the
two agree on what is recorded and noted before a failure as well as without one.
-/

namespace JavaOutline.Progress

mutual
/-- Visits a tree in a scope: its root, and then its children from where the descent starts. -/
def recurse (source : SourceText) (scope : Nat) :
    SyntaxTree → Progress → Progress × Option Failure
  | .node label children, progress =>
    match progress.visit source scope (.node label children) with
    | (progress, .error failure, _) => (progress, some failure)
    | (progress, .ok .nowhere, _) => (progress, none)
    | (progress, .ok (.around first), _) => recurseFrom source scope first children progress
    | (progress, .ok (.inside first), opened) => recurseFrom source opened first children progress
/-- Visits the trees of a list from some position on, up to the first failure. -/
def recurseFrom (source : SourceText) (scope : Nat) :
    Nat → List SyntaxTree → Progress → Progress × Option Failure
  | _, [], progress => (progress, none)
  | first + 1, _ :: rest, progress => recurseFrom source scope first rest progress
  | 0, child :: rest, progress =>
    match recurse source scope child progress with
    | (progress, some failure) => (progress, some failure)
    | (progress, none) => recurseFrom source scope 0 rest progress
end

/-- Visits pending trees one after the other by recursion. -/
def recurseEach (source : SourceText) :
    List (Nat × SyntaxTree) → Progress → Progress × Option Failure
  | [], progress => (progress, none)
  | (scope, tree) :: pending, progress =>
    match recurse source scope tree progress with
    | (progress, some failure) => (progress, some failure)
    | (progress, none) => recurseEach source pending progress

/-- Starting at a position is leaving out what stands before it. -/
theorem recurseFrom_eq_recurseEach (source : SourceText) (scope first : Nat)
    (children : List SyntaxTree) (progress : Progress) :
    recurseFrom source scope first children progress =
      recurseEach source ((children.drop first).map fun child => (scope, child)) progress := by
  induction children generalizing first progress with
  | nil => simp [recurseFrom, recurseEach]
  | cons child rest ih =>
    cases first with
    | zero =>
      rw [recurseFrom, List.drop_zero, List.map_cons, recurseEach]
      split
      · rfl
      · exact ih 0 _
    | succ first =>
      rw [recurseFrom, List.drop_succ_cons]
      exact ih first progress

/-- One step of the recursion: the visit of the root, and then what its descent leads to. -/
theorem recurse_eq (source : SourceText) (scope : Nat) (tree : SyntaxTree) (progress : Progress) :
    recurse source scope tree progress =
      match progress.visit source scope tree with
      | (progress, .error failure, _) => (progress, some failure)
      | (progress, .ok descent, opened) =>
        recurseEach source (descent.targets scope opened tree.children) progress := by
  obtain ⟨label, children⟩ := tree
  rw [recurse]
  generalize progress.visit source scope (.node label children) = outcome
  obtain ⟨progress, failure | descent, opened⟩ := outcome
  · rfl
  · cases descent with
    | nowhere => rfl
    | around first => exact recurseFrom_eq_recurseEach ..
    | inside first => exact recurseFrom_eq_recurseEach ..

/-- Pending trees are done in two parts, the second only if the first does not fail. -/
theorem recurseEach_append (source : SourceText) (first second : List (Nat × SyntaxTree))
    (progress : Progress) :
    recurseEach source (first ++ second) progress =
      match recurseEach source first progress with
      | (progress, some failure) => (progress, some failure)
      | (progress, none) => recurseEach source second progress := by
  induction first generalizing progress with
  | nil => rfl
  | cons job first ih =>
    obtain ⟨scope, tree⟩ := job
    rw [List.cons_append, recurseEach, recurseEach]
    split
    · rfl
    · exact ih _

/-- The list of pending trees is what is left to do of the recursion. -/
theorem traverse_eq_recurseEach (source : SourceText) (pending : List (Nat × SyntaxTree))
    (progress : Progress) :
    traverse source pending progress = recurseEach source pending progress := by
  fun_induction traverse source pending progress with
  | case1 progress => rfl
  | case2 progress scope tree pending progress' failure opened hvisit =>
    rw [recurseEach, recurse_eq, hvisit]
  | case3 progress scope tree pending progress' descent opened hvisit ih =>
    rw [ih, recurseEach_append, recurseEach, recurse_eq, hvisit]

end JavaOutline.Progress
