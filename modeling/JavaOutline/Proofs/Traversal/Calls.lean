import JavaOutline.Proofs.Scope.History
import JavaOutline.Traversal.Run

/-!
# A traversal as calls on its store

A traversal changes its store by calls only: it records facts and opens scopes, and it stops at the
first refusal. So everything that calls keep of a store holds of the store that a traversal leaves,
however it ends.
-/

namespace JavaOutline

namespace Progress

/-- Steps change the store by calls. -/
theorem perform_eq_run (scope : Nat) (steps : List Step) (progress : Progress) (opened : Nat) :
    ∃ operations, (perform scope steps progress opened).1.store =
      progress.store.run operations := by
  induction steps generalizing progress opened with
  | nil => exact ⟨[], rfl⟩
  | cons step steps ih =>
    cases step with
    | note message => exact ih _ _
    | record fact =>
      rw [perform]
      split
      · exact ⟨[], rfl⟩
      · rename_i store hrecord
        obtain ⟨operations, hrest⟩ := ih { progress with store } opened
        refine ⟨.record scope fact :: operations, ?_⟩
        rw [hrest, Store.run_cons, Store.perform, hrecord]
    | enter header =>
      rw [perform]
      split
      · exact ⟨[], rfl⟩
      · rename_i store child hopened
        obtain ⟨operations, hrest⟩ := ih { progress with store } child
        refine ⟨.openChild scope header :: operations, ?_⟩
        rw [hrest, Store.run_cons, Store.perform, hopened]

/-- A visit changes the store by calls. -/
theorem visit_eq_run (source : SourceText) (scope : Nat) (tree : SyntaxTree) (progress : Progress) :
    ∃ operations, (progress.visit source scope tree).1.store = progress.store.run operations := by
  obtain ⟨operations, hperform⟩ :=
    perform_eq_run scope (scriptOf source tree).steps progress scope
  refine ⟨operations, ?_⟩
  rw [← hperform, visit]
  split <;> simp_all

/-- A traversal changes the store by calls. -/
theorem traverse_eq_run (source : SourceText) (pending : List (Nat × SyntaxTree))
    (progress : Progress) :
    ∃ operations, (traverse source pending progress).1.store = progress.store.run operations := by
  fun_induction traverse source pending progress with
  | case1 progress => exact ⟨[], rfl⟩
  | case2 scope tree pending progress progress' failure opened hvisit =>
    obtain ⟨operations, hstep⟩ := progress.visit_eq_run source scope tree
    rw [hvisit] at hstep
    exact ⟨operations, hstep⟩
  | case3 scope tree pending progress progress' descent opened hvisit ih =>
    obtain ⟨operations, hstep⟩ := progress.visit_eq_run source scope tree
    obtain ⟨more, hrest⟩ := ih
    rw [hvisit] at hstep
    refine ⟨operations ++ more, ?_⟩
    rw [Store.run_append, ← hstep, hrest]

end Progress

/-- Filling a scope changes the store by calls. -/
theorem fill_eq_run (source : SourceText) (tree : SyntaxTree) (store : Store) (scope : Nat) :
    ∃ operations, (fill source tree store scope).1.store = store.run operations :=
  Progress.traverse_eq_run source [(scope, tree)] ⟨store, []⟩

namespace Store

variable {store : Store}

/-- Filling a scope takes no scope away. -/
theorem size_le_size_fill (source : SourceText) (tree : SyntaxTree) (store : Store) (scope : Nat) :
    store.size ≤ (fill source tree store scope).1.store.size := by
  obtain ⟨operations, hfill⟩ := fill_eq_run source tree store scope
  rw [hfill]
  exact size_le_size_run store operations

/-- Filling a scope leaves a well-formed store well-formed. -/
theorem WellFormed.fill (hstore : store.WellFormed) (source : SourceText) (tree : SyntaxTree)
    (scope : Nat) : (fill source tree store scope).1.store.WellFormed := by
  obtain ⟨operations, hfill⟩ := fill_eq_run source tree store scope
  rw [hfill]
  exact hstore.run operations

/-- A store with one root scope is well-formed. -/
theorem wellFormed_ofRoot (header : Header) : (Store.ofRoot header).WellFormed :=
  wellFormed_empty.run [.addRoot header]

end Store

end JavaOutline
