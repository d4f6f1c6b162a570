import JavaOutline.Analysis
import JavaOutline.Proofs.Scope.Finality
import JavaOutline.Proofs.Traversal.Calls
import JavaOutline.Scope.Report

/-!
# The result of an analysis is final

A traversal changes its store by calls only: it records facts and opens scopes, and it stops at the
first refusal. So the store that an analysis ends with is one that calls on an empty store lead to,
and its last call freezes the root. Everything that is known of frozen scopes then holds of all
scopes of the result, and no later call can change any of them.
-/

namespace JavaOutline

/-- The store with the frozen outline of a source text. -/
def frozenStore (parser : Parser) (source : String) : Store :=
  (fill (.ofString source) (parser source).root (.ofRoot .file) 0).1.store.freeze 0

/-- Calls on an empty store lead to the frozen outline: a file is added as the root, the outline is
filled in, and the root is frozen. -/
theorem frozenStore_eq_run (parser : Parser) (source : String) :
    ∃ operations, frozenStore parser source =
      ((Store.empty.run [.addRoot .file]).run operations).run [.freeze 0] := by
  obtain ⟨operations, hfill⟩ := Progress.traverse_eq_run (.ofString source)
    [(0, (parser source).root)] ⟨.ofRoot .file, []⟩
  exact ⟨operations, congrArg (Store.freeze · 0) hfill⟩

/-- The root of the frozen outline is frozen. -/
theorem isFrozen_frozenStore (parser : Parser) (source : String) :
    (frozenStore parser source).IsFrozen 0 := by
  obtain ⟨operations, hstore⟩ := frozenStore_eq_run parser source
  have hsize := Store.size_le_size_run (Store.empty.run [.addRoot .file]) operations
  have hforest := (Store.wellFormed_empty.run [.addRoot .file]).run operations
  rw [hstore]
  refine Store.isFrozen_freeze_iff.mpr (.inr ⟨?_, hforest.mem_walk_iff.mpr .refl⟩)
  exact Nat.lt_of_lt_of_le Nat.one_pos hsize

/-- A successful analysis gives the frozen outline. -/
theorem analyze_eq_ok {grammar : Grammar} {source : String} {scope : Scope}
    (hok : (analyze grammar source).1 = .ok scope) :
    ∃ parser, grammar = .available parser ∧ (frozenStore parser source).scope 0 = scope := by
  cases grammar with
  | failed => cases hok
  | available parser =>
    refine ⟨parser, rfl, ?_⟩
    unfold frozenStore
    cases hfill : fill (.ofString source) (parser source).root (.ofRoot .file) 0 with
    | mk progress failure? =>
      cases failure? with
      | none =>
        rw [analyze_of_fill_eq_none hfill] at hok
        cases hok
        rfl
      | some failure =>
        rw [analyze_of_fill_eq_some hfill] at hok
        cases hok

/-- An analysis whose traversal does not fail gives the frozen outline. -/
theorem analyze_eq_ok_of_fill {parser : Parser} {source : String}
    (hfill : (fill (.ofString source) (parser source).root (.ofRoot .file) 0).2 = none) :
    (analyze (.available parser) source).1 = .ok ((frozenStore parser source).scope 0) := by
  rw [analyze_of_fill_eq_none (Prod.ext rfl hfill)]
  rfl

/-- Frozen scopes are final. After any calls, a frozen scope and everything below it stays as it is
under all further calls: the same scopes in the same order with the same slots, so the same reports,
answers to queries and comparisons. It refuses every change with the complaint that it is frozen; an
open scope refuses a file below it. A refused call leaves the store as it is. A freeze sets the
mark of the scope and of everything below it and changes nothing else, and a second one changes
nothing. The result of an analysis is read off such a store: all its scopes are frozen, and no calls
can change them. -/
theorem frozen_scopes_are_final (operations : List Operation) :
    let store := Store.empty.run operations
    (∀ id, store.IsFrozen id →
      (∀ later, let changed := store.run later
        changed.walk id = store.walk id ∧
        (∀ below ∈ store.walk id, changed.slots[below]? = store.slots[below]?) ∧
        changed.scope id = store.scope id ∧
        (∀ indent, (changed.scope id).report indent = (store.scope id).report indent) ∧
        (∀ kind, (changed.scope id).descendantsOfKind kind =
          (store.scope id).descendantsOfKind kind) ∧
        (changed.scope id).allImports = (store.scope id).allImports ∧
        (changed.scope id).allFields = (store.scope id).allFields ∧
        (changed.scope id).allInvocations = (store.scope id).allInvocations ∧
        ∀ other, store.IsFrozen other →
          (changed.scope id).same (changed.scope other) =
            (store.scope id).same (store.scope other)) ∧
      ∃ header, store.header? id = some header ∧
        (∀ opened, store.openChild id opened = .error (.frozen header)) ∧
        ∀ fact, store.record id fact = .error (.frozen header)) ∧
    (∀ id < store.size, ¬ store.IsFrozen id → store.openChild id .file = .error .nestedFile) ∧
    (∀ operation error, (store.perform operation).2 = .refused error →
      (store.perform operation).1 = store) ∧
    (∀ id,
      (∀ other, other ∈ store.walk id ↔ other = id ∨ store.IsBelow id other) ∧
      (∀ other, (store.freeze id).slots[other]? =
        store.slots[other]?.map fun slot => if other ∈ store.walk id then slot.freeze else slot) ∧
      (store.freeze id).freeze id = store.freeze id) ∧
    ∀ grammar source scope, (analyze grammar source).1 = .ok scope →
      ∃ parser calls, grammar = .available parser ∧
        let result := frozenStore parser source
        result = Store.empty.run calls ∧ result.scope 0 = scope ∧
        (∀ visited ∈ scope.walk, visited.label.frozen = true) ∧
        (∀ id ∈ result.walk 0, result.IsFrozen id ∧
          ∀ later, (result.run later).slots[id]? = result.slots[id]?) ∧
        ∀ later, (result.run later).scope 0 = scope := by
  intro store
  have hstore : store.WellFormed := Store.wellFormed_empty.run operations
  refine ⟨?_, ?_, fun _ _ => Store.perform_refused, ?_, ?_⟩
  · intro id hfrozen
    refine ⟨fun later => ?_, hfrozen.refuses⟩
    obtain ⟨hwalk, hscope⟩ := hstore.scope_run hfrozen later
    refine ⟨hwalk, ?_, hscope, ?_⟩
    · intro below hbelow
      exact (hstore.isFrozen_of_reaches hfrozen (hstore.mem_walk_iff.mp hbelow)).getElem?_run later
    · rw [hscope]
      refine ⟨fun _ => rfl, fun _ => rfl, rfl, rfl, rfl, fun other hother => ?_⟩
      rw [(hstore.scope_run hother later).2]
  · intro id hsize hopen
    exact ((Store.isOpen_iff_not_isFrozen hsize).mpr hopen).openChild_file
  · intro id
    refine ⟨fun other => ?_, store.getElem?_freeze id, store.freeze_freeze id⟩
    rw [hstore.mem_walk_iff, Store.reaches_iff]
  · intro grammar source scope hok
    obtain ⟨parser, rfl, rfl⟩ := analyze_eq_ok hok
    obtain ⟨filling, hresult⟩ := frozenStore_eq_run parser source
    rw [← Store.run_append, ← Store.run_append] at hresult
    have hresultStore : (frozenStore parser source).WellFormed := by
      rw [hresult]
      exact Store.wellFormed_empty.run _
    have hroot := isFrozen_frozenStore parser source
    have hall (id : Nat) (hid : id ∈ (frozenStore parser source).walk 0) :
        (frozenStore parser source).IsFrozen id :=
      hresultStore.isFrozen_of_reaches hroot (hresultStore.mem_walk_iff.mp hid)
    refine ⟨parser, _, rfl, hresult, rfl, ?_, ?_, ?_⟩
    · intro visited hvisited
      have hlabel := List.mem_map_of_mem (f := Tree.label) hvisited
      rw [Store.map_label_walk_scope] at hlabel
      obtain ⟨id, hid, hcontents⟩ := List.mem_map.mp hlabel
      rw [← hcontents]
      exact (hall id hid).frozen_contentsOf
    · intro id hid
      exact ⟨hall id hid, (hall id hid).getElem?_run⟩
    · intro later
      exact (hresultStore.scope_run hroot later).2

end JavaOutline
