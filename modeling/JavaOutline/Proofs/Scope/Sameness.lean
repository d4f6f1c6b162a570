import JavaOutline.Proofs.Scope.Queries
import JavaOutline.Proofs.Scope.Report

/-!
# When two scopes show the same

Scopes are compared by going down both of them at once, child by child, without a look at whether
they are frozen. That is to compare them after all marks are cleared: `Scope.thawed` is a scope with
its marks cleared, and two scopes show the same if these are equal. A report and the answers to
queries can be had from the thawed scope just as well, so they agree for scopes that show the same.

A scope is also known by one flat list, its `Scope.summary`: along the walk, what each scope shows and
how many children it has. Read from its end, with the trees that are finished kept on a stack, such a
list gives the tree back, since each entry says how many of these trees belong to it.
-/

namespace JavaOutline

/-! ## Trees as lists -/

namespace Tree

universe u

variable {α : Type u}

/-- The labels of a tree in preorder, each with the number of its children. -/
def countedLabels (tree : Tree α) : List (α × Nat) :=
  tree.walk.map fun below => (below.label, below.children.length)

/-- The trees that a list of labels and numbers of children stands for, one after the other. -/
def ofCountedLabels : List (α × Nat) → List (Tree α)
  | [] => []
  | (label, count) :: rest =>
    .node label ((ofCountedLabels rest).take count) :: (ofCountedLabels rest).drop count

/-- The root comes first, and then each child in turn. -/
theorem countedLabels_node (label : α) (children : List (Tree α)) :
    (node label children).countedLabels =
      (label, children.length) :: children.flatMap countedLabels := by
  rw [countedLabels, walk_eq_cons_flatMap, List.map_cons, List.map_flatMap]
  rfl

/-- A tree is read back off its labels, whatever stands behind them. -/
theorem ofCountedLabels_append (tree : Tree α) (rest : List (α × Nat)) :
    ofCountedLabels (tree.countedLabels ++ rest) = tree :: ofCountedLabels rest := by
  induction tree using induct generalizing rest with
  | node label children ih =>
    have hchildren : ofCountedLabels (children.flatMap countedLabels ++ rest) =
        children ++ ofCountedLabels rest := by
      induction children with
      | nil => rfl
      | cons child children ihChildren =>
        rw [List.forall_mem_cons] at ih
        rw [List.flatMap_cons, List.append_assoc, ih.1, ihChildren ih.2, List.cons_append]
    rw [countedLabels_node, List.cons_append, ofCountedLabels, hchildren, List.take_left,
      List.drop_left]

/-- Trees with the same labels and numbers of children are the same. -/
theorem countedLabels_injective :
    Function.Injective (countedLabels : Tree α → List (α × Nat)) := by
  intro first second hsame
  have hread (tree : Tree α) : ofCountedLabels tree.countedLabels = [tree] := by
    have h := ofCountedLabels_append tree []
    rwa [List.append_nil] at h
  have htrees : [first] = [second] := by rw [← hread first, ← hread second, hsame]
  exact (List.cons.inj htrees).1

/-- Relabelling a tree relabels its listing and changes no number of children. -/
theorem countedLabels_map {β : Type u} (f : α → β) (tree : Tree α) :
    (tree.map f).countedLabels = tree.countedLabels.map fun entry => (f entry.1, entry.2) := by
  rw [countedLabels, countedLabels, walk_eq_subtrees, walk_eq_subtrees, subtrees_map, List.map_map,
    List.map_map]
  refine List.map_congr_left fun below _ => ?_
  simp

end Tree

/-! ## Cleared marks -/

/-- The same contents, open to changes. -/
def Contents.thaw (contents : Contents) : Contents :=
  { contents with frozen := false }

/-- Two contents show the same if they are equal but for their marks. -/
theorem Contents.same_iff {first second : Contents} :
    first.same second = true ↔ first.thaw = second.thaw := by
  simp [same, thaw, and_assoc]

namespace Scope

/-- A scope with the marks of everything in it cleared. -/
def thawed (scope : Scope) : Scope :=
  scope.map Contents.thaw

/-- Two lists of scopes show the same if the scopes in them do, one by one. -/
theorem sameAll_iff_of_same {first second : List Scope}
    (hsame : ∀ scope ∈ first, ∀ other, Scope.same scope other = true ↔ thawed scope = thawed other) :
    sameAll first second = true ↔ first.map thawed = second.map thawed := by
  induction first generalizing second with
  | nil => cases second <;> simp [sameAll]
  | cons scope first ih =>
    rw [List.forall_mem_cons] at hsame
    cases second with
    | nil => simp [sameAll]
    | cons other second =>
      rw [sameAll, Bool.and_eq_true, hsame.1, ih hsame.2, List.map_cons, List.map_cons,
        List.cons.injEq]

/-- Two scopes show the same if they are equal once all marks are cleared. -/
theorem same_iff_thawed_eq (first second : Scope) :
    Scope.same first second = true ↔ thawed first = thawed second := by
  induction first using Tree.induct generalizing second with
  | node contents children ih =>
    cases second with
    | node contents' children' =>
      rw [same, Bool.and_eq_true, Contents.same_iff, sameAll_iff_of_same ih, thawed, thawed,
        Tree.map, Tree.map, Tree.mapAll_eq_map, Tree.mapAll_eq_map, Tree.node.injEq]
      exact Iff.rfl

/-- Two lists of scopes show the same if they are equal once all marks are cleared. -/
theorem sameAll_iff_map_thawed_eq (first second : List Scope) :
    sameAll first second = true ↔ first.map thawed = second.map thawed :=
  sameAll_iff_of_same fun scope _ other => same_iff_thawed_eq scope other

/-! ## Reports and queries of a thawed scope -/

/-- A walk meets the same scopes, thawed. -/
theorem walk_thawed (scope : Scope) : (thawed scope).walk = scope.walk.map thawed := by
  rw [thawed, Tree.walk_eq_subtrees, Tree.subtrees_map, Tree.walk_eq_subtrees]
  rfl

/-- A thawed scope is reported like the scope. -/
theorem reportLines_thawed (indent : Int) (scope : Scope) :
    reportLines indent (thawed scope) = reportLines indent scope := by
  rw [reportLines_eq_map_reportItems, reportLines_eq_map_reportItems, reportItems, reportItems,
    thawed, Tree.outline_map, List.flatMap_map]
  rfl

/-- A thawed scope is reported like the scope, as far as there is room. -/
theorem checkedReport_thawed (indent : Int) (scope : Scope) (maxWidth : Nat) :
    checkedReport indent (thawed scope) maxWidth = checkedReport indent scope maxWidth := by
  rw [checkedReport, checkedReport, report, report, reportLines_thawed, widestIndent, widestIndent,
    thawed, Tree.height_map]

/-- What is collected along a walk is the same for a thawed scope if no mark is looked at. -/
theorem flatMap_walk_thawed {α : Type} (collect : Contents → List α)
    (hcollect : ∀ contents, collect contents.thaw = collect contents) (scope : Scope) :
    (thawed scope).walk.flatMap (fun visited => collect visited.label) =
      scope.walk.flatMap fun visited => collect visited.label := by
  rw [walk_thawed, List.flatMap_map]
  refine List.flatMap_congr fun visited _ => ?_
  rw [thawed, Tree.label_map, hcollect]

/-- A query for scopes gives the same scopes, thawed. -/
theorem descendantsOfKind_thawed (kind : ScopeKind) (scope : Scope) :
    descendantsOfKind kind (thawed scope) = (descendantsOfKind kind scope).map thawed := by
  rw [descendantsOfKind, descendantsOfKind, descendants, descendants, walk_thawed, ← List.map_tail,
    List.filter_map]
  refine congrArg _ (List.filter_congr fun below _ => ?_)
  rw [Function.comp_apply, Scope.kind, thawed, Tree.label_map]
  rfl

/-! ## Summaries -/

/-- Along the walk of a scope: the header, the imports, the fields and the invocations of each scope,
and the number of its children. -/
def summary (scope : Scope) :
    List (Header × List Import × List Field × List Invocation × Nat) :=
  scope.walk.map fun visited =>
    (visited.label.header, visited.label.imports, visited.label.fields, visited.label.invocations,
      visited.children.length)

/-- The summary of a scope can be read off the labels of the thawed scope. -/
theorem summary_eq_map_countedLabels (scope : Scope) :
    summary scope = (thawed scope).countedLabels.map fun entry =>
      (entry.1.header, entry.1.imports, entry.1.fields, entry.1.invocations, entry.2) := by
  rw [thawed, Tree.countedLabels_map, Tree.countedLabels, List.map_map, List.map_map]
  rfl

/-- The labels of the thawed scope can be read off the summary of a scope. -/
theorem countedLabels_thawed (scope : Scope) :
    (thawed scope).countedLabels = (summary scope).map fun entry =>
      match entry with
      | (header, imports, fields, invocations, count) =>
        (⟨header, imports, fields, invocations, false⟩, count) := by
  rw [thawed, Tree.countedLabels_map, Tree.countedLabels, List.map_map, summary, List.map_map]
  rfl

/-- Two scopes show the same if they have the same summary. -/
theorem same_iff_summary_eq (first second : Scope) :
    Scope.same first second = true ↔ summary first = summary second := by
  rw [same_iff_thawed_eq]
  constructor
  · intro hsame
    rw [summary_eq_map_countedLabels, hsame, ← summary_eq_map_countedLabels]
  · intro hsummary
    apply Tree.countedLabels_injective
    rw [countedLabels_thawed, hsummary, ← countedLabels_thawed]

end Scope

/-! ## Sameness in a store -/

namespace Store

variable {store : Store}

/-- The contents of a scope after a freeze. -/
theorem thaw_contentsOf_freeze (store : Store) (id other : Nat) :
    ((store.freeze id).contentsOf other).thaw = (store.contentsOf other).thaw := by
  rw [contentsOf, contents?, getElem?_freeze, contentsOf, contents?]
  cases store.slots[other]? with
  | none => rfl
  | some slot => by_cases hmem : other ∈ store.walk id <;> simp [hmem, Slot.freeze, Contents.thaw,
      Contents.freeze]

/-- A freeze changes nothing but marks. -/
theorem thawed_scope_freeze (store : Store) (id other : Nat) :
    Scope.thawed ((store.freeze id).scope other) = Scope.thawed (store.scope other) := by
  have hnumbers : (store.freeze id).numberTree store.size other = store.numberTree store.size other :=
    numberTree_congr (fun below _ => childrenOf_freeze store id below) store.size
  rw [Scope.thawed, Scope.thawed, scope, scope, size_freeze, hnumbers, Tree.map_map, Tree.map_map]
  refine congrArg (fun relabel => (store.numberTree store.size other).map relabel) ?_
  funext below
  exact thaw_contentsOf_freeze store id below

/-- The summary of a scope goes along the walk of its number. -/
theorem IsForest.summary_scope (hforest : store.IsForest) (id : Nat) :
    Scope.summary (store.scope id) = (store.walk id).map fun below =>
      let contents := store.contentsOf below
      (contents.header, contents.imports, contents.fields, contents.invocations,
        (store.childrenOf below).length) := by
  rw [Scope.summary, hforest.walk_scope, List.map_map]
  refine List.map_congr_left fun below _ => ?_
  rw [Function.comp_apply, label_scope, hforest.children_scope, List.length_map]

end Store

/-- Two scopes show the same exactly if they have the same summary. The summary of a scope in the store
after any calls goes along its walk and shows, for each scope, its header, its imports, fields and
invocations, and the number of its children. To show the same is an equivalence. It leaves marks out:
it is to be equal once all marks are cleared, and a freeze anywhere makes no difference. Scopes that
show the same have the same report for every indentation, also if there is no room for it, and queries
give the same facts for both, and scopes that show the same. -/
theorem same_exactly_if_same_summary :
    (∀ first second : Scope,
      Scope.same first second = true ↔ Scope.summary first = Scope.summary second) ∧
    (∀ operations id, let store := Store.empty.run operations
      Scope.summary (store.scope id) = (store.walk id).map fun below =>
        let contents := store.contentsOf below
        (contents.header, contents.imports, contents.fields, contents.invocations,
          (store.childrenOf below).length)) ∧
    Equivalence (fun first second : Scope => Scope.same first second = true) ∧
    (∀ first second : Scope, Scope.same first second = true ↔
      first.map Contents.thaw = second.map Contents.thaw) ∧
    (∀ operations frozen id, let store := Store.empty.run operations
      Scope.same ((store.freeze frozen).scope id) (store.scope id) = true) ∧
    ∀ first second : Scope, Scope.same first second = true →
      (∀ indent, Scope.reportLines indent first = Scope.reportLines indent second ∧
        Scope.report indent first = Scope.report indent second ∧
        ∀ maxWidth, Scope.checkedReport indent first maxWidth =
          Scope.checkedReport indent second maxWidth) ∧
      Scope.allImports first = Scope.allImports second ∧
      Scope.allFields first = Scope.allFields second ∧
      Scope.allInvocations first = Scope.allInvocations second ∧
      ∀ kind, Scope.sameAll (Scope.descendantsOfKind kind first)
        (Scope.descendantsOfKind kind second) = true := by
  refine ⟨Scope.same_iff_summary_eq, ?_, ?_, Scope.same_iff_thawed_eq, ?_, ?_⟩
  · intro operations id
    exact (Store.wellFormed_empty.run operations).summary_scope id
  · constructor
    · intro scope
      exact (Scope.same_iff_summary_eq scope scope).mpr rfl
    · intro first second hsame
      rw [Scope.same_iff_summary_eq] at hsame ⊢
      exact hsame.symm
    · intro first second third hfirst hsecond
      rw [Scope.same_iff_summary_eq] at hfirst hsecond ⊢
      exact hfirst.trans hsecond
  · intro operations frozen id
    rw [Scope.same_iff_thawed_eq]
    exact Store.thawed_scope_freeze (Store.empty.run operations) frozen id
  · intro first second hsame
    rw [Scope.same_iff_thawed_eq] at hsame
    have hlines (indent : Int) :
        Scope.reportLines indent first = Scope.reportLines indent second := by
      rw [← Scope.reportLines_thawed, hsame, Scope.reportLines_thawed]
    -- no query looks at marks, so both sides are collected from the one thawed scope
    have hfacts {α : Type} (collect : Contents → List α)
        (hcollect : ∀ contents, collect contents.thaw = collect contents) :
        first.walk.flatMap (fun visited => collect visited.label) =
          second.walk.flatMap fun visited => collect visited.label := by
      rw [← Scope.flatMap_walk_thawed collect hcollect, hsame,
        Scope.flatMap_walk_thawed collect hcollect]
    refine ⟨?_, hfacts Contents.imports fun _ => rfl, hfacts Contents.fields fun _ => rfl,
      hfacts Contents.invocations fun _ => rfl, ?_⟩
    · intro indent
      refine ⟨hlines indent, ?_, fun maxWidth => ?_⟩
      · rw [Scope.report, hlines, Scope.report]
      · rw [← Scope.checkedReport_thawed, hsame, Scope.checkedReport_thawed]
    · intro kind
      rw [Scope.sameAll_iff_map_thawed_eq, ← Scope.descendantsOfKind_thawed, hsame,
        Scope.descendantsOfKind_thawed]

end JavaOutline
