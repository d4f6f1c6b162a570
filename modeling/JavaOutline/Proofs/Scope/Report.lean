import JavaOutline.Entity.Basic
import JavaOutline.Proofs.Scope.Finality
import JavaOutline.Scope.Report

/-!
# What a report shows, and in which order

The items of a report are the headers of the scopes and the facts recorded in them. A report is
written by a recursion that hands an indentation down, while the queries go through the loop of a
walk, which knows no depth. `Scope.reportItems` lists the items with the level of each, and the lines
of a report are its items, each behind two blanks a level. The level is also found from below, by
counting the parents up to the scope that is reported, and so the report can be read off the walk:
each scope that it meets is shown at its own depth, and no item is dropped, repeated or moved.
-/

namespace JavaOutline

/-! ## Items -/

/-- What a line of a report shows. -/
inductive ReportItem where
  | header (opened : Header)
  | fact (recorded : Fact)
deriving DecidableEq, Repr

namespace ReportItem

/-- The text of an item, without indentation. -/
def text : ReportItem → String
  | header opened => opened.text
  | fact (.invocation made) => "Invoke: " ++ made.text
  | fact recorded => recorded.text

/-- Facts are shown one level further in than the header of their scope. -/
def level : ReportItem → Nat
  | header _ => 0
  | fact _ => 1

/-- The import that an item shows. -/
def import? : ReportItem → Option Import
  | fact (.importing declaration) => some declaration
  | _ => none

/-- The field that an item shows. -/
def field? : ReportItem → Option Field
  | fact (.field declared) => some declared
  | _ => none

/-- The invocation that an item shows. -/
def invocation? : ReportItem → Option Invocation
  | fact (.invocation made) => some made
  | _ => none

@[simp] theorem text_header (opened : Header) : (header opened).text = opened.text := rfl

@[simp] theorem text_importing (declaration : Import) :
    (fact (.importing declaration)).text = declaration.text := rfl

@[simp] theorem text_field (declared : Field) : (fact (.field declared)).text = declared.text := rfl

@[simp] theorem text_invocation (made : Invocation) :
    (fact (.invocation made)).text = "Invoke: " ++ made.text := rfl

@[simp] theorem level_header (opened : Header) : (header opened).level = 0 := rfl

@[simp] theorem level_fact (recorded : Fact) : (fact recorded).level = 1 := rfl

end ReportItem

namespace Contents

/-- The items of a scope without its children: the header, the imports, the fields and the
invocations. -/
def items (contents : Contents) : List ReportItem :=
  .header contents.header ::
    (contents.imports.map (fun declaration => .fact (.importing declaration)) ++
      contents.fields.map (fun declared => .fact (.field declared)) ++
      contents.invocations.map (fun made => .fact (.invocation made)))

/-- The lines of a scope show its items. -/
theorem reportLines_eq_map_items (indent : Int) (contents : Contents) :
    contents.reportLines indent =
      contents.items.map fun item => blanks (indent + 2 * item.level) ++ item.text := by
  simp [reportLines, items, Function.comp_def, String.append_assoc]

/-- What is picked from the items of a scope, sort by sort. -/
theorem filterMap_items {α : Type} (pick : ReportItem → Option α) (contents : Contents) :
    contents.items.filterMap pick =
      (pick (.header contents.header)).toList ++
        contents.imports.filterMap (fun declaration => pick (.fact (.importing declaration))) ++
        contents.fields.filterMap (fun declared => pick (.fact (.field declared))) ++
        contents.invocations.filterMap (fun made => pick (.fact (.invocation made))) := by
  rw [items, List.filterMap_cons, List.filterMap_append, List.filterMap_append,
    List.filterMap_map, List.filterMap_map, List.filterMap_map]
  cases pick (.header contents.header) <;> simp

end Contents

/-! ## Items of a whole scope -/

namespace Scope

/-- The items of a scope and of everything below it, in preorder, each with its level. -/
def reportItems (scope : Scope) : List (Nat × ReportItem) :=
  (scope.outline 0).flatMap fun entry =>
    entry.2.items.map fun item => (entry.1 + item.level, item)

/-- The lines of several scopes are those of each, one after the other. -/
theorem reportLinesAll_eq_flatMap (indent : Int) (scopes : List Scope) :
    reportLinesAll indent scopes = scopes.flatMap (reportLines indent) := by
  induction scopes with
  | nil => simp [reportLinesAll]
  | cons scope scopes ih => simp [reportLinesAll, ih]

/-- The recursion shows each scope at its depth. -/
theorem reportLines_eq_flatMap_outline (indent : Int) (depth : Nat) (scope : Scope) :
    reportLines (indent + 2 * depth) scope =
      (scope.outline depth).flatMap fun entry => entry.2.reportLines (indent + 2 * entry.1) := by
  induction scope using Tree.induct generalizing depth with
  | node contents children ih =>
    have hinner : indent + 2 * (depth : Int) + 2 = indent + 2 * ((depth + 1 : Nat) : Int) := by
      push_cast
      omega
    rw [reportLines, Tree.outline, List.flatMap_cons, Tree.outlineAll_eq_flatMap,
      reportLinesAll_eq_flatMap, List.flatMap_assoc, hinner]
    exact congrArg _ (List.flatMap_congr fun child hchild => ih child hchild (depth + 1))

/-- The lines of a report show its items, each behind two blanks a level. -/
theorem reportLines_eq_map_reportItems (indent : Int) (scope : Scope) :
    reportLines indent scope =
      scope.reportItems.map fun entry => blanks (indent + 2 * entry.1) ++ entry.2.text := by
  have hlines := reportLines_eq_flatMap_outline indent 0 scope
  rw [Int.natCast_zero, Int.mul_zero, Int.add_zero] at hlines
  rw [hlines, reportItems, List.map_flatMap]
  refine List.flatMap_congr fun entry _ => ?_
  rw [Contents.reportLines_eq_map_items, List.map_map]
  refine List.map_congr_left fun item _ => ?_
  rw [Function.comp_apply, show indent + 2 * (entry.1 : Int) + 2 * (item.level : Int) =
    indent + 2 * ((entry.1 + item.level : Nat) : Int) by push_cast; omega]

/-- What is picked from the items of each scope is picked from all items, in the order of a walk. -/
theorem filterMap_reportItems {α : Type} (pick : ReportItem → Option α) (scope : Scope) :
    scope.reportItems.filterMap (fun entry => pick entry.2) =
      scope.walk.flatMap fun visited => visited.label.items.filterMap pick := by
  have hlabels := Tree.map_snd_outline 0 scope
  rw [reportItems, List.filterMap_flatMap, Tree.walk_eq_subtrees]
  calc (scope.outline 0).flatMap (fun entry =>
        (entry.2.items.map fun item => (entry.1 + item.level, item)).filterMap
          fun entry => pick entry.2)
      = ((scope.outline 0).map Prod.snd).flatMap fun contents =>
          contents.items.filterMap pick := by
        rw [List.flatMap_map]
        refine List.flatMap_congr fun entry _ => ?_
        rw [List.filterMap_map, Function.comp_def]
    _ = scope.subtrees.flatMap fun visited => visited.label.items.filterMap pick := by
        rw [hlabels, List.flatMap_map]

/-- The imports of a report are all imports, in the order of the query. -/
theorem filterMap_import?_reportItems (scope : Scope) :
    scope.reportItems.filterMap (fun entry => entry.2.import?) = scope.allImports := by
  rw [filterMap_reportItems]
  simp [Contents.filterMap_items, ReportItem.import?, allImports]

/-- The fields of a report are all fields, in the order of the query. -/
theorem filterMap_field?_reportItems (scope : Scope) :
    scope.reportItems.filterMap (fun entry => entry.2.field?) = scope.allFields := by
  rw [filterMap_reportItems]
  simp [Contents.filterMap_items, ReportItem.field?, allFields]

/-- The invocations of a report are all invocations, in the order of the query. -/
theorem filterMap_invocation?_reportItems (scope : Scope) :
    scope.reportItems.filterMap (fun entry => entry.2.invocation?) = scope.allInvocations := by
  rw [filterMap_reportItems]
  simp [Contents.filterMap_items, ReportItem.invocation?, allInvocations]

end Scope

/-! ## Depths in a store -/

namespace Store

variable {store : Store} {id parent child : Nat}

/-- The scope that lists a scope among its children; it has a lower number. -/
def parent? (store : Store) (child : Nat) : Option Nat :=
  (List.range child).find? fun id => child ∈ store.childrenOf id

/-- A parent has a lower number. -/
theorem lt_of_parent?_eq_some (h : store.parent? child = some parent) : parent < child :=
  List.mem_range.mp (List.mem_of_find?_eq_some h)

/-- The number of steps from a scope up to another one, from parent to parent. -/
def depthBelow (store : Store) (id below : Nat) : Nat :=
  if below = id then 0
  else match hparent : store.parent? below with
    | none => 0
    | some parent => store.depthBelow id parent + 1
termination_by below
decreasing_by exact lt_of_parent?_eq_some hparent

/-- A scope is no step away from itself. -/
theorem depthBelow_self (store : Store) (id : Nat) : store.depthBelow id id = 0 := by
  rw [depthBelow, if_pos rfl]

/-- In a forest, the parent of a child is the scope that lists it. -/
theorem IsForest.parent?_eq_some (hforest : store.IsForest) (hchild : store.IsChild parent child) :
    store.parent? child = some parent := by
  have hmem : parent ∈ List.range child := List.mem_range.mpr (hforest.lt_child hchild)
  have hfound : (store.parent? child).isSome := by
    rw [parent?, List.find?_isSome]
    exact ⟨parent, hmem, decide_eq_true hchild⟩
  obtain ⟨other, hother⟩ := Option.isSome_iff_exists.mp hfound
  have hlists : store.IsChild other child := by
    simpa [IsChild] using List.find?_some hother
  rw [hother, hforest.parent_unique hlists hchild]

/-- A child of a scope that is reached is one step further away than the scope. -/
theorem IsForest.depthBelow_child (hforest : store.IsForest) (hreaches : store.Reaches id parent)
    (hchild : store.IsChild parent child) :
    store.depthBelow id child = store.depthBelow id parent + 1 := by
  have hne : child ≠ id := by
    have hle := hforest.le_of_reaches hreaches
    have hlt := hforest.lt_child hchild
    omega
  rw [depthBelow, if_neg hne]
  split
  · rename_i hnone
    rw [hforest.parent?_eq_some hchild] at hnone
    cases hnone
  · rename_i other hsome
    rw [hforest.parent?_eq_some hchild] at hsome
    cases hsome
    rfl

/-- If every child that is reached is one step deeper than its parent, the outline of the numbers
below a scope shows these depths. -/
theorem outline_numberTree {depth : Nat → Nat}
    (hdepth : ∀ parent child, store.Reaches id parent → store.IsChild parent child →
      depth child = depth parent + 1) (levels : Nat) :
    (store.numberTree levels id).outline (depth id) =
      (store.preorder levels id).map fun below => (depth below, below) := by
  induction levels generalizing id with
  | zero => rw [preorder_zero, numberTree, Tree.outline, Tree.outlineAll]; rfl
  | succ levels ih =>
    rw [preorder_succ, numberTree, Tree.outline, Tree.outlineAll_eq_flatMap, List.map_cons,
      List.flatMap_map, List.map_flatMap]
    refine congrArg _ (List.flatMap_congr fun child hchild => ?_)
    rw [← hdepth id child .refl hchild]
    exact ih fun parent below hparent => hdepth parent below (.head hchild hparent)

/-- In a forest, the outline of a scope goes along the walk, with the depth of each scope. -/
theorem IsForest.outline_scope (hforest : store.IsForest) (id : Nat) :
    (store.scope id).outline 0 =
      (store.walk id).map fun below => (store.depthBelow id below, store.contentsOf below) := by
  have hdepth : ∀ parent child, store.Reaches id parent → store.IsChild parent child →
      store.depthBelow id child = store.depthBelow id parent + 1 :=
    fun _ _ hparent hchild => hforest.depthBelow_child hparent hchild
  have hnumbers := outline_numberTree hdepth store.size
  rw [depthBelow_self] at hnumbers
  rw [scope, Tree.outline_map, hnumbers, walk_eq_preorder, List.map_map]
  rfl

end Store

/-- A machine gives the report if it can hold it. -/
theorem Scope.checkedReport_eq_ok_iff (indent : Int) (scope : Scope) (maxWidth : Nat)
    (text : String) :
    checkedReport indent scope maxWidth = .ok text ↔
      -(Int.pow 2 63) ≤ indent ∧ indent < Int.pow 2 63 ∧ widestIndent indent scope ≤ maxWidth ∧
        text = "\n".intercalate (reportLines indent scope) := by
  rw [checkedReport]
  split
  next hword =>
    have hword' : ¬ (-(Int.pow 2 63) ≤ indent ∧ indent < Int.pow 2 63) := by omega
    constructor
    · intro h
      cases h
    · rintro ⟨hlow, hhigh, _⟩
      exact absurd ⟨hlow, hhigh⟩ hword'
  next hword =>
    obtain ⟨hlow, hhigh⟩ : -(Int.pow 2 63) ≤ indent ∧ indent < Int.pow 2 63 := by omega
    split
    next hwide =>
      constructor
      · intro h
        cases h
      · rintro ⟨_, _, hwidth, _⟩
        omega
    next hwide =>
      rw [Except.ok.injEq, report]
      exact ⟨fun h => ⟨hlow, hhigh, Int.not_lt.mp hwide, h.symm⟩, fun h => h.2.2.2.symm⟩

/-- The report of a scope follows its walk. In the store after any calls, the loop from a scope ends,
and what it meets is its walk. The lines of the recursion, which have no limit on the indentation, are
those of the scopes that the walk meets, one after the other: the header behind as many blanks as its
depth asks for, and then the imports, the fields and the invocations, each two blanks further in. A
negative number of blanks is none. There is one line for each item, and the imports, the fields and the
invocations that the lines show are those that the queries give, in the same order. A machine gives
these lines, joined by newlines, or no text at all: none where the indentation is no signed 64-bit word
or the widest line has more blanks than there is room for. -/
theorem report_follows_walk (operations : List Operation) (id : Nat) (indent : Int) :
    let store := Store.empty.run operations
    let scope := store.scope id
    (∀ visited, store.Walks [id] visited ↔ visited = store.walk id) ∧
    scope.walk.map Tree.label = (store.walk id).map store.contentsOf ∧
    Scope.reportLines indent scope = ((store.walk id).flatMap fun below =>
      let contents := store.contentsOf below
      let margin := indent + 2 * (store.depthBelow id below : Int)
      (blanks (max 0 margin) ++ contents.header.text) ::
        (contents.imports.map (fun declaration =>
            blanks (max 0 (margin + 2)) ++ declaration.text) ++
          contents.fields.map (fun declared => blanks (max 0 (margin + 2)) ++ declared.text) ++
          contents.invocations.map (fun made =>
            blanks (max 0 (margin + 2)) ++ "Invoke: " ++ made.text))) ∧
    Scope.reportLines indent scope =
      (Scope.reportItems scope).map (fun entry =>
        blanks (max 0 (indent + 2 * (entry.1 : Int))) ++ entry.2.text) ∧
    (Scope.reportItems scope).filterMap (fun entry => entry.2.import?) = Scope.allImports scope ∧
    (Scope.reportItems scope).filterMap (fun entry => entry.2.field?) = Scope.allFields scope ∧
    (Scope.reportItems scope).filterMap (fun entry => entry.2.invocation?) =
      Scope.allInvocations scope ∧
    ∀ maxWidth text, Scope.checkedReport indent scope maxWidth = .ok text ↔
      -(Int.pow 2 63) ≤ indent ∧ indent < Int.pow 2 63 ∧
        Scope.widestIndent indent scope ≤ maxWidth ∧
        text = "\n".intercalate (Scope.reportLines indent scope) := by
  intro store scope
  have hforest : store.IsForest := (Store.wellFormed_empty.run operations).toIsForest
  have hmax (width : Int) : blanks (max 0 width) = blanks width := by
    rw [blanks, blanks, show (max 0 width).toNat = width.toNat by omega]
  refine ⟨hforest.walks_iff id, store.map_label_walk_scope id, ?_, ?_,
    Scope.filterMap_import?_reportItems scope, Scope.filterMap_field?_reportItems scope,
    Scope.filterMap_invocation?_reportItems scope, Scope.checkedReport_eq_ok_iff indent scope⟩
  · have hlines := Scope.reportLines_eq_flatMap_outline indent 0 scope
    rw [Int.natCast_zero, Int.mul_zero, Int.add_zero, hforest.outline_scope id, List.flatMap_map]
      at hlines
    rw [hlines]
    refine List.flatMap_congr fun below _ => ?_
    simp only [hmax, Contents.reportLines, List.cons_append]
  · simp only [hmax]
    exact Scope.reportLines_eq_map_reportItems indent scope

end JavaOutline
