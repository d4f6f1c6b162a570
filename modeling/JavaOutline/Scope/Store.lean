import JavaOutline.Scope.Basic

/-!
# Scopes under construction

While scopes are being filled they live in a store, numbered in the order in which they were
opened; a scope refers to its children by number. A scope can be opened below another, a fact can
be recorded in a scope, and a scope can be frozen together with everything below it. A frozen scope
refuses every change, and a file can only be at the root. A refused change leaves the store as it
was.

`Store.scope` reads the tree below a number off the store. Children are always numbered higher than
their parent, so as many levels as the store has scopes are enough to reach everything.
-/

namespace JavaOutline

/-- A scope in a store: its contents and the numbers of its children, in the order of opening. -/
structure Slot where
  contents : Contents
  children : List Nat
deriving DecidableEq, Repr

/-- Scopes under construction, by number. -/
structure Store where
  slots : Array Slot
deriving DecidableEq, Repr

/-- Why a store refuses a change. -/
inductive StoreError where
  | unknownScope (id : Nat)
  | frozen (header : Header)
  | nestedFile
deriving DecidableEq, Repr

/-- The text of a refusal. -/
def StoreError.message : StoreError → String
  | unknownScope id => s!"There is no scope {id}"
  | frozen header => "Scope '" ++ header.text ++ "' is frozen"
  | nestedFile => "A file scope can only be the root of a scope tree"

namespace Store

/-- A store without scopes. -/
def empty : Store :=
  ⟨#[]⟩

/-- The number of scopes, which is the number that the next one gets. -/
def size (store : Store) : Nat :=
  store.slots.size

/-- The contents of a scope. -/
def contents? (store : Store) (id : Nat) : Option Contents :=
  store.slots[id]?.map Slot.contents

/-- The children of a scope. -/
def childrenOf (store : Store) (id : Nat) : List Nat :=
  match store.slots[id]? with
  | some slot => slot.children
  | none => []

/-- Adds a scope that is below no other. -/
def addRoot (store : Store) (header : Header) : Store :=
  ⟨store.slots.push ⟨.fresh header, []⟩⟩

/-- A store with one root scope, which has number zero. -/
def ofRoot (header : Header) : Store :=
  empty.addRoot header

/-- Passes if a scope can be changed. -/
def checkOpen (store : Store) (id : Nat) : Except StoreError Unit :=
  match store.contents? id with
  | none => .error (.unknownScope id)
  | some contents => if contents.frozen then .error (.frozen contents.header) else .ok ()

/-- Opens a scope below another and gives its number. -/
def openChild (store : Store) (id : Nat) (header : Header) : Except StoreError (Store × Nat) := do
  store.checkOpen id
  if header = .file then .error .nestedFile
  else
    let extend := fun (slot : Slot) => { slot with children := slot.children ++ [store.size] }
    return (⟨(store.slots.modify id extend).push ⟨.fresh header, []⟩⟩, store.size)

/-- Records a fact in a scope. -/
def record (store : Store) (id : Nat) (fact : Fact) : Except StoreError Store := do
  store.checkOpen id
  let extend := fun (slot : Slot) => { slot with contents := slot.contents.record fact }
  return ⟨store.slots.modify id extend⟩

/-- The numbers of a scope and of everything below it down to some number of levels. -/
def numberTree (store : Store) : Nat → Nat → Tree Nat
  | 0, id => .node id []
  | levels + 1, id => .node id ((store.childrenOf id).map (numberTree store levels))

/-- The numbers of a scope and of everything below it, in preorder. -/
def walk (store : Store) (id : Nat) : List Nat :=
  (store.numberTree store.size id).walk.map Tree.label

/-- Freezes a scope and everything below it. -/
def freeze (store : Store) (id : Nat) : Store :=
  let close := fun (slot : Slot) => { slot with contents := slot.contents.freeze }
  ⟨(store.walk id).foldl (fun slots below => slots.modify below close) store.slots⟩

/-- The contents of a scope; a number that is not in the store stands for an empty file. -/
def contentsOf (store : Store) (id : Nat) : Contents :=
  (store.contents? id).getD (.fresh .file)

/-- The scope of a number, with everything below it. -/
def scope (store : Store) (id : Nat) : Scope :=
  (store.numberTree store.size id).map store.contentsOf

end Store

end JavaOutline
