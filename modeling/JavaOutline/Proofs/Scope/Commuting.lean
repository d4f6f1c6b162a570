import JavaOutline.Proofs.Scope.Graft
import Mathlib.Logic.Equiv.Basic

/-!
# Calls that do not meet

Opening a scope and recording a fact both add one entry to one list of one scope. Two such calls meet
only if they add to the same list of the same scope, where the order of the entries shows which came
first. A freeze meets only the calls on the scopes that it closes. Calls that do not meet can be
exchanged: each is accepted or refused as before, and the scopes that result are the same. The numbers
of new scopes tell which call came first, so the two stores agree up to an exchange of these numbers;
`Renumbered` says what that means, and that whole scopes are then equal.

Whether a call is refused depends on the header and the mark of one scope, and an entry in a list
changes neither. What is left is that the additions themselves can be exchanged.
-/

namespace JavaOutline

/-! ## Entries -/

/-- The lists of a scope that calls add to. -/
inductive ScopeList where
  | imports
  | fields
  | invocations
  | children
deriving DecidableEq, Repr

/-- The list that a fact is recorded in. -/
def Fact.list : Fact → ScopeList
  | importing _ => .imports
  | field _ => .fields
  | invocation _ => .invocations

/-- Facts of different sorts can be recorded in either order. -/
theorem Contents.record_comm (contents : Contents) {first second : Fact}
    (hlist : first.list ≠ second.list) :
    (contents.record first).record second = (contents.record second).record first := by
  cases first <;> cases second <;> first | rfl | exact absurd rfl hlist

namespace Operation

/-- The scope and the list that a call adds an entry to; roots and freezes add to none. -/
def target? : Operation → Option (Nat × ScopeList)
  | addRoot _ => none
  | openChild id _ => some (id, .children)
  | record id fact => some (id, fact.list)
  | freeze _ => none

/-- The facts that a call records. -/
def facts : Operation → List Fact
  | record _ fact => [fact]
  | _ => []

/-- The headers of the scopes that a call opens below another. -/
def headers : Operation → List Header
  | openChild _ header => [header]
  | _ => []

/-- What a call gives back if it adds an entry, in a store whose next number is given. -/
def answer (next : Nat) : Operation → Answer
  | openChild _ _ => .created next
  | _ => .done

end Operation

namespace Store

variable {store : Store} {id other : Nat} {operation : Operation} {list : ScopeList}

/-- Why a scope refuses the entry that a call would add. -/
def refusal? (store : Store) (id : Nat) (operation : Operation) : Option StoreError :=
  match store.checkOpen id with
  | .error error => some error
  | .ok () => if .file ∈ operation.headers then some .nestedFile else none

/-- A call that adds an entry is refused for the reason of its scope, or it extends the store. -/
theorem perform_of_target (htarget : operation.target? = some (id, list)) :
    store.perform operation =
      match store.refusal? id operation with
      | some error => (store, .refused error)
      | none => (store.extend id operation.facts operation.headers, operation.answer store.size) := by
  cases operation with
  | addRoot header => cases htarget
  | freeze parent => cases htarget
  | openChild parent header =>
    obtain ⟨rfl, rfl⟩ := Prod.mk.inj (Option.some.inj htarget)
    unfold refusal?
    cases hcheck : store.checkOpen parent with
    | error error => simp [perform, openChild, hcheck, bind, Except.bind]
    | ok passed =>
      by_cases hfile : header = .file
      · simp [perform, openChild, hcheck, hfile, bind, Except.bind, Operation.headers]
      · have hopened := openChild_eq_ok_iff.mpr ⟨hcheck, hfile, rfl, rfl⟩
        simp [perform, hopened, Operation.headers, Operation.facts, Operation.answer,
          Ne.symm hfile]
  | record parent fact =>
    obtain ⟨rfl, rfl⟩ := Prod.mk.inj (Option.some.inj htarget)
    unfold refusal?
    cases hcheck : store.checkOpen parent with
    | error error => simp [perform, record, hcheck, bind, Except.bind]
    | ok passed =>
      have hrecorded : store.record parent fact = .ok (store.extend parent [fact] []) :=
        record_eq_ok_iff.mpr ⟨hcheck, rfl⟩
      simp [perform, hrecorded, Operation.headers, Operation.facts, Operation.answer]

/-- A refused call leaves the store as it is. -/
theorem perform_of_refusal (htarget : operation.target? = some (id, list)) {error : StoreError}
    (hrefusal : store.refusal? id operation = some error) :
    store.perform operation = (store, .refused error) := by
  rw [perform_of_target htarget, hrefusal]

/-- A call that is not refused extends the store. -/
theorem perform_of_no_refusal (htarget : operation.target? = some (id, list))
    (hrefusal : store.refusal? id operation = none) :
    store.perform operation =
      (store.extend id operation.facts operation.headers, operation.answer store.size) := by
  rw [perform_of_target htarget, hrefusal]

/-! ## Refusals do not change -/

/-- Whether a scope can be changed depends on its header and its mark. -/
theorem refusal?_congr {later : Store}
    (hsame : (later.contents? id).map (fun contents => (contents.header, contents.frozen)) =
      (store.contents? id).map fun contents => (contents.header, contents.frozen))
    (operation : Operation) : later.refusal? id operation = store.refusal? id operation := by
  have hcheck : later.checkOpen id = store.checkOpen id := by
    unfold checkOpen
    cases hlater : later.contents? id with
    | none =>
      rw [hlater] at hsame
      rw [Option.map_eq_none_iff.mp hsame.symm]
    | some changed =>
      rw [hlater] at hsame
      obtain ⟨contents, hcontents, hpair⟩ := Option.map_eq_some_iff.mp hsame.symm
      obtain ⟨hheader, hfrozen⟩ := Prod.mk.inj hpair
      rw [hcontents]
      simp only [hheader, hfrozen]
  rw [refusal?, refusal?, hcheck]

/-- An extension changes no refusal of a scope that was there before. -/
theorem refusal?_extend (hid : id < store.size) (facts : List Fact) (headers : List Header)
    (operation : Operation) :
    (store.extend other facts headers).refusal? id operation = store.refusal? id operation := by
  apply refusal?_congr
  have hslot : store.slots[id]? = some store.slots[id] := Array.getElem?_eq_getElem hid
  rw [contents?, contents?, getElem?_extend, if_pos hid, hslot]
  by_cases hother : id = other <;> simp [hother, Slot.add, Contents.recordAll_frozen_header]

/-- A freeze changes no refusal of a scope that it does not close. -/
theorem refusal?_freeze (hid : id ∉ store.walk other) (operation : Operation) :
    (store.freeze other).refusal? id operation = store.refusal? id operation := by
  apply refusal?_congr
  rw [contents?, contents?, getElem?_freeze]
  simp [hid]

/-- A call that adds an entry changes no refusal of a scope that was there before. -/
theorem refusal?_perform (htarget : operation.target? = some (other, list)) (hid : id < store.size)
    (asked : Operation) :
    (store.perform operation).1.refusal? id asked = store.refusal? id asked := by
  cases hrefusal : store.refusal? other operation with
  | some error => rw [perform_of_refusal htarget hrefusal]
  | none =>
    rw [perform_of_no_refusal htarget hrefusal]
    exact refusal?_extend hid _ _ asked

/-! ## Additions can be exchanged -/

/-- An extension and another one that opens nothing can be exchanged, unless they record facts of one
sort in one scope. -/
theorem extend_comm {first second : Nat} (hfirst : first < store.size) (hsecond : second < store.size)
    {facts facts' : List Fact}
    (hfacts : first = second → ∀ contents : Contents,
      (contents.recordAll facts).recordAll facts' = (contents.recordAll facts').recordAll facts)
    (headers : List Header) :
    (store.extend first facts headers).extend second facts' [] =
      (store.extend second facts' []).extend first facts headers := by
  apply ext_getElem?
  intro id
  simp only [getElem?_extend, size_extend, List.length_nil, Nat.add_zero, List.range'_zero]
  by_cases hid : id < store.size
  · rw [if_pos (by omega), if_pos hid, if_pos hid, if_pos hid, Option.map_map, Option.map_map]
    congr 1
    funext slot
    by_cases hone : id = first
    · subst hone
      by_cases htwo : id = second
      · have hsame := hfacts htwo slot.contents
        simp [← htwo, Slot.add, hsame]
      · simp [htwo]
    · simp [hone]
  · have htwo : id ≠ second := by omega
    rw [if_neg hid, if_neg hid]
    by_cases hnew : id < store.size + headers.length
    · simp [hnew, htwo, Function.comp_def]
    · have hpast : headers[id - store.size]? = none := List.getElem?_eq_none (by omega)
      simp [hnew, hpast]

/-- The slots after a scope was opened below each of two scopes. -/
theorem getElem?_extend_extend {second : Nat} (hsecond : second < store.size) (first : Nat)
    (header header' : Header) (id : Nat) :
    ((store.extend first [] [header]).extend second [] [header']).slots[id]? =
      if id < store.size then
        store.slots[id]?.map fun slot => slot.add []
          ((if id = first then [store.size] else []) ++
            if id = second then [store.size + 1] else [])
      else [header, header'][id - store.size]?.map Slot.fresh := by
  simp only [getElem?_extend, size_extend, List.length_singleton, List.range'_one]
  by_cases hid : id < store.size
  · rw [if_pos (by omega), if_pos hid, if_pos hid, Option.map_map]
    congr 1
    funext slot
    split_ifs <;> simp [Slot.add_add]
  · have htwo : id ≠ second := by omega
    rw [if_neg hid, if_neg hid]
    by_cases hnew : id = store.size
    · subst hnew
      simp [htwo]
    · obtain ⟨past, rfl⟩ : ∃ past, id = store.size + 1 + past := ⟨id - (store.size + 1), by omega⟩
      rw [if_neg (by omega), show store.size + 1 + past - store.size = past + 1 by omega,
        Nat.add_sub_cancel_left, List.getElem?_cons_succ]

/-- What a scope of the store reaches is in the store. -/
theorem IsForest.lt_size_of_reaches (hforest : store.IsForest) (hid : id < store.size)
    (h : store.Reaches id other) : other < store.size := by
  rcases Relation.ReflTransGen.cases_tail h with rfl | ⟨parent, _, hchild⟩
  · exact hid
  · exact hforest.child_lt_size hchild

/-- A freeze and an extension can be exchanged if the freeze does not close the scope that is
extended. -/
theorem IsForest.extend_freeze (hforest : store.IsForest) {closed : Nat}
    (hclosed : closed < store.size) (hid : ¬ store.Reaches closed id) (facts : List Fact)
    (headers : List Header) :
    (store.freeze closed).extend id facts headers = (store.extend id facts headers).freeze closed := by
  -- the walk that the freeze goes along is not touched by the extension
  have hwalk : (store.extend id facts headers).walk closed = store.walk closed := by
    refine (hforest.scope_congr (by simp) fun below hbelow => ?_).1
    refine getElem?_extend_of_ne (hforest.lt_size_of_reaches hclosed hbelow) ?_ facts headers
    rintro rfl
    exact hid hbelow
  have hmem : id ∉ store.walk closed := by rwa [hforest.mem_walk_iff]
  apply ext_getElem?
  intro other
  rw [getElem?_freeze, hwalk, getElem?_extend, getElem?_extend, getElem?_freeze, size_freeze]
  by_cases hother : other < store.size
  · rw [if_pos hother, if_pos hother, Option.map_map, Option.map_map]
    congr 1
    funext slot
    by_cases hsame : other = id
    · subst hsame
      simp [hmem]
    · simp [hsame]
  · have hpast : other ∉ store.walk closed := by
      rw [hforest.mem_walk_iff]
      intro hreaches
      exact hother (hforest.lt_size_of_reaches hclosed hreaches)
    rw [if_neg hother, if_neg hother]
    simp [hpast, Function.comp_def]

/-! ## Other numbers -/

end Store

/-- What a call gives back, with another number for a new scope. -/
def Answer.renumber (number : Nat → Nat) : Answer → Answer
  | created id => created (number id)
  | done => done
  | refused error => refused error

/-- Numbers that stay the same give the same answer. -/
@[simp] theorem Answer.renumber_id (answer : Answer) : answer.renumber id = answer := by
  cases answer <;> rfl

/-- Numbers that stay the same give the same slot. -/
@[simp] theorem Slot.renumber_id (slot : Slot) : slot.renumber id = slot := by
  simp [renumber]

namespace Store

/-- Two stores hold the same scopes, each under another number in the second one: every scope has the
same contents there, and its children are the same scopes in the same order. -/
structure Renumbered (number : Equiv.Perm Nat) (first second : Store) : Prop where
  size_eq : second.size = first.size
  slot_eq : ∀ id : Nat, second.slots[number id]? = first.slots[id]?.map (Slot.renumber number)

namespace Renumbered

variable {number : Equiv.Perm Nat} {first second : Store}

/-- A store holds its own scopes. -/
theorem refl (store : Store) : Renumbered (Equiv.refl Nat) store store := by
  refine ⟨rfl, fun id => ?_⟩
  have hsame : Slot.renumber (Equiv.refl Nat) = fun slot => slot := funext Slot.renumber_id
  rw [hsame, Option.map_id', Equiv.refl_apply]

/-- The children of a scope are the same scopes. -/
theorem childrenOf_eq (h : Renumbered number first second) (id : Nat) :
    second.childrenOf (number id) = (first.childrenOf id).map number := by
  rw [childrenOf, h.slot_eq, childrenOf]
  cases first.slots[id]? <;> rfl

/-- A scope has the same contents. -/
theorem contentsOf_eq (h : Renumbered number first second) (id : Nat) :
    second.contentsOf (number id) = first.contentsOf id := by
  rw [contentsOf, contents?, h.slot_eq, contentsOf, contents?]
  cases first.slots[id]? <;> rfl

/-- The numbers below a scope are the other numbers of those below it. -/
theorem numberTree_eq (h : Renumbered number first second) (levels id : Nat) :
    second.numberTree levels (number id) = (first.numberTree levels id).map number := by
  induction levels generalizing id with
  | zero => simp [numberTree, Tree.map]
  | succ levels ih =>
    rw [numberTree, numberTree, Tree.map, Tree.mapAll_eq_map, h.childrenOf_eq, List.map_map,
      List.map_map]
    exact congrArg _ (List.map_congr_left fun child _ => ih child)

/-- A scope is the same with everything below it. -/
theorem scope_eq (h : Renumbered number first second) (id : Nat) :
    second.scope (number id) = first.scope id := by
  rw [scope, h.numberTree_eq, Tree.map_map, h.size_eq, scope]
  refine congrArg (fun relabel => (first.numberTree first.size id).map relabel) ?_
  funext below
  exact h.contentsOf_eq below

end Renumbered

variable {store : Store}

/-- Scopes opened below two scopes, in either order, are the same up to their numbers. -/
theorem IsForest.renumbered_swap (hforest : store.IsForest) {first second : Nat}
    (hfirst : first < store.size) (hsecond : second < store.size) (hne : first ≠ second)
    (header header' : Header) :
    Renumbered (Equiv.swap store.size (store.size + 1))
      ((store.extend first [] [header]).extend second [] [header'])
      ((store.extend second [] [header']).extend first [] [header]) := by
  have hold {id : Nat} (hid : id < store.size) :
      Equiv.swap store.size (store.size + 1) id = id :=
    Equiv.swap_apply_of_ne_of_ne (by omega) (by omega)
  have hchildren (id : Nat) : ((store.childrenOf id).map (Equiv.swap store.size (store.size + 1))) =
      store.childrenOf id := by
    conv_rhs => rw [← List.map_id (store.childrenOf id)]
    exact List.map_congr_left fun child hchild => hold (hforest.child_lt_size hchild)
  refine ⟨by simp, fun id => ?_⟩
  rw [getElem?_extend_extend hsecond, getElem?_extend_extend hfirst]
  by_cases hid : id < store.size
  · have hslot : store.slots[id]? = some store.slots[id] := Array.getElem?_eq_getElem hid
    have hsame : store.slots[id].children.map (Equiv.swap store.size (store.size + 1)) =
        store.slots[id].children := by
      simpa [childrenOf, hslot] using hchildren id
    rw [hold hid, if_pos hid, if_pos hid, hslot, Option.map_some, Option.map_some, Option.map_some,
      Slot.renumber_add, Slot.renumber, hsame]
    by_cases hone : id = first
    · have htwo : id ≠ second := hone ▸ hne
      rw [if_pos hone, if_pos hone, if_neg htwo, if_neg htwo]
      simp
    · rw [if_neg hone, if_neg hone]
      split_ifs <;> simp
  · obtain ⟨past, rfl⟩ : ∃ past, id = store.size + past := ⟨id - store.size, by omega⟩
    rw [if_neg hid, Nat.add_sub_cancel_left]
    cases past with
    | zero => simp [Slot.renumber, Slot.fresh]
    | succ past =>
      cases past with
      | zero => simp [Slot.renumber, Slot.fresh]
      | succ past =>
        rw [Equiv.swap_apply_of_ne_of_ne (by omega) (by omega), if_neg (by omega),
          Nat.add_sub_cancel_left]
        rfl

/-! ## Exchanging calls -/

/-- Two calls do not meet: they add entries to different lists, be it of one scope or of two, or one
freezes a scope and the other adds an entry to a scope that is not closed by this. All scopes that they
name are in the store. -/
inductive Independent (store : Store) : Operation → Operation → Prop where
  | entries {first second : Operation} {id id' : Nat} {list list' : ScopeList}
      (hfirst : first.target? = some (id, list)) (hsecond : second.target? = some (id', list'))
      (hid : id < store.size) (hid' : id' < store.size) (hne : (id, list) ≠ (id', list')) :
      Independent store first second
  | freezing {closed id : Nat} {list : ScopeList} {operation : Operation}
      (hclosed : closed < store.size) (htarget : operation.target? = some (id, list))
      (hid : id < store.size) (hapart : ¬ store.Reaches closed id) :
      Independent store (.freeze closed) operation

/-- Two calls can be exchanged: each gives back the same in either order, and the stores in the end
hold the same scopes, up to the numbers of the scopes that the calls create. -/
structure Exchangeable (store : Store) (number : Equiv.Perm Nat) (first second : Operation) :
    Prop where
  number_eq : ∀ id < store.size, number id = id
  answer_first : ((store.perform second).1.perform first).2 =
    (store.perform first).2.renumber number
  answer_second : (store.perform second).2 =
    ((store.perform first).1.perform second).2.renumber number
  renumbered : Renumbered number ((store.perform first).1.perform second).1
    ((store.perform second).1.perform first).1

/-- Calls can be exchanged if both orders lead to one store and each gives back the same. -/
theorem exchangeable_of_eq {first second : Operation}
    (hfirst : ((store.perform second).1.perform first).2 = (store.perform first).2)
    (hsecond : (store.perform second).2 = ((store.perform first).1.perform second).2)
    (hstore : ((store.perform second).1.perform first).1 =
      ((store.perform first).1.perform second).1) :
    store.Exchangeable (Equiv.refl Nat) first second where
  number_eq := fun _ _ => rfl
  answer_first := hfirst.trans (Answer.renumber_id _).symm
  answer_second := hsecond.trans (Answer.renumber_id _).symm
  renumbered := by
    rw [hstore]
    exact .refl _

/-- A call that is refused in either order can be exchanged with the one that follows it. -/
theorem exchangeable_of_first_refused {first second : Operation} {error : StoreError}
    (hrefused : store.perform first = (store, .refused error))
    (hlater : (store.perform second).1.perform first =
      ((store.perform second).1, .refused error)) :
    store.Exchangeable (Equiv.refl Nat) first second := by
  apply exchangeable_of_eq <;> rw [hrefused]
  · rw [hlater]
  · rw [hlater]

/-- A call that is refused in either order can be exchanged with the one that it follows. -/
theorem exchangeable_of_second_refused {first second : Operation} {error : StoreError}
    (hrefused : store.perform second = (store, .refused error))
    (hlater : (store.perform first).1.perform second = ((store.perform first).1, .refused error)) :
    store.Exchangeable (Equiv.refl Nat) first second := by
  apply exchangeable_of_eq <;> rw [hrefused]
  · rw [hlater]
  · rw [hlater]

/-- Facts that two calls record can be recorded in either order if the calls add to different lists. -/
theorem recordAll_facts_comm {first second : Operation} {id : Nat} {list list' : ScopeList}
    (hfirst : first.target? = some (id, list)) (hsecond : second.target? = some (id, list'))
    (hne : list ≠ list') (contents : Contents) :
    (contents.recordAll first.facts).recordAll second.facts =
      (contents.recordAll second.facts).recordAll first.facts := by
  cases first with
  | record parent fact =>
    cases second with
    | record parent' fact' =>
      obtain ⟨-, rfl⟩ := Prod.mk.inj (Option.some.inj hfirst)
      obtain ⟨-, rfl⟩ := Prod.mk.inj (Option.some.inj hsecond)
      exact contents.record_comm hne
    | addRoot | openChild | freeze => rfl
  | addRoot | openChild | freeze => rfl

/-- Calls that add entries to different lists can be exchanged if neither is refused. -/
theorem IsForest.exists_exchangeable_of_accepted (hforest : store.IsForest)
    {first second : Operation} {id id' : Nat} {list list' : ScopeList}
    (hfirst : first.target? = some (id, list)) (hsecond : second.target? = some (id', list'))
    (hid : id < store.size) (hid' : id' < store.size) (hne : (id, list) ≠ (id', list'))
    (hone : store.refusal? id first = none) (htwo : store.refusal? id' second = none) :
    ∃ number, store.Exchangeable number first second := by
  have hfirstSecond := perform_of_no_refusal hsecond ((refusal?_perform hfirst hid' second).trans htwo)
  have hsecondFirst := perform_of_no_refusal hfirst ((refusal?_perform hsecond hid first).trans hone)
  have hperformFirst := perform_of_no_refusal hfirst hone
  have hperformSecond := perform_of_no_refusal hsecond htwo
  rw [hperformFirst] at hfirstSecond
  rw [hperformSecond] at hsecondFirst
  have hfacts (hsame : id = id') (contents : Contents) :
      (contents.recordAll first.facts).recordAll second.facts =
        (contents.recordAll second.facts).recordAll first.facts := by
    subst hsame
    exact recordAll_facts_comm hfirst hsecond (fun hlist => hne (by rw [hlist])) contents
  cases second with
  | addRoot header => cases hsecond
  | freeze parent => cases hsecond
  | record parent fact =>
    refine ⟨Equiv.refl Nat, exchangeable_of_eq ?_ ?_ ?_⟩ <;>
      rw [hperformFirst, hperformSecond]
    · rw [hsecondFirst, size_extend]
      rfl
    · rw [hfirstSecond]
      rfl
    · rw [hsecondFirst, hfirstSecond]
      exact (extend_comm hid hid' hfacts first.headers).symm
  | openChild parent' header' =>
    cases first with
    | addRoot header => cases hfirst
    | freeze parent => cases hfirst
    | record parent fact =>
      refine ⟨Equiv.refl Nat, exchangeable_of_eq ?_ ?_ ?_⟩ <;>
        rw [hperformFirst, hperformSecond]
      · rw [hsecondFirst]
        rfl
      · rw [hfirstSecond, size_extend]
        rfl
      · rw [hsecondFirst, hfirstSecond]
        exact extend_comm hid' hid (fun hsame contents => (hfacts hsame.symm contents).symm) [header']
    | openChild parent header =>
      obtain ⟨rfl, rfl⟩ := Prod.mk.inj (Option.some.inj hfirst)
      obtain ⟨rfl, rfl⟩ := Prod.mk.inj (Option.some.inj hsecond)
      have hparents : parent ≠ parent' := fun hsame => hne (by rw [hsame])
      refine ⟨Equiv.swap store.size (store.size + 1), ⟨?_, ?_, ?_, ?_⟩⟩
      · intro old hold
        exact Equiv.swap_apply_of_ne_of_ne (by omega) (by omega)
      · rw [hperformSecond, hsecondFirst, hperformFirst, size_extend]
        simp [Operation.answer, Operation.headers, Answer.renumber]
      · rw [hperformFirst, hfirstSecond, hperformSecond, size_extend]
        simp [Operation.answer, Operation.headers, Answer.renumber]
      · rw [hperformFirst, hfirstSecond, hperformSecond, hsecondFirst]
        exact hforest.renumbered_swap hid hid' hparents header header'

/-- Calls that add entries to different lists can be exchanged. -/
theorem IsForest.exists_exchangeable_of_entries (hforest : store.IsForest)
    {first second : Operation} {id id' : Nat} {list list' : ScopeList}
    (hfirst : first.target? = some (id, list)) (hsecond : second.target? = some (id', list'))
    (hid : id < store.size) (hid' : id' < store.size) (hne : (id, list) ≠ (id', list')) :
    ∃ number, store.Exchangeable number first second := by
  have hone := refusal?_perform hsecond hid first
  have htwo := refusal?_perform hfirst hid' second
  cases hrefusal : store.refusal? id first with
  | some error =>
    exact ⟨_, exchangeable_of_first_refused (perform_of_refusal hfirst hrefusal)
      (perform_of_refusal hfirst (hone.trans hrefusal))⟩
  | none =>
    cases hrefusal' : store.refusal? id' second with
    | some error =>
      exact ⟨_, exchangeable_of_second_refused (perform_of_refusal hsecond hrefusal')
        (perform_of_refusal hsecond (htwo.trans hrefusal'))⟩
    | none =>
      exact hforest.exists_exchangeable_of_accepted hfirst hsecond hid hid' hne hrefusal hrefusal'

/-- A freeze can be exchanged with a call that adds an entry to a scope that is not closed by it. -/
theorem IsForest.exchangeable_of_freezing (hforest : store.IsForest) {closed id : Nat}
    {list : ScopeList} {operation : Operation} (hclosed : closed < store.size)
    (htarget : operation.target? = some (id, list)) (hapart : ¬ store.Reaches closed id) :
    store.Exchangeable (Equiv.refl Nat) (.freeze closed) operation := by
  have hlater : (store.freeze closed).refusal? id operation = store.refusal? id operation :=
    refusal?_freeze (by rwa [hforest.mem_walk_iff]) operation
  cases hrefusal : store.refusal? id operation with
  | some error =>
    exact exchangeable_of_second_refused (perform_of_refusal htarget hrefusal)
      (perform_of_refusal htarget (hlater.trans hrefusal))
  | none =>
    have hperform := perform_of_no_refusal htarget hrefusal
    have hafter : (store.perform (.freeze closed)).1.perform operation =
        ((store.freeze closed).extend id operation.facts operation.headers,
          operation.answer (store.freeze closed).size) :=
      perform_of_no_refusal htarget (hlater.trans hrefusal)
    apply exchangeable_of_eq
    · rfl
    · rw [hperform, hafter, size_freeze]
    · rw [hperform, hafter, hforest.extend_freeze hclosed hapart]
      rfl

end Store

/-- Calls that do not meet can be exchanged. Take the store after any calls, and two more calls that add
entries to different lists of its scopes, or a freeze and a call that adds an entry to a scope that is
not closed by it. Performed in either order, each is refused for the same reason or gives back the
same, and the stores in the end hold the same scopes with the same contents and children. Only new
scopes may have exchanged their numbers, and with everything below it every scope is the same. -/
theorem independent_calls_commute (operations : List Operation) (first second : Operation)
    (hindependent : (Store.empty.run operations).Independent first second) :
    let store := Store.empty.run operations
    let (afterFirst, answerFirst) := store.perform first
    let (afterSecond, answerSecond) := store.perform second
    let (firstThenSecond, answerSecond') := afterFirst.perform second
    let (secondThenFirst, answerFirst') := afterSecond.perform first
    ∃ number : Equiv.Perm Nat,
      (∀ id < store.size, number id = id) ∧
      answerFirst' = answerFirst.renumber number ∧
      answerSecond = answerSecond'.renumber number ∧
      secondThenFirst.size = firstThenSecond.size ∧
      (∀ id : Nat, secondThenFirst.slots[number id]? =
        firstThenSecond.slots[id]?.map (Slot.renumber number)) ∧
      ∀ id, secondThenFirst.scope (number id) = firstThenSecond.scope id := by
  have hforest : (Store.empty.run operations).IsForest :=
    (Store.wellFormed_empty.run operations).toIsForest
  have hexchange : ∃ number, (Store.empty.run operations).Exchangeable number first second := by
    cases hindependent with
    | entries hfirst hsecond hid hid' hne =>
      exact hforest.exists_exchangeable_of_entries hfirst hsecond hid hid' hne
    | freezing hclosed htarget hid hapart =>
      exact ⟨_, hforest.exchangeable_of_freezing hclosed htarget hapart⟩
  obtain ⟨number, h⟩ := hexchange
  exact ⟨number, h.number_eq, h.answer_first, h.answer_second, h.renumbered.size_eq,
    h.renumbered.slot_eq, h.renumbered.scope_eq⟩

/-- Calls that make a file with two classes in it. -/
def twoClasses : List Operation :=
  [.addRoot .file, .openChild 0 (.type .classType "public" "A"),
    .openChild 0 (.type .classType "default" "B")]

/-- A method can be opened in each of two classes in either order. The two methods exchange their
numbers, and the file is the same. -/
theorem methods_in_twoClasses_commute :
    let store := Store.empty.run twoClasses
    let first := Operation.openChild 1 (.function .method "public" "m" "()" "void")
    let second := Operation.openChild 2 (.function .method "public" "n" "()" "int")
    store.Independent first second ∧
      ∃ number : Equiv.Perm Nat, number 3 = 4 ∧ number 4 = 3 ∧
        (store.run [second, first]).scope 0 = (store.run [first, second]).scope 0 := by
  intro store first second
  have hindependent : store.Independent first second :=
    .entries rfl rfl (by decide) (by decide) (by decide)
  obtain ⟨number, hold, hfirst, hsecond, _, _, hscope⟩ :=
    independent_calls_commute twoClasses first second hindependent
  have hroot : number 0 = 0 := hold 0 (by decide)
  refine ⟨hindependent, number, ?_, ?_, ?_⟩
  · exact (Answer.created.inj hfirst).symm
  · exact (Answer.created.inj hsecond).symm
  · have hfile := hscope 0
    rwa [hroot] at hfile

end JavaOutline
