import JavaOutline.Proofs.Traversal.Visits

/-!
# What visits leave in a store

Visits that start in an open scope only ever take place in that scope or in one that an earlier
visit opened, so none of them is refused. What is in the store after them can be said scope by
scope, without going through the run: `slotAfter` has the scopes that were there, then one for each
visit that opens one, and in each scope what was there, followed by the facts of the visits in it
and by the numbers of the scopes opened in it, in the order of the visits.
-/

namespace JavaOutline

/-! ## Where visits take place -/

/-- Visits take place in the scope `start` or in a scope from `first` on that has a number by then,
if scopes are numbered from `next` on. -/
def InReach (start first : Nat) : Nat → List Visit → Prop
  | _, [] => True
  | next, visit :: rest =>
    (visit.scope = start ∨ first ≤ visit.scope ∧ visit.scope < next) ∧
      InReach start first (next + visit.opens.toNat) rest

/-- Visits that follow others are numbered after them. -/
theorem inReach_append {start first next : Nat} {visits more : List Visit} :
    InReach start first next (visits ++ more) ↔
      InReach start first next visits ∧
        InReach start first (next + (openings visits).length) more := by
  induction visits generalizing next with
  | nil => simp [InReach]
  | cons visit rest ih =>
    rw [List.cons_append, InReach, InReach, ih, length_openings_cons, ← Nat.add_assoc, and_assoc]

/-- Every visit takes place in a scope in reach. -/
theorem InReach.scope_of_mem {start first next : Nat} {visits : List Visit} {visit : Visit}
    (hvisits : InReach start first next visits) (hmem : visit ∈ visits) :
    visit.scope = start ∨
      first ≤ visit.scope ∧ visit.scope < next + (openings visits).length := by
  induction visits generalizing next with
  | nil => cases hmem
  | cons earlier rest ih =>
    rw [length_openings_cons]
    rcases List.mem_cons.mp hmem with rfl | hmem
    · have hscope := hvisits.1
      omega
    · have hrest := ih hvisits.2 hmem
      omega

/-- A scope that itself is in reach adds nothing to what is in reach. -/
theorem InReach.mono {start first start' first' next : Nat} {visits : List Visit}
    (hvisits : InReach start first next visits) (hfirst : first' ≤ first)
    (hstart : start = start' ∨ first' ≤ start ∧ start < next) :
    InReach start' first' next visits := by
  induction visits generalizing next with
  | nil => trivial
  | cons visit rest ih =>
    refine ⟨?_, ih hvisits.2 (by omega)⟩
    have hscope := hvisits.1
    omega

mutual
/-- The visits of a tree take place in its scope or in scopes that they open. -/
theorem visitsOf_inReach (address : Address) (scope next : Nat) (tree : SyntaxTree) :
    InReach scope next next (visitsOf address scope next tree) := by
  obtain ⟨label, children⟩ := tree
  rw [visitsOf]
  refine ⟨.inl rfl, ?_⟩
  cases hopens : opensScope (.node label children) with
  | true =>
    have hbelow := visitsFrom_inReach address next (next + 1) (firstVisited (.node label children))
      0 children
    simp only [Visit.opens, hopens, Bool.toNat_true, if_true]
    exact hbelow.mono (Nat.le_succ next) (.inr ⟨Nat.le_refl next, Nat.lt_succ_self next⟩)
  | false =>
    simp only [Visit.opens, hopens, Bool.toNat_false, Nat.add_zero, Bool.false_eq_true, if_false]
    exact visitsFrom_inReach ..
/-- The visits of children take place in their scope or in scopes that they open. -/
theorem visitsFrom_inReach (address : Address) (scope next first index : Nat)
    (children : List SyntaxTree) :
    InReach scope next next (visitsFrom address scope next first index children) := by
  cases children with
  | nil =>
    rw [visitsFrom]
    trivial
  | cons child rest =>
    rw [visitsFrom]
    split
    · exact visitsFrom_inReach _ _ _ _ _ rest
    · refine inReach_append.mpr ⟨visitsOf_inReach _ _ _ child, ?_⟩
      exact (visitsFrom_inReach _ _ _ _ _ rest).mono (Nat.le_add_right ..) (.inl rfl)
end

/-! ## What is in a scope after visits -/

section

variable (source : SourceText)

/-- The facts that visits record in a scope. -/
def factsIn (visits : List Visit) (id : Nat) : List Fact :=
  (visits.filter fun visit => visit.scope == id).flatMap fun visit =>
    (scriptOf source visit.tree).facts

/-- The headers of the scopes that visits open. -/
def headersOf (visits : List Visit) : List Header :=
  visits.flatMap fun visit => (scriptOf source visit.tree).headers

/-- The numbers of the scopes that visits open in a scope, if scopes are numbered from `next` on. -/
def scopesOpenedIn (next : Nat) (visits : List Visit) (id : Nat) : List Nat :=
  (((openings visits).zipIdx next).filter fun numbered => numbered.1.scope == id).map Prod.snd

/-- What the slot of a scope holds after visits. -/
def Store.slotAfter (store : Store) (visits : List Visit) (id : Nat) : Option Slot :=
  (store.slots.toList ++ (headersOf source visits).map Slot.fresh)[id]?.map fun slot =>
    slot.add (factsIn source visits id) (scopesOpenedIn store.size visits id)

/-- The progress after visits that are all carried out. -/
def Progress.afterEach (progress : Progress) (visits : List Visit) : Progress :=
  visits.foldl (fun progress visit => progress.after visit.scope (scriptOf source visit.tree))
    progress

/-- The script of a node does not fail. -/
def Succeeds (tree : SyntaxTree) : Prop :=
  ∃ descent, (scriptOf source tree).ending = .ok descent

/-- The number of headers of a script that does not fail is whether the rules open a scope. -/
theorem Succeeds.length_headers {source : SourceText} {tree : SyntaxTree}
    (h : Succeeds source tree) :
    (scriptOf source tree).headers.length = (opensScope tree).toNat := by
  obtain ⟨descent, hending⟩ := h
  have hcalls := scriptOf_callsFor source tree
  cases hopens : opensScope tree with
  | false => simp [hcalls.headers_of_not_opens hopens]
  | true =>
    obtain ⟨header, hheaders, _⟩ := hcalls.headers_of_opens hending hopens
    simp [hheaders]

/-- The facts in a scope, from the first visit on. -/
theorem factsIn_cons (visit : Visit) (rest : List Visit) (id : Nat) :
    factsIn source (visit :: rest) id =
      (if visit.scope = id then (scriptOf source visit.tree).facts else []) ++
        factsIn source rest id := by
  by_cases hscope : visit.scope = id <;> simp [factsIn, hscope]

end

/-- The scopes opened in a scope, from the first visit on. -/
theorem scopesOpenedIn_cons (next : Nat) (visit : Visit) (rest : List Visit) (id : Nat) :
    scopesOpenedIn next (visit :: rest) id =
      (if visit.scope = id then List.range' next visit.opens.toNat else []) ++
        scopesOpenedIn (next + visit.opens.toNat) rest id := by
  cases hopens : visit.opens with
  | false => simp [scopesOpenedIn, openings_cons_of_not_opens hopens]
  | true =>
    by_cases hscope : visit.scope = id <;>
      simp [scopesOpenedIn, openings_cons_of_opens hopens, List.zipIdx_cons, hscope]

/-- The scopes opened in a scope, in two parts. -/
theorem scopesOpenedIn_append (next : Nat) (visits more : List Visit) (id : Nat) :
    scopesOpenedIn next (visits ++ more) id =
      scopesOpenedIn next visits id ++
        scopesOpenedIn (next + (openings visits).length) more id := by
  simp [scopesOpenedIn, List.zipIdx_append]

/-- No scope is opened in a scope in which nothing is visited. -/
theorem scopesOpenedIn_eq_nil {visits : List Visit} {id : Nat}
    (hscopes : ∀ visit ∈ visits, visit.scope ≠ id) (next : Nat) :
    scopesOpenedIn next visits id = [] := by
  induction visits generalizing next with
  | nil => rfl
  | cons visit rest ih =>
    rw [List.forall_mem_cons] at hscopes
    rw [scopesOpenedIn_cons, if_neg hscopes.1, List.nil_append]
    exact ih hscopes.2 _

/-- Which scope is opened in which. -/
theorem mem_scopesOpenedIn {next index : Nat} {visits : List Visit} {visit : Visit}
    (hopened : (openings visits)[index]? = some visit) (id : Nat) :
    next + index ∈ scopesOpenedIn next visits id ↔ visit.scope = id := by
  simp only [scopesOpenedIn, List.mem_map, List.mem_filter, Prod.exists, beq_iff_eq,
    List.mk_mem_zipIdx_iff_le_and_getElem?_sub]
  constructor
  · rintro ⟨other, _, ⟨⟨_, hother⟩, hscope⟩, rfl⟩
    rw [Nat.add_sub_cancel_left, hopened] at hother
    cases hother
    exact hscope
  · intro hscope
    refine ⟨visit, next + index, ⟨⟨Nat.le_add_right .., ?_⟩, hscope⟩, rfl⟩
    rw [Nat.add_sub_cancel_left]
    exact hopened

/-! ## Carrying out visits that succeed -/

namespace Progress

variable {source : SourceText} {start first : Nat}

/-- The scope `start` and all scopes from `first` on are open. -/
def Ready (start first : Nat) (progress : Progress) : Prop :=
  ∀ id, id = start ∨ first ≤ id ∧ id < progress.store.size → progress.store.IsOpen id

/-- A visit leaves the scopes open, and those that it opens are open. -/
theorem Ready.after {progress : Progress} (hready : progress.Ready start first) (scope : Nat)
    (script : Script) : (progress.after scope script).Ready start first := by
  intro id hid
  by_cases hold : id = start ∨ first ≤ id ∧ id < progress.store.size
  · exact (hready id hold).extend ..
  · have hnew : id < progress.store.size + script.headers.length := by
      rw [← Store.size_extend progress.store scope script.facts]
      exact (hid.resolve_left fun hstart => hold (.inl hstart)).2
    exact Store.isOpen_extend_of_le _ _ _ _ (by omega) hnew

/-- A visit that succeeds adds a slot if it opens a scope. -/
theorem size_after_of_succeeds {tree : SyntaxTree} (hok : Succeeds source tree)
    (progress : Progress) (scope : Nat) :
    (progress.after scope (scriptOf source tree)).store.size =
      progress.store.size + (opensScope tree).toNat := by
  rw [← hok.length_headers]
  exact Store.size_extend ..

/-- Visits leave the scopes open, and those that they open are open. -/
theorem Ready.afterEach {progress : Progress} (hready : progress.Ready start first)
    (source : SourceText) (visits : List Visit) :
    (progress.afterEach source visits).Ready start first := by
  induction visits generalizing progress with
  | nil => exact hready
  | cons visit visits ih => exact ih (hready.after visit.scope (scriptOf source visit.tree))

/-- Visits that all succeed add a slot for each scope that they open. -/
theorem size_afterEach_of_succeeds {visits : List Visit}
    (hok : ∀ visit ∈ visits, Succeeds source visit.tree) (progress : Progress) :
    (progress.afterEach source visits).store.size =
      progress.store.size + (openings visits).length := by
  induction visits generalizing progress with
  | nil => rfl
  | cons visit visits ih =>
    rw [List.forall_mem_cons] at hok
    have hsize := size_after_of_succeeds hok.1 progress visit.scope
    rw [length_openings_cons, ← Nat.add_assoc, Visit.opens, ← hsize]
    exact ih hok.2 _

/-- Visits that all succeed are carried out one after the other, and then the rest is. -/
theorem visitEach_append_of_succeeds {visits : List Visit} {progress : Progress}
    (hready : progress.Ready start first) (hreach : InReach start first progress.store.size visits)
    (hok : ∀ visit ∈ visits, Succeeds source visit.tree) (rest : List Visit) :
    visitEach source (visits ++ rest) progress =
        visitEach source rest (progress.afterEach source visits) ∧
      reached source (visits ++ rest) progress =
        visits ++ reached source rest (progress.afterEach source visits) := by
  induction visits generalizing progress with
  | nil => exact ⟨rfl, rfl⟩
  | cons visit visits ih =>
    rw [List.forall_mem_cons] at hok
    obtain ⟨descent, hending⟩ := hok.1
    have hvisit := visit_of_isOpen (hready visit.scope hreach.1) source visit.tree
    rw [hending] at hvisit
    have hreach' := hreach.2
    rw [Visit.opens, ← size_after_of_succeeds hok.1 progress visit.scope] at hreach'
    have hready' := hready.after visit.scope (scriptOf source visit.tree)
    obtain ⟨heach, hreached⟩ := ih hready' hreach' hok.2
    rw [List.cons_append, visitEach, reached, hvisit]
    exact ⟨heach, congrArg (visit :: ·) hreached⟩

end Progress

/-- The slots after an extension, in a row with others: one slot is changed. -/
theorem Store.getElem?_extend_append (store : Store) {id : Nat} (hid : id < store.size)
    (facts : List Fact) (headers : List Header) (more : List Slot) (other : Nat) :
    ((store.extend id facts headers).slots.toList ++ more)[other]? =
      (store.slots.toList ++ (headers.map Slot.fresh ++ more))[other]?.map fun slot =>
        if id = other then slot.add facts (List.range' store.size headers.length) else slot := by
  have hslots : (store.extend id facts headers).slots.toList =
      store.slots.toList.modify id
          (fun slot => slot.add facts (List.range' store.size headers.length)) ++
        headers.map Slot.fresh := by
    simp [extend]
  have hlength : id < store.slots.toList.length := hid
  rw [hslots, List.append_assoc]
  by_cases hother : other < store.slots.toList.length
  · rw [List.getElem?_append_left (by rwa [List.length_modify]), List.getElem?_append_left hother,
      List.getElem?_modify]
    split <;> simp
  · have hne : id ≠ other := by omega
    rw [List.getElem?_append_right (by rw [List.length_modify]; omega),
      List.getElem?_append_right (Nat.le_of_not_lt hother), List.length_modify]
    simp [hne]

/-- What is in each scope after visits that all succeed. -/
theorem Progress.getElem?_afterEach {source : SourceText} {start first : Nat} {visits : List Visit}
    {progress : Progress} (hready : progress.Ready start first)
    (hreach : InReach start first progress.store.size visits)
    (hok : ∀ visit ∈ visits, Succeeds source visit.tree) (id : Nat) :
    (progress.afterEach source visits).store.slots[id]? =
      progress.store.slotAfter source visits id := by
  induction visits generalizing progress with
  | nil => simp [afterEach, Store.slotAfter, headersOf, factsIn, scopesOpenedIn]
  | cons visit visits ih =>
    rw [List.forall_mem_cons] at hok
    have hsize := size_after_of_succeeds hok.1 progress visit.scope
    have hreach' := hreach.2
    rw [Visit.opens, ← hsize] at hreach'
    have hscope := (hready visit.scope hreach.1).lt_size
    have hrest := ih (hready.after visit.scope (scriptOf source visit.tree)) hreach' hok.2
    -- the first visit changes its own slot and puts its headers before those of the rest
    rw [Store.slotAfter, hsize, after, Store.getElem?_extend_append _ hscope,
      Option.map_map] at hrest
    rw [Store.slotAfter, factsIn_cons, scopesOpenedIn_cons, headersOf, List.flatMap_cons,
      List.map_append, ← headersOf]
    refine hrest.trans ?_
    congr 1
    funext slot
    rw [hok.1.length_headers, Visit.opens]
    by_cases hid : visit.scope = id
    · simp [hid, Slot.add_add]
    · simp [hid]

end JavaOutline
