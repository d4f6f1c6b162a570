import JavaOutline.Proofs.Scope.Walk
import JavaOutline.Proofs.Traversal.FirstFailure

/-!
# Scopes mirror declarations

The scopes that a traversal opens are the opening nodes among the visited ones. A scope is numbered
by the place of its node among them in preorder, and it is opened in the scope of the nearest
opening node above its own. The numbers below a scope are therefore without gaps: first the scope
itself, then what is below its first child, and so on, so that a walk from the root meets the scopes
in the order of their numbers, which is the order of the declarations in the source.
-/

namespace JavaOutline

/-! ## The nearest opening node above -/

/-- An address stands below another. -/
def Address.IsBelow (address above : Address) : Prop :=
  above <+: address ∧ above ≠ address

/-- The scope around an address: that of the nearest opening node above it, where the scopes of the
opening nodes are numbered from `next` on, or `start` if there is none above it. -/
inductive NearestOpening (next start : Nat) (opened : List Address) (address : Address) :
    Nat → Prop where
  | outside (hnone : ∀ above ∈ opened, ¬ address.IsBelow above) :
      NearestOpening next start opened address start
  | inside (index : Nat) (above : Address) (habove : opened[index]? = some above)
      (hbelow : address.IsBelow above)
      (hnearest : ∀ other ∈ opened, address.IsBelow other → other <+: above) :
      NearestOpening next start opened address (next + index)

section

variable {next start scope : Nat} {opened more : List Address} {address above : Address}

/-- Opening nodes that come later and are not above change nothing. -/
theorem NearestOpening.append_right (h : NearestOpening next start opened address scope)
    (hmore : ∀ above ∈ more, ¬ address.IsBelow above) :
    NearestOpening next start (opened ++ more) address scope := by
  cases h with
  | outside hnone =>
    apply NearestOpening.outside
    intro above hmem
    exact (List.mem_append.mp hmem).elim (hnone above) (hmore above)
  | inside index above habove hbelow hnearest =>
    apply NearestOpening.inside index above ?_ hbelow
    · intro other hmem hother
      rcases List.mem_append.mp hmem with hmem | hmem
      · exact hnearest other hmem hother
      · exact absurd hother (hmore other hmem)
    · rw [List.getElem?_append_left (List.getElem?_eq_some_iff.mp habove).1]
      exact habove

/-- Opening nodes that come earlier and are not above only shift the numbers. -/
theorem NearestOpening.append_left {count : Nat}
    (h : NearestOpening (next + count) start opened address scope) (hcount : more.length = count)
    (hmore : ∀ above ∈ more, ¬ address.IsBelow above) :
    NearestOpening next start (more ++ opened) address scope := by
  subst hcount
  cases h with
  | outside hnone =>
    apply NearestOpening.outside
    intro above hmem
    exact (List.mem_append.mp hmem).elim (hmore above) (hnone above)
  | inside index above habove hbelow hnearest =>
    rw [Nat.add_assoc]
    apply NearestOpening.inside (more.length + index) above ?_ hbelow
    · intro other hmem hother
      rcases List.mem_append.mp hmem with hmem | hmem
      · exact absurd hother (hmore other hmem)
      · exact hnearest other hmem hother
    · rw [List.getElem?_append_right (Nat.le_add_right ..), Nat.add_sub_cancel_left]
      exact habove

/-- An opening node that is above everything else takes the place of the scope around it. -/
theorem NearestOpening.cons (h : NearestOpening (next + 1) next opened address scope)
    (habove : address.IsBelow above) (hopened : ∀ other ∈ opened, above <+: other) :
    NearestOpening next start (above :: opened) address scope := by
  cases h with
  | outside hnone =>
    apply NearestOpening.inside 0 above rfl habove
    intro other hmem hother
    rcases List.mem_cons.mp hmem with rfl | hmem
    · exact List.prefix_rfl
    · exact absurd hother (hnone other hmem)
  | inside index nearest hindex hbelow hnearest =>
    rw [Nat.add_assoc, Nat.add_comm 1 index]
    apply NearestOpening.inside (index + 1) nearest hindex hbelow
    intro other hmem hother
    rcases List.mem_cons.mp hmem with rfl | hmem
    · exact hopened nearest (List.mem_of_getElem? hindex)
    · exact hnearest other hmem hother

end

/-- Nothing stands below what stands below it. -/
theorem Address.not_isBelow_of_prefix {address above : Address} (h : address <+: above) :
    ¬ address.IsBelow above := by
  intro hbelow
  exact hbelow.2 (hbelow.1.eq_of_length_le h.length_le)

/-- What stands below one child does not stand below what stands below another. -/
theorem Address.not_isBelow_of_children {address first second : Address} {index other : Nat}
    (hfirst : address ++ [index] <+: first) (hsecond : address ++ [other] <+: second)
    (hother : index ≠ other) : ¬ first.IsBelow second := by
  intro hbelow
  have hboth := List.prefix_of_prefix_length_le hfirst (hsecond.trans hbelow.1) (by simp)
  rw [List.prefix_append_right_inj] at hboth
  exact hother (by simpa using hboth)

/-- The addresses of the opening nodes among visits. -/
def openedAddresses (visits : List Visit) : List Address :=
  (openings visits).map Visit.address

/-- Every address of an opening node is that of a visit. -/
theorem exists_of_mem_openedAddresses {visits : List Visit} {above : Address}
    (hmem : above ∈ openedAddresses visits) : ∃ visit ∈ visits, visit.address = above := by
  obtain ⟨visit, hvisit, haddress⟩ := List.mem_map.mp hmem
  exact ⟨visit, (List.mem_filter.mp hvisit).1, haddress⟩

mutual
/-- Each visit of a tree is in the scope of the nearest opening node above it. -/
theorem nearestOpening_of_mem_visitsOf (address : Address) (scope next : Nat) (tree : SyntaxTree)
    (visit : Visit) (hmem : visit ∈ visitsOf address scope next tree) :
    NearestOpening next scope (openedAddresses (visitsOf address scope next tree)) visit.address
      visit.scope := by
  obtain ⟨label, children⟩ := tree
  have hroot (above : Address)
      (hmem : above ∈ openedAddresses (visitsOf address scope next (.node label children))) :
      address <+: above := by
    obtain ⟨opening, hopening, rfl⟩ := exists_of_mem_openedAddresses hmem
    exact prefix_of_mem_visitsOf _ _ _ _ opening hopening
  rw [visitsOf] at hmem hroot ⊢
  rcases List.mem_cons.mp hmem with rfl | hmem
  · apply NearestOpening.outside
    intro above habove
    exact Address.not_isBelow_of_prefix (hroot above habove)
  · have hbelow := nearestOpening_of_mem_visitsFrom _ _ _ _ _ children visit hmem
    cases hopens : opensScope (.node label children) with
    | false =>
      have hvisit : Visit.opens ⟨address, scope, .node label children⟩ = false := hopens
      rw [hopens] at hbelow
      rw [openedAddresses, openings_cons_of_not_opens hvisit]
      exact hbelow
    | true =>
      have hvisit : Visit.opens ⟨address, scope, .node label children⟩ = true := hopens
      obtain ⟨position, _, hposition⟩ := prefix_of_mem_visitsFrom _ _ _ _ _ children visit hmem
      rw [hopens] at hbelow hroot
      rw [openedAddresses, openings_cons_of_opens hvisit] at hroot ⊢
      apply NearestOpening.cons hbelow
      · refine ⟨(List.prefix_append ..).trans hposition, ?_⟩
        rintro rfl
        exact List.lt_irrefl _ (Address.lt_of_child hposition)
      · intro other hother
        exact hroot other (List.mem_cons_of_mem _ hother)
/-- Each visit of children is in the scope of the nearest opening node above it. -/
theorem nearestOpening_of_mem_visitsFrom (address : Address) (scope next first index : Nat)
    (children : List SyntaxTree) (visit : Visit)
    (hmem : visit ∈ visitsFrom address scope next first index children) :
    NearestOpening next scope
      (openedAddresses (visitsFrom address scope next first index children)) visit.address
      visit.scope := by
  cases children with
  | nil => simp [visitsFrom] at hmem
  | cons child rest =>
    rw [visitsFrom] at hmem ⊢
    split at hmem
    · rename_i hindex
      rw [if_pos hindex]
      exact nearestOpening_of_mem_visitsFrom _ _ _ _ _ rest visit hmem
    · rename_i hindex
      rw [if_neg hindex, openedAddresses, openings_append, List.map_append]
      -- the child and the rest stand below different positions, so neither is above the other
      rcases List.mem_append.mp hmem with hmem | hmem
      · apply (nearestOpening_of_mem_visitsOf _ _ _ child visit hmem).append_right
        intro above habove
        obtain ⟨opening, hopening, rfl⟩ := exists_of_mem_openedAddresses habove
        have hvisit := prefix_of_mem_visitsOf _ _ _ child visit hmem
        obtain ⟨position, hle, hopening⟩ :=
          prefix_of_mem_visitsFrom _ _ _ _ _ rest opening hopening
        exact Address.not_isBelow_of_children hvisit hopening (by omega)
      · have hrest := nearestOpening_of_mem_visitsFrom _ _ _ _ _ rest visit hmem
        apply hrest.append_left (List.length_map Visit.address)
        intro above habove
        obtain ⟨opening, hopening, rfl⟩ := exists_of_mem_openedAddresses habove
        have hopening := prefix_of_mem_visitsOf _ _ _ child opening hopening
        obtain ⟨position, hle, hvisit⟩ := prefix_of_mem_visitsFrom _ _ _ _ _ rest visit hmem
        exact Address.not_isBelow_of_children hvisit hopening (by omega)
end

/-! ## The walk -/

namespace Store

/-- The scopes that visits open have the children that the visits opened in them. -/
def Holds (store : Store) (next : Nat) (visits : List Visit) : Prop :=
  ∀ id, next ≤ id → id < next + (openings visits).length →
    store.childrenOf id = scopesOpenedIn next visits id

/-- What a store holds of visits in two parts it holds of each, if no visit of either part takes
place in a scope that the other part opens. -/
theorem Holds.of_append {store : Store} {start next : Nat} {visits more : List Visit}
    (hholds : store.Holds next (visits ++ more)) (hstart : start < next)
    (hvisits : InReach start next next visits)
    (hmore : InReach start (next + (openings visits).length) (next + (openings visits).length)
      more) :
    store.Holds next visits ∧ store.Holds (next + (openings visits).length) more := by
  constructor
  · intro id hle hlt
    have hnone : scopesOpenedIn (next + (openings visits).length) more id = [] := by
      apply scopesOpenedIn_eq_nil
      intro visit hmem hid
      have hscope := hmore.scope_of_mem hmem
      omega
    rw [hholds id hle (by rw [openings_append, List.length_append]; omega), scopesOpenedIn_append,
      hnone, List.append_nil]
  · intro id hle hlt
    have hnone : scopesOpenedIn next visits id = [] := by
      apply scopesOpenedIn_eq_nil
      intro visit hmem hid
      have hscope := hvisits.scope_of_mem hmem
      omega
    rw [hholds id (by omega) (by rw [openings_append, List.length_append]; omega),
      scopesOpenedIn_append, hnone, List.nil_append]

/-- A visit that opens a scope puts it before all scopes that are opened in it. -/
theorem preorder_cons (store : Store) {next levels : Nat} {visit : Visit} {below : List Visit}
    (hopens : visit.opens = true) (hscope : visit.scope < next)
    (hreach : InReach next (next + 1) (next + 1) below)
    (hholds : store.Holds next (visit :: below))
    (hlevels : (openings (visit :: below)).length ≤ levels)
    (hbelow : store.Holds (next + 1) below → (openings below).length ≤ levels - 1 →
      (scopesOpenedIn (next + 1) below next).flatMap (store.preorder (levels - 1)) =
        List.range' (next + 1) (openings below).length) :
    (scopesOpenedIn next (visit :: below) visit.scope).flatMap (store.preorder levels) =
      List.range' next (openings (visit :: below)).length := by
  have hcons (id : Nat) : scopesOpenedIn next (visit :: below) id =
      (if visit.scope = id then [next] else []) ++ scopesOpenedIn (next + 1) below id := by
    rw [scopesOpenedIn_cons, hopens]
    rfl
  have hnone : scopesOpenedIn (next + 1) below visit.scope = [] := by
    apply scopesOpenedIn_eq_nil
    intro other hmem hid
    have hother := hreach.scope_of_mem hmem
    omega
  have hlength : (openings (visit :: below)).length = (openings below).length + 1 := by
    rw [openings_cons_of_opens hopens, List.length_cons]
  rw [hlength] at hlevels ⊢
  have hrest : store.Holds (next + 1) below := by
    intro id hle hlt
    rw [hholds id (by omega) (by rw [hlength]; omega), hcons, if_neg (by omega), List.nil_append]
  have hchildren : store.childrenOf next = scopesOpenedIn (next + 1) below next := by
    rw [hholds next (Nat.le_refl next) (by rw [hlength]; omega), hcons, if_neg (by omega),
      List.nil_append]
  obtain ⟨deeper, rfl⟩ : ∃ deeper, levels = deeper + 1 := ⟨levels - 1, by omega⟩
  calc (scopesOpenedIn next (visit :: below) visit.scope).flatMap (store.preorder (deeper + 1))
      = store.preorder (deeper + 1) next := by rw [hcons, if_pos rfl, hnone]; simp
    _ = next :: (scopesOpenedIn (next + 1) below next).flatMap (store.preorder deeper) := by
        rw [preorder_succ, hchildren]
    _ = next :: List.range' (next + 1) (openings below).length := by
        rw [← hbelow hrest (by omega)]
        rfl
    _ = List.range' next ((openings below).length + 1) := List.range'_succ.symm

end Store

/-- The first of some visits take place in reach if all of them do. -/
theorem InReach.take {start first next : Nat} {visits : List Visit}
    (hreach : InReach start first next visits) (count : Nat) :
    InReach start first next (visits.take count) := by
  rw [← List.take_append_drop count visits, inReach_append] at hreach
  exact hreach.1

mutual
/-- A walk below the scope of a tree meets the scopes that the tree opens in the order of their
numbers, also if only the first visits are carried out. -/
theorem preorder_take_visitsOf (store : Store) (address : Address) (scope next levels count : Nat)
    (tree : SyntaxTree) (hscope : scope < next)
    (hholds : store.Holds next ((visitsOf address scope next tree).take count))
    (hlevels : (openings ((visitsOf address scope next tree).take count)).length ≤ levels) :
    (scopesOpenedIn next ((visitsOf address scope next tree).take count) scope).flatMap
        (store.preorder levels) =
      List.range' next (openings ((visitsOf address scope next tree).take count)).length := by
  obtain ⟨label, children⟩ := tree
  cases count with
  | zero => rfl
  | succ count =>
    rw [visitsOf, List.take_succ_cons] at hholds hlevels ⊢
    cases hopens : opensScope (.node label children) with
    | false =>
      have hvisit : Visit.opens ⟨address, scope, .node label children⟩ = false := hopens
      rw [hopens] at hholds hlevels
      simp only [Store.Holds, scopesOpenedIn, openings_cons_of_not_opens hvisit] at hholds hlevels ⊢
      exact preorder_take_visitsFrom store _ _ _ _ _ _ _ children hscope hholds hlevels
    | true =>
      have hvisit : Visit.opens ⟨address, scope, .node label children⟩ = true := hopens
      rw [hopens] at hholds hlevels
      apply Store.preorder_cons store hvisit hscope ((visitsFrom_inReach ..).take count) hholds
        hlevels
      intro hbelow hdeeper
      exact preorder_take_visitsFrom store _ _ _ _ _ _ _ children (Nat.lt_succ_self next) hbelow
        hdeeper
/-- A walk below the scope of children meets the scopes that they open in the order of their
numbers, also if only the first visits are carried out. -/
theorem preorder_take_visitsFrom (store : Store) (address : Address)
    (scope next first index levels count : Nat) (children : List SyntaxTree) (hscope : scope < next)
    (hholds : store.Holds next ((visitsFrom address scope next first index children).take count))
    (hlevels :
      (openings ((visitsFrom address scope next first index children).take count)).length ≤ levels) :
    (scopesOpenedIn next ((visitsFrom address scope next first index children).take count)
        scope).flatMap (store.preorder levels) =
      List.range' next
        (openings ((visitsFrom address scope next first index children).take count)).length := by
  cases children with
  | nil => simp [visitsFrom, scopesOpenedIn]
  | cons child rest =>
    rw [visitsFrom] at hholds hlevels ⊢
    split at hholds
    · rename_i hindex
      rw [if_pos hindex] at hlevels ⊢
      exact preorder_take_visitsFrom store _ _ _ _ _ _ _ rest hscope hholds hlevels
    · rename_i hindex
      rw [if_neg hindex] at hlevels ⊢
      simp only at hholds hlevels ⊢
      -- the visits end in the first child, or they go through all of it
      rcases Nat.le_total count (visitsOf (address ++ [index]) scope next child).length with
        hcount | hcount
      · rw [List.take_append_of_le_length hcount] at hholds hlevels ⊢
        exact preorder_take_visitsOf store _ _ _ _ _ child hscope hholds hlevels
      · rw [List.take_append, List.take_of_length_le hcount] at hholds hlevels ⊢
        rw [openings_append, List.length_append] at hlevels
        rw [openings_append, List.length_append, scopesOpenedIn_append, List.flatMap_append,
          ← List.range'_append_1]
        obtain ⟨hchild, hrest⟩ := hholds.of_append hscope (visitsOf_inReach ..)
          ((visitsFrom_inReach ..).take _)
        have hall := preorder_take_visitsOf store (address ++ [index]) scope next levels count child
          hscope
        rw [List.take_of_length_le hcount] at hall
        rw [hall hchild (by omega),
          preorder_take_visitsFrom store _ _ _ _ _ _ _ rest (by omega) hrest (by omega)]
end

/-! ## From a fresh root -/

section

variable {source : SourceText} {visits : List Visit}

/-- Visits that succeed have one header for each scope that they open. -/
theorem length_headersOf (hok : ∀ visit ∈ visits, Succeeds source visit.tree) :
    (headersOf source visits).length = (openings visits).length := by
  induction visits with
  | nil => rfl
  | cons visit rest ih =>
    rw [List.forall_mem_cons] at hok
    have hrest := ih hok.2
    rw [headersOf, List.flatMap_cons, List.length_append, hok.1.length_headers, ← headersOf, hrest,
      length_openings_cons]
    rfl

/-- The headers of the scopes that visits open are those of the opening nodes, in order. -/
theorem getElem?_headersOf (hok : ∀ visit ∈ visits, Succeeds source visit.tree) {index : Nat}
    {visit : Visit} (hopened : (openings visits)[index]? = some visit) :
    ∃ header, (headersOf source visits)[index]? = some header ∧
      (scriptOf source visit.tree).headers = [header] ∧
      openedKind? visit.tree.label.kind = some header.kind := by
  induction visits generalizing index with
  | nil => simp at hopened
  | cons first rest ih =>
    rw [List.forall_mem_cons] at hok
    have hcalls := scriptOf_callsFor source first.tree
    cases hopens : first.opens with
    | false =>
      rw [openings_cons_of_not_opens hopens] at hopened
      obtain ⟨header, hheader, hvisit⟩ := ih hok.2 hopened
      refine ⟨header, ?_, hvisit⟩
      rw [headersOf, List.flatMap_cons, hcalls.headers_of_not_opens hopens]
      exact hheader
    | true =>
      rw [openings_cons_of_opens hopens] at hopened
      obtain ⟨descent, hending⟩ := hok.1
      obtain ⟨header, hheaders, hkind⟩ := hcalls.headers_of_opens hending hopens
      rw [headersOf, List.flatMap_cons, hheaders, List.singleton_append]
      cases index with
      | zero =>
        cases hopened
        exact ⟨header, rfl, hheaders, hkind⟩
      | succ index => exact ih hok.2 hopened

variable {store : Store} {root : Header}

/-- The slots after visits from a fresh root. -/
theorem Store.slotAfter_ofRoot (source : SourceText) (root : Header) (visits : List Visit)
    (id : Nat) :
    (Store.ofRoot root).slotAfter source visits id =
      (root :: headersOf source visits)[id]?.map fun header =>
        (Slot.fresh header).add (factsIn source visits id) (scopesOpenedIn 1 visits id) := by
  change ((root :: headersOf source visits).map Slot.fresh)[id]?.map _ = _
  rw [List.getElem?_map, Option.map_map]
  rfl

/-- After visits from a fresh root, each scope has the children that the visits opened in it. -/
theorem childrenOf_after_ofRoot (hok : ∀ visit ∈ visits, Succeeds source visit.tree)
    (hreach : InReach 0 1 1 visits)
    (hslots : ∀ id : Nat, store.slots[id]? = (Store.ofRoot root).slotAfter source visits id)
    (id : Nat) : store.childrenOf id = scopesOpenedIn 1 visits id := by
  rw [Store.childrenOf, hslots, Store.slotAfter_ofRoot]
  cases hheader : (root :: headersOf source visits)[id]? with
  | some header => exact List.nil_append _
  | none =>
    have hlength := List.getElem?_eq_none_iff.mp hheader
    rw [List.length_cons, length_headersOf hok] at hlength
    symm
    apply scopesOpenedIn_eq_nil
    intro visit hmem hid
    have hscope := hreach.scope_of_mem hmem
    omega

/-- The walk from the root meets the scopes in the order of their numbers. -/
theorem walk_after_ofRoot {tree : SyntaxTree}
    (hsize : store.size = 1 + (openings (visitsOf [] 0 1 tree)).length)
    (hchildren : ∀ id, store.childrenOf id = scopesOpenedIn 1 (visitsOf [] 0 1 tree) id) :
    store.walk 0 = List.range ((openings (visitsOf [] 0 1 tree)).length + 1) := by
  have hbelow := preorder_take_visitsOf store [] 0 1 (openings (visitsOf [] 0 1 tree)).length
    (visitsOf [] 0 1 tree).length tree Nat.one_pos
  rw [List.take_length] at hbelow
  replace hbelow := hbelow (fun id _ _ => hchildren id) (Nat.le_refl _)
  rw [Store.walk_eq_preorder, hsize, Nat.add_comm, Store.preorder_succ, hchildren, hbelow,
    List.range_eq_range', List.range'_succ]

end

/-- The opening nodes of a tree in preorder, with their addresses. -/
def openingNodes (tree : SyntaxTree) : List (Address × SyntaxTree) :=
  (openings (visitsOf [] 0 1 tree)).map fun visit => (visit.address, visit.tree)

/-- The addresses of the opening nodes. -/
theorem map_fst_openingNodes (tree : SyntaxTree) :
    (openingNodes tree).map Prod.fst = openedAddresses (visitsOf [] 0 1 tree) := by
  rw [openingNodes, List.map_map]
  rfl

/-- The opening nodes are the visited nodes that open a scope. -/
theorem mem_openingNodes {tree node : SyntaxTree} {address : Address} :
    (address, node) ∈ openingNodes tree ↔
      IsVisited tree address node ∧ opensScope node = true := by
  rw [isVisited_iff_mem_visitsOf tree 0 1, openingNodes]
  simp only [List.mem_map, openings, List.mem_filter, Prod.mk.injEq]
  constructor
  · rintro ⟨visit, ⟨hmem, hopens⟩, rfl, rfl⟩
    exact ⟨⟨visit, hmem, rfl, rfl⟩, hopens⟩
  · rintro ⟨⟨visit, hmem, rfl, rfl⟩, hopens⟩
    exact ⟨visit, ⟨hmem, hopens⟩, rfl, rfl⟩

/-- The opening nodes come in preorder. -/
theorem openingNodes_pairwise (tree : SyntaxTree) :
    ((openingNodes tree).map Prod.fst).Pairwise (· < ·) := by
  rw [map_fst_openingNodes, openedAddresses, List.pairwise_map]
  exact (visitsOf_pairwise [] 0 1 tree).filter _

/-- Scopes mirror declarations. If a fresh root is filled from a tree, the scopes below the root
are, in the order of a walk, the opening nodes among the visited ones in preorder. Each is a child
of the scope of the nearest opening node above its own, or of the root if there is none, and of no
other, and it has the header that its node calls for, which is of the kind that the node stands for.
-/
theorem scopes_mirror_declarations (source : SourceText) (tree : SyntaxTree) (root : Header)
    (progress : Progress) (hfill : fill source tree (.ofRoot root) 0 = (progress, none)) :
    ∃ opened : List (Address × SyntaxTree),
      (opened.map Prod.fst).Pairwise (· < ·) ∧
      (∀ address node, (address, node) ∈ opened ↔
        IsVisited tree address node ∧ opensScope node = true) ∧
      progress.store.walk 0 = List.range (opened.length + 1) ∧
      ∀ index address node, opened[index]? = some (address, node) →
        (∃ parent, NearestOpening 1 0 (opened.map Prod.fst) address parent ∧
          ∀ id, index + 1 ∈ progress.store.childrenOf id ↔ id = parent) ∧
        ∃ contents, progress.store.contents? (index + 1) = some contents ∧
          (scriptOf source node).headers = [contents.header] ∧
          openedKind? node.label.kind = some contents.header.kind := by
  have hopen := Store.isOpen_ofRoot root
  have hreach := visitsOf_inReach [] 0 1 tree
  have hok : ∀ visit ∈ visitsOf [] 0 1 tree, Succeeds source visit.tree :=
    succeeds_of_fill hopen (congrArg Prod.snd hfill)
  obtain rfl : Progress.afterEach source ⟨.ofRoot root, []⟩ (visitsOf [] 0 1 tree) = progress :=
    congrArg Prod.fst ((fill_of_all_succeed hopen hok).1.symm.trans hfill)
  have hslots := Progress.getElem?_afterEach (hopen.ready []) hreach hok
  have hsize := Progress.size_afterEach_of_succeeds hok ⟨.ofRoot root, []⟩
  have hchildren := childrenOf_after_ofRoot hok hreach hslots
  refine ⟨openingNodes tree, openingNodes_pairwise tree, fun _ _ => mem_openingNodes, ?_, ?_⟩
  · rw [openingNodes, List.length_map]
    exact walk_after_ofRoot hsize hchildren
  · intro index address node hindex
    rw [openingNodes, List.getElem?_map, Option.map_eq_some_iff] at hindex
    obtain ⟨visit, hopened, hvisit⟩ := hindex
    obtain ⟨rfl, rfl⟩ := Prod.mk.inj hvisit
    refine ⟨⟨visit.scope, ?_, ?_⟩, ?_⟩
    · have hmem := (List.mem_filter.mp (List.mem_of_getElem? hopened)).1
      rw [map_fst_openingNodes]
      exact nearestOpening_of_mem_visitsOf [] 0 1 tree visit hmem
    · intro id
      rw [hchildren, Nat.add_comm, mem_scopesOpenedIn hopened, eq_comm]
    · obtain ⟨header, hheader, hheaders, hkind⟩ := getElem?_headersOf hok hopened
      have hslot := hslots (index + 1)
      rw [Store.slotAfter_ofRoot, List.getElem?_cons_succ, hheader] at hslot
      refine ⟨(Contents.fresh header).recordAll (factsIn source (visitsOf [] 0 1 tree) (index + 1)),
        ?_, ?_⟩
      · rw [Store.contents?, hslot]
        rfl
      · rw [(Contents.recordAll_frozen_header ..).2]
        exact ⟨hheaders, hkind⟩

/-- The text `class A{void m(){}}`. -/
def methodSource : SourceText :=
  ⟨.ascii, [[99, 108, 97, 115, 115, 32, 65, 123, 118, 111, 105, 100, 32, 109, 40, 41, 123, 125,
    125]]⟩

/-- A class with one method in it. -/
def methodInClass : SyntaxTree :=
  .node ⟨"program", ⟨0, 0⟩, ⟨0, 19⟩⟩
    [.node ⟨"class_declaration", ⟨0, 0⟩, ⟨0, 19⟩⟩
      [.node ⟨"identifier", ⟨0, 6⟩, ⟨0, 7⟩⟩ [],
        .node ⟨"class_body", ⟨0, 7⟩, ⟨0, 19⟩⟩
          [.node ⟨"method_declaration", ⟨0, 8⟩, ⟨0, 18⟩⟩
            [.node ⟨"void_type", ⟨0, 8⟩, ⟨0, 12⟩⟩ [], .node ⟨"identifier", ⟨0, 13⟩, ⟨0, 14⟩⟩ [],
              .node ⟨"formal_parameters", ⟨0, 14⟩, ⟨0, 16⟩⟩ []]]]]

/-- The class and its method are the two scopes below the root. -/
theorem scopes_mirror_methodInClass :
    (fill methodSource methodInClass (.ofRoot .file) 0).2 = none ∧
      ∃ opened : List (Address × SyntaxTree),
        (∀ address node, (address, node) ∈ opened ↔
          IsVisited methodInClass address node ∧ opensScope node = true) ∧
        (fill methodSource methodInClass (.ofRoot .file) 0).1.store.walk 0 =
          List.range (opened.length + 1) := by
  have hfill : (fill methodSource methodInClass (.ofRoot .file) 0).2 = none := by
    decide +kernel
  obtain ⟨opened, _, hopened, hwalk, _⟩ := scopes_mirror_declarations methodSource methodInClass
    .file (fill methodSource methodInClass (.ofRoot .file) 0).1 (Prod.ext rfl hfill)
  exact ⟨hfill, opened, hopened, hwalk⟩

end JavaOutline
