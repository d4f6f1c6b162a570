import JavaOutline.Proofs.Traversal.Order
import JavaOutline.Proofs.Traversal.Record

/-!
# The first failure

A visit in an open scope fails exactly if the script of its node does, so it fails there as it would
alone in an empty scope. A traversal that starts in an open scope stops at the first visited node,
in preorder, that fails alone, and it fails with the failure of that node. By then the visits before
it have had their effect, and the failing one has had none, except that a field declaration may
already have recorded some fields: those of the declarators before the first that stands for none.
-/

namespace JavaOutline

/-! ## What a failing script does -/

/-- The fields that a node has recorded by the time it fails. -/
inductive LeavesBehind (source : SourceText) (tree : SyntaxTree) (failure : Failure) :
    List Field → Prop where
  | notField (hkind : tree.label.kind ≠ "field_declaration")
      (hkind' : tree.label.kind ≠ "constant_declaration") : LeavesBehind source tree failure []
  | modifiers (hmodifiers : readModifiers source tree.children = .error failure) :
      LeavesBehind source tree failure []
  | type (modifiers : String) (hmodifiers : readModifiers source tree.children = .ok modifiers)
      (htype : readPartAsType source tree.label (fieldTypeNode? tree.children) = .error failure) :
      LeavesBehind source tree failure []
  /-- The fields are those of the declarators before the one that fails. -/
  | declarator (hkind : tree.label.kind ∈ ["field_declaration", "constant_declaration"])
      (modifiers : String) (hmodifiers : readModifiers source tree.children = .ok modifiers)
      (type : JavaType)
      (htype : readPartAsType source tree.label (fieldTypeNode? tree.children) = .ok type)
      (before later : List SyntaxTree) (declarator : SyntaxTree) (fields : List Field)
      (hsplit : declaratorsOf tree.children = before ++ declarator :: later)
      (hbefore : before.map (readField source modifiers type) = fields.map .ok)
      (hfails : readField source modifiers type declarator = .error failure) :
      LeavesBehind source tree failure fields

/-- The kinds of nodes that stand for field declarations. -/
theorem Construct.ofKind_eq_fieldDeclaration_iff (kind : String) :
    Construct.ofKind kind = .fieldDeclaration ↔
      kind ∈ ["field_declaration", "constant_declaration"] := by
  fun_cases Construct.ofKind kind <;> simp_all

/-- Going through declarators records the fields before the first declarator that fails. -/
theorem declaratorScript_error {source : SourceText} {modifiers : String} {type : JavaType}
    {descent : Descent} {declarators : List SyntaxTree} {failure : Failure}
    (herror : (declaratorScript source modifiers type descent declarators).ending =
      .error failure) :
    ∃ (before later : List SyntaxTree) (declarator : SyntaxTree) (fields : List Field),
      declarators = before ++ declarator :: later ∧
      before.map (readField source modifiers type) = fields.map .ok ∧
      readField source modifiers type declarator = .error failure ∧
      (declaratorScript source modifiers type descent declarators).facts =
        fields.map .field := by
  induction declarators with
  | nil => cases herror
  | cons declarator rest ih =>
    unfold declaratorScript at herror ⊢
    cases hfield : readField source modifiers type declarator with
    | error reason =>
      rw [hfield] at herror
      cases herror
      exact ⟨[], rest, declarator, [], rfl, rfl, hfield, rfl⟩
    | ok field =>
      rw [hfield] at herror
      obtain ⟨before, later, fails, fields, rfl, hbefore, hfails, hfacts⟩ := ih herror
      refine ⟨declarator :: before, later, fails, field :: fields, rfl, ?_, hfails, ?_⟩
      · rw [List.map_cons, List.map_cons, hfield, hbefore]
      · exact congrArg (Fact.field field :: ·) hfacts

/-- A field declaration that fails has recorded the fields that it leaves behind. -/
theorem fieldScript_error {source : SourceText} {tree : SyntaxTree} {failure : Failure}
    (hkind : tree.label.kind ∈ ["field_declaration", "constant_declaration"])
    (herror : (fieldScript source tree.label tree.children).ending = .error failure) :
    ∃ fields, (fieldScript source tree.label tree.children).facts = fields.map .field ∧
      LeavesBehind source tree failure fields := by
  rw [fieldScript_eq] at herror ⊢
  cases hmodifiers : readModifiers source tree.children with
  | error reason =>
    rw [hmodifiers] at herror
    cases herror
    exact ⟨[], rfl, .modifiers hmodifiers⟩
  | ok modifiers =>
    rw [hmodifiers] at herror
    cases htype : readPartAsType source tree.label (fieldTypeNode? tree.children) with
    | error reason =>
      rw [htype] at herror
      cases herror
      exact ⟨[], rfl, .type modifiers hmodifiers htype⟩
    | ok type =>
      rw [htype] at herror
      obtain ⟨before, later, declarator, fields, hsplit, hbefore, hfails, hfacts⟩ :=
        declaratorScript_error herror
      exact ⟨fields, hfacts, .declarator hkind modifiers hmodifiers type htype before later
        declarator fields hsplit hbefore hfails⟩

/-- A script that fails has recorded the fields that its node leaves behind and nothing else. -/
theorem facts_of_error {source : SourceText} {tree : SyntaxTree} {failure : Failure}
    (herror : (scriptOf source tree).ending = .error failure) :
    ∃ fields, (scriptOf source tree).facts = fields.map .field ∧
      LeavesBehind source tree failure fields := by
  by_cases hkind : tree.label.kind ∈ ["field_declaration", "constant_declaration"]
  · have hfield := (Construct.ofKind_eq_fieldDeclaration_iff _).mpr hkind
    have hscript : scriptOf source tree = fieldScript source tree.label tree.children := by
      rw [scriptOf, hfield]
    rw [hscript] at herror ⊢
    exact fieldScript_error hkind herror
  · have hcalls := scriptOf_callsFor source tree
    have hnot : ¬ Construct.ofKind tree.label.kind = .fieldDeclaration := by
      rwa [Construct.ofKind_eq_fieldDeclaration_iff]
    refine ⟨[], ?_, ?_⟩
    · generalize scriptOf source tree = script at hcalls herror
      cases hcalls with
      | failing => rfl
      | fields hfield => exact absurd hfield hnot
      | passing | unnamedPackage | package | importing | opening | invoking => cases herror
    · simp only [List.mem_cons, List.not_mem_nil, or_false, not_or] at hkind
      exact .notField hkind.1 hkind.2

/-! ## Alone and in a traversal -/

/-- The store with one root scope has that scope open. -/
theorem Store.isOpen_ofRoot (header : Header) : (Store.ofRoot header).IsOpen 0 :=
  isOpen_iff.mpr ⟨_, rfl, rfl⟩

/-- How a visit of a node ends if it is the only one, in an empty scope. -/
def endingAlone (source : SourceText) (header : Header) (tree : SyntaxTree) :
    Except Failure Descent :=
  (Progress.visit source 0 tree ⟨.ofRoot header, []⟩).2.1

/-- Alone, a node does as its script says. -/
theorem endingAlone_eq (source : SourceText) (header : Header) (tree : SyntaxTree) :
    endingAlone source header tree = (scriptOf source tree).ending := by
  rw [endingAlone, Progress.visit_of_isOpen (Store.isOpen_ofRoot header)]

/-- Of some visits, either all succeed or there is a first one that fails. -/
theorem all_succeed_or_first_fails (source : SourceText) (visits : List Visit) :
    (∀ visit ∈ visits, Succeeds source visit.tree) ∨
      ∃ before visit later failure, visits = before ++ visit :: later ∧
        (∀ earlier ∈ before, Succeeds source earlier.tree) ∧
        (scriptOf source visit.tree).ending = .error failure := by
  induction visits with
  | nil => exact .inl (by simp)
  | cons visit rest ih =>
    cases hending : (scriptOf source visit.tree).ending with
    | error failure => exact .inr ⟨[], visit, rest, failure, rfl, by simp, hending⟩
    | ok descent =>
      have hvisit : Succeeds source visit.tree := ⟨descent, hending⟩
      rcases ih with hrest | ⟨before, fails, later, failure, rfl, hbefore, hfails⟩
      · exact .inl (List.forall_mem_cons.mpr ⟨hvisit, hrest⟩)
      · exact .inr ⟨visit :: before, fails, later, failure, rfl,
          List.forall_mem_cons.mpr ⟨hvisit, hbefore⟩, hfails⟩

section

variable {source : SourceText} {tree : SyntaxTree} {store : Store} {scope : Nat}

/-- At the start, the only scope that matters is the one to be filled. -/
theorem Store.IsOpen.ready (hopen : store.IsOpen scope) (journal : List String) :
    Progress.Ready scope store.size ⟨store, journal⟩ := by
  intro id hid
  rcases hid with rfl | ⟨hle, hlt⟩
  · exact hopen
  · exact absurd hlt (Nat.not_lt_of_le hle)

/-- If no visited node fails alone, an open scope is filled, and every visited node is handled. -/
theorem fill_of_all_succeed (hopen : store.IsOpen scope)
    (hok : ∀ visit ∈ visitsOf [] scope store.size tree, Succeeds source visit.tree) :
    fill source tree store scope =
        (Progress.afterEach source ⟨store, []⟩ (visitsOf [] scope store.size tree), none) ∧
      handledBy source tree store scope = visitsOf [] scope store.size tree := by
  obtain ⟨heach, hreached⟩ := Progress.visitEach_append_of_succeeds (hopen.ready [])
    (visitsOf_inReach [] scope store.size tree) hok []
  rw [List.append_nil] at heach hreached
  rw [fill_eq_visitEach_visitsOf, handledBy_eq, heach, hreached]
  exact ⟨rfl, List.append_nil _⟩

/-- If some visited node fails alone, filling an open scope stops at the first of them. -/
theorem fill_of_first_fails (hopen : store.IsOpen scope) {before later : List Visit} {visit : Visit}
    {failure : Failure} (hsplit : visitsOf [] scope store.size tree = before ++ visit :: later)
    (hbefore : ∀ earlier ∈ before, Succeeds source earlier.tree)
    (hfails : (scriptOf source visit.tree).ending = .error failure) :
    fill source tree store scope =
        ((Progress.afterEach source ⟨store, []⟩ before).after visit.scope
          (scriptOf source visit.tree), some failure) ∧
      handledBy source tree store scope = before ++ [visit] := by
  have hreach := visitsOf_inReach [] scope store.size tree
  rw [hsplit, inReach_append] at hreach
  obtain ⟨heach, hreached⟩ := Progress.visitEach_append_of_succeeds
    (hopen.ready []) hreach.1 hbefore (visit :: later)
  have hready := (hopen.ready []).afterEach source before
  have hscope := hreach.2.1
  rw [← Progress.size_afterEach_of_succeeds hbefore ⟨store, []⟩] at hscope
  have hvisit := Progress.visit_of_isOpen (hready visit.scope hscope) source visit.tree
  rw [hfails] at hvisit
  rw [fill_eq_visitEach_visitsOf, handledBy_eq, hsplit, heach, hreached, Progress.visitEach,
    Progress.reached, hvisit]
  exact ⟨rfl, rfl⟩

/-- If an open scope is filled, no visited node fails alone. -/
theorem succeeds_of_fill (hopen : store.IsOpen scope)
    (hfill : (fill source tree store scope).2 = none) :
    ∀ visit ∈ visitsOf [] scope store.size tree, Succeeds source visit.tree := by
  rcases all_succeed_or_first_fails source (visitsOf [] scope store.size tree) with
    hok | ⟨before, visit, later, failure, hsplit, hbefore, hfails⟩
  · exact hok
  · rw [(fill_of_first_fails hopen hsplit hbefore hfails).1] at hfill
    cases hfill

/-- What the slots hold after the first failure. -/
theorem getElem?_after_first_fails (hopen : store.IsOpen scope) {before later : List Visit}
    {visit : Visit} {failure : Failure}
    (hsplit : visitsOf [] scope store.size tree = before ++ visit :: later)
    (hbefore : ∀ earlier ∈ before, Succeeds source earlier.tree)
    (hfails : (scriptOf source visit.tree).ending = .error failure) (id : Nat) :
    ((Progress.afterEach source ⟨store, []⟩ before).after visit.scope
        (scriptOf source visit.tree)).store.slots[id]? =
      (store.slotAfter source before id).map fun slot =>
        if id = visit.scope then slot.add (scriptOf source visit.tree).facts [] else slot := by
  have hreach := visitsOf_inReach [] scope store.size tree
  rw [hsplit, inReach_append] at hreach
  have hslots := Progress.getElem?_afterEach (hopen.ready []) hreach.1 hbefore id
  have hheaders := (scriptOf_callsFor source visit.tree).headers_of_error hfails
  rw [Progress.after, Store.getElem?_extend, hheaders, hslots]
  split
  · rfl
  · rename_i hlarge
    have hnone : store.slotAfter source before id = none := by
      rw [← hslots]
      exact Array.getElem?_eq_none (Nat.le_of_not_lt hlarge)
    simp [hnone]

end

/-- Visited nodes depend on the kinds of the nodes only. -/
theorem exists_isVisited_congr {first second : SyntaxTree} (hkinds : kindsOf first = kindsOf second)
    (address : Address) :
    (∃ node, IsVisited first address node) ↔ ∃ node, IsVisited second address node := by
  have haddresses (tree : SyntaxTree) : (∃ node, IsVisited tree address node) ↔
      address ∈ ((visitsOf [] 0 0 tree).map Visit.place).map Prod.fst := by
    simp only [isVisited_iff_mem_visitsOf tree 0 0, List.map_map, List.mem_map]
    constructor
    · rintro ⟨node, visit, hmem, haddress, _⟩
      exact ⟨visit, hmem, haddress⟩
    · rintro ⟨visit, hmem, haddress⟩
      exact ⟨visit.tree, visit, hmem, haddress, rfl⟩
  rw [haddresses, haddresses, visitsOf_congr [] 0 0 first second hkinds]

/-- Filling an open scope and the first failure. Which nodes are visited follows from the kinds of
the nodes, and they are listed in preorder. The scope is filled exactly if every visited node, alone
in an empty scope, succeeds, and then all of them are handled. Otherwise the failure is the one that
the first failing node has alone, and nothing after that node is handled; the scopes then hold what
the visits before it record, and the scope of the failing node also the fields that this node leaves
behind. -/
theorem fill_stops_at_first_failure (source : SourceText) (tree : SyntaxTree) (store : Store)
    (scope : Nat) (hopen : store.IsOpen scope) (header : Header) :
    (∀ other, kindsOf other = kindsOf tree → ∀ address,
      (∃ node, IsVisited other address node) ↔ ∃ node, IsVisited tree address node) ∧
    (∀ address node, IsVisited tree address node ↔
      ∃ visit ∈ visitsOf [] scope store.size tree,
        visit.address = address ∧ visit.tree = node) ∧
    ((visitsOf [] scope store.size tree).Pairwise fun first second =>
      first.address < second.address) ∧
    ((fill source tree store scope).2 = none ↔
      ∀ address node, IsVisited tree address node →
        ∃ descent, endingAlone source header node = .ok descent) ∧
    ((fill source tree store scope).2 = none →
      handledBy source tree store scope = visitsOf [] scope store.size tree) ∧
    ∀ failure, (fill source tree store scope).2 = some failure →
      ∃ before visit later fields,
        visitsOf [] scope store.size tree = before ++ visit :: later ∧
        handledBy source tree store scope = before ++ [visit] ∧
        (∀ earlier ∈ before, ∃ descent,
          endingAlone source header earlier.tree = .ok descent) ∧
        endingAlone source header visit.tree = .error failure ∧
        LeavesBehind source visit.tree failure fields ∧
        ∀ id, (fill source tree store scope).1.store.slots[id]? =
          (store.slotAfter source before id).map fun slot =>
            if id = visit.scope then slot.add (fields.map .field) [] else slot := by
  simp only [endingAlone_eq]
  refine ⟨fun other hkinds address => exists_isVisited_congr hkinds address,
    isVisited_iff_mem_visitsOf tree scope store.size, visitsOf_pairwise .., ?_⟩
  rcases all_succeed_or_first_fails source (visitsOf [] scope store.size tree) with
    hok | ⟨before, visit, later, failure, hsplit, hbefore, hfails⟩
  · obtain ⟨hfill, hhandled⟩ := fill_of_all_succeed hopen hok
    rw [hfill]
    refine ⟨⟨?_, fun _ => rfl⟩, fun _ => hhandled, ?_⟩
    · intro _ address node hvisited
      obtain ⟨visit, hmem, _, rfl⟩ :=
        (isVisited_iff_mem_visitsOf tree scope store.size address node).mp hvisited
      exact hok visit hmem
    · intro failure hnone
      cases hnone
  · obtain ⟨hfill, hhandled⟩ := fill_of_first_fails hopen hsplit hbefore hfails
    rw [hfill]
    refine ⟨⟨?_, ?_⟩, ?_, ?_⟩
    · intro hnone
      cases hnone
    · intro hok
      have hmem : visit ∈ visitsOf [] scope store.size tree := by simp [hsplit]
      obtain ⟨descent, hdescent⟩ := hok visit.address visit.tree
        (isVisited_of_mem_visitsOf [] scope store.size tree .root visit hmem)
      rw [hfails] at hdescent
      cases hdescent
    · intro hnone
      cases hnone
    · intro failure' hsame
      cases hsame
      obtain ⟨fields, hfacts, hleaves⟩ := facts_of_error hfails
      refine ⟨before, visit, later, fields, hsplit, hhandled, hbefore, hfails, hleaves, ?_⟩
      intro id
      rw [← hfacts]
      exact getElem?_after_first_fails hopen hsplit hbefore hfails id

/-- The text `int a, ;`. -/
def namelessSource : SourceText :=
  ⟨.ascii, [[105, 110, 116, 32, 97, 44, 32, 59]]⟩

/-- A field declaration whose second declarator has a name without text. -/
def namelessDeclaration : SyntaxTree :=
  .node ⟨"field_declaration", ⟨0, 0⟩, ⟨0, 8⟩⟩
    [.node ⟨"integral_type", ⟨0, 0⟩, ⟨0, 3⟩⟩ [],
      .node ⟨"variable_declarator", ⟨0, 4⟩, ⟨0, 5⟩⟩ [.node ⟨"identifier", ⟨0, 4⟩, ⟨0, 5⟩⟩ []],
      .node ⟨"variable_declarator", ⟨0, 7⟩, ⟨0, 7⟩⟩ [.node ⟨"identifier", ⟨0, 7⟩, ⟨0, 7⟩⟩ []]]

/-- The failure of a field whose name is blank. -/
def blankFieldName : Failure :=
  .rejected ⟨.field, [⟨[.key "identifier"], .invalidName .blank⟩]⟩

/-- The declaration fails at its second declarator, with the field of the first left behind. -/
theorem fill_stops_at_nameless_declarator :
    (Store.ofRoot .file).IsOpen 0 ∧
      (fill namelessSource namelessDeclaration (.ofRoot .file) 0).2 = some blankFieldName ∧
      ∃ visit ∈ visitsOf [] 0 1 namelessDeclaration,
        endingAlone namelessSource .file visit.tree = .error blankFieldName ∧
        ∃ fields, LeavesBehind namelessSource visit.tree blankFieldName fields := by
  have hopen := Store.isOpen_ofRoot .file
  have hfails : (fill namelessSource namelessDeclaration (.ofRoot .file) 0).2 =
      some blankFieldName := by
    decide +kernel
  obtain ⟨_, _, _, _, _, hstops⟩ := fill_stops_at_first_failure namelessSource
    namelessDeclaration (.ofRoot .file) 0 hopen .file
  obtain ⟨before, visit, later, fields, hsplit, _, _, hending, hleaves, _⟩ :=
    hstops blankFieldName hfails
  have hmem : visit ∈ visitsOf [] 0 1 namelessDeclaration := by
    rw [show 1 = (Store.ofRoot .file).size from rfl, hsplit]
    simp
  exact ⟨hopen, hfails, visit, hmem, hending, fields, hleaves⟩

end JavaOutline
