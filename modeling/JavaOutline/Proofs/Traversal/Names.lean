import JavaOutline.Proofs.Scope.Names
import JavaOutline.Proofs.Traversal.Calls
import JavaOutline.Proofs.Traversal.FirstFailure
import JavaOutline.Proofs.Traversal.Likeness
import JavaOutline.Scope.Report

/-!
# Everything that is recorded has a name

The texts that names are made of are read off the source and can be anything, also blank. But every
entity is made by a check of its names, and a script has its steps only when all the entities in it
are made. By the laws of the readings, whatever a script records or opens is named, also if the script
fails later on. A package is never entered, since none of its children is visited. It follows that a
traversal from a file keeps the store an outline, at every visit, and thus also when it stops at a
failure.
-/

namespace JavaOutline

/-! ## Scripts -/

/-- All types of a list are named if each of them is. -/
theorem JavaType.areNamed_of_forall {types : List JavaType} (h : ∀ type ∈ types, type.IsNamed) :
    AreNamed types := by
  induction types with
  | nil =>
    rw [AreNamed]
    trivial
  | cons type types ih =>
    rw [List.forall_mem_cons] at h
    rw [AreNamed]
    exact ⟨h.1, ih h.2⟩

section

variable {Text : String → Prop}

/-- A type that is made of names is named. -/
theorem JavaType.IsMadeOf.isNamed {type : JavaType} (h : type.IsMadeOf Text) : type.IsNamed := by
  induction h with
  | plain hname _ =>
    rw [JavaType.IsNamed]
    exact hname
  | generic hname _ _ ih =>
    rw [JavaType.IsNamed]
    exact ⟨hname, areNamed_of_forall ih⟩

/-- A header that is made of names is named. -/
theorem Header.IsMadeOf.isNamed {header : Header} (h : header.IsMadeOf Text) : header.IsNamed := by
  cases header with
  | file => exact trivial
  | package | type | record | function => exact h.1

/-- A fact that is made of names is named. -/
theorem Fact.IsMadeOf.isNamed {fact : Fact} (h : fact.IsMadeOf Text) : fact.IsNamed := by
  cases fact with
  | importing declaration => exact h.1
  | field declared => exact ⟨h.1, h.2.2.2.isNamed⟩
  | invocation made =>
    cases made with
    | call receiver path arguments => exact h.1
    | creation type arguments => exact h.1.isNamed

end

/-- Whatever a node calls for is made of names. -/
theorem scriptOf_isMadeOf (source : SourceText) (tree : SyntaxTree) :
    ∀ step ∈ (scriptOf source tree).steps, step.IsMadeOf fun _ => True := by
  have hself : Alike (Comparison.ofSource source).Node tree tree := .refl tree fun _ _ => rfl
  exact ((Comparison.ofSource source).scriptOf_agrees hself).isMadeOf

/-- The facts that a node calls for are named. -/
theorem isNamed_of_mem_facts {source : SourceText} {tree : SyntaxTree} {fact : Fact}
    (hfact : fact ∈ (scriptOf source tree).facts) : fact.IsNamed := by
  obtain ⟨step, hstep, hrecords⟩ := List.mem_filterMap.mp hfact
  have hmade := scriptOf_isMadeOf source tree step hstep
  cases step with
  | record recorded =>
    cases hrecords
    exact Fact.IsMadeOf.isNamed hmade
  | enter | note => cases hrecords

/-- The headers that a node calls for are named. -/
theorem isNamed_of_mem_headers {source : SourceText} {tree : SyntaxTree} {header : Header}
    (hheader : header ∈ (scriptOf source tree).headers) : header.IsNamed := by
  obtain ⟨step, hstep, hopens⟩ := List.mem_filterMap.mp hheader
  have hmade := scriptOf_isMadeOf source tree step hstep
  cases step with
  | enter opened =>
    cases hopens
    exact Header.IsMadeOf.isNamed hmade
  | record | note => cases hopens

/-! ## Traversals -/

namespace Progress

variable {source : SourceText} {progress : Progress} {scope : Nat} {tree : SyntaxTree}

/-- A visit in a scope that is no package keeps the store an outline. -/
theorem isOutline_after (hstore : progress.store.IsOutline)
    (hscope : progress.store.IsEnterable scope) (source : SourceText) (tree : SyntaxTree) :
    (progress.after scope (scriptOf source tree)).store.IsOutline := by
  have hfile := (scriptOf_callsFor source tree).file_not_mem_headers
  refine hstore.extend hscope (fun _ => isNamed_of_mem_facts) fun header hheader => ?_
  exact ⟨fun heq => hfile (heq ▸ hheader), isNamed_of_mem_headers hheader⟩

/-- A visit leads to scopes that are no packages. -/
theorem isEnterable_of_mem_targets {descent : Descent} {job : Nat × SyntaxTree}
    (hscope : progress.store.IsEnterable scope)
    (hok : (scriptOf source tree).ending = .ok descent)
    (hjob : job ∈ descent.targets scope (if opensScope tree then progress.store.size else scope)
      tree.children) :
    (progress.after scope (scriptOf source tree)).store.IsEnterable job.1 := by
  rw [targets_eq_drop hok] at hjob
  obtain ⟨child, hchild, rfl⟩ := List.mem_map.mp hjob
  cases hopens : opensScope tree with
  | false => exact hscope.extend ..
  | true =>
    obtain ⟨header, hheaders, hkind⟩ :=
      (scriptOf_callsFor source tree).headers_of_opens hok hopens
    refine ⟨header, by simp [after, Store.header?_extend, hheaders], fun hpackage => ?_⟩
    -- none of the children of a package is visited
    rw [hpackage] at hkind
    rw [firstVisited_of_package hkind, List.drop_length] at hchild
    exact absurd hchild List.not_mem_nil

/-- A traversal in scopes that are no packages keeps the store an outline, wherever it ends. -/
theorem isOutline_traverse (source : SourceText) (pending : List (Nat × SyntaxTree))
    (progress : Progress) (hready : progress.Ready 0 1) (hstore : progress.store.IsOutline)
    (hpending : ∀ job ∈ pending, progress.store.IsEnterable job.1) :
    (traverse source pending progress).1.store.IsOutline := by
  fun_induction traverse source pending progress with
  | case1 progress => exact hstore
  | case2 scope tree pending progress reached failure opened hvisit =>
    have hscope := hpending (scope, tree) List.mem_cons_self
    have hopen : progress.store.IsOpen scope := hready scope (by have := hscope.lt_size; omega)
    rw [visit_of_isOpen hopen, Prod.mk.injEq] at hvisit
    rw [← hvisit.1]
    exact isOutline_after hstore hscope source tree
  | case3 scope tree pending progress reached descent opened hvisit ih =>
    have hscope := hpending (scope, tree) List.mem_cons_self
    obtain ⟨hok, rfl, _, rfl⟩ := visit_eq_ok hvisit
    apply ih
    · exact hready.after scope (scriptOf source tree)
    · exact isOutline_after hstore hscope source tree
    · intro job hjob
      rcases List.mem_append.mp hjob with hjob | hjob
      · exact isEnterable_of_mem_targets hscope hok hjob
      · exact (hpending job (List.mem_cons_of_mem _ hjob)).extend ..

end Progress

/-- Filling a file gives an outline, whether it fails or not. -/
theorem isOutline_fill (source : SourceText) (tree : SyntaxTree) :
    (fill source tree (.ofRoot .file) 0).1.store.IsOutline := by
  refine Progress.isOutline_traverse source [(0, tree)] ⟨.ofRoot .file, []⟩
    ((Store.isOpen_ofRoot .file).ready []) Store.isOutline_ofRoot_file fun job hjob => ?_
  obtain rfl := List.mem_singleton.mp hjob
  exact ⟨.file, rfl, by simp [Header.kind]⟩

/-- The outline of any tree over any source is well-formed, whether filling the file got to its end or
stopped at a failure. Its root is its only file. A package has a segment, and nothing is in it or
below it. Every name is one: that of each scope but the file, every segment of a package, of an import
and of the path of a call, the identifier of a field, and all names in types, at any depth. So it can
be told of every import by its last segment whether it is a wildcard, every call has a method name,
and a report can be written, unless it is too wide. -/
theorem outline_is_well_formed (source : SourceText) (tree : SyntaxTree) :
    let outline := (fill source tree (.ofRoot .file) 0).1.store.scope 0
    Scope.kind outline = .file ∧
    (∀ below ∈ Scope.descendants outline,
      Scope.kind below ≠ .file ∧ below.label.header.IsNamed ∧ IsName (Scope.name below)) ∧
    (∀ below ∈ outline.walk, Scope.kind below = .package →
      below.children = [] ∧ below.label.imports = [] ∧ below.label.fields = [] ∧
      below.label.invocations = [] ∧
      ∃ segments, below.label.header = .package segments ∧ IsDottedName segments) ∧
    (∀ declaration ∈ Scope.allImports outline,
      IsDottedName declaration.segments ∧ IsName declaration.qualifiedName ∧
      ∃ last, declaration.segments.getLast? = some last ∧
        declaration.isWildcard = (last == "*")) ∧
    (∀ declared ∈ Scope.allFields outline,
      IsName declared.identifier ∧ declared.type.IsNamed) ∧
    (∀ receiver path arguments, .call receiver path arguments ∈ Scope.allInvocations outline →
      IsDottedName path ∧
      ∃ name, Invocation.methodName? (.call receiver path arguments) = some name ∧ IsName name) ∧
    (∀ type arguments, .creation type arguments ∈ Scope.allInvocations outline → type.IsNamed) ∧
    ∀ indent (maxWidth : Nat), -(Int.pow 2 63) ≤ indent → indent < Int.pow 2 63 →
      Scope.widestIndent indent outline ≤ maxWidth →
      Scope.checkedReport indent outline maxWidth = .ok (Scope.report indent outline) := by
  intro outline
  have hforest := ((Store.wellFormed_ofRoot .file).fill source tree 0).toIsForest
  have hroot : 0 < (fill source tree (.ofRoot .file) 0).1.store.size :=
    Store.size_le_size_fill source tree (.ofRoot .file) 0
  have hstore := isOutline_fill source tree
  have hnamed : ∀ below ∈ outline.walk, below.label.IsNamed := by
    intro below hbelow
    obtain ⟨id, slot, hslot, hlabel, _⟩ := hforest.exists_showsSlot_of_mem_walk hroot hbelow
    rw [hlabel]
    exact (hstore id slot hslot).isNamed
  refine ⟨?_, ?_, ?_, ?_, ?_, ?_, ?_, ?_⟩
  · obtain ⟨slot, hslot, hlabel, _⟩ := Store.showsSlot_map_numberTree hroot _
    have hfile := (hstore 0 slot hslot).file_iff.mpr rfl
    rw [Scope.kind, show outline.label = slot.contents from hlabel, hfile]
    rfl
  · intro below hbelow
    obtain ⟨id, hid, slot, hslot, hlabel, _⟩ :=
      hforest.exists_showsSlot_of_mem_descendants hbelow
    have houtlined := hstore id slot hslot
    have hfile : slot.contents.header ≠ .file := fun h => Nat.ne_of_gt hid (houtlined.file_iff.mp h)
    rw [Scope.kind, Scope.name, hlabel]
    refine ⟨?_, houtlined.isNamed.header, houtlined.isNamed.header.isName_name hfile⟩
    exact fun hkind => hfile (Header.eq_file_of_kind hkind)
  · intro below hbelow hkind
    obtain ⟨id, slot, hslot, hlabel, hchildren⟩ :=
      hforest.exists_showsSlot_of_mem_walk hroot hbelow
    rw [Scope.kind, hlabel] at hkind
    obtain ⟨segments, hsegments⟩ := Header.exists_eq_package_of_kind hkind
    have houtlined := hstore id slot hslot
    have hheader := houtlined.isNamed.header
    have hfresh := houtlined.eq_fresh segments hsegments
    rw [hsegments] at hheader
    rw [hlabel, hfresh]
    exact ⟨hchildren (by rw [hfresh]; rfl), rfl, rfl, rfl, segments, rfl, hheader⟩
  · intro declaration hmem
    obtain ⟨below, hbelow, hdeclaration⟩ := List.mem_flatMap.mp hmem
    have hdotted := (hnamed below hbelow).imports declaration hdeclaration
    obtain ⟨last, hlast, _⟩ := hdotted.exists_getLast?
    exact ⟨hdotted, hdotted.isName_dotted, last, hlast, by simp [Import.isWildcard, hlast]⟩
  · intro declared hmem
    obtain ⟨below, hbelow, hdeclared⟩ := List.mem_flatMap.mp hmem
    exact (hnamed below hbelow).fields declared hdeclared
  · intro receiver path arguments hmem
    obtain ⟨below, hbelow, hmade⟩ := List.mem_flatMap.mp hmem
    have hdotted : IsDottedName path := (hnamed below hbelow).invocations _ hmade
    exact ⟨hdotted, hdotted.exists_getLast?⟩
  · intro type arguments hmem
    obtain ⟨below, hbelow, hmade⟩ := List.mem_flatMap.mp hmem
    exact (hnamed below hbelow).invocations _ hmade
  · intro indent maxWidth hlow hhigh hwidth
    rw [Scope.checkedReport, if_neg (by omega), if_neg (by omega)]

end JavaOutline
