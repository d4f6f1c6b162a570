import JavaOutline.Proofs.Scope.History
import JavaOutline.Proofs.Traversal.Order
import JavaOutline.Proofs.Traversal.Record

/-!
# Changes and their notes

A traversal changes a store in two ways: it opens a scope below another, or it records a fact in one.
Every change is a call on the store, and it has a note: the kind and the name of the scope, or the
text of the fact, after some words that tell the sort of the change. Of a script, the changes are what
it opens and records, in the order of its steps, and its messages are exactly the notes of these
changes; it does not matter whether a step is noted before it is carried out or after it. In an open
scope no change is refused, so the journal of a traversal and the calls that make up its store always
go together, however far it gets.
-/

namespace JavaOutline

/-! ## Changes -/

/-- A change that is made in a scope. -/
inductive Change where
  | opened (scope : Nat) (header : Header)
  | recorded (scope : Nat) (fact : Fact)
deriving DecidableEq, Repr

/-- The sorts of changes that notes tell apart. -/
inductive ChangeSort where
  | opening
  | importing
  | field
  | call
  | creation
deriving DecidableEq, Repr

/-- The words that the note of a change of some sort starts with. -/
def ChangeSort.words : ChangeSort → String
  | opening => "Opened"
  | importing => "Recorded import"
  | field => "Recorded field"
  | call => "Recorded invocation"
  | creation => "Recorded object creation"

/-- The sort of the change that records a fact. -/
def Fact.changeSort : Fact → ChangeSort
  | importing _ => .importing
  | field _ => .field
  | invocation (.call _ _ _) => .call
  | invocation (.creation _ _) => .creation

/-- What the note of a fact says before the text of the fact. -/
def Fact.noteWords : Fact → String
  | importing _ => "Recorded "
  | field _ => "Recorded field "
  | invocation (.call _ _ _) => "Recorded invocation "
  | invocation (.creation _ _) => "Recorded object creation "

/-- The note that a fact was recorded. -/
def Fact.note (fact : Fact) : String :=
  fact.noteWords ++ fact.text

/-- The note that a scope was opened. -/
def Header.note (header : Header) : String :=
  "Opened " ++ header.kind.word ++ " scope " ++ header.name

namespace Change

/-- The sort of a change. -/
def sort : Change → ChangeSort
  | opened _ _ => .opening
  | recorded _ fact => fact.changeSort

/-- The note of a change. -/
def note : Change → String
  | opened _ header => header.note
  | recorded _ fact => fact.note

/-- The call on a store that makes a change. -/
def call : Change → Operation
  | opened scope header => .openChild scope header
  | recorded scope fact => .record scope fact

/-- The header of the scope that a change opens. -/
def header? : Change → Option Header
  | opened _ header => some header
  | recorded _ _ => none

end Change

/-! ## Sorts of notes -/

/-- Whether a message starts with some words. -/
def startsWith (words message : String) : Bool :=
  words.toList.isPrefixOf message.toList

/-- A message starts with the words that it has at its start. -/
theorem startsWith_append {words start : String} (hstart : startsWith words start = true)
    (rest : String) : startsWith words (start ++ rest) = true := by
  rw [startsWith, List.isPrefixOf_iff_prefix] at hstart ⊢
  rw [String.toList_append]
  exact hstart.trans (List.prefix_append ..)

/-- The note of a fact starts with the words for its sort. -/
theorem Fact.startsWith_note (fact : Fact) : startsWith fact.changeSort.words fact.note = true := by
  cases fact with
  | importing declaration =>
    have hstatic : startsWith "Recorded import" ("Recorded " ++ "import static ") = true := by
      rw [startsWith, String.toList_append]
      rfl
    have hplain : startsWith "Recorded import" ("Recorded " ++ "import ") = true := by
      rw [startsWith, String.toList_append]
      rfl
    rw [note, noteWords, text, Import.text, ← String.append_assoc]
    apply startsWith_append
    cases declaration.isStatic
    · exact hplain
    · exact hstatic
  | field declared =>
    have hwords : startsWith "Recorded field" "Recorded field " = true := by decide
    exact startsWith_append hwords _
  | invocation made =>
    cases made with
    | call receiver path arguments =>
      have hwords : startsWith "Recorded invocation" "Recorded invocation " = true := by decide
      exact startsWith_append hwords _
    | creation type arguments =>
      have hwords : startsWith "Recorded object creation" "Recorded object creation " = true := by
        decide
      exact startsWith_append hwords _

/-- The words for a sort do not start those for another one. -/
theorem ChangeSort.eq_of_prefix {first second : ChangeSort}
    (h : first.words.toList <+: second.words.toList) : first = second := by
  rw [← List.isPrefixOf_iff_prefix] at h
  cases first <;> cases second <;> first | rfl | exact absurd h (by decide)

namespace Change

/-- The note of a change starts with the words for its sort. -/
theorem startsWith_note (change : Change) : startsWith change.sort.words change.note = true := by
  cases change with
  | opened scope header =>
    have hwords : startsWith "Opened" "Opened " = true := by decide
    rw [note, Header.note, String.append_assoc, String.append_assoc]
    exact startsWith_append hwords _
  | recorded scope fact => exact fact.startsWith_note

/-- The note of a change starts with the words for its sort and for no other. -/
theorem startsWith_words_iff (sort : ChangeSort) (change : Change) :
    startsWith sort.words change.note = (change.sort == sort) := by
  rw [Bool.eq_iff_iff, beq_iff_eq]
  constructor
  · intro hstarts
    have hown := change.startsWith_note
    rw [startsWith, List.isPrefixOf_iff_prefix] at hstarts hown
    rcases List.prefix_or_prefix_of_prefix hown hstarts with hle | hle
    · exact ChangeSort.eq_of_prefix hle
    · exact (ChangeSort.eq_of_prefix hle).symm
  · rintro rfl
    exact change.startsWith_note

/-- The notes of some sort are those of the changes of this sort. -/
theorem filter_startsWith_map_note (sort : ChangeSort) (changes : List Change) :
    (changes.map note).filter (startsWith sort.words) =
      (changes.filter fun change => change.sort == sort).map note := by
  rw [List.filter_map]
  congr 2
  funext change
  exact startsWith_words_iff sort change

end Change

/-! ## The changes of a script -/

/-- The change that a step makes in a scope. -/
def Step.change? (scope : Nat) : Step → Option Change
  | enter header => some (.opened scope header)
  | record fact => some (.recorded scope fact)
  | note _ => none

/-- The changes that a script makes in a scope, in order. -/
def Script.changes (scope : Nat) (script : Script) : List Change :=
  script.steps.filterMap (Step.change? scope)

/-- The messages of a script are the notes of its changes. -/
def Script.IsFaithful (script : Script) : Prop :=
  ∀ scope, script.messages = (script.changes scope).map Change.note

/-- The note of a package tells its kind like the note of any scope. -/
theorem Header.note_package (segments : List String) :
    (Header.package segments).note = "Opened package scope " ++ dotted segments := by
  have hwords : "Opened " ++ "package" ++ " scope " = "Opened package scope " := by
    rw [String.ext_iff, String.toList_append, String.toList_append]
    rfl
  rw [note, kind, ScopeKind.word, hwords, name]

/-- Going through declarators notes each field that it records, also if a later one fails. -/
theorem declaratorScript_isFaithful (source : SourceText) (modifiers : String) (type : JavaType)
    (descent : Descent) (declarators : List SyntaxTree) :
    (declaratorScript source modifiers type descent declarators).IsFaithful := by
  intro scope
  induction declarators with
  | nil => rfl
  | cons declarator rest ih =>
    unfold declaratorScript
    split
    · rfl
    · rename_i field _
      exact congrArg ((Fact.field field).note :: ·) ih

/-- A call is noted as one. -/
theorem callScript_isFaithful (source : SourceText) (children : List SyntaxTree) :
    (callScript source children).IsFaithful := by
  unfold callScript
  apply Script.ofReading_bind _ _ fun _ _ => rfl
  intro parts _
  apply Script.ofReading_bind _ _ fun _ _ => rfl
  intro call hcall scope
  obtain ⟨path, _, rfl⟩ := accept_eq_ok hcall
  rfl

/-- An object creation is noted as one. -/
theorem creationScript_isFaithful (source : SourceText) (root : SyntaxNode)
    (children : List SyntaxTree) : (creationScript source root children).IsFaithful := by
  rw [creationScript_eq]
  apply Script.ofReading_bind _ _ fun _ _ => rfl
  intro parts _
  apply Script.ofReading_bind _ _ fun _ _ => rfl
  intro type _ scope
  rfl

/-- Every script notes exactly the changes that it makes. -/
theorem scriptOf_isFaithful (source : SourceText) (tree : SyntaxTree) :
    (scriptOf source tree).IsFaithful := by
  by_cases hcall : Construct.ofKind tree.label.kind = .methodInvocation
  · rw [scriptOf, hcall]
    exact callScript_isFaithful source tree.children
  · by_cases hcreation : Construct.ofKind tree.label.kind = .objectCreation
    · rw [scriptOf, hcreation]
      exact creationScript_isFaithful source tree.label tree.children
    · have hcalls := scriptOf_callsFor source tree
      generalize scriptOf source tree = script at hcalls
      intro scope
      cases hcalls with
      | package hkind hname segments => exact congrArg ([·]) (Header.note_package segments).symm
      | fields => exact declaratorScript_isFaithful _ _ _ _ _ scope
      | invoking hkind => exact absurd hkind (not_or.mpr ⟨hcall, hcreation⟩)
      | failing | passing | unnamedPackage | importing | opening => rfl

/-! ## Changes as calls -/

namespace Store

variable {store : Store} {scope : Nat}

/-- None of some calls is refused. -/
def Accepts (store : Store) (operations : List Operation) : Prop :=
  ∀ entry ∈ store.transcript operations, ∀ error, entry.2 ≠ .refused error

/-- What calls in two parts give back. -/
theorem transcript_append (store : Store) (first second : List Operation) :
    store.transcript (first ++ second) =
      store.transcript first ++ (store.run first).transcript second := by
  induction first generalizing store with
  | nil => rfl
  | cons operation first ih => rw [List.cons_append, transcript, transcript, ih]; rfl

/-- Calls in two parts are accepted if each part is. -/
theorem Accepts.append {first second : List Operation} (hfirst : store.Accepts first)
    (hsecond : (store.run first).Accepts second) : store.Accepts (first ++ second) := by
  intro entry hentry
  rw [transcript_append] at hentry
  rcases List.mem_append.mp hentry with hentry | hentry
  · exact hfirst entry hentry
  · exact hsecond entry hentry

/-- Calls are accepted if the first of them is and the others are after it. -/
theorem Accepts.cons {operation : Operation} {operations : List Operation} {changed : Store}
    {answer : Answer} (hperform : store.perform operation = (changed, answer))
    (hanswer : ∀ error, answer ≠ .refused error) (hrest : changed.Accepts operations) :
    store.Accepts (operation :: operations) := by
  rw [Accepts, transcript, hperform]
  exact List.forall_mem_cons.mpr ⟨hanswer, hrest⟩

/-- In an open scope, the changes of steps that open no file are accepted, and as calls they add what
the steps record and open. -/
theorem run_changes_of_isOpen {steps : List Step} (hopen : store.IsOpen scope)
    (hfile : Header.file ∉ steps.filterMap Step.header?) :
    store.run ((steps.filterMap (Step.change? scope)).map Change.call) =
        store.extend scope (steps.filterMap Step.fact?) (steps.filterMap Step.header?) ∧
      store.Accepts ((steps.filterMap (Step.change? scope)).map Change.call) := by
  induction steps generalizing store with
  | nil => exact ⟨(store.extend_nil scope).symm, by simp [Accepts, transcript]⟩
  | cons step steps ih =>
    cases step with
    | note message => exact ih hopen hfile
    | record fact =>
      have hrest : Header.file ∉ steps.filterMap Step.header? := hfile
      have hperform : store.perform (.record scope fact) = (store.extend scope [fact] [], .done) := by
        rw [perform, record_eq_ok_iff.mpr ⟨hopen, rfl⟩]
      obtain ⟨hrun, haccepts⟩ := ih (hopen.extend scope [fact] []) hrest
      simp only [List.filterMap_cons, Step.change?, Step.fact?, Step.header?, List.map_cons,
        Change.call, run_cons, hperform]
      refine ⟨?_, .cons hperform (by simp) haccepts⟩
      rw [hrun, extend_extend store hopen.lt_size]
      rfl
    | enter header =>
      change Header.file ∉ header :: steps.filterMap Step.header? at hfile
      rw [List.mem_cons, not_or] at hfile
      have hperform : store.perform (.openChild scope header) =
          (store.extend scope [] [header], .created store.size) := by
        rw [perform, openChild_eq_ok_iff.mpr ⟨hopen, Ne.symm hfile.1, rfl, rfl⟩]
      obtain ⟨hrun, haccepts⟩ := ih (hopen.extend scope [] [header]) hfile.2
      simp only [List.filterMap_cons, Step.change?, Step.fact?, Step.header?, List.map_cons,
        Change.call, run_cons, hperform]
      refine ⟨?_, .cons hperform (by simp) haccepts⟩
      rw [hrun, extend_extend store hopen.lt_size]
      rfl

/-- A change that is not refused adds to one scope, and it opens what the change says. -/
theorem exists_extend_of_accepted {change : Change}
    (haccepted : ∀ error, (store.perform change.call).2 ≠ .refused error) :
    ∃ scope facts, (store.perform change.call).1 =
      store.extend scope facts change.header?.toList := by
  have hperformed := store.perform_performed change.call
  cases change with
  | opened scope header =>
    rw [Change.call] at haccepted hperformed ⊢
    generalize store.perform (.openChild scope header) = outcome at haccepted hperformed
    cases hperformed with
    | opened => exact ⟨scope, [], rfl⟩
    | refused _ error => exact absurd rfl (haccepted error)
  | recorded scope fact =>
    rw [Change.call] at haccepted hperformed ⊢
    generalize store.perform (.record scope fact) = outcome at haccepted hperformed
    cases hperformed with
    | recorded => exact ⟨scope, [fact], rfl⟩
    | refused _ error => exact absurd rfl (haccepted error)

/-- After changes that are accepted, the scopes that were there have their headers, and behind them
stand the scopes that the changes opened, in order. -/
theorem header?_run_changes {changes : List Change}
    (haccepts : store.Accepts (changes.map Change.call)) :
    (store.run (changes.map Change.call)).size =
        store.size + (changes.filterMap Change.header?).length ∧
      ∀ id, (store.run (changes.map Change.call)).header? id =
        if id < store.size then store.header? id
        else (changes.filterMap Change.header?)[id - store.size]? := by
  induction changes generalizing store with
  | nil =>
    refine ⟨rfl, fun id => ?_⟩
    split
    · rfl
    · rename_i hsize
      have hnone : store.slots[id]? = none := Array.getElem?_eq_none (Nat.le_of_not_lt hsize)
      simp [header?, contents?, hnone]
  | cons change changes ih =>
    rw [List.map_cons, Accepts, transcript, List.forall_mem_cons] at haccepts
    obtain ⟨scope, facts, hextend⟩ := exists_extend_of_accepted haccepts.1
    obtain ⟨hsize, hheaders⟩ := ih haccepts.2
    have hopened : (change :: changes).filterMap Change.header? =
        change.header?.toList ++ changes.filterMap Change.header? := by
      cases hheader : change.header? <;> simp [hheader]
    rw [List.map_cons, run_cons, hopened, List.length_append]
    rw [hextend] at hsize hheaders ⊢
    rw [size_extend] at hsize hheaders
    refine ⟨by omega, fun id => ?_⟩
    rw [hheaders, header?_extend, List.getElem?_append]
    by_cases hold : id < store.size
    · rw [if_pos (by omega), if_pos hold, if_pos hold]
    · by_cases hnew : id - store.size < change.header?.toList.length
      · rw [if_pos (by omega), if_neg hold, if_neg hold, if_pos hnew]
      · rw [if_neg (by omega), if_neg hold, if_neg hnew, Nat.sub_sub]

/-- The new scopes after changes that are accepted have the headers that the changes opened. -/
theorem map_header_run_changes {changes : List Change}
    (haccepts : store.Accepts (changes.map Change.call)) :
    let later := store.run (changes.map Change.call)
    (List.range' store.size (later.size - store.size)).map (fun id => (later.contentsOf id).header) =
      changes.filterMap Change.header? := by
  intro later
  obtain ⟨hsize, hheaders⟩ := header?_run_changes haccepts
  apply List.ext_getElem
  · rw [List.length_map, List.length_range', hsize, Nat.add_sub_cancel_left]
  · intro index hleft hright
    have hheader := hheaders (store.size + index)
    rw [if_neg (by omega), Nat.add_sub_cancel_left, List.getElem?_eq_getElem hright, header?,
      Option.map_eq_some_iff] at hheader
    obtain ⟨contents, hcontents, hheader⟩ := hheader
    rw [List.getElem_map, List.getElem_range', Nat.one_mul, contentsOf, hcontents]
    exact hheader

end Store

/-- The notes of the changes that open a scope tell the headers that they opened. -/
theorem Change.map_note_filter_opening (changes : List Change) :
    (changes.filter fun change => change.sort == .opening).map note =
      (changes.filterMap header?).map Header.note := by
  induction changes with
  | nil => rfl
  | cons change changes ih =>
    cases change with
    | opened scope header => exact congrArg (header.note :: ·) ih
    | recorded scope fact =>
      have hother : (recorded scope fact).sort ≠ .opening := by
        rcases fact with declaration | declared | (_ | _) <;> nofun
      rw [List.filter_cons_of_neg (by simpa using hother)]
      exact ih

end JavaOutline
