import JavaOutline.Proofs.Traversal.Readings
import JavaOutline.Proofs.Traversal.Visits

/-!
# Traversals of trees that are alike

A comparison of two sources, with its law for every reading, is carried on to the scripts of nodes, to
visits and to whole traversals. Trees that are alike call for the same steps at every node and lead to
children that are alike, and a comment that only the second tree has calls for nothing. So scopes are
filled from both in the same way, with failures that correspond, unless the first traversal gives up.
-/

namespace JavaOutline

namespace Comparison

/-! ## Scripts -/

/-- What two nodes call for: the same steps, made of names and texts as they should be, and then both
scripts lead on, or their failures correspond. If the first one gives up, the second may have more
steps. -/
inductive ScriptsAgree (c : Comparison) : Script → Script → Prop where
  | leads {steps : List Step} (hsteps : ∀ step ∈ steps, step.IsMadeOf c.Text)
      (descent descent' : Descent) : ScriptsAgree c ⟨steps, .ok descent⟩ ⟨steps, .ok descent'⟩
  | fails {steps : List Step} (hsteps : ∀ step ∈ steps, step.IsMadeOf c.Text)
      {failure failure' : Failure} (hfails : c.Fails failure failure') :
      ScriptsAgree c ⟨steps, .error failure⟩ ⟨steps, .error failure'⟩
  | givesUp {steps : List Step} (hsteps : ∀ step ∈ steps, step.IsMadeOf c.Text)
      {failure : Failure} (hgivesUp : c.GivesUp failure) (more : List Step)
      (ending' : Except Failure Descent) :
      ScriptsAgree c ⟨steps, .error failure⟩ ⟨steps ++ more, ending'⟩

section

variable {c : Comparison}

/-- Scripts agree if they start with readings that agree and go on alike. -/
theorem ScriptsAgree.ofReading_bind {α β : Type} {Value : α → β → Prop}
    {reading : Except Failure α} {reading' : Except Failure β} {next : α → Except Failure Script}
    {next' : β → Except Failure Script} (hreading : c.Agrees Value reading reading')
    (hnext : ∀ value value', Value value value' →
      c.ScriptsAgree (.ofReading (next value)) (.ofReading (next' value'))) :
    c.ScriptsAgree (.ofReading (reading >>= next)) (.ofReading (reading' >>= next')) := by
  cases hreading with
  | ok hvalue => exact hnext _ _ hvalue
  | error hfails => exact .fails (List.forall_mem_nil _) hfails
  | givesUp hgivesUp => exact .givesUp (List.forall_mem_nil _) hgivesUp _ _

/-- Scripts that do one thing and note it agree. -/
theorem ScriptsAgree.noted (step : Step) (hstep : step.IsMadeOf c.Text) (message : String)
    (descent : Descent) :
    c.ScriptsAgree ⟨[step, .note message], .ok descent⟩ ⟨[step, .note message], .ok descent⟩ := by
  have hnote : (Step.note message).IsMadeOf c.Text := trivial
  exact .leads (List.forall_mem_cons.mpr ⟨hstep, List.forall_mem_singleton.mpr hnote⟩) _ _

/-- Scripts that collect the parts of a declaration and open a scope for it agree, if the parts do and
the header is made of them as it should be. -/
theorem ScriptsAgree.opening {α : Type} {property : α → Prop} {reading reading' : Except Failure α}
    (hreading : c.Agrees (Same property) reading reading')
    {headerOf : α → Except Rejection Header}
    (hheader : ∀ parts, property parts → c.Accepts (Header.IsMadeOf c.Text) (headerOf parts))
    (first first' : Nat) :
    c.ScriptsAgree
      (.ofReading do
        let parts ← reading
        let header ← (headerOf parts).mapError .rejected
        return .opening header first)
      (.ofReading do
        let parts ← reading'
        let header ← (headerOf parts).mapError .rejected
        return .opening header first') := by
  refine ofReading_bind hreading ?_
  rintro parts _ ⟨rfl, hparts⟩
  refine ofReading_bind (hheader _ hparts) ?_
  rintro header _ ⟨rfl, hmade⟩
  have henter : (Step.enter header).IsMadeOf c.Text := hmade
  refine .leads (List.forall_mem_cons.mpr ⟨?_, List.forall_mem_singleton.mpr henter⟩) _ _
  exact trivial

variable (c) {children children' : List SyntaxTree}

/-- The parts of a declaration that has none of them are as they should be. -/
theorem areMadeOf_none : DeclarationParts.none.AreMadeOf c.Text := by
  constructor <;> exact c.fixed _ (by simp [fixedTexts, DeclarationParts.none])

/-- The scripts of packages agree if their children are alike. -/
theorem packageScript_agrees (hchildren : AllAlike c.Node children children') :
    c.ScriptsAgree (packageScript c.source children) (packageScript c.source' children') := by
  have hfound := hchildren.find? isNameNode_of_isComment
  unfold packageScript
  generalize children.find? (fun child => isNameNode child.label.kind) = found at hfound
  generalize children'.find? (fun child => isNameNode child.label.kind) = found' at hfound
  cases hfound with
  | none => exact .leads (List.forall_mem_nil _) _ _
  | some hname =>
    refine .ofReading_bind (c.readSegments_agrees _ hname) ?_
    rintro segments _ ⟨rfl, hsegments⟩
    have hheader : c.Accepts (Header.IsMadeOf c.Text) (Header.packageOf segments) :=
      c.accepts_segments _ _ fun hdotted => ⟨hdotted, hsegments⟩
    refine .ofReading_bind hheader ?_
    rintro header _ ⟨rfl, hmade⟩
    exact .noted (.enter header) hmade _ _

/-- The scripts of imports agree if their children are alike. -/
theorem importScript_agrees (hchildren : AllAlike c.Node children children') :
    c.ScriptsAgree (importScript c.source children) (importScript c.source' children') := by
  refine .ofReading_bind (c.foldlM_agrees hchildren (fun _ _ _ => c.addToImport_agrees)
    (fun parts _ h => ImportParts.add_of_isComment h _ parts) (List.forall_mem_nil _)) ?_
  rintro parts _ ⟨rfl, hsegments⟩
  have hdeclaration : c.Accepts (fun declaration => Fact.IsMadeOf c.Text (.importing declaration))
      (Import.of parts.segments parts.isStatic) :=
    c.accepts_segments _ _ fun hdotted => ⟨hdotted, hsegments⟩
  refine .ofReading_bind hdeclaration ?_
  rintro declaration _ ⟨rfl, hmade⟩
  exact .noted (.record (.importing declaration)) hmade _ _

/-- The scripts of classes, interfaces and enums agree if their children are alike. -/
theorem typeScript_agrees (sort : TypeSort) (hchildren : AllAlike c.Node children children') :
    c.ScriptsAgree (typeScript c.source sort children) (typeScript c.source' sort children') := by
  have hbefore :=
    (hchildren.split_firstIndex (eq_false_of_isComment isDeclarationBody rfl rfl)).1
  have hparts := c.foldlM_agrees hbefore (fun _ _ _ => c.addToType_agrees)
    (fun parts _ h => (DeclarationParts.add_of_isComment h _ parts).1) c.areMadeOf_none
  refine .opening hparts (fun parts hmade => ?_) _ _
  exact c.accepts_name _ _ fun hname => ⟨hname, hmade.modifiers, hmade.name⟩

/-- The scripts of records agree if their children are alike. -/
theorem recordScript_agrees (hchildren : AllAlike c.Node children children') :
    c.ScriptsAgree (recordScript c.source children) (recordScript c.source' children') := by
  have hbefore :=
    (hchildren.split_firstIndex (eq_false_of_isComment isDeclarationBody rfl rfl)).1
  have hparts := c.foldlM_agrees hbefore (fun _ _ _ => c.addToRecord_agrees)
    (fun parts _ h => (DeclarationParts.add_of_isComment h _ parts).2.1) c.areMadeOf_none
  refine .opening hparts (fun parts hmade => ?_) _ _
  exact c.accepts_name _ _ fun hname =>
    ⟨hname, hmade.modifiers, hmade.name, hmade.parameters⟩

/-- The scripts of methods and constructors agree if their children are alike. -/
theorem functionScript_agrees (sort : FunctionSort)
    (hchildren : AllAlike c.Node children children') :
    c.ScriptsAgree (functionScript c.source sort children)
      (functionScript c.source' sort children') := by
  have hbefore :=
    (hchildren.split_firstIndex (eq_false_of_isComment (· == "formal_parameters") rfl rfl)).2.1
  have hparts := c.foldlM_agrees hbefore (fun _ _ _ => c.addToFunction_agrees)
    (fun parts _ h => (DeclarationParts.add_of_isComment h _ parts).2.2) c.areMadeOf_none
  refine .opening hparts (fun parts hmade => ?_) _ _
  exact c.accepts_name _ _ fun hname =>
    ⟨hname, hmade.modifiers, hmade.name, hmade.parameters, hmade.returnType⟩

/-- The scripts of declarators that are alike agree, up to the first that stands for no field. -/
theorem declaratorScript_agrees {modifiers : String} (hmodifiers : c.Text modifiers)
    {type : JavaType} (htype : type.IsMadeOf c.Text) (descent descent' : Descent)
    {declarators declarators' : List SyntaxTree}
    (hdeclarators : Aligned (fun child child' =>
        (child.label.kind == "variable_declarator") = true ∧ Alike c.Node child child')
      (fun _ => False) declarators declarators') :
    c.ScriptsAgree (declaratorScript c.source modifiers type descent declarators)
      (declaratorScript c.source' modifiers type descent' declarators') := by
  induction hdeclarators with
  | nil => exact .leads (List.forall_mem_nil _) _ _
  | skip hnever => exact hnever.elim
  | @cons declarator declarator' rest rest' hdeclarator hrest ih =>
    have hfield := c.readField_agrees hmodifiers htype hdeclarator.2
    rw [declaratorScript, declaratorScript]
    generalize readField c.source modifiers type declarator = reading at hfield
    generalize readField c.source' modifiers type declarator' = reading' at hfield
    cases hfield with
    | error hfails => exact .fails (List.forall_mem_nil _) hfails
    | givesUp hgivesUp => exact .givesUp (List.forall_mem_nil _) hgivesUp _ _
    | @ok field _ hvalue =>
      obtain ⟨rfl, hmade⟩ := hvalue
      generalize declaratorScript c.source modifiers type descent rest = script at ih
      generalize declaratorScript c.source' modifiers type descent' rest' = script' at ih
      have hsteps {steps : List Step} (h : ∀ step ∈ steps, step.IsMadeOf c.Text) (note : String) :
          ∀ step ∈ .record (.field field) :: .note note :: steps, step.IsMadeOf c.Text :=
        List.forall_mem_cons.mpr ⟨hmade, List.forall_mem_cons.mpr ⟨trivial, h⟩⟩
      cases ih with
      | leads h => exact .leads (hsteps h _) _ _
      | fails h hfails => exact .fails (hsteps h _) hfails
      | givesUp h hgivesUp more ending => exact .givesUp (hsteps h _) hgivesUp more ending

/-- The scripts of field declarations agree if their children are alike. -/
theorem fieldScript_agrees {root root' : SyntaxNode} (hroot : c.Node root root')
    (hchildren : AllAlike c.Node children children') :
    c.ScriptsAgree (fieldScript c.source root children)
      (fieldScript c.source' root' children') := by
  rw [fieldScript_eq, fieldScript_eq]
  refine .ofReading_bind (c.readModifiers_agrees hchildren) ?_
  rintro modifiers _ ⟨rfl, hmodifiers⟩
  refine .ofReading_bind (c.readPartAsType_agrees hroot (c.fieldTypeNode?_alike hchildren)) ?_
  rintro type _ ⟨rfl, htype⟩
  have hdeclarators := hchildren.filter
    (eq_false_of_isComment (· == "variable_declarator") rfl rfl)
  exact c.declaratorScript_agrees hmodifiers htype _ _ hdeclarators

/-- The scripts of calls agree if their children are alike. -/
theorem callScript_agrees (hchildren : AllAlike c.Node children children') :
    c.ScriptsAgree (callScript c.source children) (callScript c.source' children') := by
  have hempty : c.Text "" := c.fixed "" (by simp [fixedTexts])
  refine .ofReading_bind (c.foldlM_agrees hchildren (fun _ _ _ => c.addToCall_agrees)
    (fun parts _ h => CallParts.add_of_isComment h _ parts)
    ⟨hempty, List.forall_mem_nil _, hempty⟩) ?_
  rintro parts _ ⟨rfl, hparts⟩
  have hcall : c.Accepts (fun call => Fact.IsMadeOf c.Text (.invocation call))
      (Invocation.callOf parts.receiver parts.path parts.arguments) :=
    c.accepts_segments _ _ fun hdotted =>
      ⟨hdotted, hparts.receiver, hparts.path, hparts.arguments⟩
  refine .ofReading_bind hcall ?_
  rintro call _ ⟨rfl, hmade⟩
  exact .noted (.record (.invocation call)) hmade _ _

/-- The scripts of object creations agree if their children are alike. -/
theorem creationScript_agrees {root root' : SyntaxNode} (hroot : c.Node root root')
    (hchildren : AllAlike c.Node children children') :
    c.ScriptsAgree (creationScript c.source root children)
      (creationScript c.source' root' children') := by
  have hempty : c.Text "" := c.fixed "" (by simp [fixedTexts])
  rw [creationScript_eq, creationScript_eq]
  refine .ofReading_bind (Agree.foldlM hchildren (fun _ _ _ _ => c.addToCreation_agrees)
    (fun parts _ h => CreationParts.add_of_isComment h.1 _ parts) ⟨.none, rfl, hempty, rfl⟩) ?_
  rintro parts parts' hparts
  refine .ofReading_bind (c.readPartAsType_agrees hroot hparts.typeNode) ?_
  rintro type _ ⟨rfl, htype⟩
  rw [hparts.arguments]
  exact .noted (.record (.invocation (.creation type parts.arguments))) ⟨htype, hparts.text⟩ _ _

/-- The scripts of nodes agree if the trees below them are alike. -/
theorem scriptOf_agrees {tree tree' : SyntaxTree} (h : Alike c.Node tree tree') :
    c.ScriptsAgree (scriptOf c.source tree) (scriptOf c.source' tree') := by
  have hchildren := h.children
  unfold scriptOf
  rw [h.kind_eq]
  split
  · exact c.packageScript_agrees hchildren
  · exact c.importScript_agrees hchildren
  · exact c.typeScript_agrees _ hchildren
  · exact c.recordScript_agrees hchildren
  · exact c.fieldScript_agrees h.label hchildren
  · exact c.functionScript_agrees _ hchildren
  · exact c.callScript_agrees hchildren
  · exact c.creationScript_agrees h.label hchildren
  · exact .leads (List.forall_mem_nil _) _ _

variable {c}

/-- The steps of a script that agrees with another one are made as they should be. -/
theorem ScriptsAgree.isMadeOf {script script' : Script} (h : c.ScriptsAgree script script') :
    ∀ step ∈ script.steps, step.IsMadeOf c.Text := by
  cases h with
  | leads hsteps => exact hsteps
  | fails hsteps => exact hsteps
  | givesUp hsteps => exact hsteps

/-- The failure of a script that agrees with another one corresponds to a failure, or it is given up.
-/
theorem ScriptsAgree.fails_or_givesUp {script script' : Script} (h : c.ScriptsAgree script script')
    {failure : Failure} (hfailure : script.ending = .error failure) :
    (∃ failure', c.Fails failure failure') ∨ c.GivesUp failure := by
  cases h with
  | leads => cases hfailure
  | fails _ hfails =>
    cases hfailure
    exact .inl ⟨_, hfails⟩
  | givesUp _ hgivesUp =>
    cases hfailure
    exact .inr hgivesUp

end

/-! ## Visits -/

/-- What two visits come to: the same progress, and both lead on from the same scopes, or their
failures correspond. If the first one gives up, nothing is said of the second. -/
inductive VisitsAgree (c : Comparison) :
    Progress × Except Failure Descent × Nat → Progress × Except Failure Descent × Nat → Prop where
  | leads (reached : Progress) (descent descent' : Descent) (opened : Nat) :
      VisitsAgree c (reached, .ok descent, opened) (reached, .ok descent', opened)
  | fails (reached : Progress) {failure failure' : Failure} (hfails : c.Fails failure failure')
      (opened : Nat) :
      VisitsAgree c (reached, .error failure, opened) (reached, .error failure', opened)
  | givesUp (reached : Progress) {failure : Failure} (hgivesUp : c.GivesUp failure) (opened : Nat)
      (visit' : Progress × Except Failure Descent × Nat) :
      VisitsAgree c (reached, .error failure, opened) visit'

end Comparison

/-- Trees that are alike open a scope both or neither. -/
theorem Alike.opensScope_eq {Node : SyntaxNode → SyntaxNode → Prop} {tree tree' : SyntaxTree}
    (h : Alike Node tree tree') : opensScope tree' = opensScope tree := by
  unfold opensScope
  rw [h.kind_eq, h.children.any_eq isNameNode_of_isComment]

/-- The children that are visited of trees that are alike are alike. -/
theorem Alike.drop_firstVisited {Node : SyntaxNode → SyntaxNode → Prop} {tree tree' : SyntaxTree}
    (h : Alike Node tree tree') :
    AllAlike Node (tree.children.drop (firstVisited tree))
      (tree'.children.drop (firstVisited tree')) := by
  unfold firstVisited
  rw [h.kind_eq]
  split
  · rw [List.drop_length, List.drop_length]
    exact .nil
  · split
    · have hbody := eq_false_of_isComment isDeclarationBody rfl rfl
      exact (h.children.split_firstIndex hbody).2.2
    · split
      · have hdeclarator := eq_false_of_isComment (· == "variable_declarator") rfl rfl
        exact (h.children.split_firstIndex hdeclarator).2.2
      · exact h.children

namespace Progress

/-- Steps that are refused are refused at the same place if more steps follow. -/
theorem perform_append_of_error {scope opened : Nat} {steps : List Step} {progress after : Progress}
    {error : StoreError} (hrefused : perform scope steps progress opened = (after, .error error))
    (more : List Step) :
    perform scope (steps ++ more) progress opened = (after, .error error) := by
  induction steps generalizing progress opened with
  | nil => cases hrefused
  | cons step steps ih =>
    cases step with
    | note message => exact ih hrefused
    | record fact =>
      rw [perform] at hrefused
      rw [List.cons_append, perform]
      split at hrefused
      · exact hrefused
      · exact ih hrefused
    | enter header =>
      rw [perform] at hrefused
      rw [List.cons_append, perform]
      split at hrefused
      · exact hrefused
      · exact ih hrefused

/-- A comment without children calls for nothing. -/
theorem visit_of_isBareComment {tree : SyntaxTree} (hbare : tree.IsBareComment)
    (source : SourceText) (scope : Nat) (progress : Progress) :
    progress.visit source scope tree = (progress, .ok (.around 0), scope) := by
  have hother : Construct.ofKind tree.label.kind = .other := by
    have hcomment := hbare.1
    rw [isComment, Bool.or_eq_true, beq_iff_eq, beq_iff_eq] at hcomment
    rcases hcomment with hkind | hkind
    · rw [hkind]
      rfl
    · rw [hkind]
      rfl
  have hscript : scriptOf source tree = .passThrough := by rw [scriptOf, hother]
  rw [visit, hscript]
  rfl

/-- Visits of trees that are alike agree, in any scope. -/
theorem visit_agrees (c : Comparison)
    (hrefused : ∀ error, c.Fails (.refused error) (.refused error)) {tree tree' : SyntaxTree}
    (h : Alike c.Node tree tree') (scope : Nat) (progress : Progress) :
    c.VisitsAgree (progress.visit c.source scope tree) (progress.visit c.source' scope tree') := by
  have hscript := c.scriptOf_agrees h
  simp only [visit]
  generalize scriptOf c.source tree = script at hscript
  generalize scriptOf c.source' tree' = script' at hscript
  cases hscript with
  | @leads steps hsteps descent descent' =>
    simp only
    generalize perform scope steps progress scope = performed
    obtain ⟨reached, error | opened⟩ := performed
    · exact .fails reached (hrefused error) scope
    · exact .leads reached descent descent' opened
  | @fails steps hsteps failure failure' hfails =>
    simp only
    generalize perform scope steps progress scope = performed
    obtain ⟨reached, error | opened⟩ := performed
    · exact .fails reached (hrefused error) scope
    · exact .fails reached hfails opened
  | @givesUp steps hsteps failure hgivesUp more ending' =>
    -- a refusal comes before the failure is met, and then it comes on the second side as well
    simp only
    generalize hperform : perform scope steps progress scope = performed
    obtain ⟨reached, error | opened⟩ := performed
    · rw [perform_append_of_error hperform]
      exact .fails reached (hrefused error) scope
    · exact .givesUp reached hgivesUp opened _

/-- Pending trees that are alike and belong to the same scopes, but for comments that only the second
list has. -/
abbrev JobsAlike (Node : SyntaxNode → SyntaxNode → Prop) :
    List (Nat × SyntaxTree) → List (Nat × SyntaxTree) → Prop :=
  Aligned (fun job job' => job.1 = job'.1 ∧ Alike Node job.2 job'.2)
    fun job' => job'.2.IsBareComment

/-- Visits of trees that are alike lead to pending trees that are alike. -/
theorem targets_alike {c : Comparison} {tree tree' : SyntaxTree} (h : Alike c.Node tree tree')
    {descent descent' : Descent} (hok : (scriptOf c.source tree).ending = .ok descent)
    (hok' : (scriptOf c.source' tree').ending = .ok descent') (scope opened : Nat) :
    JobsAlike c.Node (descent.targets scope opened tree.children)
      (descent'.targets scope opened tree'.children) := by
  rw [targets_eq_drop hok, targets_eq_drop hok', h.opensScope_eq]
  exact h.drop_firstVisited.map (fun child child' hchild => ⟨rfl, hchild⟩) fun comment hbare => hbare

end Progress

/-! ## Traversals -/

/-- What two traversals come to: the same progress, and no failure or failures that correspond; or
the first one gave up. -/
def Comparison.RunsAgree (c : Comparison) (run run' : Progress × Option Failure) : Prop :=
  (∃ failure, run.2 = some failure ∧ c.GivesUp failure) ∨
    run'.1 = run.1 ∧ Option.Rel c.Fails run.2 run'.2

/-- Traversals of pending trees that are alike agree. -/
theorem Progress.traverse_agrees (c : Comparison)
    (hrefused : ∀ error, c.Fails (.refused error) (.refused error))
    {pending pending' : List (Nat × SyntaxTree)} (h : JobsAlike c.Node pending pending')
    (progress : Progress) :
    c.RunsAgree (traverse c.source pending progress) (traverse c.source' pending' progress) := by
  -- the induction is on the second traversal, which may have to pass over comments
  fun_induction traverse c.source' pending' progress generalizing pending with
  | case1 progress =>
    cases h
    rw [traverse]
    exact .inr ⟨rfl, .none⟩
  | case2 _ tree' pending' progress reached failure' opened hvisit' =>
    cases h with
    | skip hbare =>
      rw [visit_of_isBareComment hbare] at hvisit'
      cases hvisit'
    | @cons job _ rest _ hjob hrest =>
      obtain ⟨scope, tree⟩ := job
      obtain ⟨rfl, htree⟩ := hjob
      have hvisit := visit_agrees c hrefused htree scope progress
      rw [traverse]
      rw [hvisit'] at hvisit
      generalize progress.visit c.source scope tree = result at hvisit
      cases hvisit with
      | fails reached hfails => exact .inr ⟨rfl, .some hfails⟩
      | givesUp reached hgivesUp => exact .inl ⟨_, rfl, hgivesUp⟩
  | case3 _ tree' pending' progress reached descent' opened hvisit' ih =>
    cases h with
    | skip hbare hrest =>
      rw [visit_of_isBareComment hbare] at hvisit'
      cases hvisit'
      rw [Descent.targets, hbare.2] at ih ⊢
      exact ih hrest
    | @cons job _ rest _ hjob hrest =>
      obtain ⟨scope, tree⟩ := job
      obtain ⟨rfl, htree⟩ := hjob
      have hvisit := visit_agrees c hrefused htree scope progress
      rw [traverse]
      rw [hvisit'] at hvisit
      generalize hresult : progress.visit c.source scope tree = result at hvisit
      cases hvisit with
      | givesUp reached hgivesUp => exact .inl ⟨_, rfl, hgivesUp⟩
      | leads reached descent =>
        have hok := (visit_eq_ok hresult).1
        have hok' := (visit_eq_ok hvisit').1
        exact ih ((targets_alike htree hok hok' scope opened).append hrest)

/-- Scopes are filled alike from trees that are alike. -/
theorem fill_agrees (c : Comparison)
    (hrefused : ∀ error, c.Fails (.refused error) (.refused error)) {tree tree' : SyntaxTree}
    (h : Alike c.Node tree tree') (store : Store) (scope : Nat) :
    c.RunsAgree (fill c.source tree store scope) (fill c.source' tree' store scope) := by
  have hjobs : Progress.JobsAlike c.Node [(scope, tree)] [(scope, tree')] := .cons ⟨rfl, h⟩ .nil
  exact Progress.traverse_agrees c hrefused hjobs ⟨store, []⟩

end JavaOutline
