import JavaOutline.Proofs.Source.Tiling
import JavaOutline.Proofs.Traversal.Rules

/-!
# Which calls are printed as they are written

In a tiled call, qualifiers with a dot behind each stand before the name of the method and the list
of arguments, with nothing but blanks between these parts. Of its qualifiers, a call keeps the last
one that is a receiver as text, and those that are plain names as the front of its path; it is
printed with the receiver first. So it is printed as the text of the node, up to blanks, if only
the first qualifier is a receiver. If a receiver stands behind another one, it takes its place, and
the call is printed too short. If it stands behind a plain name, it is moved in front of it, and
the call is printed with another start unless the receiver happens to start with that name.
-/

namespace JavaOutline

/-! ## Tiled calls -/

/-- What can stand before a dot in a call: a plain name or a receiver. -/
def isQualifier (kind : String) : Bool :=
  kind == "identifier" || isReceiver kind

/-- The qualifiers that are receivers. -/
def receiverNodes (qualifiers : List SyntaxTree) : List SyntaxTree :=
  qualifiers.filter fun qualifier => isReceiver qualifier.label.kind

/-- The qualifiers that are plain names. -/
def nameNodes (qualifiers : List SyntaxTree) : List SyntaxTree :=
  qualifiers.filter fun qualifier => !isReceiver qualifier.label.kind

/-- A call with some qualifiers, a name and a list of arguments whose nodes leave out nothing but
blanks. -/
inductive IsTiledCall (source : SourceText) (qualifiers : List SyntaxTree)
    (name arguments : SyntaxTree) : SyntaxTree → Prop where
  | intro {root : SyntaxNode} {nodes : List SyntaxTree} (hkind : root.kind = "method_invocation")
      (hqualifiers : ∀ qualifier ∈ qualifiers, isQualifier qualifier.label.kind)
      (hname : name.label.kind = "identifier") (harguments : arguments.label.kind = "argument_list")
      (hseparated : Separated source "." nodes (qualifiers ++ [name]))
      (htiles : Tiles source root.span (nodes ++ [arguments])) :
      IsTiledCall source qualifiers name arguments (.node root (nodes ++ [arguments]))

/-- The call that is made of the texts of its parts: the last receiver, and the plain names up to the
name of the method. -/
inductive HasCall (source : SourceText) (qualifiers : List SyntaxTree)
    (name arguments : SyntaxTree) : Invocation → Prop where
  | intro {receivers names : List String} {method list : String}
      (hreceivers : HaveTexts source (receiverNodes qualifiers) receivers)
      (hnames : HaveTexts source (nameNodes qualifiers) names)
      (hmethod : name.label.read source = .ok method)
      (hlist : arguments.label.read source = .ok list)
      (hpath : ∀ segment ∈ names ++ [method], IsName segment) :
      HasCall source qualifiers name arguments
        (.call (receivers.getLast?.getD "") (names ++ [method]) list)

/-! ## Collecting the parts of a call -/

section

variable {qualifier : SyntaxTree} {rest : List SyntaxTree}

/-- A receiver in front is the first of the receivers. -/
theorem receiverNodes_cons_of_receiver (h : isReceiver qualifier.label.kind) :
    receiverNodes (qualifier :: rest) = qualifier :: receiverNodes rest :=
  List.filter_cons_of_pos h

/-- A plain name in front is no receiver. -/
theorem receiverNodes_cons_of_not_receiver (h : ¬ isReceiver qualifier.label.kind) :
    receiverNodes (qualifier :: rest) = receiverNodes rest :=
  List.filter_cons_of_neg h

/-- A receiver in front is no plain name. -/
theorem nameNodes_cons_of_receiver (h : isReceiver qualifier.label.kind) :
    nameNodes (qualifier :: rest) = nameNodes rest :=
  List.filter_cons_of_neg (by simpa using h)

/-- A plain name in front is the first of the plain names. -/
theorem nameNodes_cons_of_not_receiver (h : ¬ isReceiver qualifier.label.kind) :
    nameNodes (qualifier :: rest) = qualifier :: nameNodes rest :=
  List.filter_cons_of_pos (by simpa using h)

end

section

variable {source : SourceText} {parts collected : CallParts} {child : SyntaxTree}

/-- A receiver takes the place of an earlier one. -/
theorem CallParts.add_receiver_eq_ok_iff (h : isReceiver child.label.kind) :
    parts.add source child = .ok collected ↔
      ∃ text, child.label.read source = .ok text ∧ { parts with receiver := text } = collected := by
  rw [CallParts.add, if_pos h, bind_eq_ok_iff]
  simp only [pure, Except.pure, Except.ok.injEq]

/-- A plain name goes to the end of the path. -/
theorem CallParts.add_name_eq_ok_iff (h : child.label.kind = "identifier") :
    parts.add source child = .ok collected ↔
      ∃ text, child.label.read source = .ok text ∧
        { parts with path := parts.path ++ [text] } = collected := by
  have hother : ¬ isReceiver child.label.kind := by
    rw [h]
    decide
  rw [CallParts.add, if_neg hother, if_pos h, bind_eq_ok_iff]
  simp only [pure, Except.pure, Except.ok.injEq]

/-- A list of arguments is the text of the arguments. -/
theorem CallParts.add_arguments_eq_ok_iff (h : child.label.kind = "argument_list") :
    parts.add source child = .ok collected ↔
      ∃ text, child.label.read source = .ok text ∧ { parts with arguments := text } = collected := by
  have hother : ¬ isReceiver child.label.kind := by
    rw [h]
    decide
  have hother' : child.label.kind ≠ "identifier" := by
    rw [h]
    decide
  rw [CallParts.add, if_neg hother, if_neg hother', if_pos h, bind_eq_ok_iff]
  simp only [pure, Except.pure, Except.ok.injEq]

/-- A dot adds nothing. -/
theorem CallParts.add_dot (h : IsToken source "." child) : parts.add source child = .ok parts := by
  have hreceiver : ¬ isReceiver child.label.kind := by
    rw [h.1]
    decide
  have hname : child.label.kind ≠ "identifier" := by
    rw [h.1]
    decide
  have harguments : child.label.kind ≠ "argument_list" := by
    rw [h.1]
    decide
  rw [CallParts.add, if_neg hreceiver, if_neg hname, if_neg harguments]

/-- The dots in a list of names and receivers do not matter. -/
theorem Separated.foldlM_callParts {nodes members : List SyntaxTree}
    (hseparated : Separated source "." nodes members) :
    nodes.foldlM (CallParts.add source) parts = members.foldlM (CallParts.add source) parts := by
  induction hseparated generalizing parts with
  | none => rfl
  | single member => rfl
  | @more member mark next nodes members hdot _ ih =>
    rw [List.foldlM_cons, List.foldlM_cons]
    congr 1
    funext collected
    rw [List.foldlM_cons, CallParts.add_dot hdot, ← ih]
    rfl

/-- Of the qualifiers, the last receiver and all plain names are collected. -/
theorem foldlM_qualifiers_eq_ok_iff {qualifiers : List SyntaxTree}
    (hqualifiers : ∀ qualifier ∈ qualifiers, isQualifier qualifier.label.kind) :
    qualifiers.foldlM (CallParts.add source) parts = .ok collected ↔
      ∃ receivers names, HaveTexts source (receiverNodes qualifiers) receivers ∧
        HaveTexts source (nameNodes qualifiers) names ∧
        { parts with
          receiver := receivers.getLast?.getD parts.receiver
          path := parts.path ++ names } = collected := by
  induction qualifiers generalizing parts with
  | nil =>
    simp [receiverNodes, nameNodes, HaveTexts, pure, Except.pure]
  | cons qualifier rest ih =>
    obtain ⟨hqualifier, hrest⟩ := List.forall_mem_cons.mp hqualifiers
    rw [List.foldlM_cons, bind_eq_ok_iff]
    by_cases hreceiver : isReceiver qualifier.label.kind
    · rw [receiverNodes_cons_of_receiver hreceiver, nameNodes_cons_of_receiver hreceiver]
      constructor
      · rintro ⟨next, hadd, hfold⟩
        obtain ⟨text, hread, rfl⟩ := (CallParts.add_receiver_eq_ok_iff hreceiver).mp hadd
        obtain ⟨receivers, names, hreceivers, hnames, rfl⟩ := (ih hrest).mp hfold
        refine ⟨text :: receivers, names, .cons hread hreceivers, hnames, ?_⟩
        rw [List.getLast?_cons, Option.getD_some]
      · rintro ⟨_, names, hreceivers, hnames, rfl⟩
        cases hreceivers with
        | cons hread hreceivers =>
          refine ⟨_, (CallParts.add_receiver_eq_ok_iff hreceiver).mpr ⟨_, hread, rfl⟩,
            (ih hrest).mpr ⟨_, names, hreceivers, hnames, ?_⟩⟩
          rw [List.getLast?_cons, Option.getD_some]
    · have hname : qualifier.label.kind = "identifier" := by
        simpa [isQualifier, hreceiver] using hqualifier
      rw [receiverNodes_cons_of_not_receiver hreceiver, nameNodes_cons_of_not_receiver hreceiver]
      constructor
      · rintro ⟨next, hadd, hfold⟩
        obtain ⟨text, hread, rfl⟩ := (CallParts.add_name_eq_ok_iff hname).mp hadd
        obtain ⟨receivers, names, hreceivers, hnames, rfl⟩ := (ih hrest).mp hfold
        refine ⟨receivers, text :: names, hreceivers, .cons hread hnames, ?_⟩
        rw [List.append_assoc, List.singleton_append]
      · rintro ⟨receivers, _, hreceivers, hnames, rfl⟩
        cases hnames with
        | cons hread hnames =>
          refine ⟨_, (CallParts.add_name_eq_ok_iff hname).mpr ⟨_, hread, rfl⟩,
            (ih hrest).mpr ⟨receivers, _, hreceivers, hnames, ?_⟩⟩
          rw [List.append_assoc, List.singleton_append]

end

/-- Of a tiled call, the last receiver, all plain names up to the name of the method, and the
arguments are collected. -/
theorem foldlM_call_eq_ok_iff {source : SourceText} {nodes qualifiers : List SyntaxTree}
    {name arguments : SyntaxTree} {collected : CallParts}
    (hqualifiers : ∀ qualifier ∈ qualifiers, isQualifier qualifier.label.kind)
    (hname : name.label.kind = "identifier") (harguments : arguments.label.kind = "argument_list")
    (hseparated : Separated source "." nodes (qualifiers ++ [name])) :
    (nodes ++ [arguments]).foldlM (CallParts.add source) ⟨"", [], ""⟩ = .ok collected ↔
      ∃ receivers names method list, HaveTexts source (receiverNodes qualifiers) receivers ∧
        HaveTexts source (nameNodes qualifiers) names ∧ name.label.read source = .ok method ∧
        arguments.label.read source = .ok list ∧
        ⟨receivers.getLast?.getD "", names ++ [method], list⟩ = collected := by
  simp only [List.foldlM_append, hseparated.foldlM_callParts, bind_eq_ok_iff,
    foldlM_qualifiers_eq_ok_iff hqualifiers, List.foldlM_cons, List.foldlM_nil,
    CallParts.add_name_eq_ok_iff hname, CallParts.add_arguments_eq_ok_iff harguments, pure,
    Except.pure, Except.ok.injEq]
  constructor
  · rintro ⟨_, ⟨_, ⟨receivers, names, hreceivers, hnames, rfl⟩, _, ⟨method, hmethod, rfl⟩, rfl⟩, _,
      ⟨list, hlist, rfl⟩, rfl⟩
    exact ⟨receivers, names, method, list, hreceivers, hnames, hmethod, hlist, rfl⟩
  · rintro ⟨receivers, names, method, list, hreceivers, hnames, hmethod, hlist, rfl⟩
    exact ⟨_, ⟨_, ⟨receivers, names, hreceivers, hnames, rfl⟩, _, ⟨method, hmethod, rfl⟩, rfl⟩, _,
      ⟨list, hlist, rfl⟩, rfl⟩

/-- A script that may fail has the steps of the script that is read. -/
theorem mem_steps_ofReading_iff {reading : Except Failure Script} {step : Step} :
    step ∈ (Script.ofReading reading).steps ↔
      ∃ script, reading = .ok script ∧ step ∈ script.steps := by
  cases reading <;> simp [Script.ofReading]

/-- A call is accepted exactly if its path is a dotted name. -/
theorem callOf_eq_ok_iff {receiver list : String} {path : List String} {call : Invocation} :
    Invocation.callOf receiver path list = .ok call ↔
      IsDottedName path ∧ .call receiver path list = call := by
  rw [Invocation.callOf, accept_eq_ok_iff]
  simp [checkSegments_eq_ok_iff]

/-- A call is recorded exactly if its parts can be collected and its path is a dotted name. -/
theorem mem_steps_callScript_iff {source : SourceText} {children : List SyntaxTree}
    {call : Invocation} :
    Step.record (.invocation call) ∈ (callScript source children).steps ↔
      ∃ parts, children.foldlM (CallParts.add source) ⟨"", [], ""⟩ = .ok parts ∧
        IsDottedName parts.path ∧ .call parts.receiver parts.path parts.arguments = call := by
  unfold callScript
  simp only [mem_steps_ofReading_iff, bind_eq_ok_iff, mapError_eq_ok_iff, callOf_eq_ok_iff]
  constructor
  · rintro ⟨_, ⟨parts, hparts, made, ⟨hpath, hmade⟩, ⟨⟩⟩, hmem⟩
    obtain rfl : call = made := by simpa using hmem
    exact ⟨parts, hparts, hpath, hmade⟩
  · rintro ⟨parts, hparts, hpath, hmade⟩
    exact ⟨_, ⟨parts, hparts, call, ⟨hpath, hmade⟩, rfl⟩, List.mem_cons_self⟩

/-- What a tiled call records is made of the texts of its parts. -/
theorem IsTiledCall.mem_steps_iff {source : SourceText} {qualifiers : List SyntaxTree}
    {name arguments tree : SyntaxTree} {call : Invocation}
    (hcall : IsTiledCall source qualifiers name arguments tree) :
    Step.record (.invocation call) ∈ (scriptOf source tree).steps ↔
      HasCall source qualifiers name arguments call := by
  obtain @⟨root, nodes, hkind, hqualifiers, hname, harguments, hseparated, _⟩ := hcall
  have hscript : scriptOf source (.node root (nodes ++ [arguments])) =
      callScript source (nodes ++ [arguments]) := by
    rw [scriptOf, Tree.label_node, hkind]
    rfl
  rw [hscript]
  simp only [mem_steps_callScript_iff,
    foldlM_call_eq_ok_iff hqualifiers hname harguments hseparated]
  constructor
  · rintro ⟨_, ⟨receivers, names, method, list, hreceivers, hnames, hmethod, hlist, rfl⟩, hpath, rfl⟩
    exact .intro hreceivers hnames hmethod hlist hpath.2
  · intro hcall
    cases hcall with
    | intro hreceivers hnames hmethod hlist hpath =>
      exact ⟨_, ⟨_, _, _, _, hreceivers, hnames, hmethod, hlist, rfl⟩, ⟨by simp, hpath⟩, rfl⟩

/-! ## The text of a call -/

/-- A segment in front of others has a dot behind it. -/
theorem dotted_cons {segment : String} {rest : List String} (h : rest ≠ []) :
    dotted (segment :: rest) = segment ++ "." ++ dotted rest :=
  String.intercalate_cons_of_ne_nil h

/-- Only the first qualifier is a receiver, if any is, and it is not empty. -/
def ReceiverLeads (source : SourceText) (qualifiers : List SyntaxTree) : Prop :=
  (∀ qualifier ∈ qualifiers.tail, isReceiver qualifier.label.kind = false) ∧
    ∀ qualifier ∈ receiverNodes qualifiers, qualifier.label.read source ≠ .ok ""

instance (source : SourceText) (qualifiers : List SyntaxTree) :
    Decidable (ReceiverLeads source qualifiers) :=
  inferInstanceAs (Decidable (_ ∧ _))

section

variable {source : SourceText} {qualifiers : List SyntaxTree} {name arguments tree : SyntaxTree}
  {receivers names texts : List String} {method list : String}

/-- A tiled call is printed back by its qualifiers and its name with dots between them, and its
arguments. -/
theorem IsTiledCall.printsBack (hcall : IsTiledCall source qualifiers name arguments tree)
    (htexts : HaveTexts source qualifiers texts) (hmethod : name.label.read source = .ok method)
    (hlist : arguments.label.read source = .ok list) :
    PrintsBack source tree (dotted (texts ++ [method]) ++ list) := by
  obtain ⟨_, _, _, _, hseparated, htiles⟩ := hcall
  have hmembers : List.Forall₂ (PrintsBack source) (qualifiers ++ [name]) (texts ++ [method]) :=
    List.rel_append (htexts.imp fun _ _ hread => printsBack_of_read hread)
      (.cons (printsBack_of_read hmethod) .nil)
  obtain ⟨printed, hnodes, hsame⟩ := hseparated.exists_printed hmembers rfl
  have hall := List.rel_append hnodes (.cons (printsBack_of_read hlist) .nil)
  rw [(htiles.printsBack hall).iff_deleteBlanks_eq]
  simp only [dotted, Text.deleteBlanks_append, hsame, String.join_append, String.join_cons,
    String.join_nil, String.append_empty]

/-- If only the first qualifier is a receiver, a call is shown as its qualifiers and its name with
dots between them, and its arguments. -/
theorem exists_texts_of_receiverLeads (hleads : ReceiverLeads source qualifiers)
    (hreceivers : HaveTexts source (receiverNodes qualifiers) receivers)
    (hnames : HaveTexts source (nameNodes qualifiers) names) :
    ∃ texts, HaveTexts source qualifiers texts ∧
      (Invocation.call (receivers.getLast?.getD "") (names ++ [method]) list).text =
        dotted (texts ++ [method]) ++ list := by
  obtain ⟨hothers, hnonempty⟩ := hleads
  cases qualifiers with
  | nil =>
    cases hreceivers
    cases hnames
    exact ⟨[], .nil, rfl⟩
  | cons first rest =>
    have hnone : receiverNodes rest = [] := by
      simpa [receiverNodes] using hothers
    have hall : nameNodes rest = rest := by
      simpa [nameNodes] using hothers
    by_cases hreceiver : isReceiver first.label.kind
    · rw [receiverNodes_cons_of_receiver hreceiver, hnone] at hreceivers hnonempty
      rw [nameNodes_cons_of_receiver hreceiver, hall] at hnames
      obtain ⟨text, _, hread, hend, rfl⟩ := List.forall₂_cons_left_iff.mp hreceivers
      cases hend
      have htext : text ≠ "" := by
        rintro rfl
        exact hnonempty first List.mem_cons_self hread
      refine ⟨text :: names, .cons hread hnames, ?_⟩
      rw [List.cons_append, dotted_cons (by simp)]
      simp [Invocation.text, htext]
    · rw [receiverNodes_cons_of_not_receiver hreceiver, hnone] at hreceivers
      rw [nameNodes_cons_of_not_receiver hreceiver, hall] at hnames
      cases hreceivers
      exact ⟨names, hnames, rfl⟩

/-- The text of a qualifier is that of a receiver or of a plain name. -/
theorem exists_texts_perm (hreceivers : HaveTexts source (receiverNodes qualifiers) receivers)
    (hnames : HaveTexts source (nameNodes qualifiers) names) :
    ∃ texts, HaveTexts source qualifiers texts ∧ texts.Perm (receivers ++ names) := by
  induction qualifiers generalizing receivers names with
  | nil =>
    cases hreceivers
    cases hnames
    exact ⟨[], .nil, .nil⟩
  | cons qualifier rest ih =>
    by_cases hreceiver : isReceiver qualifier.label.kind
    · rw [receiverNodes_cons_of_receiver hreceiver] at hreceivers
      rw [nameNodes_cons_of_receiver hreceiver] at hnames
      cases hreceivers with
      | cons hread hreceivers =>
        obtain ⟨texts, htexts, hperm⟩ := ih hreceivers hnames
        exact ⟨_ :: texts, .cons hread htexts, hperm.cons _⟩
    · rw [receiverNodes_cons_of_not_receiver hreceiver] at hreceivers
      rw [nameNodes_cons_of_not_receiver hreceiver] at hnames
      cases hnames with
      | cons hread hnames =>
        obtain ⟨texts, htexts, hperm⟩ := ih hreceivers hnames
        exact ⟨_ :: texts, .cons hread htexts, (hperm.cons _).trans List.perm_middle.symm⟩

end

/-! ## Calls that are not printed back -/

/-- How many characters segments take up with a dot behind each of them, without blanks. -/
def dottedWidth (segments : List String) : Nat :=
  (segments.map fun segment => (Text.deleteBlanks segment).length + 1).sum

/-- A segment takes up its characters and a dot. -/
theorem dottedWidth_cons (segment : String) (rest : List String) :
    dottedWidth (segment :: rest) = (Text.deleteBlanks segment).length + 1 + dottedWidth rest := by
  simp [dottedWidth]

/-- Segments in a row take up what they take up alone. -/
theorem dottedWidth_append (front back : List String) :
    dottedWidth (front ++ back) = dottedWidth front + dottedWidth back := by
  simp [dottedWidth]

/-- Without the last dot, segments take up one character less. -/
theorem dottedWidth_eq {segments : List String} (h : segments ≠ []) :
    dottedWidth segments = (Text.deleteBlanks (dotted segments)).length + 1 := by
  induction segments with
  | nil => exact absurd rfl h
  | cons segment rest ih =>
    cases rest with
    | nil =>
      rw [dottedWidth, dotted, String.intercalate_singleton, List.map_singleton, List.sum_singleton]
    | cons next rest =>
      have hdot : (Text.deleteBlanks ".").length = 1 := by decide
      rw [dottedWidth_cons, ih (List.cons_ne_nil _ _), dotted_cons (List.cons_ne_nil _ _)]
      simp only [Text.deleteBlanks_append, String.length_append, hdot]
      omega

/-- The last of several receivers takes up less than all of them. -/
theorem dottedWidth_last_lt {receivers : List String} (h : 2 ≤ receivers.length) :
    dottedWidth [receivers.getLast?.getD ""] < dottedWidth receivers := by
  rcases receivers.eq_nil_or_concat with rfl | ⟨front, last, rfl⟩
  · simp at h
  · cases front with
    | nil => simp at h
    | cons first front =>
      rw [List.concat_eq_append, List.getLast?_concat, Option.getD_some, dottedWidth_append,
        dottedWidth_cons first]
      omega

/-- A call is shown too short if it has two receivers, or one that is empty. -/
theorem length_text_call_lt {receivers names texts : List String} {method list : String}
    (hperm : texts.Perm (receivers ++ names)) (hlost : 2 ≤ receivers.length ∨ receivers = [""]) :
    (Text.deleteBlanks
        (Invocation.call (receivers.getLast?.getD "") (names ++ [method]) list).text).length <
      (Text.deleteBlanks (dotted (texts ++ [method]) ++ list)).length := by
  have hpath : names ++ [method] ≠ [] := by simp
  have htexts : dottedWidth (texts ++ [method]) =
      dottedWidth receivers + dottedWidth (names ++ [method]) := by
    rw [dottedWidth_append, dottedWidth, (hperm.map _).sum_eq, ← dottedWidth, dottedWidth_append,
      dottedWidth_append, Nat.add_assoc]
  rw [dottedWidth_eq (by simp), dottedWidth_eq hpath] at htexts
  rw [Invocation.text, Text.deleteBlanks_append, Text.deleteBlanks_append, String.length_append,
    String.length_append]
  split
  · -- the receiver is not shown
    have hsome : 0 < dottedWidth receivers := by
      cases receivers with
      | nil => simp at hlost
      | cons first rest =>
        rw [dottedWidth_cons]
        omega
    omega
  · rename_i hshown
    have hmany : 2 ≤ receivers.length := by
      rcases hlost with hmany | rfl
      · exact hmany
      · exact absurd rfl hshown
    have hlast := dottedWidth_last_lt hmany
    have hfront := dottedWidth_eq (List.cons_ne_nil (receivers.getLast?.getD "") (names ++ [method]))
    rw [dottedWidth_cons, dottedWidth_eq hpath, dotted_cons hpath] at hfront
    rw [dottedWidth_cons] at hlast
    have hnil : dottedWidth [] = 0 := rfl
    omega

/-- The characters of a text up to its first dot, without blanks. -/
def leadingSegment (text : String) : List Char :=
  (Text.deleteBlanks text).toList.takeWhile (· != '.')

/-- A receiver stands behind another one, or behind a plain name that it does not start with. -/
def ReceiverTrails (source : SourceText) : List SyntaxTree → Prop
  | [] => False
  | first :: rest =>
    receiverNodes rest ≠ [] ∧
      (isReceiver first.label.kind ∨
        ∀ receiver ∈ receiverNodes rest,
          (receiver.label.read source).map leadingSegment ≠
            (first.label.read source).map leadingSegment)

/-- What stands behind a dot is not part of the leading segment. -/
theorem leadingSegment_append_dot (text path list : String) :
    leadingSegment (text ++ "." ++ path ++ list) = leadingSegment text := by
  have hdot : (Text.deleteBlanks ".").toList = ['.'] := by decide
  simp only [leadingSegment, Text.deleteBlanks_append, String.toList_append, hdot]
  induction (Text.deleteBlanks text).toList with
  | nil => rfl
  | cons c cs ih => by_cases hc : c = '.' <;> simp_all

/-- If a call is printed back with a receiver in front, it starts like its first qualifier. -/
theorem leadingSegment_eq_of_text {receiver text list : String} {path rest : List String}
    (hshown : receiver ≠ "") (hrest : rest ≠ [])
    (hsame : Text.deleteBlanks (Invocation.call receiver path list).text =
      Text.deleteBlanks (dotted (text :: rest) ++ list)) :
    leadingSegment receiver = leadingSegment text := by
  rw [Invocation.text, if_neg hshown, dotted_cons hrest] at hsame
  calc
    leadingSegment receiver = leadingSegment (receiver ++ "." ++ dotted path ++ list) :=
      (leadingSegment_append_dot _ _ _).symm
    _ = leadingSegment (text ++ "." ++ dotted rest ++ list) := by
      rw [leadingSegment, leadingSegment, hsame]
    _ = leadingSegment text := leadingSegment_append_dot _ _ _

/-- With a receiver behind another qualifier, a call is shown too short or starts with another
segment. -/
theorem deleteBlanks_text_ne_of_receiverTrails {source : SourceText} {qualifiers : List SyntaxTree}
    {receivers names texts : List String} {method list : String}
    (htrails : ReceiverTrails source qualifiers) (htexts : HaveTexts source qualifiers texts)
    (hreceivers : HaveTexts source (receiverNodes qualifiers) receivers)
    (hperm : texts.Perm (receivers ++ names)) :
    Text.deleteBlanks (Invocation.call (receivers.getLast?.getD "") (names ++ [method]) list).text ≠
      Text.deleteBlanks (dotted (texts ++ [method]) ++ list) := by
  intro hsame
  by_cases hlost : 2 ≤ receivers.length ∨ receivers = [""]
  · exact absurd (congrArg String.length hsame) (Nat.ne_of_lt (length_text_call_lt hperm hlost))
  · cases qualifiers with
    | nil => exact htrails
    | cons first rest =>
      obtain ⟨hsome, hapart⟩ := htrails
      by_cases hfirst : isReceiver first.label.kind
      · -- the first receiver is lost
        rw [receiverNodes_cons_of_receiver hfirst] at hreceivers
        have hlength := hreceivers.length_eq
        have hrest := List.length_pos_of_ne_nil hsome
        rw [List.length_cons] at hlength
        exact hlost (.inl (by omega))
      · rw [receiverNodes_cons_of_not_receiver hfirst] at hreceivers
        replace hapart := hapart.resolve_left hfirst
        generalize receiverNodes rest = nodes at hreceivers hsome hapart
        cases hreceivers with
        | nil => exact hsome rfl
        | @cons node receiver _ _ hreceiver hothers =>
          cases hothers with
          | cons => exact hlost (.inl (by simp))
          | nil =>
            -- the one receiver is shown in front of the first name
            have hshown : receiver ≠ "" := by
              rintro rfl
              exact hlost (.inr rfl)
            obtain ⟨text, others, hname, _, rfl⟩ := List.forall₂_cons_left_iff.mp htexts
            apply hapart node List.mem_cons_self
            rw [hreceiver, hname]
            exact congrArg Except.ok (leadingSegment_eq_of_text hshown (by simp) hsame)

/-- Of the qualifiers of a tiled call, the last receiver and the plain names are recorded. The call
is printed as the text of its node, up to blanks, if only the first qualifier is a receiver. It is
not if a receiver stands behind another one, or behind a plain name that it does not start with. -/
theorem tiled_call_is_recorded_and_printed {source : SourceText} {qualifiers : List SyntaxTree}
    {name arguments tree : SyntaxTree} (hcall : IsTiledCall source qualifiers name arguments tree)
    (call : Invocation) :
    (Step.record (.invocation call) ∈ (scriptOf source tree).steps ↔
      HasCall source qualifiers name arguments call) ∧
    (Step.record (.invocation call) ∈ (scriptOf source tree).steps →
      (ReceiverLeads source qualifiers → PrintsBack source tree call.text) ∧
      (ReceiverTrails source qualifiers → ¬ PrintsBack source tree call.text)) := by
  refine ⟨hcall.mem_steps_iff, ?_⟩
  intro hrecorded
  cases hcall.mem_steps_iff.mp hrecorded with
  | intro hreceivers hnames hmethod hlist _ =>
    constructor
    · intro hleads
      obtain ⟨texts, htexts, hshown⟩ := exists_texts_of_receiverLeads hleads hreceivers hnames
      rw [hshown]
      exact hcall.printsBack htexts hmethod hlist
    · intro htrails
      obtain ⟨texts, htexts, hperm⟩ := exists_texts_perm hreceivers hnames
      rw [(hcall.printsBack htexts hmethod hlist).iff_deleteBlanks_eq]
      exact deleteBlanks_text_ne_of_receiverTrails htrails htexts hreceivers hperm

/-- A call on a field, over two lines. -/
def wrappedCall : String := "this.repo\n  .save(x)"

/-- The node of the field. -/
def wrappedReceiver : SyntaxTree :=
  .node ⟨"field_access", ⟨0, 0⟩, ⟨0, 9⟩⟩
    [.node ⟨"this", ⟨0, 0⟩, ⟨0, 4⟩⟩ [], .node ⟨".", ⟨0, 4⟩, ⟨0, 5⟩⟩ [],
      .node ⟨"identifier", ⟨0, 5⟩, ⟨0, 9⟩⟩ []]

/-- The node of the call. -/
def wrappedCallNode : SyntaxTree :=
  .node ⟨"method_invocation", ⟨0, 0⟩, ⟨1, 10⟩⟩
    [wrappedReceiver, .node ⟨".", ⟨1, 2⟩, ⟨1, 3⟩⟩ [], .node ⟨"identifier", ⟨1, 3⟩, ⟨1, 7⟩⟩ [],
      .node ⟨"argument_list", ⟨1, 7⟩, ⟨1, 10⟩⟩
        [.node ⟨"(", ⟨1, 7⟩, ⟨1, 8⟩⟩ [], .node ⟨"identifier", ⟨1, 8⟩, ⟨1, 9⟩⟩ [],
          .node ⟨")", ⟨1, 9⟩, ⟨1, 10⟩⟩ []]]

/-- It is recorded with the field as its receiver, and printed in one line. -/
theorem wrappedCall_printed :
    ReceiverLeads (.ofString wrappedCall) [wrappedReceiver] ∧
      Step.record (.invocation (.call "this.repo" ["save"] "(x)")) ∈
        (scriptOf (.ofString wrappedCall) wrappedCallNode).steps ∧
      PrintsBack (.ofString wrappedCall) wrappedCallNode "this.repo.save(x)" := by
  have hleads : ReceiverLeads (.ofString wrappedCall) [wrappedReceiver] := by decide +kernel
  have hrecorded : Step.record (.invocation (.call "this.repo" ["save"] "(x)")) ∈
      (scriptOf (.ofString wrappedCall) wrappedCallNode).steps := by
    decide +kernel
  have hcall : IsTiledCall (.ofString wrappedCall) [wrappedReceiver] _ _ wrappedCallNode :=
    @IsTiledCall.intro _ _ _ _ _ [_, _, _] rfl (by decide +kernel) rfl rfl
      (.more (by decide +kernel) (.single _)) (by decide +kernel)
  have htext : (Invocation.call "this.repo" ["save"] "(x)").text = "this.repo.save(x)" := by
    decide +kernel
  rw [← htext]
  exact ⟨hleads, hrecorded,
    ((tiled_call_is_recorded_and_printed hcall _).2 hrecorded).1 hleads⟩

/-- A call of a method of an outer type. -/
def outerCall : String := "Outer.super.m()"

/-- The qualifiers of `outerCall`. -/
def outerQualifiers : List SyntaxTree :=
  [.node ⟨"identifier", ⟨0, 0⟩, ⟨0, 5⟩⟩ [], .node ⟨"super", ⟨0, 6⟩, ⟨0, 11⟩⟩ []]

/-- The name of the method in `outerCall`. -/
def outerName : SyntaxTree :=
  .node ⟨"identifier", ⟨0, 12⟩, ⟨0, 13⟩⟩ []

/-- The empty list of arguments of `outerCall`. -/
def outerArguments : SyntaxTree :=
  .node ⟨"argument_list", ⟨0, 13⟩, ⟨0, 15⟩⟩
    [.node ⟨"(", ⟨0, 13⟩, ⟨0, 14⟩⟩ [], .node ⟨")", ⟨0, 14⟩, ⟨0, 15⟩⟩ []]

/-- The syntax tree of `outerCall`. -/
def outerCallNode : SyntaxTree :=
  .node ⟨"method_invocation", ⟨0, 0⟩, ⟨0, 15⟩⟩
    [.node ⟨"identifier", ⟨0, 0⟩, ⟨0, 5⟩⟩ [], .node ⟨".", ⟨0, 5⟩, ⟨0, 6⟩⟩ [],
      .node ⟨"super", ⟨0, 6⟩, ⟨0, 11⟩⟩ [], .node ⟨".", ⟨0, 11⟩, ⟨0, 12⟩⟩ [],
      outerName, outerArguments]

/-- It is recorded with its receiver in front of the outer type, and not printed back. -/
theorem outerCall_not_printed_back :
    IsTiledCall (.ofString outerCall) outerQualifiers outerName outerArguments outerCallNode ∧
      Step.record (.invocation (.call "super" ["Outer", "m"] "()")) ∈
        (scriptOf (.ofString outerCall) outerCallNode).steps ∧
      ¬ PrintsBack (.ofString outerCall) outerCallNode
        (Invocation.call "super" ["Outer", "m"] "()").text := by
  have hcall : IsTiledCall (.ofString outerCall) outerQualifiers outerName outerArguments
      outerCallNode :=
    @IsTiledCall.intro _ _ _ _ _ [_, _, _, _, _] rfl (by decide +kernel) rfl rfl
      (.more (by decide +kernel) (.more (by decide +kernel) (.single _))) (by decide +kernel)
  have hread : outerCallNode.label.read (.ofString outerCall) = .ok outerCall := by decide +kernel
  refine ⟨hcall, by decide +kernel, ?_⟩
  rw [(printsBack_of_read hread).iff_deleteBlanks_eq]
  decide +kernel

end JavaOutline
