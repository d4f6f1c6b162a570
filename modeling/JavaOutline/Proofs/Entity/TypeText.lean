import JavaOutline.JavaType
import Mathlib.Data.List.Basic

/-!
# Types are told apart by their texts

The text of a type holds three marks that are no part of a name: two brackets around the arguments,
and a comma between them. If no name holds a mark, the text can be taken apart again from its start. A
name goes up to the first mark, an opening bracket tells that arguments follow, and after each argument
a comma or the closing bracket tells whether there is another one. A blank follows each comma, but names
may start with blanks too, so it is the comma that counts. No argument is empty, because a name holds
something, and so a pair of brackets with nothing in it stands for no arguments at all.

Texts are compared together with whatever comes behind them, as long as it cannot go on with the type:
behind a type the text is at its end, or there is a comma or a closing bracket.
-/

namespace JavaOutline.JavaType

/-- The characters that divide the text of a type. -/
def marks : List Char := ['<', '>', ',']

mutual
/-- Every name in a type, at any depth, from left to right. -/
def names : JavaType → List String
  | plain name => [name]
  | generic name arguments => name :: namesAll arguments
/-- Every name in the types of a list. -/
def namesAll : List JavaType → List String
  | [] => []
  | type :: types => names type ++ namesAll types
end

/-- A text without marks. -/
def IsUnmarked (name : String) : Prop :=
  ∀ mark ∈ marks, mark ∉ name.toList

instance (name : String) : Decidable (IsUnmarked name) :=
  List.decidableBAll (fun mark => mark ∉ name.toList) marks

/-- Every name in a type is a name, and none of them holds a mark. -/
def IsSimple (type : JavaType) : Prop :=
  ∀ name ∈ type.names, IsName name ∧ IsUnmarked name

instance (type : JavaType) : Decidable type.IsSimple :=
  List.decidableBAll (fun name => IsName name ∧ IsUnmarked name) type.names

/-- Induction from the arguments to the type. -/
@[elab_as_elim]
theorem induct {motive : JavaType → Prop} (plain : ∀ name, motive (.plain name))
    (generic : ∀ name arguments, (∀ argument ∈ arguments, motive argument) →
      motive (.generic name arguments)) (type : JavaType) : motive type :=
  @JavaType.rec motive (fun arguments => ∀ argument ∈ arguments, motive argument) plain generic
    (fun _ hmem => absurd hmem List.not_mem_nil)
    (fun _ _ hhead htail _ hmem => (List.mem_cons.mp hmem).elim (· ▸ hhead) (htail _)) type

/-! ## Names -/

/-- The names of several types are those of each. -/
theorem mem_namesAll_iff {name : String} {types : List JavaType} :
    name ∈ namesAll types ↔ ∃ type ∈ types, name ∈ type.names := by
  induction types with
  | nil => simp [namesAll]
  | cons type types ih => simp [namesAll, ih]

/-- A type with arguments is simple if its name and its arguments are. -/
theorem isSimple_generic_iff {name : String} {arguments : List JavaType} :
    (generic name arguments).IsSimple ↔
      (plain name).IsSimple ∧ ∀ argument ∈ arguments, argument.IsSimple := by
  simp only [IsSimple, names, List.mem_cons, mem_namesAll_iff, List.not_mem_nil, or_false]
  constructor
  · intro h
    exact ⟨fun other hother => h other (.inl hother),
      fun argument hargument other hother => h other (.inr ⟨argument, hargument, hother⟩)⟩
  · rintro ⟨hname, harguments⟩ other (hother | ⟨argument, hargument, hother⟩)
    · exact hname other hother
    · exact harguments argument hargument other hother

/-- A simple name holds no mark. -/
theorem IsSimple.not_mem_marks {name : String} (h : (plain name).IsSimple) :
    ∀ c ∈ name.toList, c ∉ marks := by
  intro c hc hmark
  exact (h name (by simp [names])).2 c hmark hc

/-- A simple name is not empty. -/
theorem IsSimple.toList_ne_nil {name : String} (h : (plain name).IsSimple) : name.toList ≠ [] := by
  have hname : IsName name := (h name (by simp [names])).1
  intro hnil
  rw [IsName, Text.isBlankText, hnil] at hname
  cases hname

/-- Texts without marks are told apart up to the first mark behind them. -/
theorem eq_of_append_eq {first second rest rest' : List Char} (hfirst : ∀ c ∈ first, c ∉ marks)
    (hsecond : ∀ c ∈ second, c ∉ marks) (hrest : ∀ c ∈ rest.head?, c ∈ marks)
    (hrest' : ∀ c ∈ rest'.head?, c ∈ marks) (h : first ++ rest = second ++ rest') :
    first = second ∧ rest = rest' := by
  induction first generalizing second with
  | nil =>
    cases second with
    | nil => exact ⟨rfl, h⟩
    | cons c second =>
      rw [List.nil_append, List.cons_append] at h
      exact absurd (hrest c (by simp [h])) (hsecond c List.mem_cons_self)
  | cons c first ih =>
    cases second with
    | nil =>
      rw [List.nil_append, List.cons_append] at h
      exact absurd (hrest' c (by simp [← h])) (hfirst c List.mem_cons_self)
    | cons d second =>
      rw [List.forall_mem_cons] at hfirst hsecond
      obtain ⟨rfl, htail⟩ := List.cons.inj h
      obtain ⟨rfl, hsame⟩ := ih hfirst.2 hsecond.2 htail
      exact ⟨rfl, hsame⟩

/-! ## Texts as characters -/

/-- The characters of further arguments, each behind a comma and a blank. -/
def furtherText (arguments : List JavaType) : List Char :=
  arguments.flatMap fun argument => ',' :: ' ' :: argument.text.toList

@[simp] theorem furtherText_cons (argument : JavaType) (arguments : List JavaType) :
    furtherText (argument :: arguments) =
      ',' :: ' ' :: (argument.text.toList ++ furtherText arguments) := by
  simp [furtherText]

/-- The characters between the brackets: the first argument, and then the further ones. -/
def argumentText : List JavaType → List Char
  | [] => []
  | argument :: arguments => argument.text.toList ++ furtherText arguments

/-- Arguments joined by commas are the first argument and then the further ones. -/
theorem toList_intercalate_texts (arguments : List JavaType) :
    (", ".intercalate (arguments.map text)).toList = argumentText arguments := by
  have hfurther (argument : JavaType) (arguments : List JavaType) :
      (", ".intercalate (text argument :: arguments.map text)).toList =
        argument.text.toList ++ furtherText arguments := by
    induction arguments generalizing argument with
    | nil => simp [furtherText]
    | cons next arguments ih =>
      rw [List.map_cons, String.intercalate_cons_cons, String.toList_append, String.toList_append,
        ih, furtherText_cons, List.append_assoc]
      rfl
  cases arguments with
  | nil => simp [argumentText]
  | cons argument arguments => exact hfurther argument arguments

/-- The characters of a type with arguments, and of what stands behind it. -/
theorem toList_text_generic_append (name : String) (arguments : List JavaType) (rest : List Char) :
    (generic name arguments).text.toList ++ rest =
      name.toList ++ '<' :: (argumentText arguments ++ '>' :: rest) := by
  rw [text, texts_eq_map, String.toList_append, String.toList_append, String.toList_append,
    toList_intercalate_texts]
  simp

/-- The text of a simple type starts with a character that is no mark. -/
theorem IsSimple.exists_text_eq_cons {type : JavaType} (h : type.IsSimple) :
    ∃ c rest, type.text.toList = c :: rest ∧ c ∉ marks := by
  have hname {name : String} (hname : (plain name).IsSimple) :
      ∃ c rest, name.toList = c :: rest ∧ c ∉ marks := by
    obtain ⟨c, rest, hcons⟩ := List.exists_cons_of_ne_nil hname.toList_ne_nil
    exact ⟨c, rest, hcons, hname.not_mem_marks c (by simp [hcons])⟩
  cases type with
  | plain name =>
    rw [text]
    exact hname h
  | generic name arguments =>
    obtain ⟨c, rest, hcons, hc⟩ := hname (isSimple_generic_iff.mp h).1
    have htext := toList_text_generic_append name arguments []
    rw [List.append_nil, hcons, List.cons_append] at htext
    exact ⟨c, _, htext, hc⟩

/-! ## Taking texts apart -/

/-- Behind a type, the text is at its end, or there is a comma or a closing bracket. -/
def EndsType (rest : List Char) : Prop :=
  ∀ c ∈ rest.head?, c = ',' ∨ c = '>'

/-- What ends a type starts with a mark. -/
theorem EndsType.mem_marks {rest : List Char} (h : EndsType rest) : ∀ c ∈ rest.head?, c ∈ marks := by
  intro c hc
  rcases h c hc with rfl | rfl <;> decide

/-- An opening bracket does not end a type. -/
theorem not_endsType_opening (rest : List Char) : ¬ EndsType ('<' :: rest) := by
  intro h
  exact absurd (h '<' (by simp)) (by decide)

/-- Further arguments and a closing bracket end a type. -/
theorem endsType_furtherText (arguments : List JavaType) (rest : List Char) :
    EndsType (furtherText arguments ++ '>' :: rest) := by
  cases arguments <;> simp [EndsType, furtherText]

/-- A type can be taken off a text in one way only: of two types with whatever ends them, both the
types and the ends are the same if the texts are. -/
def IsTakenOff (type : JavaType) : Prop :=
  ∀ {other : JavaType} {rest rest' : List Char}, type.IsSimple → other.IsSimple → EndsType rest →
    EndsType rest' → type.text.toList ++ rest = other.text.toList ++ rest' →
    type = other ∧ rest = rest'

/-- Further arguments can be taken off a text in one way only if each of them can. -/
theorem furtherText_inj {arguments others : List JavaType} {rest rest' : List Char}
    (htaken : ∀ argument ∈ arguments, argument.IsTakenOff)
    (hsimple : ∀ argument ∈ arguments, argument.IsSimple) (hsimple' : ∀ other ∈ others, other.IsSimple)
    (h : furtherText arguments ++ '>' :: rest = furtherText others ++ '>' :: rest') :
    arguments = others ∧ rest = rest' := by
  induction arguments generalizing others with
  | nil =>
    cases others with
    | nil => exact ⟨rfl, (List.cons.inj h).2⟩
    | cons other others => exact absurd (List.cons.inj h).1 (by decide)
  | cons argument arguments ih =>
    cases others with
    | nil => exact absurd (List.cons.inj h).1 (by decide)
    | cons other others =>
      rw [List.forall_mem_cons] at htaken hsimple hsimple'
      simp only [furtherText_cons, List.cons_append, List.append_assoc, List.cons.injEq, true_and]
        at h
      obtain ⟨rfl, hrest⟩ := htaken.1 hsimple.1 hsimple'.1 (endsType_furtherText arguments rest)
        (endsType_furtherText others rest') h
      obtain ⟨rfl, hsame⟩ := ih htaken.2 hsimple.2 hsimple'.2 hrest
      exact ⟨rfl, hsame⟩

/-- Arguments can be taken off a text in one way only if each of them can. -/
theorem argumentText_inj {arguments others : List JavaType} {rest rest' : List Char}
    (htaken : ∀ argument ∈ arguments, argument.IsTakenOff)
    (hsimple : ∀ argument ∈ arguments, argument.IsSimple) (hsimple' : ∀ other ∈ others, other.IsSimple)
    (h : argumentText arguments ++ '>' :: rest = argumentText others ++ '>' :: rest') :
    arguments = others ∧ rest = rest' := by
  -- a first argument starts with a character of a name, so it is no closing bracket
  have hbracket {type : JavaType} (htype : type.IsSimple) (after after' : List Char) :
      '>' :: after ≠ type.text.toList ++ after' := by
    obtain ⟨c, tail, hcons, hc⟩ := htype.exists_text_eq_cons
    rw [hcons, List.cons_append]
    intro heq
    rw [← (List.cons.inj heq).1] at hc
    exact hc (by decide)
  cases arguments with
  | nil =>
    cases others with
    | nil => exact ⟨rfl, (List.cons.inj h).2⟩
    | cons other others =>
      rw [argumentText, argumentText, List.nil_append, List.append_assoc] at h
      exact absurd h (hbracket (hsimple' other List.mem_cons_self) _ _)
  | cons argument arguments =>
    cases others with
    | nil =>
      rw [argumentText, argumentText, List.nil_append, List.append_assoc] at h
      exact absurd h.symm (hbracket (hsimple argument List.mem_cons_self) _ _)
    | cons other others =>
      rw [List.forall_mem_cons] at htaken hsimple hsimple'
      rw [argumentText, argumentText, List.append_assoc, List.append_assoc] at h
      obtain ⟨rfl, hrest⟩ := htaken.1 hsimple.1 hsimple'.1 (endsType_furtherText arguments rest)
        (endsType_furtherText others rest') h
      obtain ⟨rfl, hsame⟩ := furtherText_inj htaken.2 hsimple.2 hsimple'.2 hrest
      exact ⟨rfl, hsame⟩

/-- Every type can be taken off a text in one way only. -/
theorem isTakenOff (type : JavaType) : type.IsTakenOff := by
  induction type using induct with
  | plain name =>
    intro other rest rest' hsimple hsimple' hrest hrest' h
    cases other with
    | plain name' =>
      rw [text, text] at h
      obtain ⟨hname, hsame⟩ := eq_of_append_eq hsimple.not_mem_marks hsimple'.not_mem_marks
        hrest.mem_marks hrest'.mem_marks h
      exact ⟨congrArg plain (String.toList_inj.mp hname), hsame⟩
    | generic name' arguments' =>
      -- an opening bracket would have to stand where a type ends
      rw [text, toList_text_generic_append] at h
      obtain ⟨-, hsame⟩ := eq_of_append_eq hsimple.not_mem_marks
        (isSimple_generic_iff.mp hsimple').1.not_mem_marks hrest.mem_marks (by simp [marks]) h
      rw [hsame] at hrest
      exact absurd hrest (not_endsType_opening _)
  | generic name arguments ih =>
    intro other rest rest' hsimple hsimple' hrest hrest' h
    rw [isSimple_generic_iff] at hsimple
    cases other with
    | plain name' =>
      rw [text, toList_text_generic_append] at h
      obtain ⟨-, hsame⟩ := eq_of_append_eq hsimple.1.not_mem_marks hsimple'.not_mem_marks
        (by simp [marks]) hrest'.mem_marks h
      rw [← hsame] at hrest'
      exact absurd hrest' (not_endsType_opening _)
    | generic name' arguments' =>
      rw [isSimple_generic_iff] at hsimple'
      rw [toList_text_generic_append, toList_text_generic_append] at h
      obtain ⟨hname, hbrackets⟩ := eq_of_append_eq hsimple.1.not_mem_marks hsimple'.1.not_mem_marks
        (by simp [marks]) (by simp [marks]) h
      obtain ⟨rfl, hsame⟩ := argumentText_inj ih hsimple.2 hsimple'.2 (List.cons.inj hbrackets).2
      exact ⟨by rw [String.toList_inj.mp hname], hsame⟩

/-- Types in which every name is a name without marks are told apart by their texts. In particular, a
type without brackets is not written like one with nothing between its brackets. -/
theorem simple_types_told_apart (first second : JavaType) (hfirst : first.IsSimple)
    (hsecond : second.IsSimple) :
    (first.text = second.text ↔ first = second) ∧
      ∀ name name', first = .plain name → second = .generic name' [] →
        first.text ≠ second.text := by
  have hiff : first.text = second.text ↔ first = second := by
    constructor
    · intro htext
      have hend : EndsType [] := by simp [EndsType]
      exact (first.isTakenOff hfirst hsecond hend hend (by rw [htext])).1
    · rintro rfl
      rfl
  refine ⟨hiff, ?_⟩
  rintro name name' rfl rfl htext
  cases hiff.mp htext

/-- A blank at the start of a name shows, also behind the blank that follows a comma, and so do empty
brackets. -/
theorem blank_and_brackets_show :
    let first := JavaType.generic "Map" [.plain "int[]", .plain " Key", .generic "List" []]
    let second := JavaType.generic "Map" [.plain "int[]", .plain "Key", .plain "List"]
    first.IsSimple ∧ second.IsSimple ∧ first.text ≠ second.text := by
  intro first second
  have hfirst : first.IsSimple := by decide +kernel
  have hsecond : second.IsSimple := by decide +kernel
  refine ⟨hfirst, hsecond, fun htext => ?_⟩
  have hsame := (simple_types_told_apart first second hfirst hsecond).1.mp htext
  exact absurd hsame (by decide +kernel)

end JavaOutline.JavaType
