import JavaOutline.Text.Newline

/-!
# The lines of a text

A text has one line more than it has line ends. Texts that are joined by line ends keep their lines,
and what is put in front of a text goes in front of its first line. A text without line ends is a
single line, and so is whatever is made of such texts.
-/

namespace JavaOutline.Text

/-- A text holds no line end. -/
def IsOneLine (text : String) : Prop :=
  '\n' ∉ text.toList

instance (text : String) : Decidable (IsOneLine text) :=
  inferInstanceAs (Decidable (¬ _))

/-- Two texts in a row hold no line end if neither of them does. -/
@[simp] theorem isOneLine_append {first second : String} :
    IsOneLine (first ++ second) ↔ IsOneLine first ∧ IsOneLine second := by
  simp [IsOneLine]

/-- Joined texts hold no line end if the texts and what joins them do not. -/
theorem isOneLine_intercalate {separator : String} (hseparator : IsOneLine separator)
    {texts : List String} (htexts : ∀ text ∈ texts, IsOneLine text) :
    IsOneLine (separator.intercalate texts) := by
  induction texts with
  | nil => simp [IsOneLine]
  | cons text texts ih =>
    rw [List.forall_mem_cons] at htexts
    cases texts with
    | nil => simpa using htexts.1
    | cons next texts =>
      rw [String.intercalate_cons_cons]
      simp [htexts.1, hseparator, ih htexts.2]

/-- What a piece of a list holds is in the list, and is not what the list is split at. -/
theorem mem_and_ne_of_mem_splitOn {α : Type} [BEq α] [LawfulBEq α] {a b : α} {as piece : List α}
    (hpiece : piece ∈ as.splitOn a) (hb : b ∈ piece) : b ∈ as ∧ b ≠ a := by
  induction as generalizing piece with
  | nil =>
    rw [List.splitOn_nil, List.mem_singleton] at hpiece
    simp [hpiece] at hb
  | cons c as ih =>
    rw [List.splitOn_cons_eq_if_modifyHead] at hpiece
    split at hpiece
    · rcases List.mem_cons.mp hpiece with rfl | hpiece
      · cases hb
      · exact (ih hpiece hb).imp_left (List.mem_cons_of_mem c)
    · rename_i hother
      have hne : c ≠ a := fun heq => hother (beq_iff_eq.mpr heq)
      obtain ⟨first, rest, hpieces⟩ := List.exists_cons_of_ne_nil (List.splitOn_ne_nil a as)
      rw [hpieces] at hpiece ih
      rcases List.mem_cons.mp hpiece with rfl | hpiece
      · rcases List.mem_cons.mp hb with rfl | hb
        · exact ⟨List.mem_cons_self, hne⟩
        · exact (ih List.mem_cons_self hb).imp_left (List.mem_cons_of_mem c)
      · exact (ih (List.mem_cons_of_mem _ hpiece) hb).imp_left (List.mem_cons_of_mem c)

/-- A text without line ends is one line. -/
theorem lines_eq_singleton {cs : List Char} (hcs : '\n' ∉ cs) : lines cs = [cs] :=
  List.splitOn_eq_singleton hcs

/-- A text has one line more than it has line ends. -/
theorem length_lines (cs : List Char) : (lines cs).length = cs.count '\n' + 1 := by
  induction cs with
  | nil => rfl
  | cons c cs ih =>
    rw [lines] at ih ⊢
    rw [List.splitOn_cons_eq_if_modifyHead]
    split
    · rename_i hend
      rw [eq_of_beq hend, List.length_cons, ih, List.count_cons_self]
    · rename_i hother
      rw [List.length_modifyHead, ih, List.count_cons_of_ne (by simpa using hother)]

/-- What is put in front of a text and holds no line end goes in front of its first line. -/
theorem lines_append_left {margin : List Char} (hmargin : '\n' ∉ margin) (cs : List Char) :
    lines (margin ++ cs) = (lines cs).modifyHead (margin ++ ·) := by
  induction margin with
  | nil =>
    rw [List.nil_append]
    cases lines cs <;> rfl
  | cons c margin ih =>
    rw [List.mem_cons, not_or] at hmargin
    rw [lines] at ih
    rw [List.cons_append, lines, List.splitOn_cons_eq_if_modifyHead,
      if_neg (by simpa using Ne.symm hmargin.1), ih hmargin.2]
    cases lines cs <;> simp

/-- Texts that are joined by line ends keep their lines. -/
theorem lines_intercalate {texts : List String} (htexts : texts ≠ []) :
    lines ("\n".intercalate texts).toList = texts.flatMap fun text => lines text.toList := by
  induction texts with
  | nil => exact absurd rfl htexts
  | cons text texts ih =>
    cases texts with
    | nil => simp
    | cons next texts =>
      have hjoined : ("\n".intercalate (text :: next :: texts)).toList =
          text.toList ++ '\n' :: ("\n".intercalate (next :: texts)).toList := by
        simp [String.intercalate_cons_cons]
      rw [hjoined, lines, List.splitOn_append_cons_self, ← lines, ← lines, ih (by simp)]
      rfl

end JavaOutline.Text
