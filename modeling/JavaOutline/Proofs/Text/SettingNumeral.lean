import JavaOutline.Proofs.Except
import JavaOutline.Proofs.Text.PlainNumber

/-!
# Which settings are whole numbers

A setting takes a number with blanks around it, a sign, leading zeros, single underscores between
its digits and a fraction of zeros. Three things are out of the ordinary. Underscores may stand
among leading zeros in any number, as long as a zero comes first and, if there are no other digits,
last. A minus may stand right behind leading zeros, unless there was one in front. And no more digits
are read than the limit allows, but zeros in front and in a fraction are not counted.

The reader first tries the text as it is, and otherwise strips it down to a plain number, step by
step. Each step is described by what it takes away, and the grammar is what the steps make of each
other.
-/

namespace JavaOutline.Text

/-! ## The grammar -/

/-- A zero with zeros and underscores behind it. -/
def IsZeroRun (cs : List Char) : Prop :=
  cs.head? = some '0' ∧ ∀ c ∈ cs, c = '0' ∨ c = '_'

/-- A point with zeros behind it, or nothing. -/
def IsZeroFraction (cs : List Char) : Prop :=
  cs = [] ∨ ∃ zeros, cs = '.' :: zeros ∧ zeros ≠ [] ∧ ∀ c ∈ zeros, c = '0'

/-- What may stand in front of a number, and whether it is a minus. -/
inductive IsSign : Bool → List Char → Prop where
  | none : IsSign false []
  | plus : IsSign false ['+']
  | minus : IsSign true ['-']

/-- A number behind its sign, of which it is known whether it is a minus. -/
inductive IsUnsigned (limit : DigitLimit) : Bool → List Char → Int → Prop where
  /-- A number that is not zero, perhaps with zeros in front. -/
  | number {negative : Bool} {zeros digits fraction : List Char} {n : Nat}
      (hzeros : zeros = [] ∨ IsZeroRun zeros) (hdigits : IsWhole (limit negative) digits n)
      (hfraction : IsZeroFraction fraction) :
      IsUnsigned limit negative (zeros ++ (digits ++ fraction)) (withSign negative n)
  /-- Nothing but zeros. -/
  | zero {negative : Bool} {zeros fraction : List Char} (hzeros : IsZeroRun zeros)
      (hlast : zeros.getLast? = some '0') (hfraction : IsZeroFraction fraction) :
      IsUnsigned limit negative (zeros ++ fraction) 0
  /-- A minus behind zeros, perhaps with one underscore behind it. -/
  | minusBehind {zeros mark digits fraction : List Char} {n : Nat} (hzeros : IsZeroRun zeros)
      (hmark : mark = [] ∨ mark = ['_']) (hdigits : IsPlain (limit true) digits n)
      (hfraction : IsZeroFraction fraction) :
      IsUnsigned limit false (zeros ++ ('-' :: (mark ++ digits) ++ fraction)) (withSign true n)

/-- A number as a setting takes it, with blanks around it. -/
inductive IsSettingNumeral (limit : DigitLimit) : List Char → Int → Prop where
  | intro {front sign unsigned back : List Char} {negative : Bool} {z : Int}
      (hfront : ∀ c ∈ front, isNumberBlank c) (hsign : IsSign negative sign)
      (hunsigned : IsUnsigned limit negative unsigned z) (hback : ∀ c ∈ back, isNumberBlank c) :
      IsSettingNumeral limit (front ++ (sign ++ unsigned) ++ back) z

variable {limit : DigitLimit} {most : Nat}

/-! ## What the steps take away -/

/-- Zeros and underscores behind a zero are dropped down to the last of them. -/
theorem dropZerosBehind_append {last : Char} {zeros : List Char}
    (hzeros : ∀ c ∈ zeros, c = '0' ∨ c = '_') (tail : List Char) :
    dropZerosBehind last (zeros ++ tail) = dropZerosBehind (zeros.getLast?.getD last) tail := by
  induction zeros generalizing last with
  | nil => rfl
  | cons c zeros ih =>
    obtain ⟨hc, hrest⟩ := List.forall_mem_cons.mp hzeros
    rw [List.cons_append, dropZerosBehind, if_pos hc, ih hrest, List.getLast?_cons,
      Option.getD_some]

/-- A run of zeros has a last character. -/
theorem IsZeroRun.exists_getLast? {zeros : List Char} (hzeros : IsZeroRun zeros) :
    ∃ last, zeros.getLast? = some last := by
  obtain ⟨more, rfl⟩ := List.head?_eq_some_iff.mp hzeros.1
  exact ⟨_, List.getLast?_cons⟩

/-- A run of zeros in front is dropped down to its last character. -/
theorem IsZeroRun.dropLeadingZeros_append {zeros : List Char} {last : Char}
    (hzeros : IsZeroRun zeros) (hlast : zeros.getLast? = some last) (tail : List Char) :
    dropLeadingZeros (zeros ++ tail) = dropZerosBehind last tail := by
  obtain ⟨more, rfl⟩ := List.head?_eq_some_iff.mp hzeros.1
  have hmore := (List.forall_mem_cons.mp hzeros.2).2
  rw [List.cons_append, dropLeadingZeros, if_pos rfl, dropZerosBehind_append hmore]
  rw [List.getLast?_cons, Option.some.injEq] at hlast
  rw [hlast]

/-- What starts like a number is kept as it is. -/
theorem dropZerosBehind_of_startsNumber {last c : Char} (hc : startsNumber c) (rest : List Char) :
    dropZerosBehind last (c :: rest) = some (c :: rest) := by
  have hother : ¬ (c = '0' ∨ c = '_') ∧ c ≠ '.' := by
    refine ⟨?_, ?_⟩
    · rintro (rfl | rfl) <;> cases hc
    · rintro rfl
      cases hc
  rw [dropZerosBehind, if_neg hother.1, if_neg hother.2, if_pos hc]

/-- A digit other than zero is no leading zero. -/
theorem dropLeadingZeros_of_digit {c : Char} (hc : (asciiDigit? c).isSome) (hzero : c ≠ '0')
    (rest : List Char) : dropLeadingZeros (c :: rest) = some (c :: rest) := by
  rw [dropLeadingZeros, if_neg hzero, if_pos (startsNumber_iff.mpr (.inr ⟨hc, hzero⟩))]

/-- Behind a zero, zeros and underscores are taken away down to a number. If there is none, the last
of them is kept, and only a point may follow. -/
theorem dropZerosBehind_eq_some {last : Char} {cs significant : List Char}
    (h : dropZerosBehind last cs = some significant) :
    ∃ zeros tail, (∀ c ∈ zeros, c = '0' ∨ c = '_') ∧ cs = zeros ++ tail ∧
      ((∃ c rest, startsNumber c ∧ tail = c :: rest ∧ significant = tail) ∨
        (tail = [] ∨ tail.head? = some '.') ∧ significant = zeros.getLast?.getD last :: tail) := by
  induction cs generalizing last with
  | nil =>
    cases h
    exact ⟨[], [], by simp, rfl, .inr ⟨.inl rfl, rfl⟩⟩
  | cons c rest ih =>
    rw [dropZerosBehind] at h
    split at h
    · rename_i hc
      obtain ⟨zeros, tail, hzeros, rfl, htail⟩ := ih h
      refine ⟨c :: zeros, tail, List.forall_mem_cons.mpr ⟨hc, hzeros⟩, rfl, ?_⟩
      rw [List.getLast?_cons, Option.getD_some]
      exact htail
    · split at h
      · rename_i hc
        subst hc
        cases h
        exact ⟨[], _, by simp, rfl, .inr ⟨.inr rfl, rfl⟩⟩
      · split at h
        · rename_i hc
          cases h
          exact ⟨[], _, by simp, rfl, .inl ⟨c, rest, hc, rfl, rfl⟩⟩
        · cases h

/-- Leading zeros are taken away down to a number. If there is none, the last zero or underscore is
kept, and only a point may follow. -/
theorem dropLeadingZeros_eq_some {cs significant : List Char}
    (h : dropLeadingZeros cs = some significant) :
    (∃ zeros c rest, (zeros = [] ∨ IsZeroRun zeros) ∧ startsNumber c ∧ significant = c :: rest ∧
        cs = zeros ++ significant) ∨
      ∃ zeros last tail, IsZeroRun zeros ∧ zeros.getLast? = some last ∧
        (tail = [] ∨ tail.head? = some '.') ∧ significant = last :: tail ∧ cs = zeros ++ tail := by
  cases cs with
  | nil => cases h
  | cons c rest =>
    rw [dropLeadingZeros] at h
    split at h
    · rename_i hc
      subst hc
      obtain ⟨zeros, tail, hzeros, rfl, htail⟩ := dropZerosBehind_eq_some h
      have hrun : IsZeroRun ('0' :: zeros) := ⟨rfl, List.forall_mem_cons.mpr ⟨.inl rfl, hzeros⟩⟩
      obtain ⟨c, rest, hc, rfl, rfl⟩ | ⟨hpoint, rfl⟩ := htail
      · exact .inl ⟨'0' :: zeros, c, rest, .inr hrun, hc, rfl, rfl⟩
      · exact .inr ⟨'0' :: zeros, _, tail, hrun, List.getLast?_cons, hpoint, rfl, rfl⟩
    · split at h
      · rename_i hc
        cases h
        exact .inl ⟨[], c, rest, .inl rfl, hc, rfl, rfl⟩
      · cases h

/-- A fraction is taken away if it is nothing but zeros. -/
theorem dropZeroFraction_append {whole fraction : List Char} (hpoint : '.' ∉ whole)
    (hfraction : IsZeroFraction fraction) : dropZeroFraction (whole ++ fraction) = whole := by
  have hwhole : ∀ c ∈ whole, decide (c ≠ '.') = true := by
    intro c hc
    rw [decide_eq_true_eq]
    rintro rfl
    exact hpoint hc
  rw [dropZeroFraction, List.span_eq_takeWhile_dropWhile]
  obtain rfl | ⟨zeros, rfl, hsome, hall⟩ := hfraction
  · rw [List.append_nil, List.takeWhile_eq_self_iff.mpr hwhole,
      List.dropWhile_eq_nil_iff.mpr hwhole]
  · rw [List.takeWhile_append_of_pos hwhole, List.dropWhile_append_of_pos hwhole]
    simpa [hsome] using hall

/-- Nothing but a fraction of zeros is taken away. -/
theorem exists_zeroFraction (cs : List Char) :
    ∃ fraction, IsZeroFraction fraction ∧ cs = dropZeroFraction cs ++ fraction := by
  have hjoined := List.takeWhile_append_dropWhile (p := fun c => decide (c ≠ '.')) (l := cs)
  rw [dropZeroFraction, List.span_eq_takeWhile_dropWhile]
  split
  · rename_i whole zeros hparts
    rw [Prod.mk.injEq] at hparts
    split
    · exact ⟨[], .inl rfl, (List.append_nil cs).symm⟩
    · rename_i hzeros
      rw [hparts.1, hparts.2] at hjoined
      simp only [Bool.or_eq_true, List.isEmpty_iff, List.any_eq_true, decide_eq_true_eq, not_or,
        not_exists, not_and, not_not, ne_eq] at hzeros
      exact ⟨'.' :: zeros, .inr ⟨zeros, rfl, hzeros⟩, hjoined.symm⟩
  · exact ⟨[], .inl rfl, (List.append_nil cs).symm⟩

/-! ## All steps -/

/-- A plain number holds no other character than digits and underscores. -/
theorem IsPlain.not_mem {cs : List Char} {n : Nat} (hplain : IsPlain most cs n) {c : Char}
    (hc : asciiDigit? c = none) (hother : c ≠ '_') : c ∉ cs := by
  intro hmem
  have hdigit := hplain.chars.2 c hmem hother
  rw [hc] at hdigit
  cases hdigit

/-- The first character of a plain number is a digit. -/
theorem IsPlain.head_isSome {c : Char} {rest : List Char} {n : Nat}
    (hplain : IsPlain most (c :: rest) n) : (asciiDigit? c).isSome := by
  obtain ⟨_, _, hcons, hdigit⟩ := hplain.chars.1
  obtain ⟨rfl, -⟩ := List.cons.inj hcons
  exact hdigit

/-- A number behind its sign is read by the last steps. -/
theorem IsUnsigned.exists_significant {negative : Bool} {unsigned : List Char} {z : Int}
    (h : IsUnsigned limit negative unsigned z) :
    ∃ significant, dropLeadingZeros unsigned = some significant ∧
      readPlainInt limit (minusIf negative ++ dropUnderscores (dropZeroFraction significant)) =
        .ok z := by
  cases h with
  | @number negative zeros digits fraction n hzeros hdigits hfraction =>
    have hplain : IsPlain (limit negative) digits n := .inr hdigits
    obtain ⟨c, rest, rfl, hc⟩ := hplain.chars.1
    have hzero : c ≠ '0' := by simpa using (isWhole_iff.mp hdigits).2.1
    refine ⟨c :: rest ++ fraction, ?_, ?_⟩
    · obtain rfl | hrun := hzeros
      · exact dropLeadingZeros_of_digit hc hzero _
      · obtain ⟨last, hlast⟩ := hrun.exists_getLast?
        rw [hrun.dropLeadingZeros_append hlast]
        exact dropZerosBehind_of_startsNumber (startsNumber_iff.mpr (.inr ⟨hc, hzero⟩)) _
    · rw [dropZeroFraction_append (hplain.not_mem rfl (by decide)) hfraction,
        readPlainInt_dropUnderscores_iff]
      · exact ⟨n, hplain, rfl⟩
      · rintro - ⟨⟩
        cases hc
  | @zero negative zeros fraction hzeros hlast hfraction =>
    refine ⟨['0'] ++ fraction, ?_, ?_⟩
    · rw [hzeros.dropLeadingZeros_append hlast]
      obtain rfl | ⟨_, rfl, -⟩ := hfraction
      · rfl
      · rfl
    · rw [dropZeroFraction_append (by decide) hfraction, readPlainInt_dropUnderscores_iff (by simp)]
      exact ⟨0, .inl ⟨rfl, rfl⟩, by cases negative <;> rfl⟩
  | @minusBehind zeros mark digits fraction n hzeros hmark hdigits hfraction =>
    have hpoint : '.' ∉ '-' :: (mark ++ digits) := by
      have hnot := hdigits.not_mem (c := '.') rfl (by decide)
      obtain rfl | rfl := hmark <;> simpa using hnot
    refine ⟨'-' :: (mark ++ digits) ++ fraction, ?_, ?_⟩
    · obtain ⟨last, hlast⟩ := hzeros.exists_getLast?
      rw [hzeros.dropLeadingZeros_append hlast]
      exact dropZerosBehind_of_startsNumber rfl _
    · rw [dropZeroFraction_append hpoint hfraction]
      exact readPlainInt_dropUnderscores_minus_iff.mpr ⟨mark, digits, n, rfl, hmark, hdigits, rfl⟩

/-- What the last steps read is a number behind its sign, unless a minus follows no minus. -/
theorem isUnsigned_of_significant {negative : Bool} {unsigned significant : List Char} {z : Int}
    (hminus : negative = false → unsigned.head? ≠ some '-')
    (hdrop : dropLeadingZeros unsigned = some significant)
    (hread : readPlainInt limit
      (minusIf negative ++ dropUnderscores (dropZeroFraction significant)) = .ok z) :
    IsUnsigned limit negative unsigned z := by
  obtain ⟨fraction, hfraction, hsignificant⟩ := exists_zeroFraction significant
  generalize dropZeroFraction significant = whole at hsignificant hread
  cases whole with
  | nil =>
    obtain ⟨n, hplain, -⟩ := (readPlainInt_dropUnderscores_iff (by simp)).mp hread
    obtain ⟨_, _, hnil, -⟩ := hplain.chars.1
    cases hnil
  | cons d whole =>
    obtain ⟨zeros, c, rest, hzeros, hc, rfl, rfl⟩ |
        ⟨zeros, last, tail, hrun, hlast, htail, rfl, rfl⟩ := dropLeadingZeros_eq_some hdrop
    · obtain ⟨rfl, rfl⟩ := List.cons.inj hsignificant
      obtain rfl | ⟨hdigit, hzero⟩ := startsNumber_iff.mp hc
      · cases negative with
        | true =>
          obtain ⟨n, hplain, -⟩ := (readPlainInt_dropUnderscores_iff (by simp)).mp hread
          cases hplain.head_isSome
        | false =>
          obtain ⟨mark, digits, n, rfl, hmark, hplain, rfl⟩ :=
            readPlainInt_dropUnderscores_minus_iff.mp hread
          obtain rfl | hrun := hzeros
          · exact absurd rfl (hminus rfl)
          · exact .minusBehind hrun hmark hplain hfraction
      · have hdash : negative = false → (c :: whole).head? ≠ some '-' := by
          rintro - ⟨⟩
          cases hdigit
        obtain ⟨n, hplain, rfl⟩ := (readPlainInt_dropUnderscores_iff hdash).mp hread
        obtain ⟨hcons, -⟩ | hwhole := hplain
        · exact absurd (List.cons.inj hcons).1 hzero
        · exact .number hzeros hwhole hfraction
    · obtain ⟨rfl, rfl⟩ := List.cons.inj hsignificant
      have hlast' := hrun.2 last (List.mem_of_getLast? hlast)
      have hdash : negative = false → (last :: whole).head? ≠ some '-' := by
        rintro - ⟨⟩
        revert hlast'
        decide
      obtain ⟨n, hplain, rfl⟩ := (readPlainInt_dropUnderscores_iff hdash).mp hread
      obtain rfl : last = '0' := by
        obtain rfl | rfl := hlast'
        · rfl
        · cases hplain.head_isSome
      obtain rfl : whole = [] := by
        cases whole with
        | nil => rfl
        | cons e whole =>
          obtain hnil | hpoint := htail
          · cases hnil
          · obtain rfl : e = '.' := by simpa using hpoint
            exact absurd (by simp) (hplain.not_mem (c := '.') rfl (by decide))
      obtain ⟨-, rfl⟩ | hwhole := hplain
      · rw [show withSign negative 0 = 0 by cases negative <;> rfl]
        exact .zero hrun hlast hfraction
      · exact absurd rfl (isWhole_iff.mp hwhole).2.1

/-! ## Blanks and signs -/

/-- Blanks at the two ends are taken away. -/
theorem exists_stripChars (blank : Char → Bool) (cs : List Char) :
    ∃ front back, cs = front ++ stripChars blank cs ++ back ∧ (∀ c ∈ front, blank c) ∧
      ∀ c ∈ back, blank c := by
  let rest := cs.dropWhile blank
  refine ⟨cs.takeWhile blank, (rest.reverse.takeWhile blank).reverse, ?_, ?_, ?_⟩
  · have hrest : rest = stripChars blank cs ++ (rest.reverse.takeWhile blank).reverse := by
      rw [stripChars, ← List.reverse_append, List.takeWhile_append_dropWhile, List.reverse_reverse]
    rw [List.append_assoc, ← hrest, List.takeWhile_append_dropWhile]
  · exact fun c hc => List.mem_takeWhile_imp hc
  · exact fun c hc => List.mem_takeWhile_imp (List.mem_reverse.mp hc)

/-- A text without blanks is what is left between blanks. -/
theorem stripChars_append {blank : Char → Bool} {front inner back : List Char}
    (hfront : ∀ c ∈ front, blank c) (hinner : ∀ c ∈ inner, blank c = false)
    (hback : ∀ c ∈ back, blank c) : stripChars blank (front ++ inner ++ back) = inner := by
  have hkept {cs : List Char} (hcs : ∀ c ∈ cs, blank c = false) : cs.dropWhile blank = cs := by
    cases cs with
    | nil => rfl
    | cons c cs => exact List.dropWhile_cons_of_neg (by simp [hcs c List.mem_cons_self])
  rw [stripChars, List.append_assoc, List.dropWhile_append_of_pos hfront, List.dropWhile_append,
    hkept hinner]
  split
  · rename_i hnil
    rw [List.isEmpty_iff.mp hnil, List.dropWhile_eq_nil_iff.mpr hback]
    rfl
  · rw [List.reverse_append,
      List.dropWhile_append_of_pos fun c hc => hback c (List.mem_reverse.mp hc),
      hkept fun c hc => hinner c (List.mem_reverse.mp hc), List.reverse_reverse]

/-- A text without blanks stays in front if blanks are taken away. -/
theorem exists_stripChars_append {blank : Char → Bool} {inner : List Char} (hsome : inner ≠ [])
    (hinner : ∀ c ∈ inner, blank c = false) (rest : List Char) :
    ∃ rest', stripChars blank (inner ++ rest) = inner ++ rest' := by
  obtain ⟨front, back, hjoined, hfront, hback⟩ := exists_stripChars blank (inner ++ rest)
  generalize stripChars blank (inner ++ rest) = stripped at hjoined ⊢
  have hclash {c : Char} (hc : c ∈ inner) : blank c ≠ true := by simp [hinner c hc]
  obtain rfl : front = [] := by
    cases front with
    | nil => rfl
    | cons c front =>
      cases inner with
      | nil => exact absurd rfl hsome
      | cons d inner =>
        obtain ⟨rfl, -⟩ := List.cons.inj hjoined
        exact absurd (hfront d List.mem_cons_self) (hclash List.mem_cons_self)
  rw [List.nil_append] at hjoined
  obtain ⟨more, hmore, -⟩ | ⟨more, hmore, hblank⟩ := List.append_eq_append_iff.mp hjoined
  · exact ⟨more, hmore⟩
  · -- what is left of the text in front would be blank
    cases more with
    | nil => exact ⟨[], by simpa using hmore.symm⟩
    | cons c more =>
      have hc : c ∈ inner := by
        rw [hmore]
        simp
      have hc' : c ∈ back := by
        rw [hblank]
        simp
      exact absurd (hback c hc') (hclash hc)

/-- A sign is split off from what does not start with another minus. -/
theorem splitSettingSign_eq_some_iff {cs unsigned : List Char} {negative : Bool} :
    splitSettingSign cs = some (negative, unsigned) ↔
      ∃ sign, IsSign negative sign ∧ cs = sign ++ unsigned ∧
        (negative = false → unsigned.head? ≠ some '-') ∧
        (sign = [] → unsigned.head? ≠ some '+') := by
  constructor
  · intro hsplit
    unfold splitSettingSign at hsplit
    split at hsplit
    · cases hsplit
    · rename_i rest hdash
      cases hsplit
      refine ⟨['+'], .plus, rfl, fun _ hhead => ?_, by simp⟩
      obtain ⟨more, rfl⟩ := List.head?_eq_some_iff.mp hhead
      exact hdash more rfl
    · cases hsplit
      exact ⟨['-'], .minus, rfl, by simp, by simp⟩
    · rename_i _ hplus hminus
      cases hsplit
      refine ⟨[], .none, rfl, fun _ hhead => ?_, fun _ hhead => ?_⟩
      · obtain ⟨more, rfl⟩ := List.head?_eq_some_iff.mp hhead
        exact hminus more rfl
      · obtain ⟨more, rfl⟩ := List.head?_eq_some_iff.mp hhead
        exact hplus more rfl
  · rintro ⟨sign, hsign, rfl, hminus, hplus⟩
    unfold splitSettingSign
    cases hsign with
    | none =>
      split
      · rename_i heq
        exact absurd (congrArg List.head? heq) (hplus rfl)
      · rename_i heq
        exact absurd (congrArg List.head? heq) (hplus rfl)
      · rename_i heq
        exact absurd (congrArg List.head? heq) (hminus rfl)
      · rfl
    | plus =>
      split
      · rename_i heq
        exact absurd (congrArg List.head? (List.cons.inj heq).2) (hminus rfl)
      · rename_i heq
        obtain rfl : unsigned = _ := (List.cons.inj heq).2
        rfl
      · rename_i heq
        cases heq
      · rename_i heq _
        exact absurd rfl (heq unsigned)
    | minus => rfl

/-- A text is stripped down to a plain number by its sign, its zeros and what is left of it. -/
theorem plainNumber?_eq_some_iff {cs plain : List Char} :
    plainNumber? cs = some plain ↔ ∃ negative unsigned significant,
      splitSettingSign (stripChars isNumberBlank cs) = some (negative, unsigned) ∧
        dropLeadingZeros unsigned = some significant ∧
        minusIf negative ++ dropUnderscores (dropZeroFraction significant) = plain := by
  have hsign (negative : Bool) (rest : List Char) :
      (if negative then '-' :: rest else rest) = minusIf negative ++ rest := by
    cases negative <;> rfl
  simp only [plainNumber?, bind, Option.bind_eq_some_iff, Prod.exists, pure, Option.some.injEq,
    hsign]
  constructor
  · rintro ⟨negative, unsigned, hsplit, significant, hdrop, hplain⟩
    exact ⟨negative, unsigned, significant, hsplit, hdrop, hplain⟩
  · rintro ⟨negative, unsigned, significant, hsplit, hdrop, hplain⟩
    exact ⟨negative, unsigned, hsplit, significant, hdrop, hplain⟩

/-! ## Main result -/

/-- Whether a character can stand in a number. -/
def isNumeralChar (c : Char) : Bool :=
  (asciiDigit? c).isSome || ['_', '.', '-', '+'].contains c

/-- What can stand in a number is no blank. -/
theorem isNumberBlank_of_isNumeralChar {c : Char} (h : isNumeralChar c) :
    isNumberBlank c = false := by
  have hdigit (hc : (asciiDigit? c).isSome) : isNumberBlank c = false := by
    rw [isSome_asciiDigit?_iff, Char.le_def, Char.le_def, UInt32.le_iff_toNat_le,
      UInt32.le_iff_toNat_le] at hc
    change 48 ≤ c.toNat ∧ c.toNat ≤ 57 at hc
    simp only [isNumberBlank, isBlank, blankRanges, List.any_cons, List.any_nil, Bool.or_false,
      Bool.and_eq_false_iff, Bool.or_eq_false_iff, decide_eq_false_iff_not]
    omega
  rw [isNumeralChar, Bool.or_eq_true] at h
  obtain hc | hc := h
  · exact hdigit hc
  · simp only [List.contains_cons, List.contains_nil, Bool.or_false, Bool.or_eq_true,
      beq_iff_eq] at hc
    obtain rfl | rfl | rfl | rfl := hc <;> decide

/-- A plain number is made of characters of numbers. -/
theorem IsPlain.isNumeralChar {cs : List Char} {n : Nat} (hplain : IsPlain most cs n) {c : Char}
    (hc : c ∈ cs) : isNumeralChar c := by
  by_cases hmark : c = '_'
  · rw [hmark]
    rfl
  · rw [Text.isNumeralChar, hplain.chars.2 c hc hmark, Bool.true_or]

/-- A run of zeros, a fraction and a sign are made of characters of numbers. -/
theorem IsZeroRun.isNumeralChar {cs : List Char} (hrun : IsZeroRun cs) {c : Char} (hc : c ∈ cs) :
    isNumeralChar c := by
  obtain rfl | rfl := hrun.2 c hc <;> rfl

theorem IsZeroFraction.isNumeralChar {cs : List Char} (hfraction : IsZeroFraction cs) {c : Char}
    (hc : c ∈ cs) : isNumeralChar c := by
  obtain rfl | ⟨zeros, rfl, -, hall⟩ := hfraction
  · cases hc
  · obtain rfl | hc := List.mem_cons.mp hc
    · rfl
    · rw [hall c hc]
      rfl

theorem IsSign.isNumeralChar {negative : Bool} {sign : List Char} (hsign : IsSign negative sign)
    {c : Char} (hc : c ∈ sign) : isNumeralChar c := by
  cases hsign with
  | none => cases hc
  | plus =>
    obtain rfl := List.mem_singleton.mp hc
    rfl
  | minus =>
    obtain rfl := List.mem_singleton.mp hc
    rfl

/-- A number behind its sign starts with a digit, and it is made of characters of numbers. -/
theorem IsUnsigned.chars {negative : Bool} {unsigned : List Char} {z : Int}
    (h : IsUnsigned limit negative unsigned z) :
    (∃ c rest, unsigned = c :: rest ∧ (asciiDigit? c).isSome) ∧
      ∀ c ∈ unsigned, isNumeralChar c := by
  have hstart {zeros : List Char} (hrun : IsZeroRun zeros) (tail : List Char) :
      ∃ c rest, zeros ++ tail = c :: rest ∧ (asciiDigit? c).isSome := by
    obtain ⟨more, rfl⟩ := List.head?_eq_some_iff.mp hrun.1
    exact ⟨'0', more ++ tail, rfl, rfl⟩
  cases h with
  | @number negative zeros digits fraction n hzeros hdigits hfraction =>
    have hplain : IsPlain (limit negative) digits n := .inr hdigits
    have htail : ∀ c ∈ digits ++ fraction, Text.isNumeralChar c :=
      List.forall_mem_append.mpr ⟨fun _ => hplain.isNumeralChar, fun _ => hfraction.isNumeralChar⟩
    obtain rfl | hrun := hzeros
    · obtain ⟨c, rest, rfl, hc⟩ := hplain.chars.1
      exact ⟨⟨c, rest ++ fraction, rfl, hc⟩, htail⟩
    · exact ⟨hstart hrun _, List.forall_mem_append.mpr ⟨fun _ => hrun.isNumeralChar, htail⟩⟩
  | @zero negative zeros fraction hzeros hlast hfraction =>
    exact ⟨hstart hzeros _,
      List.forall_mem_append.mpr ⟨fun _ => hzeros.isNumeralChar, fun _ => hfraction.isNumeralChar⟩⟩
  | @minusBehind zeros mark digits fraction n hzeros hmark hdigits hfraction =>
    have hmark' : ∀ c ∈ mark, Text.isNumeralChar c := by
      obtain rfl | rfl := hmark
      · exact List.forall_mem_nil _
      · exact List.forall_mem_singleton.mpr rfl
    have hnumber : ∀ c ∈ '-' :: (mark ++ digits), Text.isNumeralChar c :=
      List.forall_mem_cons.mpr
        ⟨rfl, List.forall_mem_append.mpr ⟨hmark', fun _ => hdigits.isNumeralChar⟩⟩
    exact ⟨hstart hzeros _, List.forall_mem_append.mpr ⟨fun _ => hzeros.isNumeralChar,
      List.forall_mem_append.mpr ⟨hnumber, fun _ => hfraction.isNumeralChar⟩⟩⟩

/-- There are no blanks in a number with its sign. -/
theorem IsSign.not_blank {negative : Bool} {sign cs : List Char} (hsign : IsSign negative sign)
    (hchars : ∀ c ∈ cs, Text.isNumeralChar c) : ∀ c ∈ sign ++ cs, isNumberBlank c = false := by
  refine List.forall_mem_append.mpr ⟨fun c hc => ?_, fun c hc => ?_⟩
  · exact isNumberBlank_of_isNumeralChar (hsign.isNumeralChar hc)
  · exact isNumberBlank_of_isNumeralChar (hchars c hc)

/-- A sign is split off from a digit. -/
theorem splitSettingSign_append {negative : Bool} {sign : List Char} (hsign : IsSign negative sign)
    {c : Char} (hc : (asciiDigit? c).isSome) (rest : List Char) :
    splitSettingSign (sign ++ c :: rest) = some (negative, c :: rest) := by
  rw [splitSettingSign_eq_some_iff]
  refine ⟨sign, hsign, rfl, ?_, ?_⟩
  · rintro - ⟨⟩
    cases hc
  · rintro - ⟨⟩
    cases hc

/-- Exactly the numbers are read after stripping. -/
theorem isSettingNumeral_iff_plainNumber? {cs : List Char} {z : Int} :
    IsSettingNumeral limit cs z ↔
      ∃ plain, plainNumber? cs = some plain ∧ readPlainInt limit plain = .ok z := by
  constructor
  · rintro ⟨hfront, hsign, hunsigned, hback⟩
    obtain ⟨significant, hdrop, hread⟩ := hunsigned.exists_significant
    obtain ⟨⟨c, rest, rfl, hc⟩, hchars⟩ := hunsigned.chars
    refine ⟨_, plainNumber?_eq_some_iff.mpr ⟨_, _, significant, ?_, hdrop, rfl⟩, hread⟩
    rw [stripChars_append hfront (hsign.not_blank hchars) hback, splitSettingSign_append hsign hc]
  · rintro ⟨plain, hplain, hread⟩
    obtain ⟨negative, unsigned, significant, hsplit, hdrop, rfl⟩ :=
      plainNumber?_eq_some_iff.mp hplain
    obtain ⟨sign, hsign, hstripped, hminus, -⟩ := splitSettingSign_eq_some_iff.mp hsplit
    obtain ⟨front, back, hcs, hfront, hback⟩ := exists_stripChars isNumberBlank cs
    rw [hcs, hstripped]
    exact .intro hfront hsign (isUnsigned_of_significant hminus hdrop hread) hback

/-- The sign of a plain number is a sign. -/
theorem isSign_minusIf (negative : Bool) : IsSign negative (minusIf negative) := by
  cases negative with
  | true => exact .minus
  | false => exact .none

/-- A plain number is stripped down to itself. -/
theorem plainNumber?_of_readPlainInt {cs : List Char} {z : Int}
    (h : readPlainInt limit cs = .ok z) : plainNumber? cs = some cs := by
  obtain ⟨negative, digits, n, rfl, hmark, hplain, rfl⟩ := readPlainInt_eq_ok_iff.mp h
  obtain ⟨c, rest, rfl, hc⟩ := hplain.chars.1
  refine plainNumber?_eq_some_iff.mpr ⟨negative, c :: rest, c :: rest, ?_, ?_, ?_⟩
  · have hinner := (isSign_minusIf negative).not_blank fun _ => hplain.isNumeralChar
    have hstrip : stripChars isNumberBlank ([] ++ (minusIf negative ++ c :: rest) ++ []) =
        minusIf negative ++ c :: rest := stripChars_append (by simp) hinner (by simp)
    rw [List.nil_append, List.append_nil] at hstrip
    rw [hstrip, splitSettingSign_append (isSign_minusIf negative) hc]
  · obtain ⟨hzero, -⟩ | hwhole := hplain
    · rw [hzero]
      rfl
    · exact dropLeadingZeros_of_digit hc (by simpa using (isWhole_iff.mp hwhole).2.1) rest
  · have hfraction := dropZeroFraction_append (hplain.not_mem (c := '.') rfl (by decide)) (.inl rfl)
    rw [List.append_nil] at hfraction
    rw [hfraction, dropUnderscores]
    split
    · rw [List.filter_eq_self.mpr]
      intro c hc
      rw [decide_eq_true_eq]
      rintro rfl
      exact hmark hc
    · rfl

/-- Too many digits do not start with a minus. -/
theorem StartsLong.head_ne_minus {cs : List Char} (hlong : StartsLong most cs) :
    cs.head? ≠ some '-' := by
  obtain ⟨digits, rest, rfl, hall, -, hlength⟩ := hlong
  cases digits with
  | nil => cases hlength
  | cons c digits =>
    rintro ⟨⟩
    have hdigit := hall '-' List.mem_cons_self
    cases hdigit

/-- If a fraction of zeros is taken away, digits in front stay. -/
theorem startsLong_dropZeroFraction {cs : List Char} (hlong : StartsLong most cs) :
    StartsLong most (dropZeroFraction cs) := by
  obtain ⟨digits, rest, rfl, hall, hhead, hlength⟩ := hlong
  obtain ⟨fraction, hfraction, hjoined⟩ := exists_zeroFraction (digits ++ rest)
  obtain ⟨more, hwhole, -⟩ | ⟨more, hdigits, hmore⟩ := List.append_eq_append_iff.mp hjoined
  · exact ⟨digits, more, hwhole, hall, hhead, hlength⟩
  · -- the point is no digit
    cases more with
    | nil =>
      rw [List.append_nil] at hdigits
      rw [← hdigits]
      exact ⟨digits, [], (List.append_nil digits).symm, hall, hhead, hlength⟩
    | cons c more =>
      obtain rfl | ⟨zeros, rfl, -⟩ := hfraction
      · cases hmore
      · obtain ⟨rfl, -⟩ := List.cons.inj hmore
        have hpoint := hall '.' (by rw [hdigits]; simp)
        cases hpoint

/-- What starts with too many digits is no number after stripping either. -/
theorem StartsLong.not_readPlainInt {negative : Bool} {cs plain : List Char} {z : Int}
    (hlong : StartsLong (limit negative) cs)
    (hplain : plainNumber? (minusIf negative ++ cs) = some plain) :
    readPlainInt limit plain ≠ .ok z := by
  intro hread
  obtain ⟨digits, rest, rfl, hall, hhead, hlength⟩ := hlong
  cases digits with
  | nil => cases hlength
  | cons c digits =>
    have hc := hall c List.mem_cons_self
    have hinner := (isSign_minusIf negative).not_blank fun c' hc' => by
      rw [Text.isNumeralChar, hall c' hc', Bool.true_or]
    obtain ⟨rest', hstrip⟩ := exists_stripChars_append (by simp) hinner rest
    obtain ⟨_, _, significant, hsplit, hdrop, rfl⟩ := plainNumber?_eq_some_iff.mp hplain
    rw [← List.append_assoc, hstrip, List.append_assoc, List.cons_append,
      splitSettingSign_append (isSign_minusIf negative) hc] at hsplit
    cases hsplit
    rw [dropLeadingZeros_of_digit hc (by simpa using hhead)] at hdrop
    cases hdrop
    have hlong : StartsLong (limit negative) (dropZeroFraction (c :: (digits ++ rest'))) :=
      startsLong_dropZeroFraction ⟨c :: digits, rest', rfl, hall, hhead, hlength⟩
    obtain ⟨n, hplain, -⟩ :=
      (readPlainInt_dropUnderscores_iff fun _ => hlong.head_ne_minus).mp hread
    exact hplain.not_startsLong hlong

/-- A setting is read as a whole number exactly if its text is one. -/
theorem readSettingInt_eq_ok_iff {s : String} {z : Int} :
    readSettingInt limit s = .ok z ↔ IsSettingNumeral limit s.toList z := by
  rw [isSettingNumeral_iff_plainNumber?, readSettingInt]
  cases hread : readPlainInt limit s.toList with
  | ok value =>
    rw [plainNumber?_of_readPlainInt hread]
    simp [hread]
  | error fault =>
    cases fault with
    | malformed =>
      cases hplain : plainNumber? s.toList with
      | none => simp
      | some plain => simp
    | tooLong =>
      obtain ⟨negative, unsigned, heq, hlong⟩ := startsLong_of_readPlainInt hread
      constructor
      · intro h
        cases h
      · rintro ⟨plain, hplain, hok⟩
        rw [heq] at hplain
        exact absurd hok (hlong.not_readPlainInt hplain)

end JavaOutline.Text
