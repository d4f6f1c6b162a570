import JavaOutline.Text.Numeral
import Mathlib.Data.List.TakeDrop
import Mathlib.Data.List.TakeWhile

/-!
# Plain numbers

A plain number is a zero alone or digits of which the first is not zero, at most 4300 of them, with
a minus in front if it is negative. Where underscores are allowed, each stands alone between two
digits. A plain number without underscores is read as what its digits stand for, and no other text
is read; one that starts with too many digits is refused as too long.
-/

namespace JavaOutline.Text

/-! ## Characters -/

/-- The digits are the characters from `0` to `9`. -/
theorem isSome_asciiDigit?_iff {c : Char} :
    (asciiDigit? c).isSome ↔ '0' ≤ c ∧ c ≤ '9' := by
  rw [asciiDigit?]
  split <;> simp_all

/-- An underscore is no digit. -/
@[simp] theorem asciiDigit?_underscore : asciiDigit? '_' = none := rfl

/-- A number starts with a minus or with a digit other than zero. -/
theorem startsNumber_iff {c : Char} :
    startsNumber c = true ↔ c = '-' ∨ (asciiDigit? c).isSome ∧ c ≠ '0' := by
  have hzero : '1' ≤ c ↔ '0' ≤ c ∧ c ≠ '0' := by
    rw [Char.le_def, Char.le_def, UInt32.le_iff_toNat_le, UInt32.le_iff_toNat_le, ne_eq,
      ← Char.toNat_inj]
    change 49 ≤ c.toNat ↔ 48 ≤ c.toNat ∧ ¬ c.toNat = 48
    omega
  rw [isSome_asciiDigit?_iff, startsNumber]
  simp only [Bool.or_eq_true, beq_iff_eq, Bool.and_eq_true, decide_eq_true_eq, hzero]
  tauto

/-! ## Digits and underscores -/

/-- Without underscores, each of them stands alone as soon as there is anything. -/
theorem hasSingleUnderscores_of_not_mem {cs : List Char} (h : '_' ∉ cs) (allowed : Bool) :
    hasSingleUnderscores allowed cs = (allowed || !cs.isEmpty) := by
  induction cs generalizing allowed with
  | nil => simp [hasSingleUnderscores]
  | cons c rest ih =>
    rw [List.mem_cons, not_or] at h
    rw [hasSingleUnderscores, if_neg (Ne.symm h.1), ih h.2]
    simp

/-- Unless an underscore comes first, it makes no difference whether one may. -/
theorem hasSingleUnderscores_eq_of_head {cs : List Char} (hsome : cs ≠ [])
    (hhead : cs.head? ≠ some '_') (allowed : Bool) :
    hasSingleUnderscores allowed cs = hasSingleUnderscores true cs := by
  cases cs with
  | nil => exact absurd rfl hsome
  | cons c rest =>
    have hc : c ≠ '_' := by simpa using hhead
    rw [hasSingleUnderscores, hasSingleUnderscores, if_neg hc, if_neg hc]

/-- A text of digits, in which each underscore stands alone, with the values of the digits. -/
def AreDigits (cs : List Char) (values : List Nat) : Prop :=
  hasSingleUnderscores false cs ∧ (∀ c ∈ cs, c ≠ '_' → (asciiDigit? c).isSome) ∧
    cs.filterMap asciiDigit? = values

/-- A text of digits starts with a digit. -/
theorem areDigits_cons_iff {c : Char} {rest : List Char} {values : List Nat} :
    AreDigits (c :: rest) values ↔
      ∃ d, asciiDigit? c = some d ∧ hasSingleUnderscores true rest ∧
        (∀ c ∈ rest, c ≠ '_' → (asciiDigit? c).isSome) ∧
          d :: rest.filterMap asciiDigit? = values := by
  rw [AreDigits, hasSingleUnderscores]
  cases hdigit : asciiDigit? c with
  | none =>
    by_cases hc : c = '_'
    · simp [hc]
    · simp [hc, hdigit]
  | some d =>
    have hc : c ≠ '_' := by
      rintro rfl
      cases hdigit
    simp only [if_neg hc, List.forall_mem_cons, hdigit, Option.isSome_some, implies_true, true_and,
      List.filterMap_cons_some hdigit, Option.some.injEq, exists_eq_left']

/-- Exactly the texts of digits are read as digits. -/
theorem readDigits?_eq_some_iff {cs : List Char} {values : List Nat} :
    readDigits? asciiDigit? cs = some values ↔ AreDigits cs values := by
  fun_induction readDigits? asciiDigit? cs generalizing values with
  | case1 => simp [AreDigits, hasSingleUnderscores]
  | case2 c => simp [areDigits_cons_iff, hasSingleUnderscores]
  | case3 c rest ih =>
    rw [areDigits_cons_iff]
    simp [Option.bind_eq_some_iff, ih, AreDigits, hasSingleUnderscores, List.filterMap_cons,
      and_assoc]
  | case4 c rest hsome hmark ih =>
    have hhead : rest.head? ≠ some '_' := by
      intro hhead
      obtain ⟨more, hmore⟩ := List.head?_eq_some_iff.mp hhead
      exact hmark more hmore
    have hsingle := hasSingleUnderscores_eq_of_head hsome hhead false
    rw [areDigits_cons_iff]
    simp [Option.bind_eq_some_iff, ih, AreDigits, hsingle, and_assoc]

/-- The digits of a number, so many at most and the first of them not zero, with single underscores
between them. -/
def IsWhole (most : Nat) (digits : List Char) (n : Nat) : Prop :=
  ∃ values, readDigits? asciiDigit? digits = some values ∧ digits.head? ≠ some '0' ∧
    values.length ≤ most ∧ ofDigits values = n

/-- A zero alone, or the digits of a number that does not start with zero. -/
def IsPlain (most : Nat) (digits : List Char) (n : Nat) : Prop :=
  digits = ['0'] ∧ n = 0 ∨ IsWhole most digits n

variable {most : Nat}

/-- A whole number is a text of digits. -/
theorem isWhole_iff {digits : List Char} {n : Nat} :
    IsWhole most digits n ↔ AreDigits digits (digits.filterMap asciiDigit?) ∧
      digits.head? ≠ some '0' ∧ (digits.filterMap asciiDigit?).length ≤ most ∧
        ofDigits (digits.filterMap asciiDigit?) = n := by
  constructor
  · rintro ⟨values, hread, hhead, hlength, rfl⟩
    obtain ⟨hsingle, hall, rfl⟩ := readDigits?_eq_some_iff.mp hread
    exact ⟨⟨hsingle, hall, rfl⟩, hhead, hlength, rfl⟩
  · rintro ⟨hdigits, hhead, hlength, rfl⟩
    exact ⟨_, readDigits?_eq_some_iff.mpr hdigits, hhead, hlength, rfl⟩

/-- A plain number starts with a digit, and it holds digits and underscores only. -/
theorem IsPlain.chars {digits : List Char} {n : Nat} (h : IsPlain most digits n) :
    (∃ c rest, digits = c :: rest ∧ (asciiDigit? c).isSome) ∧
      ∀ c ∈ digits, c ≠ '_' → (asciiDigit? c).isSome := by
  obtain ⟨rfl, -⟩ | hwhole := h
  · exact ⟨⟨'0', [], rfl, rfl⟩, List.forall_mem_singleton.mpr fun _ => rfl⟩
  · have hdigits := (isWhole_iff.mp hwhole).1
    refine ⟨?_, hdigits.2.1⟩
    cases digits with
    | nil => cases hdigits.1
    | cons c rest =>
      obtain ⟨d, hd, -⟩ := areDigits_cons_iff.mp hdigits
      exact ⟨c, rest, rfl, by rw [hd]; rfl⟩

/-! ## Plain numbers -/

/-- An underscore is none of any digits. -/
theorem underscore_not_mem {digits : List Char} (hall : ∀ c ∈ digits, (asciiDigit? c).isSome) :
    '_' ∉ digits := by
  intro hmem
  have hdigit := hall '_' hmem
  cases hdigit

/-- Digits without underscores that do not start with zero are a whole number, if there are not too
many. -/
theorem isWhole_of_all_digits {digits : List Char} (hsome : digits ≠ [])
    (hall : ∀ c ∈ digits, (asciiDigit? c).isSome) (hhead : digits.head? ≠ some '0')
    (hlength : digits.length ≤ most) :
    IsWhole most digits (ofDigits (digits.filterMap asciiDigit?)) := by
  have hmark := underscore_not_mem hall
  refine isWhole_iff.mpr ⟨⟨?_, fun c hc _ => hall c hc, rfl⟩, hhead, ?_, rfl⟩
  · simpa [hasSingleUnderscores_of_not_mem hmark] using hsome
  · exact Nat.le_trans (List.length_filterMap_le ..) hlength

/-- A text that starts with more digits than so many, the first of which is not zero. -/
def StartsLong (most : Nat) (cs : List Char) : Prop :=
  ∃ digits rest, cs = digits ++ rest ∧ (∀ c ∈ digits, (asciiDigit? c).isSome) ∧
    digits.head? ≠ some '0' ∧ most < digits.length

/-- No plain number starts with too many digits. -/
theorem IsPlain.not_startsLong {cs : List Char} {n : Nat} (hplain : IsPlain most cs n) :
    ¬ StartsLong most cs := by
  rintro ⟨digits, rest, rfl, hall, hhead, hlong⟩
  obtain ⟨hzero, -⟩ | hwhole := hplain
  · cases digits with
    | nil => cases hlong
    | cons c digits =>
      obtain ⟨rfl, -⟩ := List.cons.inj hzero
      exact absurd rfl hhead
  · have hlength := (isWhole_iff.mp hwhole).2.2.1
    have hdigits : (digits.filterMap asciiDigit?).length = digits.length :=
      List.filterMap_length_eq_length.mpr hall
    rw [List.filterMap_append, List.length_append, hdigits] at hlength
    omega

/-- What is read behind the sign of a plain number is one, or it starts with too many digits. -/
theorem readMagnitude_cases (limit : DigitLimit) (negative : Bool) (cs : List Char) :
    (∃ n, '_' ∉ cs ∧ IsPlain (limit negative) cs n ∧
        readMagnitude limit negative cs = .ok (withSign negative n)) ∨
      StartsLong (limit negative) cs ∧ readMagnitude limit negative cs = .error .tooLong ∨
      readMagnitude limit negative cs = .error .malformed := by
  have hjoined := List.takeWhile_append_dropWhile (p := fun c => (asciiDigit? c).isSome) (l := cs)
  have hall : ∀ c ∈ cs.takeWhile fun c => (asciiDigit? c).isSome, (asciiDigit? c).isSome :=
    fun c hc => List.mem_takeWhile_imp (p := fun c => (asciiDigit? c).isSome) hc
  simp only [readMagnitude, List.span_eq_takeWhile_dropWhile]
  generalize cs.takeWhile _ = digits at hjoined hall ⊢
  generalize cs.dropWhile _ = rest at hjoined ⊢
  subst hjoined
  split
  · exact .inr (.inr rfl)
  · split
    · rename_i hrest
      rw [List.isEmpty_iff.mp hrest]
      exact .inl ⟨0, by decide, .inl ⟨rfl, rfl⟩, by cases negative <;> rfl⟩
    · exact .inr (.inr rfl)
  · exact .inr (.inr rfl)
  · rename_i hsome hzero hzeros
    have hhead : digits.head? ≠ some '0' := by
      intro hhead
      obtain ⟨more, hmore⟩ := List.head?_eq_some_iff.mp hhead
      exact hzeros more hmore
    split
    · exact .inr (.inl ⟨⟨digits, rest, rfl, hall, hhead, ‹_›⟩, rfl⟩)
    · split
      · rename_i hlength hrest
        rw [List.isEmpty_iff.mp hrest, List.append_nil]
        have hwhole := isWhole_of_all_digits hsome hall hhead (Nat.le_of_not_lt hlength)
        exact .inl ⟨_, underscore_not_mem hall, .inr hwhole, rfl⟩
      · exact .inr (.inr rfl)

variable {limit : DigitLimit} {negative : Bool}

/-- A plain number is read behind its sign. -/
theorem readMagnitude_of_isPlain {cs : List Char} {n : Nat} (hmark : '_' ∉ cs)
    (hplain : IsPlain (limit negative) cs n) :
    readMagnitude limit negative cs = .ok (withSign negative n) := by
  have hall : ∀ c ∈ cs, (asciiDigit? c).isSome := by
    intro c hc
    exact hplain.chars.2 c hc fun heq => hmark (heq ▸ hc)
  have hspan : (cs.span fun c => (asciiDigit? c).isSome) = (cs, []) := by
    rw [List.span_eq_takeWhile_dropWhile, List.takeWhile_eq_self_iff.mpr hall,
      List.dropWhile_eq_nil_iff.mpr hall]
  rw [readMagnitude, hspan]
  obtain ⟨rfl, rfl⟩ | hwhole := hplain
  · cases negative <;> rfl
  · obtain ⟨hdigits, hhead, hlength, rfl⟩ := isWhole_iff.mp hwhole
    rw [List.filterMap_length_eq_length.mpr hall] at hlength
    dsimp only
    split
    · cases hdigits.1
    · exact absurd rfl hhead
    · exact absurd rfl hhead
    · rw [if_neg (Nat.not_lt_of_le hlength)]
      rfl

/-- The sign of a plain number. -/
def minusIf (negative : Bool) : List Char :=
  if negative then ['-'] else []

/-- Every text is read with or without a minus in front. -/
theorem readPlainInt_eq_readMagnitude (limit : DigitLimit) (cs : List Char) :
    ∃ negative unsigned, cs = minusIf negative ++ unsigned ∧
      readPlainInt limit cs = readMagnitude limit negative unsigned := by
  unfold readPlainInt
  split
  · exact ⟨true, _, rfl, rfl⟩
  · exact ⟨false, _, rfl, rfl⟩

/-- A plain number is read with its sign. -/
theorem readPlainInt_of_isPlain {digits : List Char} {n : Nat} (hmark : '_' ∉ digits)
    (hplain : IsPlain (limit negative) digits n) :
    readPlainInt limit (minusIf negative ++ digits) = .ok (withSign negative n) := by
  rw [← readMagnitude_of_isPlain hmark hplain]
  cases negative with
  | true => rfl
  | false =>
    obtain ⟨c, rest, rfl, hc⟩ := hplain.chars.1
    change readPlainInt limit (c :: rest) = _
    unfold readPlainInt
    split
    · rename_i heq
      obtain ⟨rfl, -⟩ := List.cons.inj heq
      cases hc
    · rfl

/-- Exactly the plain numbers are read as such. -/
theorem readPlainInt_eq_ok_iff {cs : List Char} {z : Int} :
    readPlainInt limit cs = .ok z ↔
      ∃ negative digits n, cs = minusIf negative ++ digits ∧ '_' ∉ digits ∧
        IsPlain (limit negative) digits n ∧ withSign negative n = z := by
  constructor
  · intro hread
    obtain ⟨negative, unsigned, rfl, heq⟩ := readPlainInt_eq_readMagnitude limit cs
    obtain ⟨n, hmark, hplain, hok⟩ | ⟨-, herror⟩ | herror :=
      readMagnitude_cases limit negative unsigned
    · rw [heq, hok, Except.ok.injEq] at hread
      exact ⟨negative, unsigned, n, rfl, hmark, hplain, hread⟩
    · rw [heq, herror] at hread
      cases hread
    · rw [heq, herror] at hread
      cases hread
  · rintro ⟨negative, digits, n, rfl, hmark, hplain, rfl⟩
    exact readPlainInt_of_isPlain hmark hplain

/-- What is refused as too long starts with too many digits. -/
theorem startsLong_of_readPlainInt {cs : List Char} (h : readPlainInt limit cs = .error .tooLong) :
    ∃ negative unsigned, cs = minusIf negative ++ unsigned ∧
      StartsLong (limit negative) unsigned := by
  obtain ⟨negative, unsigned, rfl, heq⟩ := readPlainInt_eq_readMagnitude limit cs
  obtain ⟨n, -, -, hok⟩ | ⟨hlong, -⟩ | herror := readMagnitude_cases limit negative unsigned
  · rw [heq, hok] at h
    cases h
  · exact ⟨negative, unsigned, rfl, hlong⟩
  · rw [heq, herror] at h
    cases h

/-! ## Taking out underscores -/

/-- Where each underscore stands alone, there are none if there is nothing else. -/
theorem eq_nil_of_filter_eq_nil {cs : List Char} (hsingle : hasSingleUnderscores true cs)
    (hnone : cs.filter (· ≠ '_') = []) : cs = [] := by
  have hall : ∀ c ∈ cs, c = '_' := by simpa using hnone
  cases cs with
  | nil => rfl
  | cons c rest =>
    obtain ⟨rfl, hrest⟩ := List.forall_mem_cons.mp hall
    rw [hasSingleUnderscores, if_pos rfl, Bool.true_and] at hsingle
    cases rest with
    | nil => cases hsingle
    | cons d rest =>
      obtain ⟨rfl, -⟩ := List.forall_mem_cons.mp hrest
      cases hsingle

/-- Underscores do not count among digits. -/
theorem filterMap_filter_underscore (cs : List Char) :
    (cs.filter (· ≠ '_')).filterMap asciiDigit? = cs.filterMap asciiDigit? := by
  induction cs with
  | nil => rfl
  | cons c rest ih =>
    by_cases hc : c = '_'
    · rw [hc, List.filter_cons_of_neg (by simp), List.filterMap_cons_none rfl, ih]
    · rw [List.filter_cons_of_pos (by simpa using hc), List.filterMap_cons, List.filterMap_cons, ih]

/-- A number with its underscores taken out is as plain as it was, if each stood alone. -/
theorem isPlain_filter_iff {cs : List Char} {n : Nat} (hsingle : hasSingleUnderscores false cs) :
    IsPlain most (cs.filter (· ≠ '_')) n ↔ IsPlain most cs n := by
  have hvalues := filterMap_filter_underscore cs
  cases cs with
  | nil => cases hsingle
  | cons c rest =>
    have hc : c ≠ '_' := by
      rintro rfl
      cases hsingle
    have hfilter : (c :: rest).filter (· ≠ '_') = c :: rest.filter (· ≠ '_') :=
      List.filter_cons_of_pos (by simpa using hc)
    have hmark : '_' ∉ c :: rest.filter (· ≠ '_') := by
      rw [← hfilter]
      simp
    have hrest : rest.filter (· ≠ '_') = [] ↔ rest = [] := by
      rw [hasSingleUnderscores, if_neg hc] at hsingle
      exact ⟨eq_nil_of_filter_eq_nil hsingle, fun hnil => by rw [hnil, List.filter_nil]⟩
    have hdigits (values : List Nat) :
        AreDigits (c :: rest.filter (· ≠ '_')) values ↔ AreDigits (c :: rest) values := by
      rw [hfilter] at hvalues
      rw [AreDigits, AreDigits, hvalues, hasSingleUnderscores_of_not_mem hmark, hsingle]
      simp
    rw [hfilter] at hvalues ⊢
    simp only [IsPlain, isWhole_iff, hvalues, hdigits, List.cons.injEq, hrest, List.head?_cons]

/-- In a plain number, each underscore stands alone. -/
theorem IsPlain.hasSingleUnderscores {cs : List Char} {n : Nat} (hplain : IsPlain most cs n) :
    hasSingleUnderscores false cs := by
  obtain ⟨rfl, -⟩ | hwhole := hplain
  · rfl
  · exact (isWhole_iff.mp hwhole).1.1

/-- Underscores that are taken out all stand alone, and what is left is plain exactly if it was. -/
theorem isPlain_dropUnderscores_iff {cs : List Char} {n : Nat} :
    '_' ∉ dropUnderscores cs ∧ IsPlain most (dropUnderscores cs) n ↔ IsPlain most cs n := by
  by_cases hsingle : hasSingleUnderscores false cs
  · rw [dropUnderscores, if_pos hsingle, isPlain_filter_iff hsingle]
    simp
  · rw [dropUnderscores, if_neg hsingle, and_iff_right_iff_imp]
    intro hplain
    exact absurd hplain.hasSingleUnderscores hsingle

/-- Taking out underscores leaves the first character in its place. -/
theorem head?_dropUnderscores (cs : List Char) : (dropUnderscores cs).head? = cs.head? := by
  rw [dropUnderscores]
  split
  · rename_i hsingle
    cases cs with
    | nil => rfl
    | cons c rest =>
      have hc : c ≠ '_' := by
        rintro rfl
        cases hsingle
      rw [List.filter_cons_of_pos (by simpa using hc)]
      rfl
  · rfl

/-- A text is read as a number behind a sign exactly if it is one, unless it starts with a minus of
its own. -/
theorem readPlainInt_dropUnderscores_iff {cs : List Char} {z : Int}
    (hminus : negative = false → cs.head? ≠ some '-') :
    readPlainInt limit (minusIf negative ++ dropUnderscores cs) = .ok z ↔
      ∃ n, IsPlain (limit negative) cs n ∧ withSign negative n = z := by
  rw [readPlainInt_eq_ok_iff]
  constructor
  · rintro ⟨negative', digits, n, hsame, hmark, hplain, rfl⟩
    obtain ⟨c, rest, hcons, hc⟩ := hplain.chars.1
    have hdash : c ≠ '-' := by
      rintro rfl
      cases hc
    -- the two signs are the same, since a digit follows
    obtain ⟨rfl, rfl⟩ : negative' = negative ∧ digits = dropUnderscores cs := by
      cases negative with
      | true =>
        cases negative' with
        | true => exact ⟨rfl, (List.cons.inj hsame).2.symm⟩
        | false =>
          rw [hcons] at hsame
          exact absurd (List.cons.inj hsame).1.symm hdash
      | false =>
        cases negative' with
        | true =>
          have hhead := congrArg List.head? hsame
          change (dropUnderscores cs).head? = some '-' at hhead
          rw [head?_dropUnderscores] at hhead
          exact absurd hhead (hminus rfl)
        | false => exact ⟨rfl, hsame.symm⟩
    exact ⟨n, isPlain_dropUnderscores_iff.mp ⟨hmark, hplain⟩, rfl⟩
  · rintro ⟨n, hplain, rfl⟩
    obtain ⟨hmark, hplain'⟩ := isPlain_dropUnderscores_iff.mpr hplain
    exact ⟨negative, _, n, rfl, hmark, hplain', rfl⟩

/-- Behind a minus of its own, a text may have one more underscore in front of a plain number. -/
theorem readPlainInt_dropUnderscores_minus_iff {cs : List Char} {z : Int} :
    readPlainInt limit (dropUnderscores ('-' :: cs)) = .ok z ↔
      ∃ mark digits n, cs = mark ++ digits ∧ (mark = [] ∨ mark = ['_']) ∧
        IsPlain (limit true) digits n ∧ withSign true n = z := by
  have hdrop : dropUnderscores ('-' :: cs) =
      '-' :: if hasSingleUnderscores true cs then cs.filter (· ≠ '_') else cs := by
    rw [dropUnderscores]
    change (if hasSingleUnderscores true cs then _ else _) = _
    split
    · exact List.filter_cons_of_pos (by decide)
    · rfl
  rw [readPlainInt_eq_ok_iff, hdrop]
  constructor
  · rintro ⟨negative, digits, n, hsame, hmark, hplain, rfl⟩
    cases negative with
    | false =>
      obtain ⟨c, rest, rfl, hc⟩ := hplain.chars.1
      obtain ⟨rfl, -⟩ := List.cons.inj hsame
      cases hc
    | true =>
      obtain ⟨-, rfl⟩ := List.cons.inj hsame
      split at hmark
      · rename_i hsingle
        rw [if_pos hsingle] at hplain
        cases cs with
        | nil =>
          obtain ⟨_, _, hnil, -⟩ := hplain.chars.1
          cases hnil
        | cons c rest =>
          by_cases hc : c = '_'
          · subst hc
            rw [List.filter_cons_of_neg (by decide)] at hplain
            exact ⟨['_'], rest, n, rfl, .inr rfl, (isPlain_filter_iff hsingle).mp hplain, rfl⟩
          · rw [← hasSingleUnderscores_eq_of_head (by simp) (by simpa using hc) false] at hsingle
            exact ⟨[], c :: rest, n, rfl, .inl rfl, (isPlain_filter_iff hsingle).mp hplain, rfl⟩
      · rename_i hsingle
        rw [hasSingleUnderscores_of_not_mem hmark] at hsingle
        exact absurd rfl hsingle
  · rintro ⟨mark, digits, n, rfl, hmark, hplain, rfl⟩
    have hsingle := hplain.hasSingleUnderscores
    have hdigits := (isPlain_filter_iff hsingle).mpr hplain
    have hall : hasSingleUnderscores true (mark ++ digits) ∧
        (mark ++ digits).filter (· ≠ '_') = digits.filter (· ≠ '_') := by
      obtain rfl | rfl := hmark
      · obtain ⟨c, rest, rfl, hc⟩ := hplain.chars.1
        rw [List.nil_append, ← hasSingleUnderscores_eq_of_head (by simp) _ false]
        · exact ⟨hsingle, rfl⟩
        · rintro ⟨⟩
          cases hc
      · exact ⟨hsingle, List.filter_cons_of_neg (by decide)⟩
    refine ⟨true, digits.filter (· ≠ '_'), n, ?_, by simp, hdigits, rfl⟩
    rw [if_pos hall.1, hall.2]
    rfl

end JavaOutline.Text
