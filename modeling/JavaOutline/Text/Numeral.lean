import JavaOutline.Text.Blank
import JavaOutline.Text.Digit

/-!
# Whole numbers as text

Two places accept a whole number as text, and they differ in what they take. Both allow blanks
around the number, a sign and underscores between digits.

An option of the command line may be written in the decimal digits of any script, at most 4300 of
them, leading zeros included.

A setting takes ASCII digits. A plain decimal number is read as it stands, and more digits at its
front than a given limit are refused as too many. The limit is usually 4300 as well, but a minus may
count as one of them. Any other text is stripped down to a plain number first: its leading zeros are
dropped, together with any underscores among them, so that a minus may also stand right after them;
then a point followed by zeros; then the underscores, if each stands alone between two other
characters. What is left is read once more, and is no number if that fails for any reason.
-/

namespace JavaOutline.Text

/-- The greatest number of digits that are read. -/
def maxDigits : Nat := 4300

/-- How many digits of a setting are read, behind a minus and otherwise. -/
abbrev DigitLimit := Bool → Nat

/-- The limit where a minus does not count. -/
def digitsAlone : DigitLimit := fun _ => maxDigits

/-- The blanks that may stand around a number: the separators U+001C to U+001F are not among
them. -/
def isNumberBlank (c : Char) : Bool :=
  isBlank c && !(0x1C ≤ c.toNat && c.toNat ≤ 0x1F)

/-- A magnitude with its sign. -/
def withSign (negative : Bool) (n : Nat) : Int :=
  if negative then -(n : Int) else n

/-! ## Options -/

/-- Splits off a leading sign; the flag says whether it is a minus. -/
def splitSign : List Char → Bool × List Char
  | '-' :: rest => (true, rest)
  | '+' :: rest => (false, rest)
  | cs => (false, cs)

/-- Reads a whole number from the command line. -/
def readOptionInt? (s : String) : Option Int := do
  let (negative, digits) := splitSign (stripChars isNumberBlank s.toList)
  let values ← readDigits? digit? digits
  if values.length ≤ maxDigits then some (withSign negative (ofDigits values)) else none

/-! ## Settings -/

/-- Why a setting is not a whole number. -/
inductive NumeralFault where
  | malformed
  | tooLong
deriving DecidableEq, Repr

/-- Whether a plain number can start with a character: a digit other than zero, or a minus. -/
def startsNumber (c : Char) : Bool :=
  c == '-' || ('1' ≤ c && c ≤ '9')

/-- Drops zeros and underscores behind a last one of them. If nothing follows, the last one is kept,
and so is the one before a point. -/
def dropZerosBehind (last : Char) : List Char → Option (List Char)
  | [] => some [last]
  | c :: rest =>
    if c = '0' ∨ c = '_' then dropZerosBehind c rest
    else if c = '.' then some (last :: c :: rest)
    else if startsNumber c then some (c :: rest)
    else none

/-- Drops leading zeros from a text that starts like a number. -/
def dropLeadingZeros : List Char → Option (List Char)
  | [] => none
  | c :: rest =>
    if c = '0' then dropZerosBehind c rest
    else if startsNumber c then some (c :: rest)
    else none

/-- Drops a point followed by nothing but zeros, at least one of them; another point stays. -/
def dropZeroFraction (cs : List Char) : List Char :=
  match cs.span (· ≠ '.') with
  | (whole, '.' :: zeros) =>
    if zeros.isEmpty || zeros.any (· ≠ '0') then cs else whole
  | _ => cs

/-- Whether every underscore stands alone between two other characters; the flag says whether one
may come next. -/
def hasSingleUnderscores : Bool → List Char → Bool
  | allowed, [] => allowed
  | allowed, c :: rest => if c = '_' then allowed && hasSingleUnderscores false rest
    else hasSingleUnderscores true rest

/-- Takes the underscores out of a text, if each stands alone. -/
def dropUnderscores (cs : List Char) : List Char :=
  if hasSingleUnderscores false cs then cs.filter (· ≠ '_') else cs

/-- Reads the digits of a plain number behind its sign: zero alone, or digits that do not start with
zero. Too many digits are refused whatever follows them. -/
def readMagnitude (limit : DigitLimit) (negative : Bool) (unsigned : List Char) :
    Except NumeralFault Int :=
  let (digits, rest) := unsigned.span fun c => (asciiDigit? c).isSome
  match digits with
  | [] => .error .malformed
  | ['0'] => if rest.isEmpty then .ok 0 else .error .malformed
  | '0' :: _ => .error .malformed
  | _ =>
    if limit negative < digits.length then .error .tooLong
    else if rest.isEmpty then .ok (withSign negative (ofDigits (digits.filterMap asciiDigit?)))
    else .error .malformed

/-- Reads a plain decimal number, with an optional minus in front. -/
def readPlainInt (limit : DigitLimit) : List Char → Except NumeralFault Int
  | '-' :: unsigned => readMagnitude limit true unsigned
  | cs => readMagnitude limit false cs

/-- Splits off the sign of a setting; two signs in a row are none. -/
def splitSettingSign : List Char → Option (Bool × List Char)
  | '+' :: '-' :: _ => none
  | '+' :: rest => some (false, rest)
  | '-' :: rest => some (true, rest)
  | cs => some (false, cs)

/-- A text without what may stand around and inside a plain number. -/
def plainNumber? (cs : List Char) : Option (List Char) := do
  let (negative, unsigned) ← splitSettingSign (stripChars isNumberBlank cs)
  let significant ← dropLeadingZeros unsigned
  let plain := dropUnderscores (dropZeroFraction significant)
  return if negative then '-' :: plain else plain

/-- Reads a whole number from a setting. -/
def readSettingInt (limit : DigitLimit) (s : String) : Except NumeralFault Int :=
  match readPlainInt limit s.toList with
  | .error .malformed =>
    match plainNumber? s.toList with
    | none => .error .malformed
    | some plain => (readPlainInt limit plain).mapError fun _ => .malformed
  | read => read

end JavaOutline.Text
