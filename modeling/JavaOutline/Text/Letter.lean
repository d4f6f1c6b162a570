/-!
# Upper-case and lower-case forms

Keywords of settings are compared without regard to case. A keyword holds ASCII letters only,
so the upper-case form of a character matters just when it consists of ASCII letters: that of
an ASCII letter, of the dotless i, of the long s, and of the sharp s and the Latin ligatures,
which become two or three letters. Every other character stands for itself here, since neither
it nor its upper-case form can occur in a keyword.
-/

namespace JavaOutline.Text

/-- The upper-case form of a character, as far as it consists of ASCII letters. -/
def upperForm (c : Char) : List Char :=
  match c.toNat with
  | 0x00DF => ['S', 'S']
  | 0x0131 => ['I']
  | 0x017F => ['S']
  | 0xFB00 => ['F', 'F']
  | 0xFB01 => ['F', 'I']
  | 0xFB02 => ['F', 'L']
  | 0xFB03 => ['F', 'F', 'I']
  | 0xFB04 => ['F', 'F', 'L']
  | 0xFB05 => ['S', 'T']
  | 0xFB06 => ['S', 'T']
  | _ => [c.toUpper]

/-- A text in upper case. -/
def upper (s : String) : String :=
  String.ofList (s.toList.flatMap upperForm)

/-- A text with its ASCII letters in lower case. -/
def lower (s : String) : String :=
  String.ofList (s.toList.map Char.toLower)

/-- A character without regard to case, as far as that is an ASCII letter: the long s is an s. -/
def foldedForm (c : Char) : Char :=
  if c.toNat = 0x017F then 's' else c.toLower

/-- A text without regard to case. -/
def folded (s : String) : String :=
  String.ofList (s.toList.map foldedForm)

end JavaOutline.Text
