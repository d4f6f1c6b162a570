import JavaOutline.Text.Printable

/-!
# Quoted texts

Messages show a text between quotes, with the characters that would not be seen spelled out. The
quote is the apostrophe, unless the text holds an apostrophe and no double quote. A long quoted
text is shortened in the middle, by its length in bytes.
-/

namespace JavaOutline.Text

/-- The lower-case hexadecimal digits of a number, padded with zeros to a width. -/
def hexDigits (width : Nat) (n : Nat) : List Char :=
  let digits := Nat.toDigits 16 n
  List.replicate (width - digits.length) '0' ++ digits

/-- A character inside quotes: the quote and the backslash are escaped, and a character that is
not printable is written by name or by its code point. -/
def escapeChar (quote c : Char) : List Char :=
  if c = quote ∨ c = '\\' then ['\\', c]
  else if c = '\n' then ['\\', 'n']
  else if c = '\r' then ['\\', 'r']
  else if c = '\t' then ['\\', 't']
  else if isPrintable c then [c]
  else if c.toNat < 0x100 then '\\' :: 'x' :: hexDigits 2 c.toNat
  else if c.toNat < 0x10000 then '\\' :: 'u' :: hexDigits 4 c.toNat
  else '\\' :: 'U' :: hexDigits 8 c.toNat

/-- The quote that a text is written in. -/
def quoteOf (cs : List Char) : Char :=
  if '\'' ∈ cs ∧ '"' ∉ cs then '"' else '\''

/-- A text between quotes. -/
def quoted (s : String) : String :=
  let quote := quoteOf s.toList
  String.ofList (quote :: s.toList.flatMap (escapeChar quote) ++ [quote])

/-- As many characters from the front as have at most a number of bytes in UTF-8. -/
def takeBytes : Nat → List Char → List Char
  | _, [] => []
  | room, c :: rest => if c.utf8Size ≤ room then c :: takeBytes (room - c.utf8Size) rest else []

/-- A text of at most fifty bytes as it is. Of a longer one the middle is left out: at most 25 bytes
are kept at the front and at most 24 at the end, in whole characters. -/
def shortened (s : String) : String :=
  let cs := s.toList
  if s.utf8ByteSize ≤ 50 then s
  else String.ofList (takeBytes 25 cs) ++ "..." ++ String.ofList (takeBytes 24 cs.reverse).reverse

end JavaOutline.Text
