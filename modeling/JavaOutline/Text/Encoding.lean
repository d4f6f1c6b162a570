/-!
# Text as bytes

The three encodings in which a source text can be laid out as bytes. Every text has a UTF-8
form; Latin-1 and ASCII refuse characters beyond their range. Decoding is strict: bytes that no
text encodes to, such as a UTF-8 character cut in two, are refused.
-/

namespace JavaOutline.Text

/-- An encoding of texts as bytes. -/
inductive Encoding where
  | utf8
  | latin1
  | ascii
deriving DecidableEq, Repr

namespace Encoding

/-- The name of an encoding, in plain form. -/
def name : Encoding → String
  | utf8 => "utf_8"
  | latin1 => "latin_1"
  | ascii => "ascii"

/-- The other names of an encoding, in plain form. -/
def aliases : Encoding → List String
  | utf8 => ["utf8", "u8", "utf", "utf8_ucs2", "utf8_ucs4", "cp65001"]
  | latin1 =>
    ["latin1", "latin", "l1", "8859", "cp819", "csisolatin1", "ibm819", "iso8859", "iso8859_1",
     "iso_8859_1", "iso_8859_1_1987", "iso_ir_100"]
  | ascii =>
    ["us_ascii", "us", "646", "ansi_x3.4_1968", "ansi_x3.4_1986", "ansi_x3_4_1968", "cp367",
     "csascii", "ibm367", "iso646_us", "iso_646.irv_1991", "iso_ir_6"]

/-- Whether a character belongs to a word of a name. -/
def isNameChar (c : Char) : Bool :=
  c.isAlphanum || c == '.'

/-- A name in plain form: its words in lower case, with one underscore between any two. -/
def plainName (name : String) : String :=
  let runs := name.toList.splitBy fun a b => isNameChar a == isNameChar b
  let words := runs.filter (·.any isNameChar)
  "_".intercalate (words.map fun word => String.ofList (word.map Char.toLower))

/-- Whether a name is one of an encoding. In the other names, but not in the first, points may stand
for underscores. -/
def isNamed (encoding : Encoding) (name : String) : Bool :=
  let plain := plainName name
  let pointless := String.ofList (plain.toList.map fun c => if c = '.' then '_' else c)
  plain == encoding.name || encoding.aliases.contains plain || encoding.aliases.contains pointless

/-- Why no encoding goes by a name. -/
inductive NameFault where
  /-- The name holds a zero character. -/
  | zeroCharacter
  | unknown
deriving DecidableEq, Repr

/-- The text of a complaint about the name of an encoding, if it has one. -/
def NameFault.message? : NameFault → Option String
  | zeroCharacter => some "embedded null character"
  | unknown => none

/-- The encoding of a given name, in any case and with any marks but a zero character between its
words. -/
def named (name : String) : Except NameFault Encoding :=
  if name.toList.contains '\x00' then .error .zeroCharacter
  else match [utf8, latin1, ascii].find? (isNamed · name) with
    | some encoding => .ok encoding
    | none => .error .unknown

/-- The first code point that a single-byte encoding cannot hold. -/
def limit : Encoding → Nat
  | ascii => 0x80
  | _ => 0x100

/-- The byte of a character in a single-byte encoding, where it has one. -/
def byte? (encoding : Encoding) (c : Char) : Option UInt8 :=
  if c.toNat < encoding.limit then some (UInt8.ofNat c.toNat) else none

/-- The character of a byte in a single-byte encoding, where it has one. -/
def char? (encoding : Encoding) (b : UInt8) : Option Char :=
  if b.toNat < encoding.limit then some (Char.ofNat b.toNat) else none

/-- The bytes of a text, if the encoding holds all its characters. -/
def encode? (encoding : Encoding) (s : String) : Option (List UInt8) :=
  match encoding with
  | utf8 => some (s.toList.flatMap String.utf8EncodeChar)
  | _ => s.toList.mapM encoding.byte?

/-- The text that bytes stand for, if they are the form of one. -/
def decode? (encoding : Encoding) (bytes : List UInt8) : Option String :=
  match encoding with
  | utf8 => String.fromUTF8? ⟨bytes.toArray⟩
  | _ => (bytes.mapM encoding.char?).map String.ofList

end Encoding

end JavaOutline.Text
