/-!
# Line ends

Text files may end their lines with a carriage return, a newline or both in this order; read as
text, all of them become newlines.
-/

namespace JavaOutline.Text

/-- Characters with every line end turned into a newline. -/
def unifyNewlineChars : List Char → List Char
  | [] => []
  | '\r' :: '\n' :: rest => '\n' :: unifyNewlineChars rest
  | '\r' :: rest => '\n' :: unifyNewlineChars rest
  | c :: rest => c :: unifyNewlineChars rest

/-- A text with every line end turned into a newline. -/
def unifyNewlines (s : String) : String :=
  String.ofList (unifyNewlineChars s.toList)

/-- The lines of a text without their line ends. -/
def lines (cs : List Char) : List (List Char) :=
  cs.splitOn '\n'

end JavaOutline.Text
