import JavaOutline.Text.Blank
import JavaOutline.Text.Newline

/-!
# Environment files

A file of statements, each a key, an equals sign and a value, with blanks around any of them and
perhaps the word `export` in front. A value may stand in single or double quotes, in which a backslash
escapes and which may go on over several lines; without quotes it ends with its line, or at a number
sign that follows a blank. A line that starts with a number sign is a comment, and a key without an
equals sign has no value. A statement of any other form is passed over up to the end of its line, and
noted by the line at which it starts. The last assignment of a key counts.

In a value, a name in braces after a dollar sign stands for the value of that variable, as far as it
is known by then.

Readers go from the front of the text to what is left of it; `statements` goes on as long as they
make progress.
-/

namespace JavaOutline.EnvFile

open Text (isBlank)

/-- A statement of a file. -/
inductive Statement where
  | assignment (key : String) (value : Option String)
  | comment
  /-- A statement that cannot be read. -/
  | unreadable
deriving DecidableEq, Repr

/-- Whether a character is a blank inside a line. -/
def isInlineBlank (c : Char) : Bool :=
  isBlank c && c != '\n'

/-- Characters without leading blanks of their line. -/
def skipBlanks (cs : List Char) : List Char :=
  cs.dropWhile isInlineBlank

/-- Characters after the end of their line. -/
def skipLine (cs : List Char) : List Char :=
  (cs.dropWhile (· ≠ '\n')).drop 1

/-- Drops the word `export` if a blank follows it. -/
def dropExport (cs : List Char) : List Char :=
  match cs with
  | 'e' :: 'x' :: 'p' :: 'o' :: 'r' :: 't' :: c :: rest =>
    if isInlineBlank c then skipBlanks rest else cs
  | _ => cs

/-- Whether a character can stand in a key without quotes. -/
def isKeyChar (c : Char) : Bool :=
  c != '=' && c != '#' && !isBlank c

/-- Reads a key, with or without single quotes. -/
def readKey? (cs : List Char) : Option (String × List Char) :=
  match cs with
  | '\'' :: quoted =>
    match quoted.span (· ≠ '\'') with
    | (key, '\'' :: rest) => if key.isEmpty then none else some (String.ofList key, rest)
    | _ => none
  | _ =>
    let (key, rest) := cs.span isKeyChar
    if key.isEmpty then none else some (String.ofList key, rest)

/-- Reads up to a closing quote. A backslash keeps the character after it from closing the quotes. -/
def readQuoted? (quote : Char) : List Char → Option (List Char × List Char)
  | [] => none
  | '\\' :: c :: rest => (readQuoted? quote rest).map fun (body, rest) => ('\\' :: c :: body, rest)
  | c :: rest =>
    if c = quote then some ([], rest)
    else (readQuoted? quote rest).map fun (body, rest) => (c :: body, rest)

/-- The characters that a backslash can be put in front of, with what they then stand for, in
single quotes. -/
def singleEscapes : List (Char × Char) :=
  [('\\', '\\'), ('\'', '\'')]

/-- The characters that a backslash can be put in front of, with what they then stand for, in
double quotes. -/
def doubleEscapes : List (Char × Char) :=
  [('\\', '\\'), ('\'', '\''), ('"', '"'), ('a', '\x07'), ('b', '\x08'), ('f', '\x0c'), ('n', '\n'),
   ('r', '\r'), ('t', '\t'), ('v', '\x0b')]

/-- Replaces escapes by what they stand for. -/
def unescape (escapes : List (Char × Char)) : List Char → List Char
  | [] => []
  | '\\' :: c :: rest =>
    match escapes.lookup c with
    | some meant => meant :: unescape escapes rest
    | none => '\\' :: unescape escapes (c :: rest)
  | c :: rest => c :: unescape escapes rest

/-- A value without quotes, up to a number sign that follows a blank. -/
def cutComment : List Char → List Char
  | [] => []
  | c :: rest =>
    if isBlank c && (rest.dropWhile isBlank).head? == some '#' then [] else c :: cutComment rest

/-- Reads the value after an equals sign. -/
def readValue? (cs : List Char) : Option (String × List Char) :=
  match skipBlanks cs with
  | '\'' :: quoted => do
    let (body, rest) ← readQuoted? '\'' quoted
    return (String.ofList (unescape singleEscapes body), rest)
  | '"' :: quoted => do
    let (body, rest) ← readQuoted? '"' quoted
    return (String.ofList (unescape doubleEscapes body), rest)
  | _ =>
    let (line, rest) := cs.span (· ≠ '\n')
    return (Text.strip (String.ofList (cutComment line)), rest)

/-- Drops a comment up to the end of its line. -/
def dropComment (cs : List Char) : List Char :=
  match skipBlanks cs with
  | '#' :: rest => rest.dropWhile (· ≠ '\n')
  | _ => cs

/-- Ends a statement, which has to be followed by nothing but a comment on its line. -/
def endStatement (statement : Statement) (cs : List Char) : Statement × List Char :=
  match skipBlanks (dropComment cs) with
  | [] => (statement, [])
  | '\n' :: rest => (statement, rest)
  | rest => (.unreadable, skipLine rest)

/-- Reads one statement. -/
def readStatement (cs : List Char) : Statement × List Char :=
  let start := dropExport cs
  match start with
  | '#' :: _ => endStatement .comment start
  | _ =>
    match readKey? start with
    | none => (.unreadable, skipLine start)
    | some (key, rest) =>
      match skipBlanks rest with
      | '=' :: rest =>
        match readValue? rest with
        | none => (.unreadable, skipLine rest)
        | some (value, rest) => endStatement (.assignment key (some value)) rest
      | rest => endStatement (.assignment key none) rest

/-- The statements of a text, each with the line after the statement before it; the first line has a
given number. -/
def statementsFrom (line : Nat) (cs : List Char) : List (Nat × Statement) :=
  let start := cs.dropWhile isBlank
  let (statement, rest) := readStatement start
  if start.isEmpty then []
  else if _ : rest.length < cs.length then
    (line, statement) ::
      statementsFrom (line + (cs.take (cs.length - rest.length)).count '\n') rest
  else [(line, statement)]
termination_by cs.length

/-- The statements of a file, with their lines. A mark of the byte order in front is no part of
them. -/
def statements (text : String) : List (Nat × Statement) :=
  statementsFrom 1 (match text.toList with
    | '\ufeff' :: rest => rest
    | cs => cs)

/-- The assignments among statements, in order. -/
def assignments (file : List (Nat × Statement)) : List (String × Option String) :=
  file.filterMap fun
    | (_, .assignment key value) => some (key, value)
    | _ => none

/-- The notes of the statements that cannot be read, one to a line. -/
def notes (file : List (Nat × Statement)) : String :=
  String.join ((file.filter fun statement => statement.2 == .unreadable).map fun statement =>
    s!"python-dotenv could not parse statement starting at line {statement.1}\n")

/-- What a list of assignments makes of a key, if it occurs: the last of them counts. -/
def found? (key : String) (assigned : List (String × Option String)) : Option (Option String) :=
  assigned.reverse.lookup key

/-- The value that a list of assignments gives a key. -/
def value? (key : String) (assigned : List (String × Option String)) : Option String :=
  (found? key assigned).join

/-! ## Variables in values -/

/-- Reads the rest of a variable after its opening brace: its name, what stands for it if it is not
known, and what is left. -/
def readVariable? (cs : List Char) : Option (String × String × List Char) :=
  match cs.span fun c => c ≠ '\x7d' && c ≠ ':' with
  | (name, '\x7d' :: rest) => some (String.ofList name, "", rest)
  | (name, ':' :: '-' :: rest) =>
    match rest.span (· ≠ '\x7d') with
    | (default, '\x7d' :: rest) => some (String.ofList name, String.ofList default, rest)
    | _ => none
  | _ => none

/-- Puts values in place of variables, at no more places than a given number. -/
def substituteFrom (lookUp : String → String → String) : Nat → List Char → List Char
  | 0, cs => cs
  | _, [] => []
  | fuel + 1, '$' :: '\x7b' :: rest =>
    match readVariable? rest with
    | some (name, default, rest) => (lookUp name default).toList ++ substituteFrom lookUp fuel rest
    | none => '$' :: substituteFrom lookUp fuel ('\x7b' :: rest)
  | fuel + 1, c :: rest => c :: substituteFrom lookUp fuel rest

/-- Puts values in place of all variables in a text. -/
def substitute (lookUp : String → String → String) (s : String) : String :=
  String.ofList (substituteFrom lookUp s.length s.toList)

/-- What a variable stands for: its text in the environment, or else the value assigned to it last,
which may be none; something else only if it has neither. -/
def variableText (environment : List (String × String)) (assigned : List (String × Option String))
    (name default : String) : String :=
  match environment.lookup name, found? name assigned with
  | some text, _ => text
  | none, some value => value.getD ""
  | none, none => default

/-- The assignments of a file with the variables in their values replaced, one after the other. -/
def expand (environment : List (String × String)) (assigned : List (String × Option String)) :
    List (String × Option String) :=
  assigned.foldl (fun expanded assignment =>
    let value := assignment.2.map (substitute (variableText environment expanded))
    expanded ++ [(assignment.1, value)]) []

end JavaOutline.EnvFile
