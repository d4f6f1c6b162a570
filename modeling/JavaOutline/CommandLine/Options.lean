import JavaOutline.Settings.Basic
import JavaOutline.Text.Quoted

/-!
# Options

The command line names one file and may set the options that the settings have defaults for. A long
option can be shortened to any beginning that no other option has. A value follows its option as the
next word or after an equals sign. A word that starts with a dash is an option unless it is a
negative number or holds a blank; after two dashes alone no word is an option.

Words are first sorted one by one, which can only fail for a beginning shared by several options, and
then taken in order. Missing and superfluous words are complaints made at the end.
-/

namespace JavaOutline

/-- The options of the program. -/
inductive Flag where
  | help
  | tree
  | indent
  | logLevel
deriving DecidableEq, Repr

namespace Flag

/-- The spellings of all options, in the order in which they are listed. -/
def spellings : List (String × Flag) :=
  [("-h", help), ("--help", help), ("--tree", tree), ("--indent", indent),
   ("--log-level", logLevel)]

/-- An option as complaints name it. -/
def shown : Flag → String
  | help => "-h/--help"
  | tree => "--tree"
  | indent => "--indent"
  | logLevel => "--log-level"

end Flag

/-- Why a command line is refused. -/
inductive UsageError where
  | ambiguous (word : String) (matching : List String)
  | expectedValue (flag : Flag)
  | ignoredValue (flag : Flag) (value : String)
  | invalidInt (value : String)
  | missingFile
  | unrecognized (words : List String)
deriving DecidableEq, Repr

/-- The text of a complaint about a command line. -/
def UsageError.message : UsageError → String
  | ambiguous word matching =>
    "ambiguous option: " ++ word ++ " could match " ++ ", ".intercalate matching
  | expectedValue flag => "argument " ++ flag.shown ++ ": expected one argument"
  | ignoredValue flag value =>
    "argument " ++ flag.shown ++ ": ignored explicit argument " ++ Text.quoted value
  | invalidInt value =>
    "argument " ++ Flag.indent.shown ++ ": invalid int value: " ++ Text.quoted value
  | missingFile => "the following arguments are required: file"
  | unrecognized words => "unrecognized arguments: " ++ " ".intercalate words

/-- A value written in the same word as its option. -/
inductive Attached where
  | nothing
  /-- After a long option and an equals sign. -/
  | toLong (value : String)
  /-- Right behind the letter of a short option, or after it and an equals sign. -/
  | toShort (value : String)
deriving DecidableEq, Repr

/-- A word of the command line, sorted. -/
inductive Word where
  | plain (word : String)
  | flag (flag : Flag) (attached : Attached)
  | unknown (word : String)
  /-- The two dashes after which every word is plain. -/
  | separator
deriving DecidableEq, Repr

/-- Whether characters are a minus and a number, with or without a fraction. A newline may follow. -/
def isNegativeNumber (cs : List Char) : Bool :=
  let isDigit := fun c => (Text.digit? c).isSome
  let isNumber := fun (cs : List Char) =>
    match cs.span isDigit with
    | (whole, []) => !whole.isEmpty
    | (_, '.' :: fraction) => !fraction.isEmpty && fraction.all isDigit
    | _ => false
  match cs with
  | '-' :: rest =>
    isNumber rest || (rest.getLast? == some '\n' && isNumber rest.dropLast)
  | _ => false

/-- The part of a word before its first equals sign, and the part after it if there is one. -/
def splitEquals (cs : List Char) : List Char × Option (List Char) :=
  match cs.span (· ≠ '=') with
  | (before, _ :: after) => (before, some after)
  | (before, []) => (before, none)

/-- The value after an equals sign, if there is one. -/
def Attached.ofEquals : Option (List Char) → Attached
  | some value => .toLong (String.ofList value)
  | none => .nothing

/-- The options that a word can be short for. -/
def matchingFlags (cs : List Char) : List (String × Word) :=
  match cs with
  | '-' :: '-' :: _ =>
    let (start, value) := splitEquals cs
    (Flag.spellings.filter fun spelling => start.isPrefixOf spelling.1.toList).map fun spelling =>
      (spelling.1, .flag spelling.2 (.ofEquals value))
  | '-' :: letter :: rest =>
    (Flag.spellings.filter fun spelling => spelling.1.toList == ['-', letter]).map fun spelling =>
      (spelling.1, .flag spelling.2 (.toShort (String.ofList rest)))
  | _ => []

/-- A word that is spelled like no option: a number or a word with a blank is plain. -/
def sortUnmatched (word : String) : Word :=
  if isNegativeNumber word.toList || word.toList.contains ' ' then .plain word else .unknown word

/-- Sorts a word that stands before any separator. -/
def sortWord (word : String) : Except UsageError Word :=
  let cs := word.toList
  let (start, value) := splitEquals cs
  if cs.head? != some '-' then .ok (.plain word)
  else match Flag.spellings.lookup word with
    | some flag => .ok (.flag flag .nothing)
    | none =>
      if cs.length = 1 then .ok (.plain word)
      else match value, Flag.spellings.lookup (String.ofList start) with
        | some value, some flag =>
          let value := String.ofList value
          .ok (.flag flag (if start.length = 2 then .toShort value else .toLong value))
        | _, _ =>
          match matchingFlags cs with
          | [] => .ok (sortUnmatched word)
          | [(_, found)] => .ok found
          | several => .error (.ambiguous word (several.map Prod.fst))

/-- Sorts all words. -/
def sortWords : List String → Except UsageError (List Word)
  | [] => .ok []
  | word :: words =>
    if word = "--" then .ok (.separator :: words.map .plain)
    else do
      let sorted ← sortWord word
      let more ← sortWords words
      return sorted :: more

/-- What a command line asks for. An option whose value was two dashes has no value. -/
structure Options where
  file : String
  showTree : Bool
  indent : Option Int
  logLevel : Option String
deriving DecidableEq, Repr

/-- How a command line is understood. -/
inductive Request where
  | run (options : Options)
  | help
  | refuse (error : UsageError)
deriving DecidableEq, Repr

/-- What was taken from a command line so far. -/
structure Taken where
  file? : Option String
  showTree : Bool
  indent : Option Int
  logLevel : Option String
  superfluous : List String

namespace Taken

/-- What the settings say, before any word is taken. -/
def ofSettings (settings : Settings) : Taken :=
  ⟨none, settings.showTree, some settings.indent, some settings.logLevel.name, []⟩

/-- Takes a plain word as the file, or as superfluous if there is one already. -/
def addPlain (taken : Taken) (word : String) : Taken :=
  match taken.file? with
  | none => { taken with file? := some word }
  | some _ => { taken with superfluous := taken.superfluous ++ [word] }

/-- Takes the value of an option that has one. Two dashes are taken away, here as elsewhere, which
leaves the option without a value. -/
def addValue (taken : Taken) (flag : Flag) (value : String) : Except UsageError Taken :=
  let given := if value = "--" then none else some value
  match flag, given with
  | .indent, none => .ok { taken with indent := none }
  | .indent, some value =>
    match Text.readOptionInt? value with
    | some indent => .ok { taken with indent := some indent }
    | none => .error (.invalidInt value)
  | .logLevel, _ => .ok { taken with logLevel := given }
  | _, _ => .ok taken

/-- The request at the end of the command line. -/
def request (taken : Taken) : Request :=
  match taken.file?, taken.superfluous with
  | none, _ => .refuse .missingFile
  | some file, [] => .run ⟨file, taken.showTree, taken.indent, taken.logLevel⟩
  | some _, words => .refuse (.unrecognized words)

end Taken

/-- What keeps an option without a value from being taken. Behind the letter of a short option more
short options may follow; there is only one without a value. -/
def Attached.refused? : Attached → Option String
  | nothing => none
  | toLong value => some value
  | toShort value =>
    match value.toList.dropWhile (· = 'h') with
    | [] => if value = "" then some value else none
    | rest => some (String.ofList rest)

/-- Takes sorted words in order. -/
def takeWords : List Word → Taken → Request
  | [], taken => taken.request
  | .plain word :: .separator :: words, taken =>
    match taken.file? with
    | none => takeWords words (taken.addPlain word)
    | some _ => takeWords words ((taken.addPlain word).addPlain "--")
  | .plain word :: words, taken => takeWords words (taken.addPlain word)
  | .unknown word :: words, taken =>
    takeWords words { taken with superfluous := taken.superfluous ++ [word] }
  | .separator :: .plain word :: words, taken =>
    match taken.file? with
    | none => takeWords words (taken.addPlain word)
    | some _ => takeWords words ((taken.addPlain "--").addPlain word)
  | .separator :: words, taken =>
    takeWords words { taken with superfluous := taken.superfluous ++ ["--"] }
  | .flag .help attached :: _, _ =>
    match attached.refused? with
    | some value => .refuse (.ignoredValue .help value)
    | none => .help
  | .flag .tree attached :: words, taken =>
    match attached.refused? with
    | some value => .refuse (.ignoredValue .tree value)
    | none => takeWords words { taken with showTree := true }
  | .flag flag (.toLong value) :: words, taken =>
    match taken.addValue flag value with
    | .ok taken => takeWords words taken
    | .error error => .refuse error
  | .flag flag _ :: .plain value :: words, taken =>
    match taken.addValue flag value with
    | .ok taken => takeWords words taken
    | .error error => .refuse error
  | .flag flag _ :: _, _ => .refuse (.expectedValue flag)

/-- Understands a command line, with the settings as defaults. -/
def readCommandLine (settings : Settings) (words : List String) : Request :=
  match sortWords words with
  | .error error => .refuse error
  | .ok sorted => takeWords sorted (.ofSettings settings)

end JavaOutline
