import JavaOutline.FileTree
import JavaOutline.Settings.Basic
import JavaOutline.Settings.EnvFile
import JavaOutline.Text.Quoted

/-!
# Settings from the environment

Each setting has a variable of its own. A variable that is set counts, even if it is empty; one that
is not is looked up in the environment file. An empty text means that nothing is given. Showing the
tree is asked for by one of four words; any other text turns it off, so that it can never be wrong.

An environment file is loaded into the environment before the settings are looked up. It is given by
its path, or it is the nearest one among the places where such files are looked for. One more variable
can keep environment files from being read at all.
-/

namespace JavaOutline

open Data

/-- The variables that are set, with their texts. -/
abbrev Environment := List (String × String)

/-- The name of the variable of a setting. -/
def variableName (setting : String) : String :=
  "JAVA_SCOPES_" ++ setting

/-- Why a variable cannot be set. -/
inductive VariableFault where
  /-- Its name or its value holds a zero character. -/
  | zeroCharacter
  /-- Its name holds an equals sign. -/
  | equalsInName
  | emptyName
deriving DecidableEq, Repr

/-- The text of a complaint about a variable. -/
def VariableFault.message : VariableFault → String
  | zeroCharacter => "embedded null byte"
  | equalsInName => "illegal environment variable name"
  | emptyName => "[Errno 22] Invalid argument"

/-- What keeps a variable from being set to a value. -/
def variableFault? (name value : String) : Option VariableFault :=
  if name.toList.contains '\x00' || value.toList.contains '\x00' then some .zeroCharacter
  else if name.toList.contains '=' then some .equalsInName
  else if name = "" then some .emptyName
  else none

/-- What keeps the first variable that cannot be set from being set. -/
def Environment.fault? (environment : Environment) : Option VariableFault :=
  environment.findSome? fun (name, value) => variableFault? name value

/-- Why an environment and an environment file give no settings. -/
inductive SettingsError where
  /-- The path of the file holds a zero character. -/
  | zeroInPath
  /-- The file is not UTF-8. -/
  | undecodableFile
  | unsettable (fault : VariableFault)
  | invalid (faults : List Fault)
deriving DecidableEq, Repr

/-- The text of a complaint about an environment file or its variables, if it has one. -/
def SettingsError.message? : SettingsError → Option String
  | zeroInPath => some VariableFault.zeroCharacter.message
  | undecodableFile => none
  | unsettable fault => some fault.message
  | invalid _ => none

namespace Settings

/-- The text that counts for a setting, if one is given. -/
def effective? (environment : Environment) (assigned : List (String × Option String))
    (setting : String) : Option String :=
  let name := variableName setting
  match (environment.lookup name).or (EnvFile.value? name assigned) with
  | some "" => none
  | found => found

/-- The words that turn the tree on. -/
def onWords : List String :=
  ["1", "true", "yes", "on"]

/-- Whether a text turns the tree on. -/
def turnsOn (text : String) : Bool :=
  onWords.contains (Text.lower (Text.strip text))

/-- The fields that the environment and an environment file give for the settings. -/
def givenFields (environment : Environment) (assigned : List (String × Option String)) : Fields :=
  let given := effective? environment assigned
  ((given "LOG_LEVEL").map fun text => ("log_level", Value.text text)).toList ++
    ((given "INDENT").map fun text => ("indent", Value.text text)).toList ++
    ((given "SHOW_TREE").map fun text => ("show_tree", Value.bool (turnsOn text))).toList

/-- Settings from the environment and an environment file. -/
def ofEnvironment (environment : Environment) (assigned : List (String × Option String))
    (limit : Text.DigitLimit := Text.digitsAlone) : Checked Settings :=
  loadFields limit (givenFields environment assigned)

/-- The assignments that set a variable: each key once, at its first place and with its last value,
unless it has none or is set already. -/
def newVariables (environment : Environment) (assigned : List (String × Option String)) :
    Environment :=
  (assigned.map Prod.fst).eraseDups.filterMap fun key =>
    if (environment.lookup key).isSome then none
    else (EnvFile.value? key assigned).map fun value => (key, value)

/-- The variable that keeps environment files from being read. -/
def fileSwitch : String := "PYTHON_DOTENV_DISABLED"

/-- The words by which it does. -/
def switchWords : List String :=
  ["1", "true", "t", "yes", "y"]

/-- Whether environment files are read. -/
def readsFiles (environment : Environment) : Bool :=
  match environment.lookup fileSwitch with
  | some word => !switchWords.contains (Text.folded word)
  | none => true

end Settings

namespace Environment

open Settings

/-- The environment once the text of an environment file is loaded into it, with the notes of what
could not be read in the text. -/
def withFileText (environment : Environment) (text : String) :
    Except SettingsError (Environment × String) :=
  let statements := EnvFile.statements text
  let assigned := EnvFile.expand environment (EnvFile.assignments statements)
  let added := newVariables environment assigned
  match added.fault? with
  | some fault => .error (.unsettable fault)
  | none => .ok (environment ++ added, EnvFile.notes statements)

/-- The environment once the file at a path is loaded into it, of which only a regular file counts. -/
def withFile (environment : Environment) (lookUp : String → Lookup) (path : String) :
    Except SettingsError (Environment × String) :=
  if !readsFiles environment then .ok (environment, "")
  else if path.toList.contains '\x00' then .error .zeroInPath
  else match (lookUp path).regularBytes with
    | .error _ => .ok (environment, "")
    | .ok bytes =>
      match fileText? bytes with
      | none => .error .undecodableFile
      | some text => environment.withFileText text

/-- The environment once the nearest environment file is loaded into it: the first of some places
that is a regular file. -/
def withNearestFile (environment : Environment) (lookUp : String → Lookup) (places : List String) :
    Except SettingsError (Environment × String) :=
  match places.find? fun place => (lookUp place).regularBytes.isOk with
  | some path => environment.withFile lookUp path
  | none => .ok (environment, "")

end Environment

namespace Settings

/-- Settings from the environment and the environment file at a path, with the notes of what could not
be read in the file. -/
def read (environment : Environment) (lookUp : String → Lookup) (path : String)
    (limit : Text.DigitLimit := Text.digitsAlone) : Except SettingsError (Settings × String) := do
  let (environment, notes) ← environment.withFile lookUp path
  let settings ← (ofEnvironment environment [] limit).mapError .invalid
  return (settings, notes)

/-- The text given for a setting. -/
def givenText (fields : Fields) (setting : String) : String :=
  match Value.field? setting fields with
  | some (.text given) => given
  | _ => ""

/-- A fault in a setting as it is printed, with the text that was given and the page that explains
faults of its sort. -/
def faultText (page : String → String) (fields : Fields) (fault : Fault) : String :=
  let setting := match fault.location with
    | .key name :: _ => name
    | _ => ""
  setting ++ "\n  " ++ fault.cause.message ++ " [type=" ++ fault.cause.code ++ ", input_value=" ++
    Text.shortened (Text.quoted (givenText fields setting)) ++ ", input_type=str]\n" ++
    "    For further information visit " ++ page fault.cause.code

/-- Faults in the settings as they are printed. -/
def faultsText (page : String → String) (fields : Fields) (faults : List Fault) : String :=
  let noun := if faults.length = 1 then "validation error" else "validation errors"
  "\n".intercalate (s!"{faults.length} {noun} for {title}" :: faults.map (faultText page fields))

end Settings

end JavaOutline
