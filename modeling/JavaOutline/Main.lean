import JavaOutline.CommandLine.Program

/-!
# Command line

The outer layer of the program. It gathers what a run depends on and prints what the run gives. An
environment file is looked for next to the program and in the directories above it. The syntax tree of
the file comes from a parser outside the program, as a listing on standard input; a run without one
has no grammar to work with.
-/

namespace JavaOutline

/-- The names of the variables that a run asks for even without an environment file. -/
def settingVariables : List String :=
  Settings.fileSwitch :: ["LOG_LEVEL", "INDENT", "SHOW_TREE"].map variableName

/-- The names of the variables that the text of an environment file assigns or mentions. -/
def fileVariables (text : String) : List String :=
  let mentioned := ((text.splitOn "$\x7b").drop 1).map fun rest =>
    String.ofList (rest.toList.takeWhile fun c => c ≠ '\x7d' && c ≠ ':')
  (EnvFile.assignments (EnvFile.statements text)).map Prod.fst ++ mentioned

/-- The environment with the given variables, as far as they are set. -/
def readEnvironment (names : List String) : IO Environment := do
  let found ← names.mapM fun name => do
    return (← IO.getEnv name).map fun text => (name, text)
  return found.filterMap id

/-- The code of the error that a directory gives where a file is read. -/
def directoryCode : UInt32 := 21

/-- What a path leads to; an error that says nothing about this goes on. -/
def readEntry (path : String) : IO Lookup := do
  try
    let bytes ← IO.FS.readBinFile path
    return .found (.file bytes.toList)
  catch
    | .noFileOrDirectory .. => return .absent
    | .inappropriateType _ code _ =>
      return if code = directoryCode then .found .directory else .absent
    | .invalidArgument .. => return .tooLong
    | error => throw error

/-- The places of environment files in a directory and in those above it, the nearest first. -/
def envFilesAbove (directory : String) : List String :=
  let path := Path.ofString directory
  (List.range (path.steps.length + 1)).reverse.map fun depth =>
    path.root ++ "/".intercalate (path.steps.take depth ++ [".env"])

/-- The parser that gives the tree listed on standard input. -/
def readLanguage : IO (Except String Parser) := do
  let listing ← (← IO.getStdin).readToEnd
  match SyntaxTree.readListing? (Text.strip listing) with
  | none => return .error "no syntax tree on standard input"
  | some root =>
    let hasError := root.walk.any fun tree => tree.label.kind == "ERROR"
    return .ok fun _ => ⟨root, hasError⟩

/-- The file that a command line names, if it is understood in some environment. -/
def namedFile? (environment : Environment) (words : List String) : Option Path :=
  match Settings.ofEnvironment environment [] with
  | .error _ => none
  | .ok settings =>
    match readCommandLine settings words with
    | .run options => some (Path.ofString options.file)
    | _ => none

/-- Prints what the program gives and returns its exit code. -/
def conclude (result : Except SettingsError Outcome) : IO UInt32 := do
  match result with
  | .error error =>
    IO.eprintln (error.message?.getD "")
    return 1
  | .ok outcome =>
    IO.print outcome.output
    IO.eprint outcome.errors
    match outcome.ending with
    | .returned code => return UInt32.ofNat code
    | .exited code => return UInt32.ofNat code
    | .escaped escape =>
      IO.eprintln (escape.message?.getD "")
      return 1

/-- Gathers what the program depends on, and runs it. -/
def execute (words : List String) : IO UInt32 := do
  let envFiles := envFilesAbove (← IO.appDir).toString
  let entries ← envFiles.mapM fun place => do return (place, ← readEntry place)
  let lookUp (path : String) : Lookup := (entries.lookup path).getD .absent
  let texts := entries.filterMap fun entry => entry.2.regularBytes.toOption.bind fileText?
  let environment ← readEnvironment (settingVariables ++ texts.flatMap fileVariables)
  let file? := match environment.withNearestFile lookUp envFiles with
    | .error _ => none
    | .ok (environment, _) => namedFile? environment words
  let found ← match file? with
    | some path => do pure [(path.text, ← readEntry path.text)]
    | none => pure []
  let language ← match found with
    | [(_, .found (.file _))] => readLanguage
    | _ => pure (.error "no file")
  let time := toString (← IO.monoMsNow)
  let lookUp (path : String) : Lookup := ((found ++ entries).lookup path).getD .absent
  conclude (start { envFiles } ⟨environment, lookUp, language, time⟩ words)

end JavaOutline

/-- Runs the program. -/
def main (words : List String) : IO UInt32 :=
  JavaOutline.execute words
