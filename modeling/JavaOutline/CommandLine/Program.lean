import JavaOutline.Analysis
import JavaOutline.CommandLine.Options
import JavaOutline.FileTree
import JavaOutline.Scope.Report
import JavaOutline.Settings.Environment

/-!
# The program

One run of the program from the command line: load the settings, understand the command line, check
the log level, the indentation and the file, read the file, list the syntax tree if that is asked
for, analyze and print the report. The first thing that is wrong ends the run with a message and an
exit code. Before that, the nearest environment file is loaded into the environment, and what is wrong
with it ends the program at once. The run is a function of what it is given; the outer layer only
passes on what it reads and writes.
-/

namespace JavaOutline

/-- What a run depends on, apart from its command line. -/
structure Surroundings where
  environment : Environment
  /-- What a path leads to, given as a text. -/
  lookUp : String → Lookup
  /-- The parser, or why it cannot be loaded. -/
  language : Except String Parser
  /-- The mark that log lines carry in place of the time. -/
  time : String

/-- What differs from one installation of the program to another. -/
structure Installation where
  /-- The places where an environment file is looked for, the nearest first. -/
  envFiles : List String := []
  /-- How many digits are read of a setting. -/
  digitLimit : Text.DigitLimit := Text.digitsAlone
  /-- The page that explains faults of a sort, which is given by its short name. -/
  page : String → String := id
  /-- The greatest number of blanks in a row that there is room for. -/
  maxWidth : Nat := maxWord

/-- An error that ends a run without a message of the program. -/
inductive Escape where
  /-- The log level was given without a value. -/
  | noLogLevel
  /-- The indentation was given without a value. -/
  | noIndent
  /-- The path of the file is too long. -/
  | pathTooLong (path : Path)
  /-- The file is not UTF-8. -/
  | undecodableFile
  | analysis (error : AnalysisError)
  /-- The report cannot be written. -/
  | report (fault : WidthFault)
deriving DecidableEq, Repr

/-- The text of an error that ends a run, if it has one. -/
def Escape.message? : Escape → Option String
  | noLogLevel => some "'list' object has no attribute 'strip'"
  | noIndent => some "'<' not supported between instances of 'list' and 'int'"
  | pathTooLong path => some (FileProblem.tooLong.message path)
  | undecodableFile => none
  | analysis error => error.message?
  | report fault => some fault.message

/-- How a run ends. -/
inductive Ending where
  /-- The run went through to an exit code. -/
  | returned (code : Nat)
  /-- The command line ended the run, by a request for help or a complaint. -/
  | exited (code : Nat)
  | escaped (error : Escape)
deriving DecidableEq, Repr

/-- What a run prints, and how it ends. -/
structure Outcome where
  output : String
  errors : String
  ending : Ending
deriving DecidableEq, Repr

/-- How the program is used, in short. -/
def usage : String :=
  "usage: java-scopes [-h] [--tree] [--indent INDENT] [--log-level LOG_LEVEL]\n" ++
  "                   file\n"

/-- How the program is used, with all options. -/
def helpText : String :=
  usage ++
  "\nSummarize packages, imports, types, fields, functions and calls of a Java file\n" ++
  "\npositional arguments:\n" ++
  "  file                  Java source file to analyze\n" ++
  "\noptions:\n" ++
  "  -h, --help            show this help message and exit\n" ++
  "  --tree                Print the raw syntax tree before the summary\n" ++
  "  --indent INDENT       Indent of the top-level scope in the summary\n" ++
  "  --log-level LOG_LEVEL\n" ++
  "                        Logging level (DEBUG, INFO, WARNING, ERROR)\n"

/-- A run that ends with a message. -/
def Outcome.complaint (message : String) : Outcome :=
  ⟨"ERROR: " ++ message ++ "\n", "", .returned 1⟩

/-- The records that a log of some level shows, one to a line. -/
def logLines (time : String) (level : Level) (log : Log) : String :=
  String.join ((log.atLevel level).map fun entry => entry.text time ++ "\n")

/-- The analysis step of a run, with the report or a message, and its log. -/
def analysisStep (maxWidth : Nat) (grammar : Grammar) (path : Path) (indent : Int)
    (source : String) : String × Log × Ending :=
  match analyze grammar source with
  | (.ok scope, log) =>
    match Scope.checkedReport indent scope maxWidth with
    | .ok report => (report ++ "\n", log, .returned 0)
    | .error fault => ("", log, .escaped (.report fault))
  | (.error error, log) =>
    match error.message? with
    | some message =>
      ("ERROR: Analysis of " ++ path.text ++ " failed: " ++ message ++ "\n", log, .returned 1)
    | none => ("", log, .escaped (.analysis error))

/-- The part of a run that has a source text. -/
def runSource (installation : Installation) (surroundings : Surroundings) (level : Level)
    (showTree : Bool) (indent : Int) (path : Path) (source : String) : Outcome :=
  let (grammar, loadLog) := Grammar.load surroundings.language
  let listed := if showTree then listSource grammar source else .ok ""
  match listed with
  | .error error =>
    ⟨"", logLines surroundings.time level loadLog, .escaped (.analysis error)⟩
  | .ok listing =>
    let (output, log, ending) :=
      analysisStep installation.maxWidth grammar path indent source
    ⟨(if showTree then listing ++ "\n\n" else "") ++ output,
      logLines surroundings.time level (loadLog ++ log), ending⟩

/-- The part of a run that has a log level and an indentation. -/
def runFile (installation : Installation) (surroundings : Surroundings) (level : Level)
    (showTree : Bool) (indent : Int) (path : Path) : Outcome :=
  match (surroundings.lookUp path.text).regularBytes with
  | .error .tooLong => ⟨"", "", .escaped (.pathTooLong path)⟩
  | .error problem => .complaint (problem.message path)
  | .ok bytes =>
    match fileText? bytes with
    | none => ⟨"", "", .escaped .undecodableFile⟩
    | some source => runSource installation surroundings level showTree indent path source

/-- The part of a run that has options. -/
def runOptions (installation : Installation) (surroundings : Surroundings) (options : Options) :
    Outcome :=
  match options.logLevel with
  | none => ⟨"", "", .escaped .noLogLevel⟩
  | some given =>
    match Level.read? given, options.indent with
    | none, _ => .complaint ("Unknown log level: " ++ given)
    | some _, none => ⟨"", "", .escaped .noIndent⟩
    | some level, some indent =>
      if indent < 0 then .complaint s!"Indent must not be negative: {indent}"
      else
        runFile installation surroundings level options.showTree indent
          (Path.ofString options.file)

/-- A run of the program in an environment that the environment file is loaded into. -/
def run (surroundings : Surroundings) (words : List String) (installation : Installation := {}) :
    Outcome :=
  match Settings.ofEnvironment surroundings.environment [] installation.digitLimit with
  | .error faults =>
    let fields := Settings.givenFields surroundings.environment []
    .complaint ("Invalid JAVA_SCOPES_* settings: " ++
      Settings.faultsText installation.page fields faults)
  | .ok settings =>
    match readCommandLine settings words with
    | .help => ⟨helpText, "", .exited 0⟩
    | .refuse error =>
      ⟨"", usage ++ "java-scopes: error: " ++ error.message ++ "\n", .exited 2⟩
    | .run options => runOptions installation surroundings options

/-- The program from its start: the nearest environment file is loaded, unless something is wrong with
it, and the run goes on in the environment that this gives. -/
def start (installation : Installation) (surroundings : Surroundings) (words : List String) :
    Except SettingsError Outcome := do
  let (environment, notes) ←
    surroundings.environment.withNearestFile surroundings.lookUp installation.envFiles
  let outcome := run { surroundings with environment } words installation
  return { outcome with errors := notes ++ outcome.errors }

end JavaOutline
