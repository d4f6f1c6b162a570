import JavaOutline.Proofs.CommandLine.Start
import JavaOutline.Proofs.Traversal.Failures

/-!
# Where the failures of an analysis go

A failure of the analysis proper is contained: it is noted as the last record of the log, and a run
of the program that meets it prints one line about it and returns 1. Of the ordinary failures of a
syntax tree that lies in its source text, a span out of order and a type that is not understood are
contained. A name that is blank or missing, such as the parser leaves behind where it had to make one
up, is not: it is noted nowhere and ends a run without a message. Whether an analysis comes to that
is decided by the first visited node that fails.
-/

namespace JavaOutline

/-! ## Analyses that fail -/

section

variable {parser : Parser} {source : String} {failure : Failure}

/-- An analysis fails with the failure of its traversal, and the note of it comes last in the log. -/
theorem analyze_of_fill_fails
    (hfails : (fill (.ofString source) (parser source).root (.ofRoot .file) 0).2 = some failure) :
    ∃ earlier : Log, (∀ entry ∈ earlier, entry.level = .debug) ∧
      analyze (.available parser) source =
        (.error (.aborted failure), earlier ++ abortNote failure) := by
  refine ⟨_, ?_, analyze_of_fill_eq_some (Prod.ext rfl hfails)⟩
  intro entry hentry
  rcases List.mem_append.mp hentry with hopening | hjournal
  · split at hopening
    · rw [List.mem_singleton.mp hopening]
      rfl
    · cases hopening
  · obtain ⟨message, _, rfl⟩ := List.mem_map.mp hjournal
    rfl

/-- An analysis that fails has a traversal that does. -/
theorem fill_fails_of_analyze {error : AnalysisError}
    (herror : (analyze (.available parser) source).1 = .error error) :
    ∃ failure, error = .aborted failure ∧
      (fill (.ofString source) (parser source).root (.ofRoot .file) 0).2 = some failure := by
  cases hfill : fill (.ofString source) (parser source).root (.ofRoot .file) 0 with
  | mk progress failure? =>
    cases failure? with
    | none =>
      rw [analyze_of_fill_eq_none hfill] at herror
      cases herror
    | some failure =>
      rw [analyze_of_fill_eq_some hfill] at herror
      cases herror
      exact ⟨failure, rfl, rfl⟩

end

/-! ## Runs of the program -/

/-- A run of the program that gets as far as the source text of a regular file, with a parser. -/
structure SourceRun extends Start where
  words : List String
  settings : Settings
  options : Options
  level : Level
  indent : Int
  bytes : List UInt8
  source : String
  parser : Parser
  settings_eq : Settings.ofEnvironment environment [] installation.digitLimit = .ok settings
  options_eq : readCommandLine settings words = .run options
  level_eq : options.logLevel.bind Level.read? = some level
  indent_eq : options.indent = some indent
  indent_nonneg : 0 ≤ indent
  bytes_eq : surroundings.lookUp (Path.ofString options.file).text = .found (.file bytes)
  source_eq : fileText? bytes = some source
  parser_eq : surroundings.language = .ok parser

namespace SourceRun

/-- The path of the file, as it is shown. -/
def path (call : SourceRun) : Path :=
  Path.ofString call.options.file

/-- What a run prints and how it ends. -/
def outcome (call : SourceRun) : Outcome :=
  call.toStart.outcome call.words

/-- The listing of the syntax tree, if it is asked for. -/
def listing (call : SourceRun) : String :=
  if call.options.showTree then
    SyntaxTree.render "" (call.parser call.source).root ++ "\n\n"
  else ""

/-- Such a run prints the listing and what the analysis gives, and it ends as the analysis does. -/
theorem outcome_eq (call : SourceRun) :
    call.outcome =
      let step := analysisStep call.installation.maxWidth (.available call.parser) call.path
        call.indent call.source
      ⟨call.listing ++ step.1,
        call.notes ++ logLines call.surroundings.time call.level step.2.1, step.2.2⟩ := by
  obtain ⟨given, hgiven, hlevel⟩ := Option.bind_eq_some_iff.mp call.level_eq
  have hindent : ¬ call.indent < 0 := Int.not_lt.mpr call.indent_nonneg
  have hsettings : Settings.ofEnvironment call.loaded.environment []
      call.installation.digitLimit = .ok call.settings := call.settings_eq
  have hbytes : call.loaded.lookUp (Path.ofString call.options.file).text =
      .found (.file call.bytes) := call.bytes_eq
  have hparser : call.loaded.language = .ok call.parser := call.parser_eq
  rw [outcome, Start.outcome, run, hsettings]
  simp only [Start.noted, call.options_eq, runOptions, hgiven, hlevel, call.indent_eq, if_neg hindent, runFile,
    hbytes, Lookup.regularBytes, call.source_eq, runSource, hparser, Grammar.load, listing, path]
  cases call.options.showTree <;> rfl

variable {call : SourceRun} {log : Log}

/-- A run whose analysis fails with a message prints the message and returns 1. -/
theorem outcome_of_message {error : AnalysisError} {message : String}
    (hanalyze : analyze (.available call.parser) call.source = (.error error, log))
    (hmessage : error.message? = some message) :
    call.outcome.output = call.listing ++
        ("ERROR: Analysis of " ++ call.path.text ++ " failed: " ++ message ++ "\n") ∧
      call.outcome.ending = .returned 1 := by
  simp [outcome_eq, analysisStep, hanalyze, hmessage]

/-- A run whose analysis fails without a message prints no more and ends with the error. -/
theorem outcome_of_no_message {error : AnalysisError}
    (hanalyze : analyze (.available call.parser) call.source = (.error error, log))
    (hmessage : error.message? = none) :
    call.outcome.output = call.listing ∧ call.outcome.ending = .escaped (.analysis error) := by
  simp [outcome_eq, analysisStep, hanalyze, hmessage]

/-- A run whose analysis succeeds prints the report and returns 0, if there is room for the report. -/
theorem outcome_of_scope {scope : Scope}
    (hanalyze : analyze (.available call.parser) call.source = (.ok scope, log)) :
    (∃ report, scope.checkedReport call.indent call.installation.maxWidth = .ok report ∧
      call.outcome.output = call.listing ++ (report ++ "\n") ∧ call.outcome.ending = .returned 0) ∨
    ∃ fault, scope.checkedReport call.indent call.installation.maxWidth = .error fault ∧
      call.outcome.output = call.listing ∧ call.outcome.ending = .escaped (.report fault) := by
  cases hreport : scope.checkedReport call.indent call.installation.maxWidth with
  | ok report => exact .inl ⟨report, rfl, by simp [outcome_eq, analysisStep, hanalyze, hreport]⟩
  | error fault => exact .inr ⟨fault, rfl, by simp [outcome_eq, analysisStep, hanalyze, hreport]⟩

end SourceRun

/-! ## Contained and not -/

/-- If the analysis of a source text gives no outline, it fails with a span out of order or a type
that is not understood, the last record of the log is the only error record and notes it, and every
run of the program on that source text prints one line about it and returns 1. -/
def FailureContained (parser : Parser) (source : String) : Prop :=
  ∀ error, (analyze (.available parser) source).1 = .error error →
    ∃ failure message, error = .aborted failure ∧
      ((∃ fault, failure = .unreadable (.malformed fault)) ∨
        ∃ kind text row, failure = .unrecognizedType kind text row) ∧
      failure.analysisMessage? = some message ∧
      (∃ earlier, (∀ entry ∈ earlier, entry.level ≠ .error) ∧
        (analyze (.available parser) source).2 =
          earlier ++ [⟨.error, .analyzer, "Analysis aborted: " ++ message⟩]) ∧
      ∀ call : SourceRun, call.parser = parser → call.source = source →
        call.outcome.output = call.listing ++
            ("ERROR: Analysis of " ++ call.path.text ++ " failed: " ++ message ++ "\n") ∧
          call.outcome.ending = .returned 1

/-- The first visited node of a tree that fails alone fails for a name. -/
def FailsForName (text : String) (tree : SyntaxTree) : Prop :=
  ∃ before visit later rejection,
    visitsOf [] 0 1 tree = before ++ visit :: later ∧
    (∀ earlier ∈ before, ∃ descent,
      endingAlone (.ofString text) .file earlier.tree = .ok descent) ∧
    endingAlone (.ofString text) .file visit.tree = .error (.rejected rejection)

/-- A traversal fails for a name exactly if the first node that fails does. -/
theorem failsForName_iff {text : String} {tree : SyntaxTree} :
    FailsForName text tree ↔
      ∃ rejection, (fill (.ofString text) tree (.ofRoot .file) 0).2 = some (.rejected rejection) := by
  have hopen := Store.isOpen_ofRoot .file
  simp only [FailsForName, endingAlone_eq]
  constructor
  · rintro ⟨before, visit, later, rejection, hsplit, hbefore, hfails⟩
    exact ⟨rejection, by rw [(fill_of_first_fails hopen hsplit hbefore hfails).1]⟩
  · rintro ⟨rejection, hrejected⟩
    rcases all_succeed_or_first_fails (.ofString text) (visitsOf [] 0 1 tree) with
      hok | ⟨before, visit, later, failure, hsplit, hbefore, hfails⟩
    · rw [(fill_of_all_succeed hopen hok).1] at hrejected
      cases hrejected
    · rw [(fill_of_first_fails hopen hsplit hbefore hfails).1] at hrejected
      cases hrejected
      exact ⟨before, visit, later, rejection, hsplit, hbefore, hfails⟩

/-- A failure with a message is contained. -/
theorem failureContained_of_message {parser : Parser} {source message : String}
    {failure : Failure}
    (hfails : (fill (.ofString source) (parser source).root (.ofRoot .file) 0).2 = some failure)
    (hsort : (∃ fault, failure = .unreadable (.malformed fault)) ∨
      ∃ kind text row, failure = .unrecognizedType kind text row)
    (hmessage : failure.analysisMessage? = some message) : FailureContained parser source := by
  obtain ⟨earlier, hdebug, hanalyze⟩ := analyze_of_fill_fails hfails
  intro error herror
  rw [hanalyze] at herror
  cases herror
  refine ⟨failure, message, rfl, hsort, hmessage, ⟨earlier, ?_, ?_⟩, ?_⟩
  · intro entry hentry
    rw [hdebug entry hentry]
    decide
  · rw [hanalyze, abortNote, hmessage]
  · rintro call rfl rfl
    exact SourceRun.outcome_of_message hanalyze hmessage

/-- Failures are contained unless they are about a name. For a syntax tree that lies in its source
text, a failed analysis is contained exactly if the first visited node that fails does not fail for a
name. If it does, the failure is one of a blank or missing name; it is not noted in the log, and it
ends every run of the program on that source text without a message. An analysis that succeeds ends
a run with the report and 0, unless there is no room for the report. -/
theorem failure_contained_unless_for_name (parser : Parser) (source : String)
    (htree : SyntaxTree.LiesIn (parser source).root source) :
    (FailureContained parser source ↔ ¬ FailsForName source (parser source).root) ∧
    (FailsForName source (parser source).root →
      ∃ kind part fault,
        let failure := Failure.rejected ⟨kind, [⟨[.key part], .invalidName fault⟩]⟩
        (analyze (.available parser) source).1 = .error (.aborted failure) ∧
        (∀ entry ∈ (analyze (.available parser) source).2, entry.level ≠ .error) ∧
        ∀ call : SourceRun, call.parser = parser → call.source = source →
          call.outcome.output = call.listing ∧
            call.outcome.ending = .escaped (.analysis (.aborted failure))) ∧
    ∀ scope, (analyze (.available parser) source).1 = .ok scope →
      ∀ call : SourceRun, call.parser = parser → call.source = source →
        (∃ report, scope.checkedReport call.indent call.installation.maxWidth = .ok report ∧
          call.outcome.output = call.listing ++ (report ++ "\n") ∧
          call.outcome.ending = .returned 0) ∨
        ∃ fault, scope.checkedReport call.indent call.installation.maxWidth = .error fault ∧
          call.outcome.output = call.listing ∧
          call.outcome.ending = .escaped (.report fault) := by
  have hopen := Store.isOpen_ofRoot .file
  refine ⟨⟨?_, ?_⟩, ?_, ?_⟩
  · intro hcontained hname
    obtain ⟨rejection, hrejected⟩ := failsForName_iff.mp hname
    obtain ⟨earlier, _, hanalyze⟩ := analyze_of_fill_fails hrejected
    obtain ⟨failure, _, hsame, hsort, _⟩ := hcontained _ (congrArg Prod.fst hanalyze)
    cases hsame
    rcases hsort with ⟨_, hsort⟩ | ⟨_, _, _, hsort⟩ <;> cases hsort
  · intro hname error herror
    obtain ⟨failure, rfl, hfails⟩ := fill_fails_of_analyze herror
    -- of the ordinary failures only that of a name has no message, and it is excluded
    cases fill_isOrdinary htree hopen hfails with
    | malformed fault => exact failureContained_of_message hfails (.inl ⟨_, rfl⟩) rfl _ herror
    | unrecognizedType kind text row =>
      exact failureContained_of_message hfails (.inr ⟨_, _, _, rfl⟩) rfl _ herror
    | unnamed kind part fault => exact absurd (failsForName_iff.mpr ⟨_, hfails⟩) hname
  · intro hname
    obtain ⟨rejection, hrejected⟩ := failsForName_iff.mp hname
    obtain ⟨earlier, hdebug, hanalyze⟩ := analyze_of_fill_fails hrejected
    cases fill_isOrdinary htree hopen hrejected with
    | unnamed kind part fault =>
      have hnote (rejection : Rejection) : abortNote (.rejected rejection) = [] := rfl
      rw [hnote, List.append_nil] at hanalyze
      refine ⟨kind, part, fault, congrArg Prod.fst hanalyze, ?_, ?_⟩
      · intro entry hentry
        rw [hanalyze] at hentry
        rw [hdebug entry hentry]
        decide
      · rintro call rfl rfl
        exact SourceRun.outcome_of_no_message hanalyze rfl
  · rintro scope hscope call rfl rfl
    exact SourceRun.outcome_of_scope (Prod.ext hscope rfl)

/-- A text whose import breaks off after a dot. -/
def brokenImport : String := "import java.;"

/-- The syntax tree of `brokenImport`, with an identifier of no width where a name is missing. -/
def brokenImportTree : SyntaxTree :=
  .node ⟨"program", ⟨0, 0⟩, ⟨0, 13⟩⟩
    [.node ⟨"import_declaration", ⟨0, 0⟩, ⟨0, 13⟩⟩
      [.node ⟨"import", ⟨0, 0⟩, ⟨0, 6⟩⟩ [],
        .node ⟨"scoped_identifier", ⟨0, 7⟩, ⟨0, 12⟩⟩
          [.node ⟨"identifier", ⟨0, 7⟩, ⟨0, 11⟩⟩ [], .node ⟨".", ⟨0, 11⟩, ⟨0, 12⟩⟩ [],
            .node ⟨"identifier", ⟨0, 12⟩, ⟨0, 12⟩⟩ []],
        .node ⟨";", ⟨0, 12⟩, ⟨0, 13⟩⟩ []]]

/-- A parser that gives the tree of `brokenImport`. -/
def brokenImportParser : Parser := fun _ => ⟨brokenImportTree, true⟩

/-- The failure of an import with a blank segment. -/
def blankImport : Failure :=
  .rejected ⟨.importing, [⟨[.key "identifiers"], .invalidName .blank⟩]⟩

/-- A run of the program on a file with this text. -/
def brokenImportRun : SourceRun where
  installation := {}
  environment := []
  notes := ""
  environment_eq := rfl
  surroundings :=
    { environment := []
      lookUp := FileTree.lookUp [(["A.java"], .file brokenImport.toUTF8.data.toList)]
      language := .ok brokenImportParser
      time := "" }
  words := ["A.java"]
  settings := .default
  options := ⟨"A.java", false, some 0, some "WARNING"⟩
  level := .warning
  indent := 0
  bytes := brokenImport.toUTF8.data.toList
  source := brokenImport
  parser := brokenImportParser
  settings_eq := rfl
  options_eq := by decide +kernel
  level_eq := by decide +kernel
  indent_eq := rfl
  indent_nonneg := by decide
  bytes_eq := by decide +kernel
  source_eq := by decide +kernel
  parser_eq := rfl

/-- The traversal of the tree fails at the import. -/
theorem fill_brokenImport_fails :
    (fill (.ofString brokenImport) (brokenImportParser brokenImport).root (.ofRoot .file) 0).2 =
      some blankImport := by
  decide +kernel

/-- The tree lies in the text, and the failure of its analysis ends a run without a message. -/
theorem brokenImport_ends_run :
    SyntaxTree.LiesIn (brokenImportParser brokenImport).root brokenImport ∧
      FailsForName brokenImport (brokenImportParser brokenImport).root ∧
      brokenImportRun.outcome.output = "" ∧
      brokenImportRun.outcome.ending = .escaped (.analysis (.aborted blankImport)) := by
  have htree : SyntaxTree.LiesIn (brokenImportParser brokenImport).root brokenImport := by
    decide +kernel
  have hname : FailsForName brokenImport (brokenImportParser brokenImport).root :=
    failsForName_iff.mpr ⟨_, fill_brokenImport_fails⟩
  obtain ⟨_, hescape, _⟩ := failure_contained_unless_for_name brokenImportParser brokenImport htree
  obtain ⟨kind, part, fault, herror, _, hrun⟩ := hescape hname
  obtain ⟨_, _, hanalyze⟩ := analyze_of_fill_fails fill_brokenImport_fails
  rw [hanalyze] at herror
  injection herror with hsame
  rw [hsame]
  exact ⟨htree, hname, hrun brokenImportRun rfl rfl⟩

/-- The failure is not contained. -/
theorem brokenImport_not_contained :
    SyntaxTree.LiesIn (brokenImportParser brokenImport).root brokenImport ∧
      (analyze (.available brokenImportParser) brokenImport).1 = .error (.aborted blankImport) ∧
      ¬ FailureContained brokenImportParser brokenImport := by
  obtain ⟨_, _, hanalyze⟩ := analyze_of_fill_fails fill_brokenImport_fails
  have herror := congrArg Prod.fst hanalyze
  refine ⟨by decide +kernel, herror, fun hcontained => ?_⟩
  obtain ⟨failure, _, hsame, hsort, _⟩ := hcontained _ herror
  cases hsame
  rcases hsort with ⟨_, hsort⟩ | ⟨_, _, _, hsort⟩ <;> cases hsort

end JavaOutline
