import JavaOutline.Proofs.CommandLine.Start

/-!
# Asking for the tree

Two runs after the same start whose options differ only in whether the syntax tree is asked for.
As long as the grammar could be loaded, or a run does not get as far as the source text, the two end
the same way, and the one that lists the tree prints the listing and an empty line in front of what
the other one prints. Without a grammar they part at the source text: the analysis complains about
it and the run returns 1, but the listing comes before the analysis, and there the same error ends
the run with nothing printed.
-/

namespace JavaOutline

/-- The source text that a run gets to, if its options and its file pass the checks. -/
def sourceText? (surroundings : Surroundings) (options : Options) : Option String := do
  let _ ← options.logLevel.bind Level.read?
  let indent ← options.indent
  if indent < 0 then none
  else
    let bytes ← (surroundings.lookUp (Path.ofString options.file).text).regularBytes.toOption
    fileText? bytes

/-! ## Single runs -/

section

variable {installation : Installation} {surroundings : Surroundings} {options : Options}

/-- A run that does not get to the source text takes no notice of whether the tree is asked for. -/
theorem runOptions_of_sourceText?_eq_none (hsource : sourceText? surroundings options = none)
    (shown : Bool) :
    runOptions installation surroundings { options with showTree := shown } =
      runOptions installation surroundings options := by
  obtain ⟨file, showTree, indent?, logLevel?⟩ := options
  cases logLevel? with
  | none => rfl
  | some given =>
    cases hlevel : Level.read? given with
    | none => simp only [runOptions, hlevel]
    | some level =>
      cases indent? with
      | none => simp only [runOptions, hlevel]
      | some indent =>
        simp only [runOptions, hlevel]
        split
        · rfl
        · rename_i hindent
          -- the checks of the options are passed, so that it is the file that fails
          simp only [runFile]
          split
          · rfl
          · rfl
          · rename_i bytes hbytes
            split
            · rfl
            · rename_i source htext
              simp [sourceText?, hlevel, hindent, hbytes, htext, Except.toOption] at hsource

/-- A run that gets to the source text goes on with it. -/
theorem runOptions_of_sourceText?_eq_some {source : String}
    (hsource : sourceText? surroundings options = some source) :
    ∃ level indent, ∀ shown,
      runOptions installation surroundings { options with showTree := shown } =
        runSource installation surroundings level shown indent (Path.ofString options.file)
          source := by
  obtain ⟨file, showTree, indent?, logLevel?⟩ := options
  simp only [sourceText?, bind, Option.bind_eq_some_iff] at hsource
  obtain ⟨level, ⟨given, hgiven, hlevel⟩, indent, hindent, hrest⟩ := hsource
  subst hgiven hindent
  split at hrest
  · cases hrest
  · rename_i hnonneg
    obtain ⟨bytes, hbytes, htext⟩ := Option.bind_eq_some_iff.mp hrest
    refine ⟨level, indent, fun shown => ?_⟩
    cases hregular : (surroundings.lookUp (Path.ofString file).text).regularBytes with
    | error problem =>
      rw [hregular] at hbytes
      cases hbytes
    | ok found =>
      rw [hregular] at hbytes
      cases hbytes
      simp only [runOptions, hlevel, if_neg hnonneg, runFile, hregular, htext]

variable {level : Level} {indent : Int} {path : Path} {source : String}

/-- With a parser, the listing comes in front of what the analysis gives. -/
theorem runSource_of_loaded {parser : Parser} (hparser : surroundings.language = .ok parser)
    (shown : Bool) :
    let step := analysisStep installation.maxWidth (.available parser) path indent source
    (runSource installation surroundings level shown indent path source).output =
        (if shown then SyntaxTree.render "" (parser source).root ++ "\n\n" else "") ++ step.1 ∧
      (runSource installation surroundings level shown indent path source).ending = step.2.2 := by
  simp only [runSource, hparser, Grammar.load]
  cases shown <;> exact ⟨rfl, rfl⟩

/-- What the program says about a grammar that could not be loaded. -/
def unloadedMessage : String :=
  "Java grammar is not available (status: error)"

/-- Without a grammar, the analysis is complained about. -/
theorem runSource_of_unloaded {reason : String} (hparser : surroundings.language = .error reason) :
    (runSource installation surroundings level false indent path source).output =
        "ERROR: Analysis of " ++ path.text ++ " failed: " ++ unloadedMessage ++ "\n" ∧
      (runSource installation surroundings level false indent path source).ending = .returned 1 := by
  have hmessage : (AnalysisError.grammarUnavailable "error").message? = some unloadedMessage := by
    decide
  have hstep : analysisStep installation.maxWidth .failed path indent source =
      ("ERROR: Analysis of " ++ path.text ++ " failed: " ++ unloadedMessage ++ "\n", [],
        .returned 1) := by
    simp only [analysisStep, analyze, Grammar.parse, Grammar.parser, Grammar.status, bind,
      Except.bind, hmessage]
  simp only [runSource, hparser, Grammar.load, hstep]
  exact ⟨String.empty_append, rfl⟩

/-- Without a grammar, the listing ends the run. -/
theorem runSource_listing_of_unloaded {reason : String}
    (hparser : surroundings.language = .error reason) :
    (runSource installation surroundings level true indent path source).output = "" ∧
      (runSource installation surroundings level true indent path source).ending =
        .escaped (.analysis (.grammarUnavailable "error")) := by
  simp only [runSource, hparser, Grammar.load]
  exact ⟨rfl, rfl⟩

end

/-! ## Two runs -/

/-- Two runs after the same start whose options differ only in whether the tree is asked for. -/
structure TreeRuns extends Start where
  settings : Settings
  options : Options
  plainWords : List String
  treeWords : List String
  settings_eq : Settings.ofEnvironment environment [] installation.digitLimit = .ok settings
  plain_eq : readCommandLine settings plainWords = .run { options with showTree := false }
  tree_eq : readCommandLine settings treeWords = .run { options with showTree := true }

namespace TreeRuns

/-- The run without the tree. -/
def plain (runs : TreeRuns) : Outcome :=
  runs.outcome runs.plainWords

/-- The run with the tree. -/
def tree (runs : TreeRuns) : Outcome :=
  runs.outcome runs.treeWords

/-- The source text that the runs get to, if they pass the checks. -/
def source? (runs : TreeRuns) : Option String :=
  sourceText? runs.surroundings runs.options

/-- What asking for the tree should add: the listing and an empty line, if there is a source text
and it can be parsed. -/
def listing (runs : TreeRuns) : String :=
  match runs.source?, runs.surroundings.language with
  | some source, .ok parser => SyntaxTree.render "" (parser source).root ++ "\n\n"
  | _, _ => ""

/-- Asking for the tree only adds the listing. -/
def IsAdditive (runs : TreeRuns) : Prop :=
  runs.tree.ending = runs.plain.ending ∧ runs.tree.output = runs.listing ++ runs.plain.output

/-- A run whose command line is understood is one with its options. -/
theorem outcome_eq_runOptions (runs : TreeRuns) {words : List String} {options : Options}
    (hwords : readCommandLine runs.settings words = .run options) :
    runs.outcome words = runs.noted (runOptions runs.installation runs.loaded options) := by
  have hsettings : Settings.ofEnvironment runs.loaded.environment []
      runs.installation.digitLimit = .ok runs.settings := runs.settings_eq
  rw [Start.outcome, run, hsettings]
  simp only [hwords]

variable {runs : TreeRuns}

/-- Before the source text, the runs are the same. -/
theorem isAdditive_of_no_source (hsource : runs.source? = none) : runs.IsAdditive := by
  have hsame : runs.tree = runs.plain := by
    have hloaded : sourceText? runs.loaded runs.options = none := hsource
    rw [tree, plain, runs.outcome_eq_runOptions runs.tree_eq,
      runs.outcome_eq_runOptions runs.plain_eq, runOptions_of_sourceText?_eq_none hloaded true,
      runOptions_of_sourceText?_eq_none hloaded false]
  have hlisting : runs.listing = "" := by
    rw [listing, hsource]
  rw [IsAdditive, hsame, hlisting, String.empty_append]
  exact ⟨rfl, rfl⟩

/-- With a parser, only the listing is added. -/
theorem isAdditive_of_loaded {source : String} {parser : Parser}
    (hsource : runs.source? = some source) (hparser : runs.surroundings.language = .ok parser) :
    runs.IsAdditive := by
  have hloaded : sourceText? runs.loaded runs.options = some source := hsource
  obtain ⟨level, indent, hrun⟩ := runOptions_of_sourceText?_eq_some hloaded
  have hlisting : runs.listing = SyntaxTree.render "" (parser source).root ++ "\n\n" := by
    rw [listing, hsource, hparser]
  rw [IsAdditive, tree, plain, runs.outcome_eq_runOptions runs.tree_eq,
    runs.outcome_eq_runOptions runs.plain_eq, hrun, hrun, hlisting]
  have hlanguage : runs.loaded.language = .ok parser := hparser
  obtain ⟨hplain, hplainEnding⟩ := runSource_of_loaded hlanguage false
  obtain ⟨htree, htreeEnding⟩ := runSource_of_loaded hlanguage true
  simp only [Start.noted_output, Start.noted_ending]
  rw [hplain, htree, hplainEnding, htreeEnding]
  exact ⟨rfl, rfl⟩

/-- Without a grammar, the run without the tree complains about it and returns, and the run with the
tree prints nothing and is ended by the error. -/
theorem outcomes_of_unloaded {source reason : String} (hsource : runs.source? = some source)
    (hparser : runs.surroundings.language = .error reason) :
    (runs.plain.output =
        "ERROR: Analysis of " ++ (Path.ofString runs.options.file).text ++ " failed: " ++
          unloadedMessage ++ "\n" ∧
      runs.plain.ending = .returned 1) ∧
    runs.tree.output = "" ∧
      runs.tree.ending = .escaped (.analysis (.grammarUnavailable "error")) := by
  have hloaded : sourceText? runs.loaded runs.options = some source := hsource
  have hlanguage : runs.loaded.language = .error reason := hparser
  obtain ⟨level, indent, hrun⟩ := runOptions_of_sourceText?_eq_some hloaded
  rw [tree, plain, runs.outcome_eq_runOptions runs.tree_eq,
    runs.outcome_eq_runOptions runs.plain_eq, hrun, hrun]
  simp only [Start.noted_output, Start.noted_ending]
  exact ⟨runSource_of_unloaded hlanguage, runSource_listing_of_unloaded hlanguage⟩

/-- Without a grammar, the two runs do not end the same way. -/
theorem not_isAdditive_of_unloaded {source reason : String} (hsource : runs.source? = some source)
    (hparser : runs.surroundings.language = .error reason) : ¬ runs.IsAdditive := by
  intro hadditive
  obtain ⟨⟨_, hplain⟩, _, htree⟩ := outcomes_of_unloaded hsource hparser
  have hsame := hadditive.1
  rw [hplain, htree] at hsame
  cases hsame

/-- Asking for the tree only adds the listing, unless the runs get to a source text that cannot be
parsed because the grammar could not be loaded. In that case the run without the tree complains
about the analysis and returns 1, and the run with the tree prints nothing and is ended by the
error. -/
theorem tree_only_adds_listing_unless_unloaded (runs : TreeRuns) :
    (runs.IsAdditive ↔ ∀ source reason, runs.source? = some source →
      runs.surroundings.language ≠ .error reason) ∧
    ∀ source reason, runs.source? = some source → runs.surroundings.language = .error reason →
      (runs.plain.output =
          "ERROR: Analysis of " ++ (Path.ofString runs.options.file).text ++ " failed: " ++
            unloadedMessage ++ "\n" ∧
        runs.plain.ending = .returned 1) ∧
      runs.tree.output = "" ∧
        runs.tree.ending = .escaped (.analysis (.grammarUnavailable "error")) := by
  refine ⟨⟨?_, ?_⟩, fun source reason hsource hparser => outcomes_of_unloaded hsource hparser⟩
  · intro hadditive source reason hsource hparser
    exact not_isAdditive_of_unloaded hsource hparser hadditive
  · intro hloaded
    cases hsource : runs.source? with
    | none => exact isAdditive_of_no_source hsource
    | some source =>
      cases hparser : runs.surroundings.language with
      | error reason => exact absurd hparser (hloaded source reason hsource)
      | ok parser => exact isAdditive_of_loaded hsource hparser

/-- A class without members. -/
def emptyClass : String := "class A \x7b\x7d"

/-- The syntax tree of `emptyClass`. -/
def emptyClassTree : SyntaxTree :=
  .node ⟨"program", ⟨0, 0⟩, ⟨0, 10⟩⟩
    [.node ⟨"class_declaration", ⟨0, 0⟩, ⟨0, 10⟩⟩
      [.node ⟨"class", ⟨0, 0⟩, ⟨0, 5⟩⟩ [], .node ⟨"identifier", ⟨0, 6⟩, ⟨0, 7⟩⟩ [],
        .node ⟨"class_body", ⟨0, 8⟩, ⟨0, 10⟩⟩
          [.node ⟨"\x7b", ⟨0, 8⟩, ⟨0, 9⟩⟩ [], .node ⟨"\x7d", ⟨0, 9⟩, ⟨0, 10⟩⟩ []]]]

/-- Where nothing is set, the settings are as they are by default. -/
theorem ofEnvironment_nil : Settings.ofEnvironment [] [] = .ok .default :=
  rfl

/-- Two runs on a file with this class, where the language is loaded or not. -/
def emptyClassRuns (language : Except String Parser) : TreeRuns where
  installation := {}
  environment := []
  notes := ""
  environment_eq := rfl
  surroundings :=
    { environment := []
      lookUp := FileTree.lookUp [(["A.java"], .file emptyClass.toUTF8.data.toList)]
      language := language
      time := "" }
  settings := .default
  options := ⟨"A.java", false, some 0, some "WARNING"⟩
  plainWords := ["A.java"]
  treeWords := ["A.java", "--tree"]
  settings_eq := ofEnvironment_nil
  plain_eq := by decide +kernel
  tree_eq := by decide +kernel

/-- Both runs get to the source text. -/
theorem source?_emptyClassRuns (language : Except String Parser) :
    (emptyClassRuns language).source? = some emptyClass := by
  have hlevel : Level.read? "WARNING" = some .warning := by decide +kernel
  have hfile : FileTree.lookUp [(["A.java"], .file emptyClass.toUTF8.data.toList)]
      (Path.ofString "A.java").text = .found (.file emptyClass.toUTF8.data.toList) := by
    decide +kernel
  have htext : fileText? emptyClass.toUTF8.data.toList = some emptyClass := by decide +kernel
  simp only [source?, sourceText?, emptyClassRuns, hfile, Lookup.regularBytes, Except.toOption,
    bind, Option.bind_some, hlevel, htext, Int.lt_irrefl, if_false]

/-- With a parser, the listing is added. -/
theorem emptyClass_listed :
    (emptyClassRuns (.ok fun _ => ⟨emptyClassTree, false⟩)).IsAdditive ∧
      (emptyClassRuns (.ok fun _ => ⟨emptyClassTree, false⟩)).listing =
        SyntaxTree.render "" emptyClassTree ++ "\n\n" := by
  let runs := emptyClassRuns (.ok fun _ => ⟨emptyClassTree, false⟩)
  have hloaded : ∀ source reason, runs.source? = some source →
      runs.surroundings.language ≠ .error reason := by
    intro source reason _ herror
    cases herror
  refine ⟨(tree_only_adds_listing_unless_unloaded runs).1.mpr hloaded, ?_⟩
  rw [listing, source?_emptyClassRuns]
  rfl

/-- Without one, the run that lists the tree ends in another way than the one that does not. -/
theorem emptyClass_unlisted :
    (emptyClassRuns (.error "no such library")).plain.ending = .returned 1 ∧
      (emptyClassRuns (.error "no such library")).tree.ending =
        .escaped (.analysis (.grammarUnavailable "error")) ∧
      ¬ (emptyClassRuns (.error "no such library")).IsAdditive := by
  have hsource := source?_emptyClassRuns (.error "no such library")
  obtain ⟨⟨_, hplain⟩, _, htree⟩ := outcomes_of_unloaded hsource rfl
  exact ⟨hplain, htree, not_isAdditive_of_unloaded hsource rfl⟩

end TreeRuns

end JavaOutline
