import JavaOutline.Journal
import JavaOutline.Syntax.Listing
import JavaOutline.Traversal.Run

/-!
# Analyses

An analysis parses a source text, fills a file scope from the syntax tree and freezes the result.
The parser belongs to a grammar that is loaded first and may fail to load; without it nothing is
parsed. A failure of the analysis proper is noted in the log as the last record; the other failures
leave the analysis without a note.
-/

namespace JavaOutline

/-- What the parser makes of a source text: a tree, and whether it had to skip something. -/
structure ParsedTree where
  root : SyntaxTree
  hasError : Bool

/-- A parser gives a tree for every source text. -/
abbrev Parser := String → ParsedTree

/-- The grammar of the language, with its parser if it could be loaded. -/
inductive Grammar where
  | available (parser : Parser)
  | failed

/-- Why an analysis gives no outline. -/
inductive AnalysisError where
  | grammarUnavailable (status : String)
  | aborted (failure : Failure)
deriving DecidableEq, Repr

/-- The text of an error of the analysis proper. -/
def AnalysisError.message? : AnalysisError → Option String
  | grammarUnavailable status => some s!"Java grammar is not available (status: {status})"
  | aborted failure => failure.analysisMessage?

namespace Grammar

/-- Loads a grammar; a failure is noted in the log. -/
def load : Except String Parser → Grammar × Log
  | .ok parser => (available parser, [])
  | .error reason =>
    (failed, [⟨.warning, .grammar, "Failed to load grammar for java: " ++ reason⟩])

/-- The word for the state of a grammar. -/
def status : Grammar → String
  | available _ => "available"
  | failed => "error"

/-- Whether a grammar was loaded. -/
def isAvailable : Grammar → Bool
  | available _ => true
  | failed => false

/-- The parser of a grammar. -/
def parser (grammar : Grammar) : Except AnalysisError Parser :=
  match grammar with
  | available parser => .ok parser
  | failed => .error (.grammarUnavailable grammar.status)

/-- A small source text that a grammar has to parse cleanly. -/
def sample : String :=
  "package sample; public class Test \x7b public void test() \x7b \x7d \x7d"

/-- Whether a grammar was loaded and parses the sample cleanly. -/
def isValid : Grammar → Bool
  | available parser => !(parser sample).hasError
  | failed => false

/-- Parses a source text. -/
def parse (grammar : Grammar) (source : String) : Except AnalysisError ParsedTree := do
  let parser ← grammar.parser
  return parser source

end Grammar

/-- The record of a syntax tree with parts that the parser skipped. -/
def skippedParts : LogRecord :=
  ⟨.debug, .analyzer, "Syntax tree contains error nodes; unrecognized parts are skipped"⟩

/-- The note of a failure: a record if the analysis proper failed, and nothing otherwise. -/
def abortNote (failure : Failure) : Log :=
  match failure.analysisMessage? with
  | some message => [⟨.error, .analyzer, "Analysis aborted: " ++ message⟩]
  | none => []

/-- The journal of a traversal as records of the log. -/
def journalLog (journal : List String) : Log :=
  journal.map fun message => ⟨.debug, .traversal, message⟩

/-- The outline of a parsed source text, with the log of the analysis. -/
def outlineOf (source : String) (parsed : ParsedTree) : Except Failure Scope × Log :=
  let opening := if parsed.hasError then [skippedParts] else []
  match fill (.ofString source) parsed.root (.ofRoot .file) 0 with
  | (progress, none) =>
    (.ok ((progress.store.freeze 0).scope 0), opening ++ journalLog progress.journal)
  | (progress, some failure) =>
    (.error failure, opening ++ journalLog progress.journal ++ abortNote failure)

/-- The outline of a source text, with the log of the analysis. -/
def analyze (grammar : Grammar) (source : String) : Except AnalysisError Scope × Log :=
  match grammar.parse source with
  | .error error => (.error error, [])
  | .ok parsed =>
    let (outline, log) := outlineOf source parsed
    (outline.mapError .aborted, log)

/-- With a parser, an analysis gives the outline of the parsed source text. -/
theorem analyze_available (parser : Parser) (source : String) :
    analyze (.available parser) source =
      ((outlineOf source (parser source)).1.mapError .aborted,
        (outlineOf source (parser source)).2) :=
  rfl

section

variable {parser : Parser} {source : String} {progress : Progress}

/-- An analysis whose traversal does not fail gives the frozen scope. -/
theorem analyze_of_fill_eq_none
    (hfill : fill (.ofString source) (parser source).root (.ofRoot .file) 0 = (progress, none)) :
    analyze (.available parser) source =
      (.ok ((progress.store.freeze 0).scope 0),
        (if (parser source).hasError then [skippedParts] else []) ++
          journalLog progress.journal) := by
  rw [analyze_available, outlineOf, hfill]
  rfl

/-- An analysis whose traversal fails gives the failure and notes it. -/
theorem analyze_of_fill_eq_some {failure : Failure}
    (hfill : fill (.ofString source) (parser source).root (.ofRoot .file) 0 =
      (progress, some failure)) :
    analyze (.available parser) source =
      (.error (.aborted failure),
        (if (parser source).hasError then [skippedParts] else []) ++
          journalLog progress.journal ++ abortNote failure) := by
  rw [analyze_available, outlineOf, hfill]
  rfl

end

/-- The listing of the syntax tree of a source text. -/
def listSource (grammar : Grammar) (source : String) : Except AnalysisError String := do
  let parsed ← grammar.parse source
  return SyntaxTree.render "" parsed.root

end JavaOutline
