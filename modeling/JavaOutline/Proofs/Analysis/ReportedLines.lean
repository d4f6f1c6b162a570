import JavaOutline.Proofs.Traversal.SingleRows

/-!
# The lines of a report

A report joins the texts of its items by line ends, so it has one line for each item if no text has
a line end of its own. Texts are kept as they stand in the source, and a part of a declaration or
of a call that goes over several rows brings its line ends along: the first row stands behind the
margin of the item, and the others start where they start in the source. How many lines there are
is thus known from the items, and there is one for each item exactly if every text is one line. A
source in which no kept part goes over a row has such a report.
-/

namespace JavaOutline

open Text (IsOneLine)

namespace Scope

/-! ## Counting items -/

/-- The items of a report are those of each scope that the walk meets. -/
theorem map_snd_reportItems (scope : Scope) :
    scope.reportItems.map Prod.snd = scope.walk.flatMap fun visited => visited.label.items := by
  have hitems := filterMap_reportItems some scope
  simpa [List.filterMap_eq_map] using hitems

/-- There is an item for each scope, import, field and invocation. -/
theorem length_reportItems (scope : Scope) :
    scope.reportItems.length = scope.walk.length + scope.allImports.length +
      scope.allFields.length + scope.allInvocations.length := by
  rw [← List.length_map Prod.snd, map_snd_reportItems, allImports, allFields, allInvocations]
  induction scope.walk with
  | nil => rfl
  | cons visited rest ih =>
    have hitems : visited.label.items.length = 1 + visited.label.imports.length +
        visited.label.fields.length + visited.label.invocations.length := by
      simp only [Contents.items, List.length_cons, List.length_append, List.length_map]
      omega
    simp only [List.flatMap_cons, List.length_append, List.length_cons, ih, hitems]
    omega

/-! ## Lines -/

/-- The lines of a report as text. -/
def writtenLines (indent : Nat) (scope : Scope) : List (List Char) :=
  Text.lines (report indent scope).toList

/-- What stands in front of an item: two blanks a level, and the indentation of the report. -/
def margin (indent level : Nat) : List Char :=
  List.replicate (indent + 2 * level) ' '

/-- A report has one line for each scope, import, field and invocation, and each starts with the
margin of its item and then shows the item. -/
structure HasLinePerItem (indent : Nat) (scope : Scope) : Prop where
  count : (writtenLines indent scope).length = scope.walk.length + scope.allImports.length +
    scope.allFields.length + scope.allInvocations.length
  shown : List.Forall₂
    (fun entry line => margin indent entry.1 ++ entry.2.text.toList <+: line)
    scope.reportItems (writtenLines indent scope)

/-- A report has the lines of each item, the first of them behind the margin. -/
theorem writtenLines_eq_flatMap (indent : Nat) (scope : Scope) :
    writtenLines indent scope = scope.reportItems.flatMap fun entry =>
      (Text.lines entry.2.text.toList).modifyHead (margin indent entry.1 ++ ·) := by
  have hne : reportLines indent scope ≠ [] := by
    obtain ⟨contents, children⟩ := scope
    simp [reportLines, Contents.reportLines]
  rw [writtenLines, report, Text.lines_intercalate hne, reportLines_eq_map_reportItems,
    List.flatMap_map]
  refine List.flatMap_congr fun entry _ => ?_
  have hmargin : (blanks ((indent : Int) + 2 * (entry.1 : Int))).toList = margin indent entry.1 := by
    rw [blanks, margin, String.toList_ofList]
    rfl
  rw [String.toList_append, hmargin]
  exact Text.lines_append_left (by simp [margin]) _

/-- Every line end in the text of an item makes one line more. -/
theorem length_writtenLines (indent : Nat) (scope : Scope) :
    (writtenLines indent scope).length = scope.reportItems.length +
      (scope.reportItems.map fun entry => entry.2.text.toList.count '\n').sum := by
  rw [writtenLines_eq_flatMap]
  induction scope.reportItems with
  | nil => rfl
  | cons entry rest ih =>
    simp only [List.flatMap_cons, List.length_append, List.length_modifyHead, Text.length_lines, ih,
      List.length_cons, List.map_cons, List.sum_cons]
    omega

/-- There is one line for each item exactly if the text of every item is one line. -/
theorem hasLinePerItem_iff {indent : Nat} {scope : Scope} :
    HasLinePerItem indent scope ↔ ∀ entry ∈ scope.reportItems, IsOneLine entry.2.text := by
  constructor
  · intro hlines entry hentry
    -- each item takes a line already, so the line ends in the texts add up to nothing
    have hcount := hlines.count
    rw [← length_reportItems, length_writtenLines] at hcount
    have hzero := List.sum_eq_zero_iff.mp (by omega :
      (scope.reportItems.map fun entry => entry.2.text.toList.count '\n').sum = 0)
    exact List.count_eq_zero.mp (hzero _ (List.mem_map_of_mem hentry))
  · intro htexts
    have hlines : writtenLines indent scope = scope.reportItems.map fun entry =>
        margin indent entry.1 ++ entry.2.text.toList := by
      rw [writtenLines_eq_flatMap, List.map_eq_flatMap]
      refine List.flatMap_congr fun entry hentry => ?_
      rw [Text.lines_eq_singleton (htexts entry hentry), List.modifyHead_cons]
    refine ⟨?_, ?_⟩
    · rw [hlines, List.length_map, length_reportItems]
    · rw [hlines, List.forall₂_map_right_iff, List.forall₂_same]
      exact fun entry _ => List.prefix_rfl

end Scope

/-- The items of an analysis are one line each if no kept part of the source goes over a row. -/
theorem isOneLine_reportItems {parser : Parser} {source : String} {scope : Scope}
    (hok : (analyze (.available parser) source).1 = .ok scope)
    (htree : SyntaxTree.IsUnbroken (parser source).root) :
    ∀ entry ∈ Scope.reportItems scope, IsOneLine entry.2.text := by
  have hfile : IsOneLine (ReportItem.header .file).text := by decide
  exact forall_reportItems_of_analyze (P := fun item => IsOneLine item.text) hok hfile
    fun _ _ hvisited => scriptOf_showsLines (htree.of_isVisited hvisited)

/-- The lines of the report of an analysis, for any indentation. They are the lines of the texts of
the items, the first line of each behind its margin, so there are as many as there are scopes,
imports, fields and invocations, and one more for every line end in one of the texts. There is a line
for each item exactly if no text has a line end, and this is so if no part that is kept as text goes
over several rows of the source. -/
theorem report_lines_of_analysis (parser : Parser) (source : String) (scope : Scope)
    (hok : (analyze (.available parser) source).1 = .ok scope) (indent : Nat) :
    (Scope.writtenLines indent scope = (Scope.reportItems scope).flatMap fun entry =>
      (Text.lines entry.2.text.toList).modifyHead (Scope.margin indent entry.1 ++ ·)) ∧
    ((Scope.writtenLines indent scope).length =
      scope.walk.length + (Scope.allImports scope).length + (Scope.allFields scope).length +
        (Scope.allInvocations scope).length +
        ((Scope.reportItems scope).map fun entry => entry.2.text.toList.count '\n').sum) ∧
    (Scope.HasLinePerItem indent scope ↔
      ∀ entry ∈ Scope.reportItems scope, IsOneLine entry.2.text) ∧
    (SyntaxTree.IsUnbroken (parser source).root → Scope.HasLinePerItem indent scope) := by
  refine ⟨Scope.writtenLines_eq_flatMap indent scope, ?_, Scope.hasLinePerItem_iff, fun htree => ?_⟩
  · rw [Scope.length_writtenLines, Scope.length_reportItems]
  · exact Scope.hasLinePerItem_iff.mpr (isOneLine_reportItems hok htree)

/-- A class with a field, in one row. -/
def plainClass : String := "class A \x7b int x; \x7d"

/-- The syntax tree of `plainClass`. -/
def plainClassTree : SyntaxTree :=
  .node ⟨"program", ⟨0, 0⟩, ⟨0, 18⟩⟩
    [.node ⟨"class_declaration", ⟨0, 0⟩, ⟨0, 18⟩⟩
      [.node ⟨"class", ⟨0, 0⟩, ⟨0, 5⟩⟩ [], .node ⟨"identifier", ⟨0, 6⟩, ⟨0, 7⟩⟩ [],
        .node ⟨"class_body", ⟨0, 8⟩, ⟨0, 18⟩⟩
          [.node ⟨"\x7b", ⟨0, 8⟩, ⟨0, 9⟩⟩ [],
            .node ⟨"field_declaration", ⟨0, 10⟩, ⟨0, 16⟩⟩
              [.node ⟨"integral_type", ⟨0, 10⟩, ⟨0, 13⟩⟩ [],
                .node ⟨"variable_declarator", ⟨0, 14⟩, ⟨0, 15⟩⟩
                  [.node ⟨"identifier", ⟨0, 14⟩, ⟨0, 15⟩⟩ []],
                .node ⟨";", ⟨0, 15⟩, ⟨0, 16⟩⟩ []],
            .node ⟨"\x7d", ⟨0, 17⟩, ⟨0, 18⟩⟩ []]]]

/-- A parser that gives the tree of `plainClass`. -/
def plainClassParser : Parser := fun _ => ⟨plainClassTree, false⟩

/-- The report of the class in one row has three lines for three items, whatever the indentation. -/
theorem plainClass_report_lines :
    (analyze (.available plainClassParser) plainClass).1 =
        .ok ((frozenStore plainClassParser plainClass).scope 0) ∧
      Scope.report 0 ((frozenStore plainClassParser plainClass).scope 0) =
        "File\n  default class A\n    default x: int" ∧
      ∀ indent, Scope.HasLinePerItem indent ((frozenStore plainClassParser plainClass).scope 0) := by
  have hok : (analyze (.available plainClassParser) plainClass).1 =
      .ok ((frozenStore plainClassParser plainClass).scope 0) :=
    analyze_eq_ok_of_fill (by decide +kernel)
  refine ⟨hok, by decide +kernel, fun indent => ?_⟩
  exact (report_lines_of_analysis plainClassParser plainClass _ hok indent).2.2.2 (by decide +kernel)

/-- A class with an annotation in a row of its own. -/
def annotatedClass : String := "@Deprecated\npublic class A \x7b\x7d"

/-- The syntax tree of `annotatedClass`; the annotation is among the modifiers. -/
def annotatedClassTree : SyntaxTree :=
  .node ⟨"program", ⟨0, 0⟩, ⟨1, 17⟩⟩
    [.node ⟨"class_declaration", ⟨0, 0⟩, ⟨1, 17⟩⟩
      [.node ⟨"modifiers", ⟨0, 0⟩, ⟨1, 6⟩⟩
          [.node ⟨"marker_annotation", ⟨0, 0⟩, ⟨0, 11⟩⟩
              [.node ⟨"@", ⟨0, 0⟩, ⟨0, 1⟩⟩ [], .node ⟨"identifier", ⟨0, 1⟩, ⟨0, 11⟩⟩ []],
            .node ⟨"public", ⟨1, 0⟩, ⟨1, 6⟩⟩ []],
        .node ⟨"class", ⟨1, 7⟩, ⟨1, 12⟩⟩ [], .node ⟨"identifier", ⟨1, 13⟩, ⟨1, 14⟩⟩ [],
        .node ⟨"class_body", ⟨1, 15⟩, ⟨1, 17⟩⟩
          [.node ⟨"\x7b", ⟨1, 15⟩, ⟨1, 16⟩⟩ [], .node ⟨"\x7d", ⟨1, 16⟩, ⟨1, 17⟩⟩ []]]]

/-- A parser that gives the tree of `annotatedClass`. -/
def annotatedClassParser : Parser := fun _ => ⟨annotatedClassTree, false⟩

/-- The report of the annotated class has three lines for its two scopes, and the last of them starts
without a margin. -/
theorem annotatedClass_lines_broken :
    (analyze (.available annotatedClassParser) annotatedClass).1 =
        .ok ((frozenStore annotatedClassParser annotatedClass).scope 0) ∧
      Scope.report 0 ((frozenStore annotatedClassParser annotatedClass).scope 0) =
        "File\n  @Deprecated\npublic class A" ∧
      ¬ Scope.HasLinePerItem 0 ((frozenStore annotatedClassParser annotatedClass).scope 0) := by
  refine ⟨analyze_eq_ok_of_fill (by decide +kernel), by decide +kernel, fun hlines => ?_⟩
  exact absurd hlines.count (by decide +kernel)

end JavaOutline
