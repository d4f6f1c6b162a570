import JavaOutline.Scope.Basic

/-!
# Reports

A scope is reported as indented text: its header, its imports, fields and invocations two columns
further in, and each child scope as a report of its own, two columns further in as well. The
indentation may be given as a negative number, which stands for none but still counts on the way
inwards.

`report` is the text for any indentation. `checkedReport` is the text as far as a machine can hold it:
an indentation has to be a signed 64-bit word, and the widest line must not start with more blanks
than there is room for, which is up to the machine.
-/

namespace JavaOutline

/-- The blanks of an indentation. -/
def blanks (indent : Int) : String :=
  String.ofList (List.replicate indent.toNat ' ')

/-- Why a report cannot be written. -/
inductive WidthFault where
  /-- The indentation is no signed 64-bit word. -/
  | notAWord
  /-- There is no room for so many blanks. -/
  | outOfMemory
deriving DecidableEq, Repr

/-- The text of a complaint about an indentation; running out of memory has none. -/
def WidthFault.message : WidthFault → String
  | notAWord => "cannot fit 'int' into an index-sized integer"
  | outOfMemory => ""

/-- The greatest signed 64-bit word. No text is longer. -/
def maxWord : Nat := Nat.pow 2 63 - 1

/-- The lines of a scope without its children. -/
def Contents.reportLines (indent : Int) (contents : Contents) : List String :=
  (blanks indent ++ contents.header.text) ::
    (contents.imports.map fun declaration => blanks (indent + 2) ++ declaration.text) ++
    (contents.fields.map fun declared => blanks (indent + 2) ++ declared.text) ++
    (contents.invocations.map fun made => blanks (indent + 2) ++ "Invoke: " ++ made.text)

namespace Scope

mutual
/-- The lines of a scope and of everything below it. -/
def reportLines (indent : Int) : Scope → List String
  | .node contents children => contents.reportLines indent ++ reportLinesAll (indent + 2) children
/-- The lines of several scopes, one after the other. -/
def reportLinesAll (indent : Int) : List Scope → List String
  | [] => []
  | scope :: scopes => reportLines indent scope ++ reportLinesAll indent scopes
end

/-- A scope as indented text. -/
def report (indent : Int) (scope : Scope) : String :=
  "\n".intercalate (reportLines indent scope)

/-- The indentation of the innermost facts that a scope can have. -/
def widestIndent (indent : Int) (scope : Scope) : Int :=
  indent + 2 * scope.height

/-- A scope as indented text, if a machine can hold it that has room for some number of blanks in a
row. -/
def checkedReport (indent : Int) (scope : Scope) (maxWidth : Nat := maxWord) :
    Except WidthFault String :=
  if indent < -(Int.pow 2 63) ∨ Int.pow 2 63 ≤ indent then .error .notAWord
  else if (maxWidth : Int) < widestIndent indent scope then .error .outOfMemory
  else .ok (report indent scope)

end Scope

end JavaOutline
