import JavaOutline.Text.Encoding
import JavaOutline.Text.Newline
import JavaOutline.Text.Quoted

/-!
# Paths and files

A path is shown in a plain form: single slashes, no steps that stay where they are and no slash at
the end. Steps back up are kept, and so are exactly two slashes at the start.

Files are looked up from the working directory, one step of a path after the other. A step can only
be taken from a directory, and what lies outside the working directory is taken not to exist, apart
from the directories above it. A step whose name is too long is refused when it is reached, and a path
that is too long is refused before its first step.
-/

namespace JavaOutline

/-- A path in plain form: what it starts at, and its steps. -/
structure Path where
  root : String
  steps : List String
deriving DecidableEq, Repr

namespace Path

/-- The root that leading slashes stand for: two stay two, and any other number is one. -/
def rootOf (cs : List Char) : String :=
  match (cs.takeWhile (· = '/')).length with
  | 0 => ""
  | 2 => "//"
  | _ => "/"

/-- The parts of a text between slashes. -/
def parts (s : String) : List String :=
  (s.toList.splitOn '/').map String.ofList

/-- Whether a part of a path stays where it is. -/
def isIdle (part : String) : Bool :=
  part == "" || part == "."

/-- Reads a path. -/
def ofString (s : String) : Path :=
  ⟨rootOf s.toList, (parts s).filter (!isIdle ·)⟩

/-- A path as it is shown. -/
def text (path : Path) : String :=
  let shown := path.root ++ "/".intercalate path.steps
  if shown = "" then "." else shown

end Path

/-- A file with its bytes, or a directory. -/
inductive FileEntry where
  | file (bytes : List UInt8)
  | directory
deriving DecidableEq, Repr

/-- What a path leads to. -/
inductive Lookup where
  | absent
  | found (entry : FileEntry)
  /-- The path or one of its steps is longer than any name can be. -/
  | tooLong
deriving DecidableEq, Repr

/-- The files and directories of the working directory, each by its steps from there. The
directories on the way to an entry are there as well. -/
abbrev FileTree := List (List String × FileEntry)

/-- The greatest number of bytes in the name of a file. -/
def maxNameBytes : Nat := 255

/-- The greatest number of bytes in a path. -/
def maxPathBytes : Nat := 4095

namespace FileTree

/-- Puts an entry at some steps, in place of one that was there. -/
def put (files : FileTree) (steps : List String) (entry : FileEntry) : FileTree :=
  (steps, entry) :: files.filter (·.1 != steps)

/-- What is found at some steps from the working directory. -/
def entry? (files : FileTree) (steps : List String) : Option FileEntry :=
  if steps = [] then some .directory
  else match files.find? fun file => file.1 == steps with
    | some file => some file.2
    | none => if files.any fun file => steps.isPrefixOf file.1 then some .directory else none

/-- A place that steps have led to. -/
inductive Place where
  /-- At some steps from the working directory, the last one first. -/
  | inside (trail : List String)
  /-- In a directory that is not below the working directory. -/
  | outside
deriving DecidableEq, Repr

/-- What is found at a place. -/
def at? (files : FileTree) : Place → Option FileEntry
  | .inside trail => files.entry? trail.reverse
  | .outside => some .directory

/-- The place one step up. -/
def Place.above : Place → Place
  | inside (_ :: trail) => inside trail
  | _ => outside

/-- Follows steps from a place. -/
def follow (files : FileTree) : Place → List String → Lookup
  | place, [] =>
    match files.at? place with
    | some entry => .found entry
    | none => .absent
  | place, step :: steps =>
    match files.at? place with
    | some .directory =>
      if Path.isIdle step then follow files place steps
      else if step = ".." then follow files place.above steps
      else if maxNameBytes < step.utf8ByteSize then .tooLong
      else match place with
        | .inside trail => follow files (.inside (step :: trail)) steps
        | .outside => .absent
    | _ => .absent

/-- What a path leads to, given as a text. -/
def lookUp (files : FileTree) (path : String) : Lookup :=
  if path = "" ∨ path.toList.contains '\x00' then .absent
  else if maxPathBytes < path.utf8ByteSize then .tooLong
  else files.follow (if path.toList.head? = some '/' then .outside else .inside []) (Path.parts path)

end FileTree

/-- Why what a path leads to cannot be analyzed. -/
inductive FileProblem where
  | absent
  | notRegular
  | tooLong
deriving DecidableEq, Repr

/-- The text of a complaint about a path. -/
def FileProblem.message (path : Path) : FileProblem → String
  | absent => "File [" ++ path.text ++ "] does not exist"
  | notRegular => "File [" ++ path.text ++ "] is not a regular file"
  | tooLong => "[Errno 36] File name too long: " ++ Text.quoted path.text

/-- The bytes of the file that was found, if a file was found. -/
def Lookup.regularBytes : Lookup → Except FileProblem (List UInt8)
  | absent => .error .absent
  | found .directory => .error .notRegular
  | found (.file bytes) => .ok bytes
  | tooLong => .error .tooLong

/-- The text of a file, with every line end turned into a newline, if its bytes are UTF-8. -/
def fileText? (bytes : List UInt8) : Option String :=
  (Text.Encoding.utf8.decode? bytes).map Text.unifyNewlines

end JavaOutline
