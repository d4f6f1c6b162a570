import JavaOutline.Syntax.Node
import JavaOutline.Text.Digit
import JavaOutline.Text.Newline

/-!
# Tree listings

A syntax tree is listed with one line for each node in preorder: the indentation, the kind and
the span. A level of depth adds two blanks in front of whatever indentation the root has.
`listing` visits pending trees one by one; `outlineLines` reads the same lines off the depths of
the nodes, and `listing_eq_outlineLines` says that they agree.

A listing can be read back. Each line is taken apart from its end, since a kind may hold anything
but a line end, and the lines are put together from the last to the first: a node takes as its
children the trees right after it that are one level deeper.
-/

namespace JavaOutline

/-- A point as a listing shows it. -/
def Point.text (point : Point) : String :=
  s!"[{point.row}, {point.column}]"

/-- A node as a listing shows it, without indentation. -/
def SyntaxNode.text (node : SyntaxNode) : String :=
  s!"{node.kind} {node.span.start.text} - {node.span.stop.text}"

namespace SyntaxTree

/-- Lists pending trees, each with the indentation of its root. -/
def listingFrom : List (String × SyntaxTree) → List String
  | [] => []
  | (indent, tree) :: pending =>
    (indent ++ tree.label.text) ::
      listingFrom (tree.children.map (fun child => ("  " ++ indent, child)) ++ pending)
termination_by pending => Tree.sizeAll (pending.map Prod.snd)
decreasing_by
  simp only [List.map_append, List.map_map, Tree.sizeAll_append, List.map_cons,
    Tree.sizeAll_cons, Tree.size_eq tree]
  have h : List.map (Prod.snd ∘ fun child => ("  " ++ indent, child)) tree.children
      = tree.children := by
    simp [Function.comp_def]
  rw [h]
  omega

/-- The lines of the listing of a tree, indented at the root by a given text. -/
def listing (indent : String) (tree : SyntaxTree) : List String :=
  listingFrom [(indent, tree)]

/-- The listing of a tree as one text. -/
def render (indent : String) (tree : SyntaxTree) : String :=
  "\n".intercalate (listing indent tree)

/-- The indentation of a line at some depth. -/
def indentAt (indent : String) : Nat → String
  | 0 => indent
  | depth + 1 => "  " ++ indentAt indent depth

/-- The lines of a listing, read off the depth of each node. -/
def outlineLines (indent : String) (lines : List (Nat × SyntaxNode)) : List String :=
  lines.map fun line => indentAt indent line.1 ++ line.2.text

/-- Pending trees are listed one after the other, each node at its depth. -/
theorem listingFrom_eq_outlineLines (indent : String) (pending : List (Nat × SyntaxTree)) :
    listingFrom (pending.map fun entry => (indentAt indent entry.1, entry.2)) =
      outlineLines indent (pending.flatMap fun entry => entry.2.outline entry.1) := by
  match pending with
  | [] => simp [listingFrom, outlineLines]
  | (depth, .node node children) :: rest =>
    have ih := listingFrom_eq_outlineLines indent
      (children.map (fun child => (depth + 1, child)) ++ rest)
    have houtline : (children.map fun child => (depth + 1, child)).flatMap
        (fun entry => entry.2.outline entry.1) = Tree.outlineAll (depth + 1) children := by
      rw [Tree.outlineAll_eq_flatMap, List.flatMap_map]
    rw [List.flatMap_append, houtline] at ih
    rw [List.map_cons, listingFrom, List.flatMap_cons, Tree.outline]
    simp only [List.map_append, List.map_map, Function.comp_def, indentAt] at ih
    simp only [Tree.children_node, Tree.label_node]
    rw [ih]
    simp [outlineLines]
termination_by Tree.sizeAll (pending.map Prod.snd)
decreasing_by
  simp only [List.map_append, List.map_map, Tree.sizeAll_append, List.map_cons, Tree.sizeAll_cons,
    Tree.size_node, Function.comp_def, List.map_id']
  omega

/-- A listing holds the nodes in preorder, each after two blanks for every level of depth. -/
theorem listing_eq_outlineLines (indent : String) (tree : SyntaxTree) :
    listing indent tree = outlineLines indent (tree.outline 0) := by
  have h := listingFrom_eq_outlineLines indent [(0, tree)]
  simpa [listing, indentAt] using h

/-! ## Reading a listing -/

/-- Reads a whole number as listings show it. -/
def readInt? (cs : List Char) : Option Int :=
  let readNat? := fun (digits : List Char) =>
    if digits.isEmpty then none else (digits.mapM Text.asciiDigit?).map Text.ofDigits
  match cs with
  | '-' :: digits => (readNat? digits).map fun n => -(n : Int)
  | digits => (readNat? digits).map fun n => (n : Int)

/-- Takes a point off the end of a line, which is given last character first. -/
def takePoint? (reversed : List Char) : Option (Point × List Char) :=
  match reversed with
  | ']' :: rest =>
    match rest.span (· ≠ ' ') with
    | (column, ' ' :: ',' :: rest) =>
      match rest.span (· ≠ '[') with
      | (row, '[' :: rest) => do
        return (⟨← readInt? row.reverse, ← readInt? column.reverse⟩, rest)
      | _ => none
    | _ => none
  | _ => none

/-- Reads a node as listings show it, without indentation. -/
def readNode? (cs : List Char) : Option SyntaxNode :=
  match takePoint? cs.reverse with
  | some (stop, ' ' :: '-' :: ' ' :: rest) =>
    match takePoint? rest with
    | some (start, ' ' :: kind) => some ⟨String.ofList kind.reverse, ⟨start, stop⟩⟩
    | _ => none
  | _ => none

/-- Reads one line of a listing: the depth, from two blanks a level, and the node. -/
def readLine? (line : List Char) : Option (Nat × SyntaxNode) :=
  let (indent, rest) := line.span (· = ' ')
  if indent.length % 2 = 0 then (readNode? rest).map fun node => (indent.length / 2, node) else none

/-- Puts a node in front of trees that follow it: those deeper than the node become its children,
which they can only be if they are one level deeper. -/
def placeNode (depth : Nat) (node : SyntaxNode) (following : List (Nat × SyntaxTree)) :
    Option (List (Nat × SyntaxTree)) :=
  let (below, after) := following.span (depth < ·.1)
  if below.all (·.1 = depth + 1) then some ((depth, .node node (below.map Prod.snd)) :: after)
  else none

/-- Puts the nodes of a listing together, from the last to the first. -/
def assemble : List (Nat × SyntaxNode) → Option (List (Nat × SyntaxTree))
  | [] => some []
  | (depth, node) :: lines => do placeNode depth node (← assemble lines)

/-- Reads the listing of a tree that was indented by nothing. -/
def readListing? (text : String) : Option SyntaxTree := do
  let lines ← (Text.lines text.toList).mapM readLine?
  match ← assemble lines with
  | [(0, tree)] => some tree
  | _ => none

end SyntaxTree

end JavaOutline
