/-!
Syntax trees, cut down to what holds an import. Main statement: the walk takes a row of trees first,
from left to right, and then the levels below it.
-/

set_option autoImplicit false

namespace PagePress

/-- A syntax tree: an inner node, or an import statement with its line. -/
inductive SyntaxTree
  | node (children : List SyntaxTree)
  | importNames (names : List String) (line : Option Int)
  | importFrom (module : Option String) (level : Int) (line : Option Int)
  deriving Inhabited, Repr

namespace SyntaxTree

def children : SyntaxTree → List SyntaxTree
  | .node children => children
  | .importNames _ _ => []
  | .importFrom _ _ _ => []

mutual

def size : SyntaxTree → Nat
  | .node children => sizeAll children + 1
  | .importNames _ _ => 1
  | .importFrom _ _ _ => 1

def sizeAll : List SyntaxTree → Nat
  | [] => 0
  | tree :: rest => size tree + sizeAll rest

end

def descend (row : List SyntaxTree) : List SyntaxTree := row.flatMap children

theorem sizeAll_append (a b : List SyntaxTree) :
    sizeAll (a ++ b) = sizeAll a + sizeAll b := by
  induction a with
  | nil => simp [sizeAll]
  | cons tree rest ih => simp [sizeAll, ih, Nat.add_assoc]

theorem size_eq (tree : SyntaxTree) : size tree = sizeAll tree.children + 1 := by
  cases tree <;> simp [size, children, sizeAll]

theorem sizeAll_descend (row : List SyntaxTree) :
    sizeAll (descend row) + row.length = sizeAll row := by
  induction row with
  | nil => simp [descend, sizeAll]
  | cons tree rest ih =>
    simp only [descend, List.flatMap_cons, sizeAll_append, sizeAll, size_eq, List.length_cons]
    simp only [descend] at ih
    omega

/-- The nodes of a row and of all levels below it, level by level. -/
def levels (row : List SyntaxTree) : List SyntaxTree :=
  if row = [] then [] else row ++ levels (descend row)
termination_by sizeAll row
decreasing_by
  have fewer := sizeAll_descend row
  have positive : 0 < row.length := List.length_pos_iff.2 ‹_›
  omega

def walk (tree : SyntaxTree) : List SyntaxTree := levels [tree]

theorem levels_nil : levels [] = [] := by rw [levels]; simp

theorem levels_eq (row : List SyntaxTree) : levels row = row ++ levels (descend row) := by
  by_cases h : row = []
  · subst h; simp [descend, levels_nil]
  · rw [levels]; simp [h]

end SyntaxTree

/-- A module that a source imports by its full name, and the line of the import. -/
structure ImportRequest where
  module : String
  line : Option Int
  deriving DecidableEq, Repr

namespace SyntaxTree

/-- The modules that one node imports by their full names. -/
def requests : SyntaxTree → List ImportRequest
  | .node _ => []
  | .importNames names line => names.map fun name => ⟨name, line⟩
  | .importFrom module level line =>
    match module with
    | some name => if level = 0 && name != "" then [⟨name, line⟩] else []
    | none => []

def allRequests (tree : SyntaxTree) : List ImportRequest := tree.walk.flatMap requests

end SyntaxTree

end PagePress
