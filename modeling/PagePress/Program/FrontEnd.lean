import PagePress.Program.Reader
import PagePress.Service.FrontEnd

/-!
A front end for programs. Every line is read on its own, and its imports are found wherever it
stands; nothing is refused, and nothing is warned of.
-/

set_option autoImplicit false

namespace PagePress

namespace Program

def lines (source : String) : List String := Text.Split.partsText '\n' source

def lineTokens (line : String) : List Token :=
  ((Token.scan line.toList).filter fun t => t != .indent && t != .lineEnd)

def importTree? (line : Nat) : Statement → Option SyntaxTree
  | .importTop module => some (.importNames [module] (some line))
  | .importAs module _ => some (.importNames [module] (some line))
  | .importMembers module _ => some (.importFrom (some module) 0 (some line))
  | _ => none

def importTrees : Nat → List String → List SyntaxTree
  | _, [] => []
  | number, line :: rest =>
    (ofWholeLine (lineTokens line)).filterMap (importTree? number) ++ importTrees (number + 1) rest

/-- The tree of a program, cut down to its imports. -/
def tree (source : String) : SyntaxTree := .node (importTrees 1 (lines source))

end Program

def FrontEnd.ofPrograms : FrontEnd where
  parse source _ := ⟨[], .done (Program.tree source)⟩
  generate _ _ _ := ⟨[], .done ()⟩

end PagePress
