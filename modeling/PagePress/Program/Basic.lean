import PagePress.Number.Binary64

/-!
Programs of generated modules: assignments of constants and names, definitions, and imports. What
stands inside a definition is not part of the program: running it only binds the name.
-/

set_option autoImplicit false

namespace PagePress

open Number (Binary64)

/-- A value that is written out; of those that are not told apart only the type is kept. -/
inductive Constant
  | null
  | bool (value : Bool)
  | int (value : Int)
  | real (value : Binary64)
  | text (value : String)
  | other (type : String)
  deriving DecidableEq, Repr

/-- A constant, the name of something that has a value, or a collection: of this only the type and
the names inside are kept. -/
inductive Atom
  | constant (value : Constant)
  | name (spelling : String)
  | collection (type : String) (names : List String)
  deriving DecidableEq, Repr

/-- What is assigned: one thing, or several in a list or a tuple. -/
inductive Expression
  | atom (atom : Atom)
  | sequence (isTuple : Bool) (items : List Atom)
  deriving DecidableEq, Repr

/-- One statement of a module. Members are imported together, each under a name of its own. -/
inductive Statement
  | assign (names : List String) (value : Expression)
  | define (name : String)
  | declare (name : String)
  | importTop (module : String)
  | importAs (module name : String)
  | importMembers (module : String) (members : List (String × String))
  deriving DecidableEq, Repr

/-- A module's statements in order. -/
abbrev Program := List Statement

def sequenceType (isTuple : Bool) : String := if isTuple then "tuple" else "list"

def Atom.names : Atom → List String
  | .constant _ => []
  | .name spelling => [spelling]
  | .collection _ names => names

def Expression.asItem : Expression → Atom
  | .atom a => a
  | .sequence isTuple items => .collection (sequenceType isTuple) (items.flatMap Atom.names)

def Constant.typeName : Constant → String
  | .null => "NoneType"
  | .bool _ => "bool"
  | .int _ => "int"
  | .real _ => "float"
  | .text _ => "str"
  | .other type => type

end PagePress
