/-!
Names of encodings. A name is compared by its letters, digits and points in lower case; runs of all
else count as one underscore between them.
-/

set_option autoImplicit false

namespace PagePress.Text

/-- The names that one thing goes by: its own, which is written exactly so, and further ones, in
which a point may stand for an underscore. -/
structure Names where
  own : String
  further : List String
  deriving DecidableEq, Repr

namespace Names

def counts (c : Char) : Bool := c.isAlphanum || c == '.'

/-- The part of a name that is compared; `pending` tells that an underscore is due. -/
def canonical : Bool → List Char → List Char
  | _, [] => []
  | pending, c :: rest =>
    if counts c then
      if pending then '_' :: c.toLower :: canonical false rest
      else c.toLower :: canonical false rest
    else canonical true rest

def canonicalName (name : String) : String :=
  String.ofList (canonical false (name.toList.dropWhile fun c => !counts c))

def hold (n : Names) (canonical : String) : Bool :=
  n.further.contains canonical ||
    n.further.contains (canonical.map fun c => if c = '.' then '_' else c) || n.own == canonical

example : canonicalName " ISO-8859--1\n" = "iso_8859_1" := by decide +kernel

end Names

end PagePress.Text
