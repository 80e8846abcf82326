import PagePress.Options.Groups
import PagePress.Service.Activity
import PagePress.SourceUnit

/-!
Compiler services: a table of flags, a check of each flag's arguments, and the task that a service
makes of options and units.
-/

set_option autoImplicit false

namespace PagePress

/-- A compiler that can be asked for tasks. -/
structure Service where
  arity : ArityTable
  check : Disk → OptionGroup → Except Failure Unit
  task : Disk → List String → List SourceUnit → Except Failure (Activity Bool)

namespace Service

def checkAll (s : Service) (d : Disk) : List OptionGroup → Except Failure Unit
  | [] => .ok ()
  | g :: rest => do
    s.check d g
    checkAll s d rest

/-- Whether a service accepts a list of words: it can be cut into groups, and each passes. The
answer is the option list that the words are. -/
def validate (s : Service) (d : Disk) (words : List Datum) : Except Failure (List String) := do
  let groups ← OptionGroup.splitWords s.arity words
  s.checkAll d groups
  pure (OptionGroup.flatten groups)

end Service

end PagePress
