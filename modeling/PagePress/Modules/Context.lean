import PagePress.Modules.Loading

/-!
Contexts: for as long as a context is started it holds a finder, which stands in the row and serves
imports from its store. Shutting it down takes the finder away, and with it every module that the
finder began to load.
-/

set_option autoImplicit false

namespace PagePress

/-- A context: its number, that of its store, and the namespace that it answers for. -/
structure PageContext where
  number : Nat
  store : Nat
  reserved : String
  deriving DecidableEq, Repr

namespace PageContext

def make (store : Nat) (reserved : String) (i : Interpreter) : Outcome PageContext :=
  if reserved = "" then (.error (.configuration .emptyNamespace), i)
  else (.ok ⟨i.contexts, store, reserved⟩, { i with contexts := i.contexts + 1 })

def finder? (c : PageContext) (i : Interpreter) : Option ActiveFinder :=
  i.held.find? fun f => f.context == c.number

def isStarted (c : PageContext) (i : Interpreter) : Bool := (c.finder? i).isSome

/-- Starts a context, unless it is started: it holds a new finder, which is asked before all others. -/
def start (c : PageContext) (i : Interpreter) : Interpreter :=
  if c.isStarted i then i
  else
    { i with
      row := .finder c.number :: i.row
      held := ⟨c.number, c.store, c.reserved, []⟩ :: i.held }

/-- Shuts a context down, if it is started: it holds no finder any more, the one that it held leaves
the row if it is there, and the names that this began to load leave the table. -/
def shutDown (c : PageContext) (i : Interpreter) : Interpreter :=
  match c.finder? i with
  | none => i
  | some f =>
    { i with
      row := i.row.erase (.finder c.number)
      held := i.held.filter fun f => f.context != c.number
      modules := f.loaded.foldl ModuleTable.forget i.modules }

def loaded (c : PageContext) (i : Interpreter) : List String :=
  match c.finder? i with
  | none => []
  | some f => f.loaded.mergeSort fun a b => decide (a ≤ b)

/-- Runs a stored module outside the table of modules. -/
def loadModule (c : PageContext) (stores : Stores) (name : String) (i : Interpreter) :
    Outcome Nat :=
  Interpreter.loadAlone stores c.store name i

end PageContext

end PagePress
