import PagePress.Modules.Basic

/-!
Interpreters: the modules that were imported, the row of those that are asked for modules, and the
finders that contexts hold. A step of an import gives an answer, or fails, and leaves an interpreter
behind it.
-/

set_option autoImplicit false

namespace PagePress

abbrev Stores := Nat → Store

/-- A finder at work for a context: the number of its store, the namespace it answers for, and the
names that it began to load. -/
structure ActiveFinder where
  context : Nat
  store : Nat
  reserved : String
  loaded : List String
  deriving DecidableEq, Repr

/-- Adds a name to those that a finder began to load, if it is at work for this context. -/
def ActiveFinder.note (f : ActiveFinder) (context : Nat) (name : String) : ActiveFinder :=
  if f.context = context && !f.loaded.contains name then { f with loaded := f.loaded ++ [name] }
  else f

/-- An entry of the row that is asked for modules: the finder of a context, or one from outside. -/
inductive RowEntry
  | finder (context : Nat)
  | outside (label : String)
  deriving DecidableEq, Repr

/-- The state of an interpreter: what is installed, the modules, the row of those that are asked for
modules, the finders that contexts hold, and how many contexts were made for it. -/
structure Interpreter where
  installed : Installation
  modules : ModuleTable
  row : List RowEntry
  held : List ActiveFinder
  contexts : Nat
  deriving DecidableEq, Repr

/-- What a step of an import answers, and the interpreter behind it. -/
abbrev Outcome (α : Type) := Except Failure α × Interpreter

namespace Interpreter

def andThen {α β : Type} (o : Outcome α) (next : α → Interpreter → Outcome β) : Outcome β :=
  match o with
  | (.error failure, i) => (.error failure, i)
  | (.ok answer, i) => next answer i

def failed {α : Type} (i : Interpreter) (error : ImportError) : Outcome α :=
  (.error (.importing error), i)

/-- An interpreter over what is installed, at whose start the row has these entries from outside. -/
def startWith (installed : Installation) (outside : List String) : Interpreter :=
  ⟨installed, .empty, outside.map .outside, [], 0⟩

/-- An interpreter over what is installed, which the only entry of its row answers for. -/
def start (installed : Installation) : Interpreter := startWith installed ["installed"]

def finderOf? (i : Interpreter) : RowEntry → Option ActiveFinder
  | .finder context => i.held.find? fun f => f.context == context
  | .outside _ => none

def finders (i : Interpreter) : List ActiveFinder := i.row.filterMap i.finderOf?

def mapModules (i : Interpreter) (f : ModuleTable → ModuleTable) : Interpreter :=
  { i with modules := f i.modules }

def set (i : Interpreter) (position : Nat) (name : String) (value : Value) : Interpreter :=
  i.mapModules fun t => t.set position name value

def noteLoaded (i : Interpreter) (context : Nat) (name : String) : Interpreter :=
  { i with held := i.held.map fun f => f.note context name }

end Interpreter

end PagePress
