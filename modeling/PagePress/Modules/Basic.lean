import PagePress.Modules.Value

/-!
Modules at work: their variables, and the table of the modules that were imported. A module is known
by its position among all that were ever made, so one that left the table lives on in the variables
that hold it.
-/

set_option autoImplicit false

namespace PagePress

/-- The variables of a module, each name once. -/
abbrev Variables := NameTable Value

namespace Variables

def nameKey : String := "__name__"

def descriptionKey : String := "__doc__"

def fileKey : String := "__file__"

def packageKey : String := "__package__"

def loaderKey : String := "__loader__"

def specKey : String := "__spec__"

/-- The variable with the search path that only packages have. -/
def pathKey : String := "__path__"

/-- The variable with the predefined names, once the program of the module runs. -/
def predefinedKey : String := "__builtins__"

def fresh (name : String) (package loader spec : Value) : Variables :=
  [(nameKey, .ofText name), (descriptionKey, .nothing), (packageKey, package), (loaderKey, loader),
    (specKey, spec)]

def moduleName (v : Variables) : String := ((v.get? nameKey).map Value.shown).getD ""

def searchPath? (v : Variables) : Option SearchPath := (v.get? pathKey).map Value.asSearchPath

end Variables

/-- A module that was made: what it holds, the number of the context whose finder loads it with what
that found, and whether it is being loaded. -/
structure MadeModule where
  contents : Variables
  found : Option (Nat × Finding)
  isLoading : Bool
  deriving DecidableEq, Repr

/-- All modules that were made, in order, and the positions of the imported ones. -/
structure ModuleTable where
  made : List MadeModule
  imported : NameTable Nat
  deriving DecidableEq, Repr

namespace ModuleTable

def empty : ModuleTable := ⟨[], []⟩

def position? (t : ModuleTable) (name : String) : Option Nat := t.imported.get? name

def holds (t : ModuleTable) (name : String) : Bool := (t.position? name).isSome

def contents (t : ModuleTable) (position : Nat) : Variables :=
  ((t.made[position]?).map (·.contents)).getD []

/-- The context whose finder loads a module and what it found, if a finder found it. -/
def found? (t : ModuleTable) (position : Nat) : Option (Nat × Finding) :=
  (t.made[position]?).bind (·.found)

def finding? (t : ModuleTable) (position : Nat) : Option Finding := (t.found? position).map (·.2)

def isLoading (t : ModuleTable) (position : Nat) : Bool :=
  ((t.made[position]?).map (·.isLoading)).getD false

def next (t : ModuleTable) : Nat := t.made.length

def make (t : ModuleTable) (m : MadeModule) : ModuleTable := { t with made := t.made ++ [m] }

def modify (t : ModuleTable) (position : Nat) (f : MadeModule → MadeModule) : ModuleTable :=
  { t with made := t.made.modify position f }

def set (t : ModuleTable) (position : Nat) (name : String) (value : Value) : ModuleTable :=
  t.modify position fun m => { m with contents := m.contents.set name value }

/-- Notes that a module is not being loaded any more. -/
def finish (t : ModuleTable) (position : Nat) : ModuleTable :=
  t.modify position fun m => { m with isLoading := false }

def forget (t : ModuleTable) (name : String) : ModuleTable :=
  { t with imported := t.imported.erase name }

def register (t : ModuleTable) (name : String) (position : Nat) : ModuleTable :=
  { t with imported := (t.forget name).imported ++ [(name, position)] }

end ModuleTable

end PagePress
