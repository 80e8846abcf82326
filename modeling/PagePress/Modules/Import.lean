import PagePress.Modules.Interpreter

/-!
Imports by name: what stands above a module is imported before it. How a missing module gets into
the table is up to a loader.
-/

set_option autoImplicit false

namespace PagePress

namespace Interpreter

/-- How a module is brought into the table, and how it gets there when its package has been. -/
abbrev Loader := String → Interpreter → Outcome Unit

/-- What is done between one module of a name and the next one below it. -/
abbrev Pause := Interpreter → Outcome Unit

def ensure (load : Loader) (name : String) (i : Interpreter) : Outcome Unit :=
  if i.modules.holds name then (.ok (), i) else load name i

/-- Brings in modules of which each is the package of the one before it. Those above the first that
is in the table are left alone; behind each that was missing comes a pause. -/
def bring (load : Loader) (pause : Pause) : List String → Interpreter → Outcome Unit
  | [], i => (.ok (), i)
  | name :: above, i =>
    if i.modules.holds name then (.ok (), i)
    else
      andThen (bring load pause above i) fun _ i =>
        andThen (ensure load name i) fun _ i => pause i

/-- Imports a module after those above it; the answer is its position. -/
def importPaused (load : Loader) (pause : Pause) (name : String) (i : Interpreter) : Outcome Nat :=
  let above := if i.modules.holds name then [] else Name.above name
  andThen (bring load pause above i) fun _ i =>
    andThen (ensure load name i) fun _ i =>
      match i.modules.position? name with
      | some position => (.ok position, i)
      | none => i.failed (.noModule name)

/-- Imports a module on its own account. -/
def importName (load : Loader) : String → Interpreter → Outcome Nat :=
  importPaused load fun i => (.ok (), i)

/-- Imports a module for a statement. A package may be in the table while the one at the top of its
name is not, for that one's program failed; a statement tries it again behind each module that it
brings in above the one that it names. -/
def importNamed (load : Loader) (name : String) : Interpreter → Outcome Nat :=
  importPaused load (ensure load (Name.firstPart name)) name

/-- Imports a module for a statement that wants the one at the top of its name; the answer is the
position of that one. -/
def importFromTop (load : Loader) (name : String) (i : Interpreter) : Outcome Nat :=
  andThen (importNamed load name i) fun _ i => importName load (Name.firstPart name) i

end Interpreter

end PagePress
