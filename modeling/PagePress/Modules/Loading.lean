import PagePress.Modules.Execution
import PagePress.Modules.Source
import PagePress.Program.Reader
import PagePress.Service.CodeFile

/-!
Loading modules: a module stands in the table while its program runs, and is taken out again when
that fails; afterwards it becomes a variable of its package.
-/

set_option autoImplicit false

namespace PagePress

namespace Interpreter

def programOf (name : String) (content : Bytes) : Except Failure Program :=
  match CodeFile.read content with
  | .ok code => .ok (Program.read code.source)
  | .error .malformedCode => .error (.code .malformedCode)
  | .error fault => .error (.adapter (.corrupt name fault))

def freshFor (source : ModuleSource) (name : String) (position : Nat) : Variables :=
  match source with
  | .found _ f =>
    let v := Variables.fresh name (.ofText f.package) (.ofType "ArtifactFinder") (.spec position)
    if f.isPackage then v.set Variables.pathKey (.places .nowhere) else v
  | .installed m =>
    let v := Variables.fresh name (.ofText name) (.ofType "SourceFileLoader") (.spec position)
    let v := v.set Variables.pathKey (.places (.inside m.name))
    let v := v.set Variables.predefinedKey (.ofType "dict")
    let v := m.functions.foldl (fun v name => v.set name (.function name position)) v
    m.classes.foldl (fun v name => v.set name (.declared name position)) v

def runStored (stores : Stores) (load : Loader) (f : ActiveFinder) (name : String) (position : Nat)
    (i : Interpreter) : Outcome Unit :=
  match (stores f.store).get? name with
  | none => (.ok (), i)
  | some content =>
    match programOf name content with
    | .error failure => (.error failure, i)
    | .ok program => execute load position program i

def packagePosition? (i : Interpreter) (name : String) : Option Nat :=
  if Name.packageOf name = "" then none else i.modules.position? (Name.packageOf name)

/-- Makes a module a variable of its package. -/
def attach (name : String) (position : Nat) (i : Interpreter) : Interpreter :=
  match i.packagePosition? name with
  | some package => i.set package (Name.lastPart name) (.module position)
  | none => i

/-- Notes in the specification of a package that a module inside it is being loaded; there may be
none, but what is there has to be one. -/
def noteBelow (i : Interpreter) (name : String) : Except Failure Unit :=
  match (i.packagePosition? name).bind
      fun package => (i.modules.contents package).get? Variables.specKey with
  | none | some (.spec _) => .ok ()
  | some value =>
    if value.isTruthy then .error (.noAttribute value.typeName "_uninitialized_submodules")
    else .ok ()

/-- Loads a module that was located; `load` is for what its program imports. -/
def loadFrom (stores : Stores) (load : Loader) (source : ModuleSource) (name : String)
    (i : Interpreter) : Outcome Unit :=
  let position := i.modules.next
  let i := i.mapModules fun t =>
    (t.make ⟨freshFor source name position, source.found?, true⟩).register name position
  let outcome : Outcome Unit :=
    match source with
    | .installed _ => (.ok (), i)
    | .found f _ => runStored stores load f name position (i.noteLoaded f.context name)
  match outcome with
  | (.error failure, i) => (.error failure, i.mapModules fun t => (t.forget name).finish position)
  | (.ok (), i) => (.ok (), attach name position (i.mapModules fun t => t.finish position))

/-- Loads a module whose package has been imported; `load` is for what its program imports. -/
def loadWith (stores : Stores) (load : Loader) (name : String) (i : Interpreter) : Outcome Unit :=
  let located : Except Failure ModuleSource := do
    let search ← i.searchPath name
    match ← i.locate stores search name with
    | none => .error (.importing (.noModule name))
    | some source =>
      i.noteBelow name
      pure source
  match located with
  | .error failure => (.error failure, i)
  | .ok source => loadFrom stores load source name i

/-- Loads a module whose program may load others, nested no deeper than `depth`. -/
def loadNested (stores : Stores) : Nat → Loader
  | 0, _, i => i.failed .tooDeep
  | depth + 1, name, i => loadWith stores (loadNested stores depth) name i

/-- The number of names that a store can serve, the packages above stored names among them, is no
larger than this. -/
def nameBound (s : Store) : Nat :=
  s.entries.foldr (fun e total => e.name.length + 1 + total) 0

/-- How deep modules can be nested while they load: each of them stands in the table, so none is
loaded inside itself. -/
def depthBound (i : Interpreter) (stores : Stores) : Nat :=
  i.finders.foldr (fun f total => nameBound (stores f.store) + f.reserved.length + 1 + total)
    (i.installed.length + 1)

def importModule (stores : Stores) (name : String) (i : Interpreter) : Outcome Nat :=
  if Text.Split.startsWith name "." then i.failed (.relativeName name)
  else if name = "" then i.failed .emptyName
  else importName (loadNested stores (i.depthBound stores)) name i

def loadAlone (stores : Stores) (store : Nat) (name : String) (i : Interpreter) : Outcome Nat :=
  match (stores store).get? name with
  | none => (.error (.notStored name), i)
  | some content =>
    match programOf name content with
    | .error failure => (.error failure, i)
    | .ok program =>
      let position := i.modules.next
      let fresh := (Variables.fresh name .nothing .nothing .nothing).set Variables.fileKey
        (.ofText (Finder.moduleUri name))
      let load := loadNested stores (i.depthBound stores)
      andThen (execute load position program (i.mapModules fun t => t.make ⟨fresh, none, false⟩))
        fun _ i => (.ok position, i)

end Interpreter

end PagePress
