import PagePress.Modules.Interpreter

/-!
Where modules come from. The finders are asked first, then what is installed, as the entries from
outside stand behind them; a module with a package is looked for where that says.
-/

set_option autoImplicit false

namespace PagePress

inductive ModuleSource
  | found (finder : ActiveFinder) (finding : Finding)
  | installed (module : InstalledModule)
  deriving DecidableEq, Repr

def ModuleSource.finding? : ModuleSource → Option Finding
  | .found _ f => some f
  | .installed _ => none

def ModuleSource.found? : ModuleSource → Option (Nat × Finding)
  | .found f finding => some (f.context, finding)
  | .installed _ => none

namespace Interpreter

/-- Where a module is looked for: at the top, or in its package, which has to be one. -/
def searchPath (i : Interpreter) (name : String) : Except Failure SearchPath :=
  let package := Name.packageOf name
  if package = "" then .ok .top
  else
    match i.modules.position? package with
    | none => .error (.importing (.noModule package))
    | some position =>
      match (i.modules.contents position).searchPath? with
      | some search => .ok search
      | none => .error (.importing (.noPackage name package))

/-- Asks the finders one after the other; `provided` is looked at only where an answer depends on
it. -/
def findIn (stores : Stores) (name : String) (provided : Except Failure Bool) :
    List ActiveFinder → Except Failure (Option ModuleSource)
  | [] => .ok none
  | f :: rest =>
    match if Finder.asks f.reserved name then provided else .ok false with
    | .error failure => .error failure
    | .ok provides =>
      match Finder.find (stores f.store) f.reserved name provides with
      | some finding => .ok (some (.found f finding))
      | none => findIn stores name provided rest

def locate (i : Interpreter) (stores : Stores) (search : SearchPath) (name : String) :
    Except Failure (Option ModuleSource) :=
  match findIn stores name (i.installed.provides search name) i.finders with
  | .error failure => .error failure
  | .ok (some source) => .ok (some source)
  | .ok none => (i.installed.locate search name).map fun found => found.map .installed

end Interpreter

end PagePress
