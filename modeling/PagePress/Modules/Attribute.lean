import PagePress.Modules.Attribute.Table
import PagePress.Modules.Basic

/-!
Attributes of values: what a value tells about itself, and what is listed for its type. A module has
its variables.
-/

set_option autoImplicit false

namespace PagePress

namespace Attribute

def ofInteger (n : Int) : NameTable Value :=
  let value (k : Int) : Value := .constant (.int k)
  [("real", value n), ("numerator", value n), ("imag", value 0), ("denominator", value 1)]

/-- What the names of a function or a class say, by the name and the one of its module. -/
def ofNamed (name : String) (module : Value) : NameTable Value :=
  [("__name__", .ofText name), ("__qualname__", .ofText name), ("__module__", module)]

def ofFinding (f : Finding) (loader : Value) : NameTable Value :=
  [("name", .ofText f.name), ("origin", (f.origin.map Value.ofText).getD .nothing),
    ("parent", .ofText f.package), ("loader", loader), ("loader_state", .nothing),
    ("cached", .nothing), ("has_location", .constant (.bool false)),
    ("submodule_search_locations", if f.isPackage then .places .nowhere else .nothing)]

end Attribute

def ModuleTable.ownAttributes (t : ModuleTable) : Value → NameTable Value
  | .constant (.int n) => Attribute.ofInteger n
  | .constant (.bool b) => Attribute.ofInteger (if b then 1 else 0)
  | .constant (.real x) =>
    [("real", .constant (.real x)), ("imag", .constant (.real (.ofDecimal false 0 0)))]
  | .module position => t.contents position
  | .function name home =>
    Attribute.ofNamed name (((t.contents home).get? Variables.nameKey).getD .nothing)
  | .declared name home =>
    ("__doc__", .nothing) ::
      Attribute.ofNamed name (((t.contents home).get? Variables.nameKey).getD .nothing)
  | .predefined _ name => Attribute.ofNamed name (.ofText "builtins")
  | .spec position =>
    match t.finding? position with
    | some f =>
      Attribute.ofFinding f (((t.contents position).get? Variables.loaderKey).getD .nothing)
    | none => []
  | _ => []

def ModuleTable.attribute? (t : ModuleTable) (value : Value) (name : String) : Option Value :=
  ((t.ownAttributes value).get? name).or (Attribute.listed? value.typeName name)

end PagePress
