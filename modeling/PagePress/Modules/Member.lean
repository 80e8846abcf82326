import PagePress.Modules.Attribute
import PagePress.Modules.Import

/-!
Members of modules and of other values: attributes, or else modules below them. A member of a
package that is missing is imported first, as a module.
-/

set_option autoImplicit false

namespace PagePress

namespace Interpreter

def placeOf (value : Value) (i : Interpreter) : ModulePlace :=
  match value with
  | .module position =>
    let v := i.modules.contents position
    match v.get? Variables.fileKey, v.get? Variables.specKey with
    | some (.constant (.text file)), some (.spec loaded) =>
      if i.modules.isLoading loaded then .running file else .file file
    | some (.constant (.text file)), _ => .file file
    | _, _ => .unknown
  | _ => .unknown

/-- The member of a value: an attribute, or else an imported module of that name below it. -/
def member (value : Value) (name : String) (i : Interpreter) : Outcome Value :=
  match i.modules.attribute? value name with
  | some found => (.ok found, i)
  | none =>
    match i.modules.attribute? value Variables.nameKey with
    | some (.constant (.text module)) =>
      match i.modules.position? (Name.below module name) with
      | some position => (.ok (.module position), i)
      | none => i.failed (.noMember name module (i.placeOf value))
    | _ => i.failed (.noMember name "<unknown module name>" (i.placeOf value))

def memberAlong : Value → List String → Interpreter → Outcome Value
  | value, [], i => (.ok value, i)
  | value, name :: rest, i =>
    andThen (member value name i) fun value i => memberAlong value rest i

def isMissing (name : String) : Failure → Bool
  | .importing (.noModule missing) => missing == name
  | .importing (.noPackage missing _) => missing == name
  | _ => false

/-- Imports a member of a package as a module, unless the package has it; that there is no such
module is no failure yet. -/
def importBelow (load : Loader) (position : Nat) (name : String) (i : Interpreter) : Outcome Unit :=
  let v := i.modules.contents position
  if v.searchPath?.isNone || (i.modules.attribute? (.module position) name).isSome then (.ok (), i)
  else
    let full := Name.below v.moduleName name
    match importFromTop load full i with
    | (.ok _, i) => (.ok (), i)
    | (.error failure, i) => if isMissing full failure then (.ok (), i) else (.error failure, i)

def importAllBelow (load : Loader) (position : Nat) : List String → Interpreter → Outcome Unit
  | [], i => (.ok (), i)
  | name :: rest, i =>
    andThen (importBelow load position name i) fun _ i => importAllBelow load position rest i

end Interpreter

end PagePress
