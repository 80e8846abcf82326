import PagePress.Datum.Basic
import PagePress.Modules.Finder
import PagePress.Program.Basic

/-!
Values of modules. A function and a class know the module whose program made them, and a
specification the module that it was made for; modules are known by position.
-/

set_option autoImplicit false

namespace PagePress

/-- What a variable of a module holds. -/
inductive Value
  | constant (value : Constant)
  | sequence (isTuple : Bool) (items : List Constant)
  | module (position : Nat)
  | function (name : String) (home : Nat)
  | declared (name : String) (home : Nat)
  | predefined (type name : String)
  | places (search : SearchPath)
  | spec (position : Nat)
  deriving DecidableEq, Repr

def Constant.toDatum? : Constant → Option Datum
  | .null => some .null
  | .bool b => some (.bool b)
  | .int n => some (.int n)
  | .real x => some (.real x)
  | .text s => some (.text s)
  | .other _ => none

namespace Value

def ofText (s : String) : Value := .constant (.text s)

def nothing : Value := .constant .null

/-- A value of which only the type is kept. -/
def ofType (type : String) : Value := .constant (.other type)

def typeName : Value → String
  | .constant c => c.typeName
  | .sequence isTuple _ => sequenceType isTuple
  | .module _ => "module"
  | .function _ _ => "function"
  | .declared _ _ => "type"
  | .predefined type _ => type
  | .places _ => "list"
  | .spec _ => "ModuleSpec"

def asItem : Value → Constant
  | .constant c => c
  | value => .other value.typeName

/-- A value as a text says it; of one that is no plain constant, it says the type. -/
def shown (value : Value) : String :=
  match value with
  | .constant c => ((c.toDatum?).map Datum.plainText).getD value.typeName
  | _ => value.typeName

/-- Whether a value counts as true: nothing, false, zero and what is empty do not. -/
def isTruthy : Value → Bool
  | .constant c => ((c.toDatum?).map Datum.isTruthy).getD true
  | .sequence _ items => !items.isEmpty
  | .places search => search != .nowhere
  | _ => true

/-- Where modules below a package are looked for, by what the package says about it. -/
def asSearchPath : Value → SearchPath
  | .places search => search
  | .constant .null => .top
  | .sequence _ _ | .constant (.text _) => .nowhere
  | value =>
    if ["bytes", "dict", "set", "list", "tuple"].contains value.typeName then .nowhere
    else .unusable value.typeName

end Value

end PagePress
