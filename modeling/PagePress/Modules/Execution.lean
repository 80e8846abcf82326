import PagePress.Modules.Member
import PagePress.Modules.Predefined

/-!
Programs at work: each statement sets variables of the module whose program runs, and may import
others.
-/

set_option autoImplicit false

namespace PagePress

namespace Interpreter

/-- Makes members of a value variables of the module at a position, each under its second name. -/
def bindMembers (position : Nat) (value : Value) :
    List (String × String) → Interpreter → Outcome Unit
  | [], i => (.ok (), i)
  | (wanted, name) :: rest, i =>
    andThen (member value wanted i) fun found i =>
      bindMembers position value rest (i.set position name found)

/-- What a name stands for in the module at a position: a variable of the module, or else something
predefined. -/
def valueOfName (i : Interpreter) (position : Nat) (name : String) : Except Failure Value :=
  match (i.modules.contents position).get? name, Predefined.value? name with
  | some value, _ => .ok value
  | none, some value => .ok value
  | none, none => .error (.importing (.undefinedName name))

def valueOf (i : Interpreter) (position : Nat) : Atom → Except Failure Value
  | .constant c => .ok (.constant c)
  | .name name => i.valueOfName position name
  | .collection type names =>
    (names.mapM fun name => i.valueOfName position name).map fun _ => .ofType type

def evaluate (i : Interpreter) (position : Nat) : Expression → Except Failure Value
  | .atom a => i.valueOf position a
  | .sequence isTuple items =>
    (items.mapM fun a => (i.valueOf position a).map Value.asItem).map (.sequence isTuple)

def runStatement (load : Loader) (position : Nat) (s : Statement) (i : Interpreter) :
    Outcome Unit :=
  let bind (name : String) (value : Value) (i : Interpreter) : Interpreter :=
    i.set position name value
  match s with
  | .assign names value =>
    match i.evaluate position value with
    | .ok value => (.ok (), names.foldl (fun i name => bind name value i) i)
    | .error failure => (.error failure, i)
  | .define name => (.ok (), bind name (.function name position) i)
  | .declare name => (.ok (), bind name (.declared name position) i)
  | .importTop module =>
    andThen (importFromTop load module i) fun top i =>
      (.ok (), bind (Name.firstPart module) (.module top) i)
  | .importAs module name =>
    andThen (importFromTop load module i) fun top i =>
      andThen (memberAlong (.module top) (Name.parts module).tail i) fun value i =>
        (.ok (), bind name value i)
  | .importMembers module members =>
    andThen (importNamed load module i) fun found i =>
      andThen (importAllBelow load found (members.map (·.1)) i) fun _ i =>
        bindMembers position (.module found) members i

/-- Runs the statements of the module at a position, up to the first that fails. -/
def runProgram (load : Loader) (position : Nat) : Program → Interpreter → Outcome Unit
  | [], i => (.ok (), i)
  | s :: rest, i =>
    andThen (runStatement load position s i) fun _ i => runProgram load position rest i

/-- Runs a program in the module at a position, where the predefined names are at hand. -/
def execute (load : Loader) (position : Nat) (program : Program) (i : Interpreter) : Outcome Unit :=
  runProgram load position program (i.set position Variables.predefinedKey (.ofType "dict"))

end Interpreter

end PagePress
