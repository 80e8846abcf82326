import PagePress.Settings.Basic

/-!
Settings from the environment. A variable has the value that the process gives it, also an empty
one, and else the one of the file of defaults. What a variable sets takes the place of the field in
the record, before that is checked: so a field that is set from outside is never looked at.
-/

set_option autoImplicit false

namespace PagePress

/-- The variables of the process, and the defaults for those that it does not set; a default without
a value sets nothing. -/
structure Environment where
  process : List (String × String)
  defaults : List (String × Option String)
  deriving DecidableEq, Repr

namespace Environment

def empty : Environment := ⟨[], []⟩

def value? (e : Environment) (name : String) : Option String :=
  match e.process.lookup name with
  | some value => some value
  | none => (e.defaults.lookup name).join

/-- The value of a variable, unless it is empty. -/
def filled? (e : Environment) (name : String) : Option String :=
  (e.value? name).filter fun value => value != ""

def classpathName : String := "MEMCOMPILE_CLASSPATH"

def debugName : String := "MEMCOMPILE_DEBUG"

def reservedName : String := "MEMCOMPILE_RESERVED_NAMESPACE"

def names : List String := [classpathName, debugName, reservedName]

/-- The classpath that the environment sets; empty entries are left out. -/
def classpath? (e : Environment) : Option (List String) :=
  (e.filled? classpathName).map fun value =>
    (Text.Split.partsText pathSeparator value).filter fun entry => entry != ""

def debugWords : List String := ["1", "true", "yes", "on"]

def lowered (s : String) : String := String.ofList (s.toList.map Char.toLower)

/-- Whether the environment sets debugging, and how: any other word turns it off. -/
def debug? (e : Environment) : Option Bool :=
  (e.value? debugName).map fun value =>
    debugWords.contains (lowered (Text.Blank.trimText value))

def reserved? (e : Environment) : Option String := e.filled? reservedName

def overlay (field : String) (value : Option Datum) (fields : List (String × Datum)) :
    List (String × Datum) :=
  match value with
  | some value => NameTable.set fields field value
  | none => fields

def override (e : Environment) (fields : List (String × Datum)) : List (String × Datum) :=
  let classpath := e.classpath?.map fun entries => Datum.list (entries.map .text)
  let fields := overlay "classpath" classpath fields
  let fields := overlay "debug" (e.debug?.map .bool) fields
  overlay "reserved_namespace" (e.reserved?.map .text) fields

end Environment

namespace Settings

def ofFields [FieldRules] (e : Environment) (fields : List (String × Datum)) :
    Except Failure Settings :=
  match check (.record (e.override fields)) with
  | .sound settings => .ok settings
  | .defective defects => .error (.configuration (.settings defects))

end Settings

end PagePress
