import PagePress.Path

/-!
Locations: the named lists of paths that are searched and written to.
-/

set_option autoImplicit false

namespace PagePress

/-- A named list of paths. -/
inductive Location
  | classPath
  | extensionPath
  | sourcePath
  | classOutput
  deriving DecidableEq, Repr

def Location.name : Location → String
  | .classPath => "CLASS_PATH"
  | .extensionPath => "EXTENSION_PATH"
  | .sourcePath => "SOURCE_PATH"
  | .classOutput => "CLASS_OUTPUT"

def Location.ofName? (name : String) : Option Location :=
  [classPath, extensionPath, sourcePath, classOutput].find? fun location => location.name == name

structure LocationTable where
  classPath : List Path
  extensionPath : List Path
  sourcePath : List Path
  classOutput : List Path
  deriving DecidableEq, Repr

namespace LocationTable

def empty : LocationTable := ⟨[], [], [], []⟩

def get (t : LocationTable) : Location → List Path
  | .classPath => t.classPath
  | .extensionPath => t.extensionPath
  | .sourcePath => t.sourcePath
  | .classOutput => t.classOutput

def set (t : LocationTable) (location : Location) (paths : List Path) : LocationTable :=
  match location with
  | .classPath => { t with classPath := paths }
  | .extensionPath => { t with extensionPath := paths }
  | .sourcePath => { t with sourcePath := paths }
  | .classOutput => { t with classOutput := paths }

theorem get_set_self (t : LocationTable) (location : Location) (paths : List Path) :
    (t.set location paths).get location = paths := by
  cases location <;> rfl

theorem get_set_of_ne (t : LocationTable) {location other : Location} (paths : List Path)
    (h : other ≠ location) : (t.set location paths).get other = t.get other := by
  cases location <;> cases other <;> first | rfl | exact absurd rfl h

end LocationTable

end PagePress
