import PagePress.Store.Basic

/-!
Finders: what a store offers to imports. A finder answers for the names in a reserved namespace:
for what is stored, and for the packages above it. It also answers for the packages above the
namespace itself, as long as nothing else provides them.
-/

set_option autoImplicit false

namespace PagePress

/-- What was found for a name: its address, if it is stored, and whether it is a package. -/
structure Finding where
  name : String
  origin : Option String
  isPackage : Bool
  deriving DecidableEq, Repr

def Finding.package (f : Finding) : String :=
  if f.isPackage then f.name else Name.packageOf f.name

/-- Where modules from outside are looked for: among those at the top, inside a package from
outside, or nowhere. What is no row of places cannot be used at all. -/
inductive SearchPath
  | top
  | inside (package : String)
  | nowhere
  | unusable (type : String)
  deriving DecidableEq, Repr

/-- A module that is installed: its dotted name, and what is in it. -/
structure InstalledModule where
  name : String
  functions : List String
  classes : List String
  deriving DecidableEq, Repr

abbrev Installation := List InstalledModule

namespace Installation

/-- The installed module that a name means in a search path: only its last part is looked for. -/
def locate (installed : Installation) (search : SearchPath) (name : String) :
    Except Failure (Option InstalledModule) :=
  let named (full : String) := installed.find? fun m => m.name == full
  match search with
  | .top => .ok (named (Name.lastPart name))
  | .inside package => .ok (named (Name.below package (Name.lastPart name)))
  | .nowhere => .ok none
  | .unusable type => .error (.notIterable type)

def provides (installed : Installation) (search : SearchPath) (name : String) :
    Except Failure Bool :=
  (installed.locate search name).map Option.isSome

end Installation

namespace Finder

def moduleUri (name : String) : String := "mem:///" ++ name

/-- Whether something is stored below a name. -/
def holdsBelow (s : Store) (name : String) : Bool :=
  s.packages.any fun package => Name.isWithin package name

/-- A package that is there only for what is below it. -/
def bare (name : String) : Finding := ⟨name, none, true⟩

/-- Whether the answer for a name depends on what is provided otherwise. -/
def asks (reserved name : String) : Bool :=
  !Name.isWithin name reserved && Name.isBelow reserved name

/-- What a finder answers for a name; `provided` tells whether the name is provided otherwise. -/
def find (s : Store) (reserved name : String) (provided : Bool) : Option Finding :=
  if Name.isWithin name reserved then
    if s.contains name then some ⟨name, some (moduleUri name), holdsBelow s name⟩
    else if name == reserved || holdsBelow s name then some (bare name)
    else none
  else if Name.isBelow reserved name && !provided then some (bare name)
  else none

end Finder

end PagePress
