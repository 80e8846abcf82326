import PagePress.Artifact.Basic

/-!
The artifacts of one session in the order in which they were asked for. An artifact is known by its
position, which never changes.
-/

set_option autoImplicit false

namespace PagePress

/-- The artifacts of a session. -/
structure PackageIndex where
  artifacts : List Artifact
  deriving DecidableEq, Repr

namespace PackageIndex

def empty : PackageIndex := ⟨[]⟩

def register (index : PackageIndex) (a : Artifact) : PackageIndex := ⟨index.artifacts ++ [a]⟩

def size (index : PackageIndex) : Nat := index.artifacts.length

def members (index : PackageIndex) (package : String) : List Artifact :=
  index.artifacts.filter fun a => a.package == package

def get? (index : PackageIndex) (position : Nat) : Option Artifact := index.artifacts[position]?

def update (index : PackageIndex) (position : Nat) (a : Artifact) : PackageIndex :=
  ⟨index.artifacts.set position a⟩

theorem get?_register_of_lt {index : PackageIndex} {position : Nat} (a : Artifact)
    (there : position < index.size) : (index.register a).get? position = index.get? position :=
  List.getElem?_append_left there

theorem get?_register_size (index : PackageIndex) (a : Artifact) :
    (index.register a).get? index.size = some a := by
  simp [get?, register, size]

theorem get?_eq_none_iff {index : PackageIndex} {position : Nat} :
    index.get? position = none ↔ index.size ≤ position := List.getElem?_eq_none_iff

theorem lt_size_of_get? {index : PackageIndex} {position : Nat} {a : Artifact}
    (found : index.get? position = some a) : position < index.size :=
  (List.getElem?_eq_some_iff.1 found).1

@[simp] theorem size_register (index : PackageIndex) (a : Artifact) :
    (index.register a).size = index.size + 1 := by
  simp [size, register]

@[simp] theorem size_update (index : PackageIndex) (position : Nat) (a : Artifact) :
    (index.update position a).size = index.size := by
  simp [size, update]

theorem get?_update {index : PackageIndex} {position : Nat} {a : Artifact}
    (found : index.get? position = some a) (b : Artifact) :
    (index.update position b).get? position = some b := by
  have there : position < index.artifacts.length := lt_size_of_get? found
  simp [get?, update, there]

theorem get?_update_of_ne {index : PackageIndex} {position other : Nat} (apart : position ≠ other)
    (a : Artifact) : (index.update position a).get? other = index.get? other := by
  simp [get?, update, apart]

theorem update_update (index : PackageIndex) (position : Nat) (a b : Artifact) :
    (index.update position a).update position b = index.update position b := by
  simp [update]

end PackageIndex

end PagePress
