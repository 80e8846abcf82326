import PagePress.Text.Split

/-!
Dotted names of units, packages and modules. The package of a name is what stands before its last
dot, and nothing for a name without one. Main statements: a name is its package, a dot and its last
part, and a name lies below its own package.
-/

set_option autoImplicit false

namespace PagePress.Name

open Text

def packageChars : List Char → List Char
  | [] => []
  | c :: rest => if '.' ∈ rest then c :: packageChars rest else []

def lastChars : List Char → List Char
  | [] => []
  | c :: rest => if '.' ∈ rest then lastChars rest else if c = '.' then rest else c :: rest

def packageOf (name : String) : String := String.ofList (packageChars name.toList)

def lastPart (name : String) : String := String.ofList (lastChars name.toList)

/-- The characters in front of each dot, the shortest first. -/
def aboveChars : List Char → List (List Char)
  | [] => []
  | c :: rest =>
    let longer := (aboveChars rest).map (c :: ·)
    if c = '.' then [] :: longer else longer

/-- The names above a name, the nearest first: its package, the package of that, and so on. -/
def above (name : String) : List String :=
  ((aboveChars name.toList).filter fun cs => !cs.isEmpty).reverse.map String.ofList

def firstPart (name : String) : String := String.ofList (name.toList.takeWhile (· != '.'))

def parts (name : String) : List String := Split.partsText '.' name

def below (package last : String) : String := package ++ "." ++ last

def isBelow (name package : String) : Bool := Split.startsWith name (package ++ ".")

def isWithin (name package : String) : Bool := name == package || isBelow name package

def slashed (name : String) : String :=
  String.ofList (name.toList.map fun c => if c = '.' then '/' else c)

private theorem packageChars_lastChars (cs : List Char) (h : '.' ∈ cs) :
    cs = packageChars cs ++ '.' :: lastChars cs := by
  induction cs with
  | nil => simp at h
  | cons c rest ih =>
    by_cases hr : '.' ∈ rest
    · simp [packageChars, lastChars, hr, ← ih hr]
    · have hc : c = '.' := by
        rcases List.mem_cons.1 h with h | h
        · exact h.symm
        · exact absurd h hr
      simp [packageChars, lastChars, hr, hc]

/-- A name with a dot is its package, a dot and its last part. -/
theorem below_packageOf (name : String) (h : '.' ∈ name.toList) :
    below (packageOf name) (lastPart name) = name := by
  apply String.toList_injective
  simp [below, packageOf, lastPart, ← packageChars_lastChars name.toList h]

theorem isBelow_packageOf (name : String) (h : '.' ∈ name.toList) :
    isBelow name (packageOf name) = true := by
  have split := packageChars_lastChars name.toList h
  simp only [isBelow, Split.startsWith, List.isPrefixOf_iff_prefix]
  refine ⟨lastChars name.toList, ?_⟩
  simpa [packageOf] using split.symm

theorem packageOf_eq_empty (name : String) (h : '.' ∉ name.toList) : packageOf name = "" := by
  have none : packageChars name.toList = [] := by
    cases hn : name.toList with
    | nil => rfl
    | cons c rest =>
      have hr : '.' ∉ rest := fun hm => h (hn ▸ List.mem_cons_of_mem c hm)
      simp [packageChars, hr]
  simp [packageOf, none]

example : above "a.b.c" = ["a.b", "a"] ∧ above "a..b" = ["a.", "a"] ∧ above ".a" = [] := by
  decide +kernel

example : packageOf "a.b.c" = "a.b" ∧ packageOf "a." = "a" ∧ packageOf ".a" = "" := by
  decide +kernel

end PagePress.Name
