import Mathlib.Tactic.ByContra
import PagePress.Name

/-!
Where dotted names lie. A name lies below a package exactly when its own package is that package or
lies below it, so what is below a package can be told from the packages of names alone.
-/

set_option autoImplicit false

namespace PagePress.Name

open Text

private theorem packageChars_append (front rest : List Char) :
    packageChars (front ++ '.' :: rest) =
      if '.' ∈ rest then front ++ '.' :: packageChars rest else front := by
  induction front with
  | nil => by_cases h : '.' ∈ rest <;> simp [packageChars, h]
  | cons c front ih =>
    have dotted : '.' ∈ front ++ '.' :: rest := by simp
    rw [List.cons_append, packageChars, if_pos dotted, ih]
    split <;> rfl

theorem packageOf_below {package last : String} (plain : '.' ∉ last.toList) :
    packageOf (below package last) = package := by
  have chars : (below package last).toList = package.toList ++ '.' :: last.toList := by
    simp [below]
  rw [packageOf, chars, packageChars_append, if_neg plain, String.ofList_toList]

theorem isBelow_iff (name package : String) :
    isBelow name package = true ↔ ∃ rest, name.toList = package.toList ++ '.' :: rest := by
  simp only [isBelow, Split.startsWith, List.isPrefixOf_iff_prefix]
  have ending : (package ++ ".").toList = package.toList ++ ['.'] := by simp
  rw [ending]
  constructor
  · rintro ⟨rest, same⟩
    exact ⟨rest, by simpa using same.symm⟩
  · rintro ⟨rest, same⟩
    exact ⟨rest, by simpa using same.symm⟩

theorem isWithin_iff (name package : String) :
    isWithin name package = true ↔ name = package ∨ isBelow name package = true := by
  simp [isWithin]

private theorem isBelow_trans {a b c : String} (h : isBelow a b = true) (k : isBelow b c = true) :
    isBelow a c = true := by
  obtain ⟨low, ha⟩ := (isBelow_iff a b).1 h
  obtain ⟨middle, hb⟩ := (isBelow_iff b c).1 k
  exact (isBelow_iff a c).2 ⟨middle ++ '.' :: low, by simp [ha, hb]⟩

theorem length_lt_of_isBelow {a b : String} (h : isBelow a b = true) :
    b.toList.length < a.toList.length := by
  obtain ⟨rest, same⟩ := (isBelow_iff a b).1 h
  rw [same, List.length_append, List.length_cons]
  omega

theorem isBelow_irrefl (name : String) : isBelow name name = false := by
  rw [Bool.eq_false_iff]
  intro h
  exact Nat.lt_irrefl _ (length_lt_of_isBelow h)

private theorem dot_mem_of_packageOf_ne_empty {name : String} (h : packageOf name ≠ "") :
    '.' ∈ name.toList := by
  by_contra none
  exact h (packageOf_eq_empty name none)

theorem mem_of_mem_packageOf {name : String} (packaged : packageOf name ≠ "") {c : Char}
    (inside : c ∈ (packageOf name).toList) : c ∈ name.toList := by
  rw [← below_packageOf name (dot_mem_of_packageOf_ne_empty packaged)]
  simp [below, inside]

theorem isBelow_package {name : String} (h : packageOf name ≠ "") :
    isBelow name (packageOf name) = true :=
  isBelow_packageOf name (dot_mem_of_packageOf_ne_empty h)

/-- A name lies below a package exactly when its own package is that one or lies below it. -/
theorem isBelow_iff_packageOf {name package : String} (h : package ≠ "") :
    isBelow name package = true ↔
      packageOf name = package ∨ isBelow (packageOf name) package = true := by
  constructor
  · intro below
    obtain ⟨rest, same⟩ := (isBelow_iff name package).1 below
    have front := packageChars_append package.toList rest
    rw [← same] at front
    split at front
    · right
      exact (isBelow_iff _ _).2 ⟨packageChars rest, by simp [packageOf, front]⟩
    · left
      simp [packageOf, front]
  · rintro (same | below)
    · subst same
      exact isBelow_package h
    · have named : packageOf name ≠ "" := by
        intro empty
        have := length_lt_of_isBelow below
        simp [empty] at this
      exact isBelow_trans (isBelow_package named) below

theorem isBelow_iff_isWithin_packageOf {name package : String} (h : package ≠ "") :
    isBelow name package = true ↔ isWithin (packageOf name) package = true := by
  rw [isBelow_iff_packageOf h, isWithin_iff]

theorem isBelow_of_isWithin_packageOf {name namespace_ : String} (h : namespace_ ≠ "")
    (within : isWithin (packageOf name) namespace_ = true) : isBelow name namespace_ = true :=
  (isBelow_iff_isWithin_packageOf h).2 within

theorem isBelow_of_isWithin {a b c : String} (h : isWithin a b = true) (k : isBelow b c = true) :
    isBelow a c = true := by
  rcases (isWithin_iff a b).1 h with rfl | below
  · exact k
  · exact isBelow_trans below k

private theorem aboveChars_eq (cs : List Char) :
    aboveChars cs =
      if '.' ∈ cs then aboveChars (packageChars cs) ++ [packageChars cs] else [] := by
  induction cs with
  | nil => rfl
  | cons c rest ih =>
    by_cases more : '.' ∈ rest
    · by_cases dot : c = '.' <;> simp [aboveChars, packageChars, more, ih, dot]
    · by_cases dot : c = '.'
      · simp [aboveChars, packageChars, more, ih, dot]
      · have other : '.' ≠ c := fun h => dot h.symm
        simp [aboveChars, more, ih, dot, other]

private theorem above_eq (name : String) :
    above name = if packageOf name = "" then [] else packageOf name :: above (packageOf name) := by
  have empty_iff : packageOf name = "" ↔ packageChars name.toList = [] := by
    simp [packageOf]
  have front : (packageOf name).toList = packageChars name.toList := by simp [packageOf]
  simp only [above, aboveChars_eq name.toList, front]
  by_cases none : packageChars name.toList = []
  · by_cases dotted : '.' ∈ name.toList <;> simp [empty_iff, none, dotted, aboveChars]
  · have dotted : '.' ∈ name.toList := dot_mem_of_packageOf_ne_empty fun h => none (empty_iff.1 h)
    have full : (packageChars name.toList).isEmpty = false := by simpa using none
    simp [none, dotted, full, packageOf]

theorem above_of_packageOf_eq_empty {name : String} (top : packageOf name = "") :
    above name = [] := by
  rw [above_eq, if_pos top]

theorem above_of_packageOf_ne_empty {name : String} (inside : packageOf name ≠ "") :
    above name = packageOf name :: above (packageOf name) := by
  rw [above_eq, if_neg inside]

theorem length_packageOf_lt {name : String} (inside : packageOf name ≠ "") :
    (packageOf name).toList.length < name.toList.length :=
  length_lt_of_isBelow (isBelow_package inside)

theorem startsWith_dot_of_parts {name : String} (named : ∀ part ∈ parts name, part ≠ "") :
    Split.startsWith name "." = false := by
  rw [Bool.eq_false_iff]
  intro dotted
  obtain ⟨rest, same⟩ := List.isPrefixOf_iff_prefix.1 dotted
  refine named "" ?_ rfl
  simp [parts, Split.partsText, ← same, Split.parts]

end PagePress.Name
