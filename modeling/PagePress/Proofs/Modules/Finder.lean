import PagePress.Modules.Finder
import PagePress.Proofs.Store.Consistency

/-!
What finders find below their namespace: a name is found exactly when it, or something below it, is
stored.
-/

set_option autoImplicit false

namespace PagePress.Finder

theorem holdsBelow_iff {s : Store} (consistent : s.Consistent) {name : String} (named : name ≠ "") :
    holdsBelow s name = true ↔
      ∃ stored, s.contains stored = true ∧ Name.isBelow stored name = true := by
  rw [holdsBelow, List.any_eq_true]
  constructor
  · rintro ⟨package, present, within⟩
    obtain ⟨stored, here, rfl⟩ := (consistent.mem_packages package).1 present
    exact ⟨stored, here, (Name.isBelow_iff_isWithin_packageOf named).2 within⟩
  · rintro ⟨stored, here, below⟩
    exact ⟨Name.packageOf stored, (consistent.mem_packages _).2 ⟨stored, here, rfl⟩,
      (Name.isBelow_iff_isWithin_packageOf named).1 below⟩

/-- Nothing is found for a name below the namespace exactly when neither the name nor anything below
it is stored. -/
theorem find_eq_none_iff {s : Store} (consistent : s.Consistent) {reserved name : String}
    (inside : Name.isBelow name reserved = true) (provided : Bool) :
    find s reserved name provided = none ↔
      ∀ stored, s.contains stored = true → Name.isWithin stored name = false := by
  have named : name ≠ "" := by
    rintro rfl
    exact absurd (Name.length_lt_of_isBelow inside) (by simp)
  have other : (name == reserved) = false := by
    rw [beq_eq_false_iff_ne]
    rintro rfl
    rw [Name.isBelow_irrefl] at inside
    cases inside
  have within : Name.isWithin name reserved = true := (Name.isWithin_iff _ _).2 (.inr inside)
  have found : find s reserved name provided = none ↔
      s.contains name = false ∧ holdsBelow s name = false := by
    simp only [find, within, if_true, other, Bool.false_or]
    cases s.contains name <;> cases holdsBelow s name <;> simp
  rw [found]
  constructor
  · rintro ⟨absent, empty⟩ stored here
    rw [← Bool.not_eq_true, Name.isWithin_iff]
    rintro (rfl | below)
    · rw [absent] at here
      cases here
    · rw [(holdsBelow_iff consistent named).2 ⟨stored, here, below⟩] at empty
      cases empty
  · intro none
    constructor
    · rw [← Bool.not_eq_true]
      intro here
      have apart := none name here
      rw [(Name.isWithin_iff name name).2 (.inl rfl)] at apart
      cases apart
    · rw [← Bool.not_eq_true, holdsBelow_iff consistent named]
      rintro ⟨stored, here, below⟩
      have apart := none stored here
      rw [(Name.isWithin_iff stored name).2 (.inr below)] at apart
      cases apart

theorem find_of_holdsBelow {s : Store} {reserved name : String}
    (within : Name.isWithin name reserved = true) (below : holdsBelow s name = true)
    (provided : Bool) :
    ∃ finding, find s reserved name provided = some finding ∧ finding.isPackage = true := by
  cases stored : s.contains name with
  | true => exact ⟨⟨name, some (moduleUri name), true⟩, by simp [find, within, stored, below], rfl⟩
  | false => exact ⟨bare name, by simp [find, within, stored, below], rfl⟩

theorem find_of_contains {s : Store} {reserved name : String}
    (within : Name.isWithin name reserved = true) (stored : s.contains name = true)
    (provided : Bool) : ∃ finding, find s reserved name provided = some finding :=
  ⟨⟨name, some (moduleUri name), holdsBelow s name⟩, by simp [find, within, stored]⟩

theorem holdsBelow_packageOf {s : Store} {name : String} (named : Name.packageOf name ≠ "")
    (below : holdsBelow s name = true) : holdsBelow s (Name.packageOf name) = true := by
  obtain ⟨package, present, within⟩ := List.any_eq_true.1 below
  have above := Name.isBelow_of_isWithin within (Name.isBelow_package named)
  exact List.any_eq_true.2 ⟨package, present, (Name.isWithin_iff _ _).2 (.inr above)⟩

theorem holdsBelow_packageOf_of_contains {s : Store} (consistent : s.Consistent) {name : String}
    (stored : s.contains name = true) : holdsBelow s (Name.packageOf name) = true :=
  List.any_eq_true.2 ⟨Name.packageOf name, (consistent.mem_packages _).2 ⟨name, stored, rfl⟩,
    (Name.isWithin_iff _ _).2 (.inl rfl)⟩

end PagePress.Finder
