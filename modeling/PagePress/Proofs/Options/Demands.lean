import Mathlib.Tactic.SplitIfs
import PagePress.Proofs.Options.Groups
import PagePress.Service.PageTask

/-!
What option lists ask for. Groups act one after the other, so a list asks for what its first groups
ask for, changed by the others. A switch is a flag without arguments that sets something for good;
wherever it is put into a list, between whole groups, the list asks for the same and for that.
-/

set_option autoImplicit false

namespace PagePress.PageTask

theorem demandsFrom_cons_ok {d : Disk} {s t : Demands} {g : OptionGroup} {rest : List OptionGroup} :
    demandsFrom d s (g :: rest) = .ok t ↔
      check d g = .ok () ∧ ∃ r, apply s g = .ok r ∧ demandsFrom d r rest = .ok t := by
  rw [demandsFrom]
  cases check d g with
  | error failure => simp [bind, Except.bind]
  | ok done =>
    cases apply s g with
    | error failure => simp [bind, Except.bind]
    | ok r => simp [bind, Except.bind]

theorem demandsFrom_append_ok {d : Disk} {s t : Demands} {front rest : List OptionGroup} :
    demandsFrom d s (front ++ rest) = .ok t ↔
      ∃ r, demandsFrom d s front = .ok r ∧ demandsFrom d r rest = .ok t := by
  induction front generalizing s with
  | nil => simp [demandsFrom]
  | cons g front ih =>
    simp only [List.cons_append, demandsFrom_cons_ok, ih]
    constructor
    · rintro ⟨checked, q, applied, r, first, others⟩
      exact ⟨r, ⟨checked, q, applied, first⟩, others⟩
    · rintro ⟨r, ⟨checked, q, applied, first⟩, others⟩
      exact ⟨checked, q, applied, r, first, others⟩

/-- What a list of options asks for is what the groups of its cut ask for. -/
theorem demandsOf_eq_ok_iff {d : Disk} {options : List String} {s : Demands} :
    demandsOf d options = .ok s ↔ ∃ groups, OptionGroup.IsCut arity options groups ∧
      demandsFrom d ⟨none, false, [], false, false⟩ groups = .ok s := by
  unfold demandsOf
  cases cut : OptionGroup.split arity options with
  | error e =>
    constructor
    · intro demanded
      cases demanded
    · rintro ⟨groups, whole, -⟩
      cases cut.symm.trans (OptionGroup.split_eq_ok_iff.2 whole)
  | ok groups =>
    have whole := OptionGroup.split_eq_ok_iff.1 cut
    constructor
    · intro demanded
      exact ⟨groups, whole, demanded⟩
    · rintro ⟨others, again, demanded⟩
      obtain rfl := whole.unique again
      exact demanded

/-- A flag that takes no arguments and sets something that no other group takes back. -/
structure IsSwitch (flag : String) (set : Demands → Demands) : Prop where
  alone : arity flag = 0
  dashed : ¬ OptionGroup.IsFitting flag
  checked : ∀ d, check d ⟨flag, []⟩ = .ok ()
  applied : ∀ s, apply s ⟨flag, []⟩ = .ok (set s)
  lasting : ∀ s g, apply (set s) g = (apply s g).map set

theorem isSwitch_quiet : IsSwitch Flag.quiet fun s => { s with quiet := true } where
  alone := by decide
  dashed fits := absurd ((OptionGroup.isArgument_iff _).2 fits) (by decide)
  checked _ := rfl
  applied _ := rfl
  lasting s g := by
    unfold apply
    split
    · cases LanguageLevel.parse (argument g) g.flag <;> rfl
    · split_ifs <;> rfl

theorem isSwitch_strict : IsSwitch Flag.strict fun s => { s with strict := true } where
  alone := by decide
  dashed fits := absurd ((OptionGroup.isArgument_iff _).2 fits) (by decide)
  checked _ := rfl
  applied _ := rfl
  lasting s g := by
    unfold apply
    split
    · cases LanguageLevel.parse (argument g) g.flag <;> rfl
    · split_ifs <;> rfl

section Switch

variable {flag : String} {set : Demands → Demands} (switch : IsSwitch flag set) {d : Disk}

include switch

private theorem IsSwitch.demandsFrom_set {s t : Demands} {groups : List OptionGroup}
    (demanded : demandsFrom d s groups = .ok t) : demandsFrom d (set s) groups = .ok (set t) := by
  induction groups generalizing s with
  | nil =>
    cases demanded
    rfl
  | cons g rest ih =>
    obtain ⟨checked, r, applied, others⟩ := demandsFrom_cons_ok.1 demanded
    refine demandsFrom_cons_ok.2 ⟨checked, set r, ?_, ih others⟩
    rw [switch.lasting, applied]
    rfl

private theorem IsSwitch.demandsFrom_insert {s t : Demands} {front rest : List OptionGroup}
    (demanded : demandsFrom d s (front ++ rest) = .ok t) :
    demandsFrom d s (front ++ ⟨flag, []⟩ :: rest) = .ok (set t) := by
  obtain ⟨r, first, others⟩ := demandsFrom_append_ok.1 demanded
  exact demandsFrom_append_ok.2 ⟨r, first, demandsFrom_cons_ok.2
    ⟨switch.checked d, set r, switch.applied r, switch.demandsFrom_set others⟩⟩

/-- A list with a switch put into it asks for something exactly when the switch is put behind whole
groups: for what the list asks for, and for what the switch sets. -/
theorem IsSwitch.demandsOf_insert_iff {front rest : List String} {s : Demands}
    (demanded : demandsOf d (front ++ rest) = .ok s) (t : Demands) :
    demandsOf d (front ++ flag :: rest) = .ok t ↔
      t = set s ∧ ∃ groups, OptionGroup.IsCut arity front groups := by
  obtain ⟨groups, whole, given⟩ := demandsOf_eq_ok_iff.1 demanded
  have inserted {before behind : List OptionGroup} (first : OptionGroup.IsCut arity front before)
      (last : OptionGroup.IsCut arity rest behind) :
      demandsFrom d ⟨none, false, [], false, false⟩ (before ++ ⟨flag, []⟩ :: behind) =
        .ok (set s) := by
    obtain rfl : groups = before ++ behind := whole.unique (first.append last)
    exact switch.demandsFrom_insert given
  constructor
  · intro more
    obtain ⟨others, extended, given'⟩ := demandsOf_eq_ok_iff.1 more
    obtain ⟨before, behind, rfl, first, last⟩ := extended.exists_around switch.dashed switch.alone
    exact ⟨Except.ok.inj (given'.symm.trans (inserted first last)), before, first⟩
  · rintro ⟨rfl, before, first⟩
    -- The groups of the list go on behind those of its front.
    have goesOn := first.split_append rest
    rw [OptionGroup.split_eq_ok_iff.2 whole] at goesOn
    cases later : OptionGroup.split arity rest with
    | error e =>
      rw [later] at goesOn
      cases goesOn
    | ok behind =>
      have last := OptionGroup.split_eq_ok_iff.1 later
      refine demandsOf_eq_ok_iff.2 ⟨before ++ ⟨flag, []⟩ :: behind, ?_, inserted first last⟩
      refine first.append (OptionGroup.isCut_cons_iff.2 ⟨⟨switch.alone, nofun⟩, rest, rfl, last⟩)

end Switch

end PagePress.PageTask
