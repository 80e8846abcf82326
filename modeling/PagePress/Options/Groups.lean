import PagePress.Options.Basic

/-!
Option lists cut into groups of a flag and its arguments. How many arguments a flag takes is told
by an arity table; a negative number means that the flag is unknown. Main statements: the groups
give the list back, and every group has the arguments that its flag asks for. Lists in which a word
is no text have no groups.
-/

set_option autoImplicit false

namespace PagePress

/-- A flag with its arguments. -/
structure OptionGroup where
  flag : String
  args : List String
  deriving DecidableEq, Repr

abbrev ArityTable := String → Int

namespace OptionGroup

def flatten (groups : List OptionGroup) : List String := groups.flatMap fun g => g.flag :: g.args

/-- Whether a text may be an argument: it is not empty and not a flag. -/
def isArgument (arg : String) : Bool := arg != "" && !Text.Split.startsWith arg "-"

def split (arity : ArityTable) : List String → Except ConfigurationError (List OptionGroup)
  | [] => .ok []
  | flag :: rest =>
    if arity flag < 0 then .error (.unsupportedOption flag)
    else
      let count := (arity flag).toNat
      let args := rest.take count
      if args.length < count || !args.all isArgument then .error (.argumentCount flag count)
      else do
        let groups ← split arity (rest.drop count)
        pure (⟨flag, args⟩ :: groups)
termination_by options => options.length
decreasing_by simp only [List.length_drop, List.length_cons]; omega

def argumentTexts (flag : String) (count : Nat) : List Datum → Except Failure (List String)
  | [] => .ok []
  | .text arg :: rest =>
    if isArgument arg then (argumentTexts flag count rest).map (arg :: ·)
    else .error (.configuration (.argumentCount flag count))
  | word :: _ => .error (.noAttribute word.kindName "startswith")

/-- Cuts a list of words into groups. A word that is no text is never a flag that is known, and some
cannot even be looked up. -/
def splitWords (arity : ArityTable) : List Datum → Except Failure (List OptionGroup)
  | [] => .ok []
  | .text flag :: rest =>
    if arity flag < 0 then .error (.configuration (.unsupportedOption flag))
    else
      let count := (arity flag).toNat
      if (rest.take count).length < count then
        .error (.configuration (.argumentCount flag count))
      else do
        let args ← argumentTexts flag count (rest.take count)
        let groups ← splitWords arity (rest.drop count)
        pure (⟨flag, args⟩ :: groups)
  | .list _ :: _ => .error (.notHashable "list")
  | .record _ :: _ => .error (.notHashable "dict")
  | word :: _ => .error (.configuration (.unsupportedOption word.plainText))
termination_by words => words.length
decreasing_by simp only [List.length_drop, List.length_cons]; omega

/-- A group has as many arguments as its flag takes, all of which may be arguments. -/
def IsWellFormed (arity : ArityTable) (g : OptionGroup) : Prop :=
  arity g.flag = (g.args.length : Int) ∧ ∀ arg ∈ g.args, isArgument arg = true

private theorem split_eq_ok {arity : ArityTable} {options : List String} {groups : List OptionGroup}
    (h : split arity options = .ok groups) :
    flatten groups = options ∧ ∀ g ∈ groups, g.IsWellFormed arity := by
  fun_induction split arity options generalizing groups with
  | case1 => cases h; simp [flatten]
  | case2 => cases h
  | case3 => cases h
  | case4 =>
    rename_i flag rest known count args enough ih
    cases hs : split arity (rest.drop count) with
    | error e => rw [hs] at h; cases h
    | ok more =>
      rw [hs] at h
      obtain ⟨rejoined, wellFormed⟩ := ih hs
      cases h
      simp only [Bool.or_eq_true, decide_eq_true_eq, Bool.not_eq_true', not_or, Nat.not_lt,
        Bool.not_eq_false] at enough
      have length : args.length = count :=
        Nat.le_antisymm (List.length_take_le count rest) enough.1
      constructor
      · simp only [flatten] at rejoined
        simp [flatten, rejoined, args, List.take_append_drop]
      · intro g member
        rcases List.mem_cons.1 member with rfl | member
        · refine ⟨?_, List.all_eq_true.1 enough.2⟩
          simp only [length, count]
          omega
        · exact wellFormed g member

theorem flatten_of_split {arity : ArityTable} {options : List String} {groups : List OptionGroup}
    (h : split arity options = .ok groups) :
    flatten groups = options := (split_eq_ok h).1

theorem isWellFormed_of_mem_split {arity : ArityTable} {options : List String}
    {groups : List OptionGroup} (h : split arity options = .ok groups) {g : OptionGroup}
    (member : g ∈ groups) : g.IsWellFormed arity := (split_eq_ok h).2 g member

end OptionGroup

end PagePress
