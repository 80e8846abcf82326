import Mathlib.Tactic.ByContra
import PagePress.Options.Groups

/-!
Option lists and the groups that they are made of. There is at most one way to cut a list into
groups of a known flag and the arguments that it takes. A list is either cut in that way, or behind
some whole groups there is a flag that is unknown or lacks its arguments, and the error names it.
-/

set_option autoImplicit false

namespace PagePress.OptionGroup

/-- A text that may be an argument: it has a first character, which is no dash. -/
def IsFitting (arg : String) : Prop := ∃ c rest, arg.toList = c :: rest ∧ c ≠ '-'

theorem isArgument_iff (arg : String) : isArgument arg = true ↔ IsFitting arg := by
  have empty : arg = "" ↔ arg.toList = [] := String.toList_eq_nil_iff.symm
  have dash : "-".toList = ['-'] := rfl
  rw [isArgument, Bool.and_eq_true, bne_iff_ne, Ne, empty, Text.Split.startsWith, dash, IsFitting]
  cases arg.toList with
  | nil => simp
  | cons c rest => simp [List.isPrefixOf_cons_cons, Bool.beq_eq_decide_eq, @eq_comm _ '-' c]

/-- A cut of a list: groups that give it when they are put together, each a flag with as many
arguments as the flag takes. -/
structure IsCut (arity : ArityTable) (options : List String) (groups : List OptionGroup) :
    Prop where
  joined : flatten groups = options
  counted : ∀ g ∈ groups, arity g.flag = (g.args.length : Int)
  fitting : ∀ g ∈ groups, ∀ arg ∈ g.args, IsFitting arg

/-- What is wrong with a flag in front of the rest of a list: it is unknown, or the texts behind it
are fewer than it takes or may not all be arguments. -/
inductive Fault (arity : ArityTable) (flag : String) (rest : List String) :
    ConfigurationError → Prop
  | unknown (negative : arity flag < 0) : Fault arity flag rest (.unsupportedOption flag)
  | lacking {count : Nat} (takes : arity flag = (count : Int))
      (lacks : ∀ args behind, rest = args ++ behind → args.length = count →
        ∃ arg ∈ args, ¬ IsFitting arg) : Fault arity flag rest (.argumentCount flag count)

section Cut

variable {arity : ArityTable}

@[simp] theorem flatten_nil : flatten [] = [] := rfl

@[simp] theorem flatten_cons (g : OptionGroup) (rest : List OptionGroup) :
    flatten (g :: rest) = g.flag :: (g.args ++ flatten rest) := by
  simp [flatten]

@[simp] theorem flatten_append (front rest : List OptionGroup) :
    flatten (front ++ rest) = flatten front ++ flatten rest := by
  simp [flatten]

theorem isCut_nil : IsCut arity [] [] := ⟨rfl, nofun, nofun⟩

theorem isCut_cons_iff {g : OptionGroup} {groups : List OptionGroup} {options : List String} :
    IsCut arity options (g :: groups) ↔
      g.IsWellFormed arity ∧ ∃ rest, options = g.flag :: (g.args ++ rest) ∧
        IsCut arity rest groups := by
  constructor
  · rintro ⟨rfl, counted, fitting⟩
    obtain ⟨takes, others⟩ := List.forall_mem_cons.1 counted
    obtain ⟨fit, fits⟩ := List.forall_mem_cons.1 fitting
    exact ⟨⟨takes, fun arg member => (isArgument_iff arg).2 (fit arg member)⟩, flatten groups,
      flatten_cons g groups, rfl, others, fits⟩
  · rintro ⟨⟨takes, fit⟩, _, rfl, rfl, others, fits⟩
    exact ⟨flatten_cons g groups, List.forall_mem_cons.2 ⟨takes, others⟩,
      List.forall_mem_cons.2 ⟨fun arg member => (isArgument_iff arg).1 (fit arg member), fits⟩⟩

theorem IsCut.append {options more : List String} {front rest : List OptionGroup}
    (cut : IsCut arity options front) (behind : IsCut arity more rest) :
    IsCut arity (options ++ more) (front ++ rest) := by
  refine ⟨?_, ?_, ?_⟩
  · rw [flatten_append, cut.joined, behind.joined]
  · exact List.forall_mem_append.2 ⟨cut.counted, behind.counted⟩
  · exact List.forall_mem_append.2 ⟨cut.fitting, behind.fitting⟩

theorem split_cons {g : OptionGroup} (whole : g.IsWellFormed arity) (rest : List String) :
    split arity (g.flag :: (g.args ++ rest)) = (split arity rest).map (g :: ·) := by
  obtain ⟨takes, fit⟩ := whole
  have count : (arity g.flag).toNat = g.args.length := by omega
  have fine : g.args.all isArgument = true := List.all_eq_true.2 fit
  rw [split, if_neg (by omega)]
  simp only [count, List.take_left, List.drop_left, fine, Nat.lt_irrefl, decide_false,
    Bool.not_true, Bool.or_self, Bool.false_eq_true, if_false]
  cases split arity rest <;> rfl

theorem IsCut.split_append {options : List String} {front : List OptionGroup}
    (cut : IsCut arity options front) (rest : List String) :
    split arity (options ++ rest) = (split arity rest).map (front ++ ·) := by
  induction front generalizing options with
  | nil =>
    obtain rfl := cut.joined
    rw [flatten_nil, List.nil_append]
    cases split arity rest <;> rfl
  | cons g front ih =>
    obtain ⟨whole, behind, rfl, others⟩ := isCut_cons_iff.1 cut
    rw [List.cons_append, List.append_assoc, split_cons whole, ih others]
    cases split arity rest <;> rfl

theorem split_eq_ok_iff {options : List String} {groups : List OptionGroup} :
    split arity options = .ok groups ↔ IsCut arity options groups := by
  constructor
  · intro done
    refine ⟨flatten_of_split done, fun g member => ?_, fun g member arg inside => ?_⟩
    · exact (isWellFormed_of_mem_split done member).1
    · exact (isArgument_iff arg).1 ((isWellFormed_of_mem_split done member).2 arg inside)
  · intro cut
    have whole := cut.split_append []
    rw [List.append_nil, split] at whole
    rw [whole]
    exact congrArg Except.ok (List.append_nil groups)

theorem IsCut.unique {options : List String} {groups others : List OptionGroup}
    (cut : IsCut arity options groups) (again : IsCut arity options others) : groups = others :=
  Except.ok.inj ((split_eq_ok_iff.2 cut).symm.trans (split_eq_ok_iff.2 again))

/-- A flag at the start of a list is refused exactly when something is wrong with it. -/
theorem split_cons_of_fault {flag : String} {rest : List String} {e : ConfigurationError}
    (fault : Fault arity flag rest e) : split arity (flag :: rest) = .error e := by
  cases fault with
  | unknown negative => rw [split, if_pos negative]
  | @lacking count takes lacks =>
    have known : ¬ arity flag < 0 := by omega
    have counted : (arity flag).toNat = count := by omega
    have short : (decide ((rest.take count).length < count) ||
        !(rest.take count).all isArgument) = true := by
      by_contra enough
      simp only [Bool.or_eq_true, decide_eq_true_eq, Bool.not_eq_true', not_or, Nat.not_lt,
        Bool.not_eq_false] at enough
      obtain ⟨arg, member, unfit⟩ := lacks (rest.take count) (rest.drop count)
        (List.take_append_drop count rest).symm
        (Nat.le_antisymm (List.length_take_le count rest) enough.1)
      exact unfit ((isArgument_iff arg).1 (List.all_eq_true.1 enough.2 arg member))
    rw [split, if_neg known]
    simp only [counted, short, if_true]

private theorem split_eq_error_iff {options : List String} {e : ConfigurationError} :
    split arity options = .error e ↔
      ∃ front flag rest, IsCut arity (flatten front) front ∧
        options = flatten front ++ flag :: rest ∧ Fault arity flag rest e := by
  constructor
  · intro fails
    fun_induction split arity options with
    | case1 => cases fails
    | case2 flag rest negative =>
      cases fails
      exact ⟨[], flag, rest, isCut_nil, rfl, .unknown negative⟩
    | case3 flag rest known count args short =>
      cases fails
      have takes : arity flag = (count : Int) := by omega
      refine ⟨[], flag, rest, isCut_nil, rfl, .lacking takes fun others behind same length => ?_⟩
      by_contra fit
      have taken : args = others := by rw [← List.take_left' length, ← same]
      have fine : others.all isArgument = true := List.all_eq_true.2 fun arg member =>
        (isArgument_iff arg).2 (by_contra fun unfit => fit ⟨arg, member, unfit⟩)
      simp [taken, length, fine] at short
    | case4 flag rest known count args enough ih =>
      cases later : split arity (rest.drop count) with
      | ok groups =>
        rw [later] at fails
        cases fails
      | error e' =>
        rw [later] at fails
        cases fails
        obtain ⟨front, bad, behind, cut, same, fault⟩ := ih later
        simp only [Bool.or_eq_true, decide_eq_true_eq, Bool.not_eq_true', not_or, Nat.not_lt,
          Bool.not_eq_false] at enough
        have length : args.length = count :=
          Nat.le_antisymm (List.length_take_le count rest) enough.1
        have whole : (⟨flag, args⟩ : OptionGroup).IsWellFormed arity :=
          ⟨by simp only [length, count]; omega, List.all_eq_true.1 enough.2⟩
        refine ⟨⟨flag, args⟩ :: front, bad, behind, ?_, ?_, fault⟩
        · rw [flatten_cons]
          exact isCut_cons_iff.2 ⟨whole, _, rfl, cut⟩
        · rw [flatten_cons, List.cons_append, List.append_assoc, ← same, List.take_append_drop]
  · rintro ⟨front, flag, rest, cut, rfl, fault⟩
    rw [cut.split_append, split_cons_of_fault fault]
    rfl

/-- A flag that takes no arguments stands between whole groups wherever it stands, since it cannot
be an argument. -/
theorem IsCut.exists_around {front rest : List String} {flag : String} {groups : List OptionGroup}
    (cut : IsCut arity (front ++ flag :: rest) groups) (dashed : ¬ IsFitting flag)
    (alone : arity flag = 0) :
    ∃ before behind, groups = before ++ ⟨flag, []⟩ :: behind ∧ IsCut arity front before ∧
      IsCut arity rest behind := by
  induction groups generalizing front with
  | nil => exact absurd cut.joined (by simp)
  | cons g groups ih =>
    obtain ⟨⟨takes, fit⟩, more, same, others⟩ := isCut_cons_iff.1 cut
    cases front with
    | nil =>
      obtain ⟨rfl, rfl⟩ := List.cons.inj same
      have none : g.args = [] := List.eq_nil_of_length_eq_zero (by omega)
      refine ⟨[], groups, ?_, isCut_nil, ?_⟩
      · obtain ⟨flag, args⟩ := g
        obtain rfl : args = [] := none
        rfl
      · rwa [none, List.nil_append]
    | cons word front =>
      obtain ⟨rfl, behindFlag⟩ : word = g.flag ∧ front ++ flag :: rest = g.args ++ more :=
        List.cons.inj same
      -- The flag is none of the arguments of the first group, so it stands behind them.
      rcases List.append_eq_append_iff.1 behindFlag with
        ⟨tail, args, behind⟩ | ⟨tail, rfl, behind⟩
      · cases tail with
        | nil =>
          obtain rfl := behind
          have atStart : IsCut arity ([] ++ flag :: rest) groups := others
          obtain ⟨before, after, rfl, head, last⟩ := ih atStart
          obtain rfl : front = g.args := by simpa using args.symm
          refine ⟨g :: before, after, rfl, ?_, last⟩
          exact isCut_cons_iff.2 ⟨⟨takes, fit⟩, [], by simp, head⟩
        | cons other tail =>
          obtain ⟨rfl, -⟩ := List.cons.inj behind
          have inside : flag ∈ g.args := by simp [args]
          exact absurd ((isArgument_iff flag).1 (fit flag inside)) dashed
      · obtain rfl := behind
        obtain ⟨before, after, rfl, head, last⟩ := ih others
        exact ⟨g :: before, after, rfl, isCut_cons_iff.2 ⟨⟨takes, fit⟩, tail, rfl, head⟩, last⟩

end Cut

private theorem argumentTexts_texts (flag : String) (count : Nat) (args : List String) :
    argumentTexts flag count (args.map .text) =
      if args.all isArgument then .ok args
      else .error (.configuration (.argumentCount flag count)) := by
  induction args with
  | nil => rfl
  | cons arg rest ih =>
    simp only [List.map_cons, argumentTexts, ih, List.all_cons]
    by_cases fits : isArgument arg = true
    · simp only [fits, Bool.true_and, if_true]
      split <;> rfl
    · simp [fits]

theorem splitWords_texts (arity : ArityTable) (options : List String) :
    splitWords arity (options.map .text) = (split arity options).mapError .configuration := by
  fun_induction split arity options with
  | case1 => rw [List.map_nil, splitWords]; rfl
  | case2 flag rest negative =>
    rw [List.map_cons, splitWords, if_pos negative]
    rfl
  | case3 flag rest known count args short =>
    rw [List.map_cons, splitWords, if_neg known]
    have taken : (rest.map Datum.text).take count = args.map .text := List.map_take.symm
    simp only [show (arity flag).toNat = count from rfl, taken, List.length_map,
      argumentTexts_texts]
    by_cases few : args.length < count
    · simp only [few, if_true]
      rfl
    · have unfit : args.all isArgument = false := by simpa [few] using short
      simp only [few, if_false, unfit, Bool.false_eq_true]
      rfl
  | case4 flag rest known count args enough ih =>
    have taken : (rest.map Datum.text).take count = args.map .text := List.map_take.symm
    have left : (rest.map Datum.text).drop count = (rest.drop count).map .text :=
      List.map_drop.symm
    simp only [Bool.or_eq_true, decide_eq_true_eq, Bool.not_eq_true', not_or, Nat.not_lt,
      Bool.not_eq_false] at enough
    have many : ¬ args.length < count := Nat.not_lt.2 enough.1
    rw [List.map_cons, splitWords, if_neg known]
    simp only [show (arity flag).toNat = count from rfl, taken, left, List.length_map, many,
      if_false, argumentTexts_texts, enough.2, if_true, ih]
    cases split arity (rest.drop count) <;> rfl

private theorem Fault.exists_message {arity : ArityTable} {flag : String} {rest : List String}
    {e : ConfigurationError} (fault : Fault arity flag rest e) :
    ∃ before behind, e.message = before ++ "'" ++ flag ++ "'" ++ behind := by
  cases fault with
  | unknown =>
    refine ⟨"Unsupported compiler option ", "", ?_⟩
    show "Unsupported compiler option '" ++ flag ++ "'" = _
    apply String.toList_injective
    simp
  | @lacking count =>
    refine ⟨"Compiler option ", " expects " ++ toString count ++ " argument(s)", ?_⟩
    show "Compiler option '" ++ flag ++ "' expects " ++ toString count ++ " argument(s)" = _
    apply String.toList_injective
    simp

/-- Every option list has a cut, which is the only one and is what the list is split into, or a
first flag from the left that is unknown or lacks its arguments, which is named by the error. This
holds for any table of flags, and for lists of words as for lists of texts. -/
theorem option_list_is_cut_or_refused (arity : ArityTable) (options : List String) :
    (∀ groups, split arity options = .ok groups ↔ IsCut arity options groups) ∧
    (∀ groups others, IsCut arity options groups → IsCut arity options others →
      groups = others) ∧
    (∀ e, split arity options = .error e ↔
      ∃ front flag rest, IsCut arity (flatten front) front ∧
        options = flatten front ++ flag :: rest ∧ Fault arity flag rest e) ∧
    ((∃ groups, IsCut arity options groups) ∨
      ∃ front flag rest e, IsCut arity (flatten front) front ∧
        options = flatten front ++ flag :: rest ∧ Fault arity flag rest e ∧
        ∃ before behind, e.message = before ++ "'" ++ flag ++ "'" ++ behind) ∧
    splitWords arity (options.map .text) = (split arity options).mapError .configuration := by
  refine ⟨fun groups => split_eq_ok_iff, fun _ _ cut again => cut.unique again,
    fun e => split_eq_error_iff, ?_, splitWords_texts arity options⟩
  cases answer : split arity options with
  | ok groups => exact .inl ⟨groups, split_eq_ok_iff.1 answer⟩
  | error e =>
    obtain ⟨front, flag, rest, cut, same, fault⟩ := split_eq_error_iff.1 answer
    exact .inr ⟨front, flag, rest, e, cut, same, fault, fault.exists_message⟩

end PagePress.OptionGroup
