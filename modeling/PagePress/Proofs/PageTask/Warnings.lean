import PagePress.Proofs.Options.Demands
import PagePress.Proofs.PageTask.Independence
import PagePress.Text.Encoding.Standard

/-!
What becomes of warnings. A task that is told to be quiet runs as it would without that, and just
leaves the warnings out of what it reports. A task that is told to be strict reports one error more
for a unit that would be compiled although its parser or its generator warned, and does not make its
artifact; on any other unit the two tasks are one.
-/

set_option autoImplicit false

namespace PagePress.PageTask

def Warns (fe : FrontEnd) (s : Demands) (u : SourceUnit) : Prop :=
  (fe.parse u.source s.level).warnings ≠ [] ∨
    (fe.generate u.source s.level s.optimization).warnings ≠ []

def withoutWarnings (reported : List Diagnostic) : List Diagnostic :=
  reported.filter fun d => d.severity != .warning

def strictError (u : SourceUnit) : Diagnostic :=
  ⟨.error, "warnings found and -Werror specified", none, some u.uri⟩

@[simp] theorem withoutWarnings_append (front rest : List Diagnostic) :
    withoutWarnings (front ++ rest) = withoutWarnings front ++ withoutWarnings rest :=
  List.filter_append front rest

@[simp] theorem withoutWarnings_warningsOf (u : SourceUnit) (s : Demands)
    (warnings : List Notice) : withoutWarnings (warningsOf u s warnings) = [] := by
  unfold warningsOf
  split
  · rfl
  · simp [withoutWarnings, diagnosticOf]

@[simp] theorem withoutWarnings_error (u : SourceUnit) (n : Notice) :
    withoutWarnings [diagnosticOf u .error n] = [diagnosticOf u .error n] := rfl

@[simp] theorem withoutWarnings_missing (u : SourceUnit) (unmet : List ImportRequest) :
    withoutWarnings (unmet.map (missing u)) = unmet.map (missing u) := by
  simp [withoutWarnings, missing, diagnosticOf]

section Quiet

variable (fe : FrontEnd) (s : Demands) (u : SourceUnit)

@[simp] theorem warningsOf_quiet (warnings : List Notice) :
    warningsOf u { s with quiet := true } warnings = [] := rfl

private theorem generated_quiet (warned : Bool) (unmet : List ImportRequest) :
    generated fe { s with quiet := true } u warned unmet =
      ⟨withoutWarnings (generated fe s u warned unmet).reported,
        (generated fe s u warned unmet).ending⟩ := by
  simp only [generated, Demands.optimization_mk]
  cases (fe.generate u.source s.level s.optimization).ending with
  | broken failure => simp
  | refused n => simp
  | done result =>
    by_cases met : unmet.isEmpty = true
    · by_cases counted : ((warned ||
          !(fe.generate u.source s.level s.optimization).warnings.isEmpty) && s.strict) = true
      · simp only [met, counted]
        simp
      · simp only [met, counted]
        simp
    · simp [met]

private theorem concluded_quiet (warned : Bool)
    (looked : List ImportRequest × Except Failure Unit) :
    concluded fe { s with quiet := true } u warned looked =
      ⟨withoutWarnings (concluded fe s u warned looked).reported,
        (concluded fe s u warned looked).ending⟩ := by
  obtain ⟨unmet, ending⟩ := looked
  cases ending with
  | error failure => simp [concluded]
  | ok done => exact generated_quiet fe s u warned unmet

private theorem outcomeOver_quiet (sees : String → Except Failure Bool) :
    outcomeOver fe { s with quiet := true } u sees =
      ⟨withoutWarnings (outcomeOver fe s u sees).reported, (outcomeOver fe s u sees).ending⟩ := by
  simp only [outcomeOver]
  cases (fe.parse u.source s.level).ending with
  | broken failure => rfl
  | refused n => simp
  | done tree => simp [concluded_quiet]

end Quiet

section Strict

variable {fe : FrontEnd} {s : Demands} {u : SourceUnit}

@[simp] theorem warningsOf_strict (warnings : List Notice) :
    warningsOf u { s with strict := true } warnings = warningsOf u s warnings := rfl

private theorem generated_strict_of_good {warned : Bool} {unmet : List ImportRequest}
    (good : (generated fe s u warned unmet).ending = .ok true)
    (warns : warned = true ∨ (fe.generate u.source s.level s.optimization).warnings ≠ []) :
    generated fe { s with strict := true } u warned unmet =
      ⟨(generated fe s u warned unmet).reported ++ [strictError u], .ok false⟩ := by
  have counted :
      (warned || !(fe.generate u.source s.level s.optimization).warnings.isEmpty) = true := by
    simpa using warns
  simp only [generated, Demands.optimization_mk] at good ⊢
  cases ended : (fe.generate u.source s.level s.optimization).ending with
  | broken failure => simp [ended] at good
  | refused n => simp [ended] at good
  | done result =>
    simp only [ended, counted, Bool.true_and] at good ⊢
    by_cases met : unmet.isEmpty = true
    · by_cases lenient : s.strict = true
      · simp [met, lenient] at good
      · simp only [met, lenient]
        rfl
    · simp [met] at good

private theorem generated_strict_of_not {warned : Bool} {unmet : List ImportRequest}
    (not : (generated fe s u warned unmet).ending = .ok true →
      ¬ (warned = true ∨ (fe.generate u.source s.level s.optimization).warnings ≠ [])) :
    generated fe { s with strict := true } u warned unmet = generated fe s u warned unmet := by
  simp only [generated, Demands.optimization_mk] at not ⊢
  cases ended : (fe.generate u.source s.level s.optimization).ending with
  | broken failure => rfl
  | refused n => rfl
  | done result =>
    simp only [ended] at not ⊢
    by_cases met : unmet.isEmpty = true
    · by_cases counted :
          (warned || !(fe.generate u.source s.level s.optimization).warnings.isEmpty) = true
      · by_cases strict : s.strict = true
        · simp [met, counted, strict]
        · have warns := not (by simp [met, counted, strict])
          exact absurd (by simpa using counted) warns
      · simp [met, counted]
    · simp [met]

private theorem concluded_strict_of_good {warned : Bool}
    {looked : List ImportRequest × Except Failure Unit}
    (good : (concluded fe s u warned looked).ending = .ok true)
    (warns : warned = true ∨ (fe.generate u.source s.level s.optimization).warnings ≠ []) :
    concluded fe { s with strict := true } u warned looked =
      ⟨(concluded fe s u warned looked).reported ++ [strictError u], .ok false⟩ := by
  obtain ⟨unmet, ending⟩ := looked
  cases ending with
  | error failure => cases good
  | ok done => exact generated_strict_of_good good warns

private theorem concluded_strict_of_not {warned : Bool}
    {looked : List ImportRequest × Except Failure Unit}
    (not : (concluded fe s u warned looked).ending = .ok true →
      ¬ (warned = true ∨ (fe.generate u.source s.level s.optimization).warnings ≠ [])) :
    concluded fe { s with strict := true } u warned looked = concluded fe s u warned looked := by
  obtain ⟨unmet, ending⟩ := looked
  cases ending with
  | error failure => rfl
  | ok done => exact generated_strict_of_not not

private theorem warns_iff : Warns fe s u ↔ (!(fe.parse u.source s.level).warnings.isEmpty) = true ∨
    (fe.generate u.source s.level s.optimization).warnings ≠ [] := by
  simp [Warns]

private theorem outcomeOver_strict_of_good {sees : String → Except Failure Bool}
    (good : (outcomeOver fe s u sees).ending = .ok true) (warns : Warns fe s u) :
    outcomeOver fe { s with strict := true } u sees =
      ⟨(outcomeOver fe s u sees).reported ++ [strictError u], .ok false⟩ := by
  simp only [outcomeOver] at good ⊢
  cases parsed : (fe.parse u.source s.level).ending with
  | broken failure => simp [parsed] at good
  | refused n => simp [parsed] at good
  | done tree =>
    simp only [parsed] at good ⊢
    simp only [concluded_strict_of_good good (warns_iff.1 warns), warningsOf_strict,
      List.append_assoc]

private theorem outcomeOver_strict_of_not {sees : String → Except Failure Bool}
    (not : (outcomeOver fe s u sees).ending = .ok true → ¬ Warns fe s u) :
    outcomeOver fe { s with strict := true } u sees = outcomeOver fe s u sees := by
  simp only [outcomeOver] at not ⊢
  cases parsed : (fe.parse u.source s.level).ending with
  | broken failure => rfl
  | refused n => rfl
  | done tree =>
    simp only [parsed, warns_iff] at not ⊢
    simp only [concluded_strict_of_not not, warningsOf_strict]

end Strict

private theorem Outcome.yield_reported [Text.Encodings] (o : Outcome) (u : SourceUnit) :
    (o.yield u).reported = o.reported := by
  unfold Outcome.yield
  split <;> rfl

private theorem Outcome.yield_replace [Text.Encodings] (o : Outcome) (reported : List Diagnostic)
    (u : SourceUnit) :
    (⟨reported, o.ending⟩ : Outcome).yield u =
      ⟨reported, (o.yield u).made, (o.yield u).log, (o.yield u).ending⟩ := by
  obtain ⟨_, ending⟩ := o
  cases ending with
  | error failure => rfl
  | ok good =>
    cases good with
    | false => rfl
    | true =>
      simp only [Outcome.yield]
      cases emission u <;> rfl

private theorem Outcome.ending_of_yield [Text.Encodings] {o : Outcome} {u : SourceUnit}
    {verdict : Bool} (ended : (o.yield u).ending = .ok verdict) : o.ending = .ok verdict := by
  unfold Outcome.yield at ended
  split at ended
  · rename_i good _
    rwa [good]
  · cases ended
  · exact ended

section Yield

variable {fe : FrontEnd} {s : Demands} {m : FileAccess} {w : Workspace} {u : SourceUnit}

private theorem yieldOver_quiet [Text.Encodings] :
    yieldOver fe { s with quiet := true } m w u =
      ⟨withoutWarnings (yieldOver fe s m w u).reported, (yieldOver fe s m w u).made,
        (yieldOver fe s m w u).log, (yieldOver fe s m w u).ending⟩ := by
  rw [yieldOver, outcomeOver_quiet, Outcome.yield_replace, yieldOver, Outcome.yield_reported]

private theorem yieldOver_strict_of_good [Text.Encodings]
    (good : (yieldOver fe s m w u).ending = .ok true) (warns : Warns fe s u) :
    yieldOver fe { s with strict := true } m w u =
      ⟨(yieldOver fe s m w u).reported ++ [strictError u], [], [], .ok false⟩ := by
  have compiled := Outcome.ending_of_yield good
  rw [yieldOver, outcomeOver_strict_of_good compiled warns, yieldOver, Outcome.yield_reported]
  rfl

private theorem yieldOver_strict_of_not [Text.Encodings]
    (not : (yieldOver fe s m w u).ending = .ok false ∨ ¬ Warns fe s u) :
    yieldOver fe { s with strict := true } m w u = yieldOver fe s m w u := by
  have mild : (outcomeOver fe s u (seen m w)).ending = .ok true → ¬ Warns fe s u := by
    rcases not with failed | quiet
    · intro good
      cases good.symm.trans (Outcome.ending_of_yield failed)
    · exact fun _ => quiet
  rw [yieldOver, outcomeOver_strict_of_not mild, yieldOver]

end Yield

/-- With a switch put into its options, a task is given exactly when the switch is put behind whole
groups; it is the task for what the options ask for and for what the switch sets. -/
private theorem IsSwitch.task_insert_iff [Text.Encodings] {flag : String} {set : Demands → Demands}
    (switch : IsSwitch flag set) (fe : FrontEnd) {d : Disk} {front rest : List String} {s : Demands}
    (demanded : demandsOf d (front ++ rest) = .ok s) (units : List SourceUnit)
    (task : Activity Bool) :
    (service fe).task d (front ++ flag :: rest) units = .ok task ↔
      task = activity fe (set s) units ∧ ∃ groups, OptionGroup.IsCut arity front groups := by
  have inserted := switch.demandsOf_insert_iff demanded
  simp only [service]
  cases more : demandsOf d (front ++ flag :: rest) with
  | error failure =>
    constructor
    · intro asked
      cases asked
    · rintro ⟨-, whole⟩
      cases more.symm.trans ((inserted (set s)).2 ⟨rfl, whole⟩)
  | ok t =>
    obtain ⟨rfl, whole⟩ := (inserted t).1 more
    constructor
    · intro asked
      cases asked
      exact ⟨rfl, whole⟩
    · rintro ⟨rfl, -⟩
      rfl

section Run

variable (fe : FrontEnd) (s : Demands) (u : SourceUnit) (delegate : FileAccess)
  (reserved : String) (w : Workspace)

private theorem run_activity_quiet [Text.Encodings] :
    let m : FileAccess := .virtual delegate reserved
    let ran := (activity fe s [u]).run m w
    ∃ reported, ran.2.diagnostics = w.diagnostics ++ reported ∧
      (activity fe { s with quiet := true } [u]).run m w =
        (ran.1, { ran.2 with diagnostics := w.diagnostics ++ withoutWarnings reported }) := by
  intro m ran
  let v := located s w
  let y := yieldOver fe s m v u
  have ranPlain : ran = (y.ending, y.leave v) := run_activity_unit fe s u delegate reserved w
  have ranQuiet : (activity fe { s with quiet := true } [u]).run m w =
      ((yieldOver fe { s with quiet := true } m v u).ending,
        (yieldOver fe { s with quiet := true } m v u).leave v) :=
    run_activity_unit fe { s with quiet := true } u delegate reserved w
  have before : v.diagnostics = w.diagnostics := located_diagnostics s w
  refine ⟨y.reported, ?_, ?_⟩
  · rw [ranPlain, ← before]
    rfl
  · rw [ranQuiet, yieldOver_quiet, ranPlain, ← before]
    rfl

private theorem run_activity_strict_of_good [Text.Encodings] :
    let m : FileAccess := .virtual delegate reserved
    let ran := (activity fe s [u]).run m w
    let strictly := (activity fe { s with strict := true } [u]).run m w
    ran.1 = .ok true → Warns fe s u →
      strictly.1 = .ok false ∧ strictly.2.diagnostics = ran.2.diagnostics ++ [strictError u] ∧
        strictly.2.index = w.index := by
  intro m ran strictly good warns
  let v := located s w
  let y := yieldOver fe s m v u
  have ranPlain : ran = (y.ending, y.leave v) := run_activity_unit fe s u delegate reserved w
  have ranStrict : strictly = ((yieldOver fe { s with strict := true } m v u).ending,
      (yieldOver fe { s with strict := true } m v u).leave v) :=
    run_activity_unit fe { s with strict := true } u delegate reserved w
  have before : v.index = w.index := located_index s w
  rw [ranPlain] at good ⊢
  rw [ranStrict, yieldOver_strict_of_good good warns, ← before]
  simp [Yield.leave, dated, y]

private theorem run_activity_strict_of_not [Text.Encodings] :
    let m : FileAccess := .virtual delegate reserved
    let ran := (activity fe s [u]).run m w
    ran.1 = .ok false ∨ ¬ Warns fe s u →
      (activity fe { s with strict := true } [u]).run m w = ran := by
  intro m ran not
  let v := located s w
  have ranPlain : ran = ((yieldOver fe s m v u).ending, (yieldOver fe s m v u).leave v) :=
    run_activity_unit fe s u delegate reserved w
  have ranStrict : (activity fe { s with strict := true } [u]).run m w =
      ((yieldOver fe { s with strict := true } m v u).ending,
        (yieldOver fe { s with strict := true } m v u).leave v) :=
    run_activity_unit fe { s with strict := true } u delegate reserved w
  rw [ranPlain] at not ⊢
  rw [ranStrict, yieldOver_strict_of_not not]

end Run

/-- The runs of a task over a unit with and without one switch more among its options, both from one
workspace and so at the same readings of its clock. To be quiet
leaves the warnings out of what is reported, and changes nothing else. To be strict adds one error
and takes the artifact away when the unit is compiled although there are warnings, and changes
nothing when it is refused or there are none. A switch may be put behind any whole groups. -/
theorem warning_switches_act_on_warnings_alone [Text.Encodings] (fe : FrontEnd) (d : Disk)
    (front rest : List String) (u : SourceUnit) (delegate : FileAccess) (reserved : String)
    (w : Workspace) {plain : Activity Bool}
    (asked : (service fe).task d (front ++ rest) [u] = .ok plain) :
    let m : FileAccess := .virtual delegate reserved
    let ran := plain.run m w
    (∀ flag ∈ [Flag.quiet, Flag.strict],
      ((∃ task, (service fe).task d (front ++ flag :: rest) [u] = .ok task) ↔
        ∃ groups, OptionGroup.IsCut arity front groups)) ∧
    (∀ quiet, (service fe).task d (front ++ Flag.quiet :: rest) [u] = .ok quiet →
      ∃ reported, ran.2.diagnostics = w.diagnostics ++ reported ∧
        quiet.run m w =
          (ran.1, { ran.2 with diagnostics := w.diagnostics ++ withoutWarnings reported })) ∧
    ∀ strict, (service fe).task d (front ++ Flag.strict :: rest) [u] = .ok strict →
      ∃ s, demandsOf d (front ++ rest) = .ok s ∧
        (ran.1 = .ok true → Warns fe s u →
          (strict.run m w).1 = .ok false ∧
          (strict.run m w).2.diagnostics = ran.2.diagnostics ++ [strictError u] ∧
          (strict.run m w).2.index = w.index) ∧
        (ran.1 = .ok false ∨ ¬ Warns fe s u → strict.run m w = ran) := by
  intro m ran
  cases demanded : demandsOf d (front ++ rest) with
  | error failure =>
    simp only [service, demanded] at asked
    cases asked
  | ok s =>
    have given : (service fe).task d (front ++ rest) [u] = .ok (activity fe s [u]) := by
      simp only [service, demanded]
      rfl
    obtain rfl : activity fe s [u] = plain := Except.ok.inj (given.symm.trans asked)
    have quietly := isSwitch_quiet.task_insert_iff fe demanded [u]
    have strictly := isSwitch_strict.task_insert_iff fe demanded [u]
    refine ⟨?_, ?_, ?_⟩
    · intro flag member
      have either : flag = Flag.quiet ∨ flag = Flag.strict := by simpa using member
      rcases either with rfl | rfl
      · simp only [quietly, exists_and_right, exists_eq, true_and]
      · simp only [strictly, exists_and_right, exists_eq, true_and]
    · intro quiet asked
      obtain ⟨rfl, -⟩ := (quietly quiet).1 asked
      exact run_activity_quiet fe s u delegate reserved w
    · intro strict asked
      obtain ⟨rfl, -⟩ := (strictly strict).1 asked
      exact ⟨s, rfl, run_activity_strict_of_good fe s u delegate reserved w,
        run_activity_strict_of_not fe s u delegate reserved w⟩

/-- A unit whose parser warns compiles; to be strict refuses it, also when its warnings are not
reported. -/
theorem strict_refuses_what_is_warned_of :
    let fe : FrontEnd := ⟨fun _ _ => ⟨[⟨"invalid escape", some 1⟩], .done (.importNames [] none)⟩,
      fun _ _ _ => ⟨[], .done ()⟩⟩
    let u : SourceUnit := ⟨"generated.A", "'\\d'\n", "utf-8"⟩
    let s : Demands := ⟨none, false, [], false, true⟩
    let w := Workspace.start .empty (Store.empty ⟨0, []⟩)
    let m : FileAccess := .virtual .standard "generated"
    let strict := activity fe { s with strict := true } [u]
    (service fe).task .empty [Flag.quiet] [u] = .ok (activity fe s [u]) ∧
      ((activity fe s [u]).run m w).1 = .ok true ∧ Warns fe s u ∧
      (service fe).task .empty [Flag.quiet, Flag.strict] [u] = .ok strict ∧
      (strict.run m w).1 = .ok false ∧ (strict.run m w).2.diagnostics = [strictError u] := by
  intro fe u s w m strict
  have demanded : demandsOf .empty [Flag.quiet] = .ok s :=
    PageCompiler.ok_of_toOption (by decide +kernel)
  have demanded' : demandsOf .empty [Flag.quiet, Flag.strict] = .ok { s with strict := true } :=
    PageCompiler.ok_of_toOption (by decide +kernel)
  have asked : (service fe).task .empty [Flag.quiet] [u] = .ok (activity fe s [u]) := by
    simp only [service, demanded]
    rfl
  have asked' : (service fe).task .empty [Flag.quiet, Flag.strict] [u] = .ok strict := by
    simp only [service, demanded']
    rfl
  have good : ((activity fe s [u]).run m w).1 = .ok true :=
    PageCompiler.ok_of_toOption (by decide +kernel)
  have warns : Warns fe s u := .inl (List.cons_ne_nil _ _)
  have silent : ((activity fe s [u]).run m w).2.diagnostics = [] := by decide +kernel
  obtain ⟨-, -, strictly⟩ := warning_switches_act_on_warnings_alone fe .empty [Flag.quiet] [] u
    .standard "generated" w asked
  obtain ⟨t, same, refused, -⟩ := strictly strict asked'
  obtain rfl : s = t := Except.ok.inj (demanded.symm.trans same)
  obtain ⟨failed, reported, -⟩ := refused good warns
  exact ⟨asked, good, warns, asked', failed, by rw [reported, silent]; rfl⟩

end PagePress.PageTask
