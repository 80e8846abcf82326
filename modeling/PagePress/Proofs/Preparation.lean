import PagePress.Proofs.Options.Demands
import PagePress.Proofs.SharedSessions
import PagePress.Proofs.Validation
import PagePress.Text.Encoding.Standard

/-!
What happens before a service is asked for a task. A compilation asks for one exactly when all its
checks are in order; otherwise it tells the failure of the first that is not, and nothing has
changed. The service that compiles pages has a task for all options that it accepts.
-/

set_option autoImplicit false

namespace PagePress

namespace OptionGroup

private theorem eq_of_argumentTexts {flag : String} {count : Nat} {words : List Datum}
    {args : List String}
    (read : argumentTexts flag count words = .ok args) : words = args.map .text := by
  induction words generalizing args with
  | nil =>
    cases read
    rfl
  | cons word rest ih =>
    cases word with
    | text arg =>
      rw [argumentTexts] at read
      split at read
      · cases behind : argumentTexts flag count rest with
        | error e =>
          rw [behind] at read
          cases read
        | ok others =>
          rw [behind] at read
          cases read
          rw [ih behind]
          rfl
      · cases read
    | _ => cases read

private theorem eq_of_splitWords {arity : ArityTable} {words : List Datum}
    {groups : List OptionGroup}
    (cut : splitWords arity words = .ok groups) : words = (flatten groups).map .text := by
  fun_induction splitWords arity words generalizing groups with
  | case1 =>
    cases cut
    rfl
  | case4 =>
    rename_i flag rest known count enough ih
    cases read : argumentTexts flag count (rest.take count) with
    | error e =>
      rw [read] at cut
      cases cut
    | ok args =>
      rw [read] at cut
      cases later : splitWords arity (rest.drop count) with
      | error e =>
        rw [later] at cut
        cases cut
      | ok others =>
        rw [later] at cut
        cases cut
        have arguments := eq_of_argumentTexts read
        have behind := ih later
        rw [flatten_cons, List.map_cons, List.map_append, ← arguments, ← behind,
          List.take_append_drop]
  | _ => cases cut

private theorem splitWords_eq_ok_iff {arity : ArityTable} {words : List Datum}
    {groups : List OptionGroup} :
    splitWords arity words = .ok groups ↔
      words = (flatten groups).map .text ∧ IsCut arity (flatten groups) groups := by
  have texts : splitWords arity ((flatten groups).map .text) = .ok groups ↔
      IsCut arity (flatten groups) groups := by
    rw [splitWords_texts, ← split_eq_ok_iff]
    cases split arity (flatten groups) <;> simp [Except.mapError]
  constructor
  · intro cut
    have same := eq_of_splitWords cut
    exact ⟨same, texts.1 (same ▸ cut)⟩
  · rintro ⟨rfl, cut⟩
    exact texts.2 cut

end OptionGroup

namespace PageTask

private theorem exists_apply {d : Disk} {g : OptionGroup} (passes : check d g = .ok ())
    (s : Demands) :
    ∃ t, apply s g = .ok t := by
  unfold apply
  split
  · -- The level was read by the check already.
    rename_i source
    rw [check, if_pos source] at passes
    cases level : LanguageLevel.parse (argument g) g.flag with
    | error e =>
      rw [level] at passes
      cases passes
    | ok level => exact ⟨_, rfl⟩
  · split_ifs <;> exact ⟨_, rfl⟩

end PageTask

namespace Service

private theorem validate_eq_ok_iff {s : Service} {d : Disk} {words : List Datum}
    {options : List String} :
    s.validate d words = .ok options ↔ ∃ groups, OptionGroup.splitWords s.arity words = .ok groups ∧
      s.checkAll d groups = .ok () ∧ options = OptionGroup.flatten groups := by
  have validate_eq : s.validate d words = (OptionGroup.splitWords s.arity words).bind fun groups =>
      (s.checkAll d groups).bind fun _ => .ok (OptionGroup.flatten groups) := rfl
  rw [validate_eq]
  cases OptionGroup.splitWords s.arity words with
  | error e => simp [Except.bind]
  | ok groups => cases checked : s.checkAll d groups <;> simp [Except.bind, checked, eq_comm]

private theorem validate_with_task (s : Service)
    (task : Disk → List String → List SourceUnit → Except Failure (Activity Bool)) (d : Disk)
    (words : List Datum) : ({ s with task } : Service).validate d words = s.validate d words := by
  have checked (groups : List OptionGroup) :
      ({ s with task } : Service).checkAll d groups = s.checkAll d groups := by
    induction groups with
    | nil => rfl
    | cons g rest ih => rw [checkAll, checkAll, ih]
  simp only [validate, checked]

end Service

/-- The options that the service for pages accepts are those that can be cut into groups which pass
one by one. -/
theorem PageTask.validate_eq_ok_iff [Text.Encodings] {fe : FrontEnd} {d : Disk} {words : List Datum}
    {options : List String} :
    (service fe).validate d words = .ok options ↔ ∃ groups,
      words = options.map .text ∧ OptionGroup.IsCut arity options groups ∧
        ∀ g ∈ groups, check d g = .ok () := by
  have single (g : OptionGroup) : (service fe).checkAll d [g] = check d g := by
    change ((check d g).bind fun _ => .ok ()) = _
    cases check d g <;> rfl
  rw [Service.validate_eq_ok_iff]
  refine exists_congr fun groups => ?_
  rw [show (service fe).arity = arity from rfl, OptionGroup.splitWords_eq_ok_iff,
    (checksInOrder_groups (service fe) d).eq_ok_iff]
  simp only [single]
  constructor
  · rintro ⟨⟨rfl, cut⟩, passes, rfl⟩
    exact ⟨rfl, cut, passes⟩
  · rintro ⟨rfl, cut, passes⟩
    obtain rfl := cut.joined
    exact ⟨⟨rfl, cut⟩, passes, rfl⟩

theorem PageTask.exists_demandsFrom {d : Disk} {groups : List OptionGroup}
    (passes : ∀ g ∈ groups, check d g = .ok ()) (s : Demands) :
    ∃ t, demandsFrom d s groups = .ok t := by
  induction groups generalizing s with
  | nil => exact ⟨s, rfl⟩
  | cons g rest ih =>
    obtain ⟨checked, others⟩ := List.forall_mem_cons.1 passes
    obtain ⟨r, applied⟩ := exists_apply checked s
    obtain ⟨t, demanded⟩ := ih others r
    exact ⟨t, demandsFrom_cons_ok.2 ⟨checked, r, applied, demanded⟩⟩

theorem PageTask.task_of_demandsOf [Text.Encodings] {fe : FrontEnd} {d : Disk}
    {options : List String} {s : Demands} (demanded : demandsOf d options = .ok s)
    (units : List SourceUnit) :
    (service fe).task d options units = .ok (activity fe s units) := by
  change (demandsOf d options).bind _ = _
  rw [demanded]
  rfl

private theorem PageTask.exists_task [Text.Encodings] {fe : FrontEnd} {d : Disk}
    {words : List Datum} {options : List String}
    (accepted : (service fe).validate d words = .ok options) (units : List SourceUnit) :
    ∃ activity, (service fe).task d options units = .ok activity := by
  obtain ⟨groups, -, cut, passes⟩ := validate_eq_ok_iff.1 accepted
  obtain ⟨s, demanded⟩ := exists_demandsFrom passes ⟨none, false, [], false, false⟩
  exact ⟨_, task_of_demandsOf (demandsOf_eq_ok_iff.2 ⟨groups, cut, demanded⟩) units⟩

namespace PageCompiler

/-- A name of a unit: something that neither starts nor ends with a dot. -/
structure IsUnitName (name : String) : Prop where
  filled : name ≠ ""
  first : name.toList.head? ≠ some '.'
  last : name.toList.getLast? ≠ some '.'

private theorem isUnitName_iff (name : String) : isUnitName name = true ↔ IsUnitName name := by
  have dot : ".".toList = ['.'] := rfl
  have head (cs : List Char) : ['.'].isPrefixOf cs = true ↔ cs.head? = some '.' := by
    cases cs with
    | nil => simp
    | cons c rest => simp [List.isPrefixOf_cons_cons, @eq_comm _ '.' c]
  have starts : Text.Split.startsWith name "." = true ↔ name.toList.head? = some '.' := by
    rw [Text.Split.startsWith, dot, head]
  have ends : Text.Split.endsWith name "." = true ↔ name.toList.getLast? = some '.' := by
    rw [Text.Split.endsWith, dot, List.reverse_singleton, head, List.head?_reverse]
  simp only [isUnitName, Bool.and_eq_true, bne_iff_ne, Bool.not_eq_true', ← Bool.not_eq_true,
    starts, ends]
  constructor
  · rintro ⟨⟨filled, first⟩, last⟩
    exact ⟨filled, first, last⟩
  · rintro ⟨filled, first, last⟩
    exact ⟨⟨filled, first⟩, last⟩

/-- All that a compilation checks is in order: a sink is open, the name is that of a unit, the text
makes a unit, the classpath can be searched and the service accepts the options. -/
structure InOrder [Text.Encodings] (c : PageCompiler) (s : Service) (d : Disk) (name : String)
    (sink : Sink) (u : SourceUnit) (options : List String) : Prop where
  opened : c.sinks.getLast? = some sink
  named : IsUnitName name
  accepted : SourceUnit.make name sink.text sink.encoding = .ok u
  searched : ∀ entry ∈ c.classpath, IsEntry d entry
  validated : s.validate d c.options.words = .ok options

/-- What the first check that is not in order tells. -/
inductive Refusal [Text.Encodings] (c : PageCompiler) (s : Service) (d : Disk) (name : String) :
    Failure → Prop
  | noSink (none : c.sinks = []) : Refusal c s d name (.adapter .noSink)
  | name {sink : Sink} (opened : c.sinks.getLast? = some sink) (unfit : ¬ IsUnitName name) :
      Refusal c s d name (.configuration (.unitName name))
  | text {sink : Sink} {failure : Failure} (opened : c.sinks.getLast? = some sink)
      (named : IsUnitName name)
      (refused : SourceUnit.make name sink.text sink.encoding = .error failure) :
      Refusal c s d name failure
  | classpath {sink : Sink} {u : SourceUnit} {front rest : List Path} {entry : Path}
      {failure : Failure} (opened : c.sinks.getLast? = some sink) (named : IsUnitName name)
      (accepted : SourceUnit.make name sink.text sink.encoding = .ok u)
      (split : c.classpath = front ++ entry :: rest) (searched : ∀ path ∈ front, IsEntry d path)
      (fault : EntryFault d entry failure) : Refusal c s d name failure
  | options {sink : Sink} {u : SourceUnit} {failure : Failure}
      (opened : c.sinks.getLast? = some sink) (named : IsUnitName name)
      (accepted : SourceUnit.make name sink.text sink.encoding = .ok u)
      (searched : ∀ entry ∈ c.classpath, IsEntry d entry)
      (refused : s.validate d c.options.words = .error failure) : Refusal c s d name failure

section Checks

variable {c : PageCompiler} {s : Service} {d : Disk} {name : String}

private theorem make_eq [Text.Encodings] (name source encoding : String) :
    SourceUnit.make name source encoding =
      (SourceUnit.encodeAs name encoding source).map fun _ => ⟨name, source, encoding⟩ := by
  unfold SourceUnit.make
  cases SourceUnit.encodeAs name encoding source <;> rfl

private theorem prepare_eq_checks [Text.Encodings] {sink : Sink}
    (opened : c.sinks.getLast? = some sink) (named : IsUnitName name) :
    c.prepare s d name =
      (SourceUnit.make name sink.text sink.encoding).bind fun u =>
        (checkClasspath d c.classpath).bind fun _ =>
          (s.validate d c.options.words).map fun options => (u, options) := by
  rw [prepare_eq s opened, if_pos ((isUnitName_iff name).2 named), make_eq]
  cases SourceUnit.encodeAs name sink.encoding sink.text <;> rfl

private theorem prepare_eq_ok_iff [Text.Encodings] {u : SourceUnit} {options : List String} :
    c.prepare s d name = .ok (u, options) ↔ ∃ sink, c.InOrder s d name sink u options := by
  constructor
  · intro prepared
    obtain ⟨sink, opened, named, accepted, searched, validated⟩ := prepare_ok prepared
    exact ⟨sink, opened, (isUnitName_iff name).1 named, accepted,
      checkClasspath_eq_ok_iff.1 searched, validated⟩
  · rintro ⟨sink, opened, named, accepted, searched, validated⟩
    rw [prepare_eq_checks opened named, accepted, checkClasspath_eq_ok_iff.2 searched, validated]
    rfl

private theorem prepare_of_refusal [Text.Encodings] {failure : Failure}
    (refusal : c.Refusal s d name failure) :
    c.prepare s d name = .error failure := by
  cases refusal with
  | noSink none =>
    rw [prepare, none]
    rfl
  | name opened unfit =>
    have unnamed : ¬ isUnitName name = true := fun named => unfit ((isUnitName_iff name).1 named)
    rw [prepare_eq s opened, if_neg unnamed]
  | text opened named refused =>
    rw [prepare_eq_checks opened named, refused]
    rfl
  | classpath opened named accepted split searched fault =>
    have complains := checkClasspath_eq_error_iff.2 ⟨_, _, _, split, searched, fault⟩
    rw [prepare_eq_checks opened named, accepted, complains]
    rfl
  | options opened named accepted searched refused =>
    rw [prepare_eq_checks opened named, accepted, checkClasspath_eq_ok_iff.2 searched, refused]
    rfl

theorem inOrder_or_refusal [Text.Encodings] (c : PageCompiler) (s : Service) (d : Disk)
    (name : String) :
    (∃ sink u options, c.InOrder s d name sink u options) ∨
      ∃ failure, c.Refusal s d name failure := by
  cases opened : c.sinks.getLast? with
  | none => exact .inr ⟨_, .noSink (List.getLast?_eq_none_iff.1 opened)⟩
  | some sink =>
    by_cases named : IsUnitName name
    · cases accepted : SourceUnit.make name sink.text sink.encoding with
      | error failure => exact .inr ⟨failure, .text opened named accepted⟩
      | ok u =>
        cases searched : checkClasspath d c.classpath with
        | error failure =>
          obtain ⟨front, entry, rest, split, fine, fault⟩ := checkClasspath_eq_error_iff.1 searched
          exact .inr ⟨failure, .classpath opened named accepted split fine fault⟩
        | ok done =>
          have fine := checkClasspath_eq_ok_iff.1 searched
          cases validated : s.validate d c.options.words with
          | error failure => exact .inr ⟨failure, .options opened named accepted fine validated⟩
          | ok options => exact .inl ⟨sink, u, options, opened, named, accepted, fine, validated⟩
    · exact .inr ⟨_, .name opened named⟩

end Checks

/-- A compilation asks its service for the task of a unit under options: whatever the service refuses
that task with is what the compilation answers. -/
def AsksFor [Text.Encodings] (c : PageCompiler) (s : Service) (name : String)
    (guide : Option LineGuide) (w : Workspace) (u : SourceUnit) (options : List String) : Prop :=
  ∀ (task : Disk → List String → List SourceUnit → Except Failure (Activity Bool))
    (failure : Failure), task w.disk options [u] = .error failure →
      (c.compile { s with task } name guide w).1 = .error failure

section Asking

variable {c : PageCompiler} {s : Service} {name : String} {guide : Option LineGuide} {w : Workspace}

theorem compile_of_refusal [Text.Encodings] {failure : Failure}
    (refusal : c.Refusal s w.disk name failure) :
    c.compile s name guide w = (.error failure, w) := by
  rw [compile, prepare_of_refusal refusal]

theorem compile_of_inOrder [Text.Encodings] {sink : Sink} {u : SourceUnit} {options : List String}
    (inOrder : c.InOrder s w.disk name sink u options) :
    c.compile s name guide w = c.execute s u options guide w := by
  rw [compile, prepare_eq_ok_iff.2 ⟨sink, inOrder⟩]

private theorem inOrder_congr [Text.Encodings]
    (task : Disk → List String → List SourceUnit → Except Failure (Activity Bool)) {d : Disk}
    {sink : Sink} {u : SourceUnit} {options : List String}
    (inOrder : c.InOrder s d name sink u options) :
    c.InOrder { s with task } d name sink u options :=
  ⟨inOrder.opened, inOrder.named, inOrder.accepted, inOrder.searched,
    (s.validate_with_task task d c.options.words).trans inOrder.validated⟩

private theorem refusal_congr [Text.Encodings]
    (task : Disk → List String → List SourceUnit → Except Failure (Activity Bool)) {d : Disk}
    {failure : Failure} (refusal : c.Refusal s d name failure) :
    c.Refusal { s with task } d name failure := by
  cases refusal with
  | noSink none => exact .noSink none
  | name opened unfit => exact .name opened unfit
  | text opened named refused => exact .text opened named refused
  | classpath opened named accepted split searched fault =>
    exact .classpath opened named accepted split searched fault
  | options opened named accepted searched refused =>
    exact .options opened named accepted searched
      ((s.validate_with_task task d c.options.words).trans refused)

private theorem asksFor_iff [Text.Encodings] {u : SourceUnit} {options : List String} :
    c.AsksFor s name guide w u options ↔ ∃ sink, c.InOrder s w.disk name sink u options := by
  constructor
  · intro asks
    rcases inOrder_or_refusal c s w.disk name with ⟨sink, u', options', inOrder⟩ | ⟨failure, refusal⟩
    · by_cases same : u' = u ∧ options' = options
      · obtain ⟨rfl, rfl⟩ := same
        exact ⟨sink, inOrder⟩
      · -- A service that refuses this task in one way and all others in another gives it away.
        let task : Disk → List String → List SourceUnit → Except Failure (Activity Bool) :=
          fun _ words units =>
            if words = options ∧ units = [u] then .error .noBytes else .error .noContent
        have told := asks task .noBytes (if_pos ⟨rfl, rfl⟩)
        have other : task w.disk options' [u'] = .error .noContent :=
          if_neg fun ⟨words, units⟩ => same ⟨(List.cons.inj units).1, words⟩
        rw [compile_of_inOrder (inOrder_congr task inOrder)] at told
        have refused : (c.execute { s with task } u' options' guide w).1 = .error .noContent := by
          simp only [execute]
          rw [show (FileAccess.setLocation w.renew .classPath c.classpath).disk = w.disk from rfl,
            other]
        cases told.symm.trans refused
    · have silent (task : Disk → List String → List SourceUnit → Except Failure (Activity Bool)) :
          (c.compile { s with task } name guide w).1 = .error failure := by
        rw [compile_of_refusal (refusal_congr task refusal)]
      have first := asks (fun _ _ _ => .error .noBytes) .noBytes rfl
      have second := asks (fun _ _ _ => .error .noContent) .noContent rfl
      cases first.symm.trans ((silent _).trans ((silent _).symm.trans second))
  · rintro ⟨sink, inOrder⟩ task failure refused
    rw [compile_of_inOrder (inOrder_congr task inOrder)]
    simp only [execute]
    rw [show (FileAccess.setLocation w.renew .classPath c.classpath).disk = w.disk from rfl, refused]

end Asking

/-- A compilation asks its service for a task exactly when its checks are in order, and then for the
unit and the options that were checked. When they are not, it tells what the first of them in their
order tells, whatever the service does, and nothing has changed, neither in the workspace nor in
the compilers that share it. The service for pages never refuses a task for options that it
accepted on the same disk. -/
theorem service_is_asked_behind_the_checks [Text.Encodings] (c : PageCompiler) (s : Service)
    (name : String) (guide : Option LineGuide) (w : Workspace) :
    (∀ u options, c.AsksFor s name guide w u options ↔
      ∃ sink, c.InOrder s w.disk name sink u options) ∧
    ((∀ u options, ¬ c.AsksFor s name guide w u options) ↔
      ∃ failure, c.Refusal s w.disk name failure) ∧
    (∀ failure, c.Refusal s w.disk name failure →
      (∀ task, c.compile { s with task } name guide w = (.error failure, w)) ∧
      ∀ (shop : Workshop) (owner : Nat), shop.compilers[owner]? = some c → shop.workspace = w →
        shop.step (.compile owner s name guide) = shop) ∧
    ∀ fe options, (PageTask.service fe).validate w.disk c.options.words = .ok options →
      ∀ units, ∃ activity, (PageTask.service fe).task w.disk options units = .ok activity := by
  refine ⟨fun u options => asksFor_iff, ?_, ?_, fun fe options accepted units =>
    PageTask.exists_task accepted units⟩
  · constructor
    · intro silent
      rcases inOrder_or_refusal c s w.disk name with ⟨sink, u, options, inOrder⟩ | refusal
      · exact absurd (asksFor_iff.2 ⟨sink, inOrder⟩) (silent u options)
      · exact refusal
    · rintro ⟨failure, refusal⟩ u options asks
      obtain ⟨sink, inOrder⟩ := asksFor_iff.1 asks
      cases (prepare_of_refusal refusal).symm.trans (prepare_eq_ok_iff.2 ⟨sink, inOrder⟩)
  · intro failure refusal
    refine ⟨fun task => compile_of_refusal (refusal_congr task refusal), ?_⟩
    rintro shop owner here rfl
    simp only [Workshop.step, here]
    rw [compile_of_refusal refusal]

/-- Of two entries that are not there the first is told, and not the flag that nobody knows. -/
theorem first_missing_entry_is_told :
    let c : PageCompiler := ⟨"generated", false,
      [.ofString "lib", .ofString "gone", .ofString "lost"],
      CompilerOptions.empty.append "-bogus" [], [⟨"x = 1\n", "utf-8"⟩]⟩
    let fe : FrontEnd := ⟨fun _ _ => ⟨[], .done (.importNames [] none)⟩, fun _ _ _ => ⟨[], .done ()⟩⟩
    let w := Workspace.start ⟨[(["lib"], .directory)], []⟩ (.empty ⟨0, []⟩)
    let failure : Failure := .configuration (.classpathEntry (.ofString "gone"))
    c.Refusal (PageTask.service fe) w.disk "generated.A" failure ∧
      c.compile (PageTask.service fe) "generated.A" none w = (.error failure, w) ∧
      (PageTask.service fe).validate w.disk c.options.words =
        .error (.configuration (.unsupportedOption "-bogus")) := by
  intro c fe w failure
  have searched : ∀ path ∈ [Path.ofString "lib"], IsEntry w.disk path :=
    List.forall_mem_singleton.2 (.inl (by decide +kernel))
  have missing : w.disk.lookup (.ofString "gone") = .ok none := by decide +kernel
  have fault : EntryFault w.disk (.ofString "gone") failure :=
    .unfit missing (by simp) (by simp)
  have accepted : SourceUnit.make "generated.A" "x = 1\n" "utf-8" =
      .ok ⟨"generated.A", "x = 1\n", "utf-8"⟩ := by decide +kernel
  have named : IsUnitName "generated.A" := (isUnitName_iff _).1 (by decide +kernel)
  have refusal : c.Refusal (PageTask.service fe) w.disk "generated.A" failure :=
    .classpath rfl named accepted rfl searched fault
  obtain ⟨-, -, told, -⟩ :=
    service_is_asked_behind_the_checks c (PageTask.service fe) "generated.A" none w
  exact ⟨refusal, (told failure refusal).1 (PageTask.service fe).task, by decide +kernel⟩

end PageCompiler

end PagePress
