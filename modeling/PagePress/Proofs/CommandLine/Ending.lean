import PagePress.Proofs.CommandLine.Compiling
import PagePress.Settings.Lax
import PagePress.Text.Encoding.Standard

/-!
How a run of the command line ends. With arguments that could be read and a level that is known it
ends with 0, 1 or 2, or with one of the failures that it does not report. Where these come from is
told here in full: from what is read before the compilation, from the front end, and from saving.
-/

set_option autoImplicit false

namespace PagePress.CommandLine

variable {x : Surroundings} {a : Arguments} {w v : Workspace} {words : List String} {weight : Nat}

def Inputs.compiled [Text.Encodings] (i : Inputs) (x : Surroundings) (a : Arguments) (name : String)
    (w : Workspace) : Except Failure CompilationResult × Workspace :=
  (i.filled (a.encoding.getD "")).compile (PageTask.service x.frontEnd) name
    (i.map.map fun m => m.guide [] []) w

private theorem compile_of_read [Text.Encodings] [FieldRules] {i : Inputs}
    (read : i.Read x a w.disk) :
    compile x a w =
      match a.unit with
      | none => (.error (.configuration (.unitName "[]")), w)
      | some name => i.compiled x a name w := by
  rw [compile, prepare_eq_ok_iff.2 ⟨i, read, rfl, rfl⟩]
  rfl

private theorem compile_of_unread [Text.Encodings] [FieldRules] {failure : Failure}
    (fails : prepare x a w.disk = .error failure) :
    compile x a w = (.error failure, w) := by
  rw [compile, fails]

private theorem exists_read_or_error [Text.Encodings] [FieldRules] (x : Surroundings)
    (a : Arguments) (d : Disk) :
    (∃ i : Inputs, i.Read x a d) ∨ ∃ failure, prepare x a d = .error failure := by
  cases prepared : prepare x a d with
  | error failure => exact .inr ⟨failure, rfl⟩
  | ok pair =>
    obtain ⟨i, read, -⟩ := prepare_eq_ok_iff.1 prepared
    exact .inl ⟨i, read⟩

/-- A compilation that answers is that of inputs that were read, under a name. -/
theorem compile_eq_ok_iff [Text.Encodings] [FieldRules] {answer : CompilationResult} :
    compile x a w = (.ok answer, v) ↔
      ∃ (i : Inputs) (name : String), i.Read x a w.disk ∧ a.unit = some name ∧
        i.compiled x a name w = (.ok answer, v) := by
  constructor
  · intro compiled
    rcases exists_read_or_error x a w.disk with ⟨i, read⟩ | ⟨failure, fails⟩
    · rw [compile_of_read read] at compiled
      cases unit : a.unit with
      | none =>
        rw [unit] at compiled
        cases compiled
      | some name =>
        rw [unit] at compiled
        exact ⟨i, name, read, rfl, compiled⟩
    · rw [compile_of_unread fails] at compiled
      cases compiled
  · rintro ⟨i, name, read, unit, compiled⟩
    rw [compile_of_read read, unit]
    exact compiled

theorem disk_compile_run [Text.Encodings] [FieldRules] (x : Surroundings) (a : Arguments)
    (w : Workspace) :
    (compile x a w).2.disk = w.disk := by
  rcases exists_read_or_error x a w.disk with ⟨i, read⟩ | ⟨failure, fails⟩
  · rw [compile_of_read read]
    split
    · rfl
    · exact disk_compile _ _ _ _ w
  · rw [compile_of_unread fails]

/-- What breaks a compilation with a failure that is not reported: what is read before it, or the
front end. -/
inductive CompilationBreak [Text.Encodings] [FieldRules] (x : Surroundings) (a : Arguments)
    (w : Workspace) :
    Failure → Prop
  | inputs {failure : Failure} (breaks : InputBreak x a w.disk failure) :
    CompilationBreak x a w failure
  | frontEnd {i : Inputs} {name : String} {u : SourceUnit} {s : Demands} {failure : Failure}
    (read : i.Read x a w.disk) (unit : a.unit = some name)
    (commissioned : (i.filled (a.encoding.getD "")).commission x.frontEnd w.disk name = .ok (u, s))
    (breaks : FrontEndBreak x.frontEnd s u ((i.filled (a.encoding.getD "")).catalog w) failure) :
    CompilationBreak x a w failure

private theorem compile_unreported_failure_iff [Text.Encodings] [FieldRules] {failure : Failure} :
    ((compile x a w).1 = .error failure ∧ isReported failure = false) ↔
      CompilationBreak x a w failure := by
  constructor
  · rintro ⟨fails, unreported⟩
    rcases exists_read_or_error x a w.disk with ⟨i, read⟩ | ⟨e, unread⟩
    · rw [compile_of_read read] at fails
      cases unit : a.unit with
      | none =>
        rw [unit] at fails
        cases fails
        cases unreported
      | some name =>
        rw [unit] at fails
        obtain ⟨u, s, commissioned, breaks⟩ := (compile_unreported_iff read _).1 ⟨fails, unreported⟩
        exact .frontEnd read unit commissioned breaks
    · rw [compile_of_unread unread] at fails
      cases fails
      exact .inputs (prepare_unreported_iff.1 ⟨unread, unreported⟩)
  · rintro (breaks | ⟨read, unit, commissioned, breaks⟩)
    · obtain ⟨unread, unreported⟩ := prepare_unreported_iff.2 breaks
      exact ⟨by rw [compile_of_unread unread], unreported⟩
    · rw [compile_of_read read, unit]
      exact (compile_unreported_iff read _).2 ⟨_, _, commissioned, breaks⟩

/-- The artifact of the unit is to be saved, and the disk refuses it. -/
inductive SavingBreak (a : Arguments) (v : Workspace) : Failure → Prop
  | refused {name path : String} {content : Bytes} {e : DiskError} (unit : a.unit = some name)
    (stored : v.store.get? name = some content) (asked : Names a.save path)
    (refused : (v.disk.writeBelow (Path.ofString path) content).1 = .error e) :
    SavingBreak a v (.disk e)

private theorem savingBreak_iff {name path : String} {content : Bytes} {failure : Failure}
    (unit : a.unit = some name) (stored : v.store.get? name = some content)
    (asked : Names a.save path) :
    SavingBreak a v failure ↔
      ∃ e, (v.disk.writeBelow (Path.ofString path) content).1 = .error e ∧ failure = .disk e := by
  constructor
  · rintro ⟨unit', stored', asked', refused⟩
    obtain rfl := Option.some.inj (unit.symm.trans unit')
    obtain rfl := Option.some.inj (stored.symm.trans stored')
    obtain rfl := Option.some.inj (asked.1.symm.trans asked'.1)
    exact ⟨_, refused, rfl⟩
  · rintro ⟨e, refused, rfl⟩
    exact .refused unit stored asked refused

private theorem SavingBreak.unique {failure other : Failure} (one : SavingBreak a v failure)
    (two : SavingBreak a v other) : failure = other := by
  obtain ⟨unit, stored, asked, refused⟩ := one
  obtain ⟨e, again, rfl⟩ := (savingBreak_iff unit stored asked).1 two
  rw [Except.error.inj (refused.symm.trans again)]

/-- The failures that end a run as they are: those that break the compilation, and those of saving
the artifact of a unit that was compiled. -/
inductive Escape [Text.Encodings] [FieldRules] (x : Surroundings) (a : Arguments) (w : Workspace) :
    Failure → Prop
  | compiling {failure : Failure} (breaks : CompilationBreak x a w failure) : Escape x a w failure
  | saving {answer : CompilationResult} {v : Workspace} {failure : Failure}
    (compiled : compile x a w = (.ok answer, v)) (succeeded : answer.success = true)
    (breaks : SavingBreak a v failure) : Escape x a w failure

theorem run_eq [Text.Encodings] [FieldRules] (read : Arguments.read words = .ok (some a))
    (level : threshold a.logLevel = .ok weight) : run x words w = runWith x weight a w := by
  simp only [run, read, level]

theorem save_eq {name : String} {content : Bytes} (stored : v.store.get? name = some content)
    (path : Path) :
    (∃ disk log, v.disk.writeBelow path content = (.ok (), disk) ∧
      v.save name path = (.ok path, { v with disk, log })) ∨
    ∃ disk e, v.disk.writeBelow path content = (.error e, disk) ∧
      v.save name path = (.error (.disk e), { v with disk }) := by
  rw [Workspace.save, stored]
  cases wrote : v.disk.writeBelow path content with
  | mk answer disk =>
    cases answer with
    | ok done => exact .inl ⟨disk, _, rfl, by simp only [wrote]; rfl⟩
    | error e => exact .inr ⟨disk, e, rfl, by simp only [wrote]⟩

private theorem finish_ending {name : String} {content : Bytes} (unit : a.unit = some name)
    (stored : v.store.get? name = some content) :
    ((finish x weight a v).ending = .exit 0 ∧ ∀ failure, ¬ SavingBreak a v failure) ∨
    ∃ failure, (finish x weight a v).ending = .raised failure ∧ SavingBreak a v failure := by
  unfold finish
  dsimp only
  split
  · rename_i none
    refine .inl ⟨rfl, ?_⟩
    rintro failure ⟨-, -, asked, -⟩
    exact filter_eq_none_iff.1 none _ asked
  · rename_i path some
    have named := filter_eq_some_iff.1 some
    rw [unit, Option.getD_some]
    rcases save_eq stored (Path.ofString path) with
      ⟨disk, log, wrote, saved⟩ | ⟨disk, e, refused, saved⟩
    · rw [saved]
      refine .inl ⟨rfl, fun failure breaks => ?_⟩
      obtain ⟨e, refused, -⟩ := (savingBreak_iff unit stored named).1 breaks
      rw [wrote] at refused
      cases refused
    · rw [saved]
      exact .inr ⟨.disk e, rfl, .refused unit stored named (by rw [refused])⟩

private theorem Escape.of_error [Text.Encodings] [FieldRules] {failure other : Failure}
    (compiled : compile x a w = (.error failure, v))
    (escapes : Escape x a w other) : other = failure ∧ isReported failure = false := by
  cases escapes with
  | compiling breaks =>
    obtain ⟨fails, unreported⟩ := compile_unreported_failure_iff.2 breaks
    rw [compiled] at fails
    cases fails
    exact ⟨rfl, unreported⟩
  | saving again => cases compiled.symm.trans again

private theorem Escape.of_answer [Text.Encodings] [FieldRules] {answer : CompilationResult}
    {failure : Failure} (compiled : compile x a w = (.ok answer, v))
    (escapes : Escape x a w failure) :
    answer.success = true ∧ SavingBreak a v failure := by
  cases escapes with
  | compiling breaks =>
    obtain ⟨fails, -⟩ := compile_unreported_failure_iff.2 breaks
    rw [compiled] at fails
    cases fails
  | saving again succeeded breaks =>
    cases compiled.symm.trans again
    exact ⟨succeeded, breaks⟩

private theorem runWith_ending [Text.Encodings] [FieldRules] (x : Surroundings) (weight : Nat)
    (a : Arguments) (w : Workspace) :
    (∃ code, (runWith x weight a w).ending = .exit code ∧ code ≤ 2 ∧
      ∀ failure, ¬ Escape x a w failure) ∨
    ∃ failure, (runWith x weight a w).ending = .raised failure ∧
      ∀ other, Escape x a w other ↔ other = failure := by
  unfold runWith
  split
  · rename_i failure v compiled
    split
    · rename_i reported
      refine .inl ⟨2, rfl, Nat.le_refl 2, fun other escapes => ?_⟩
      cases reported.symm.trans (escapes.of_error compiled).2
    · rename_i unreported
      refine .inr ⟨failure, rfl, fun other => ⟨fun escapes => (escapes.of_error compiled).1, ?_⟩⟩
      rintro rfl
      exact .compiling (compile_unreported_failure_iff.1
        ⟨by rw [compiled], by simpa using unreported⟩)
  · rename_i answer v compiled
    split
    · rename_i succeeded
      obtain ⟨i, name, read, unit, again⟩ := compile_eq_ok_iff.1 compiled
      obtain ⟨content, stored, -⟩ := stored_of_success again succeeded
      rcases finish_ending (x := x) unit stored with ⟨ended, fine⟩ | ⟨failure, ended, breaks⟩
      · exact .inl ⟨0, ended, Nat.zero_le 2,
          fun failure escapes => fine failure (escapes.of_answer compiled).2⟩
      · refine .inr ⟨failure, ended, fun other => ⟨fun escapes => ?_, ?_⟩⟩
        · exact (escapes.of_answer compiled).2.unique breaks
        · rintro rfl
          exact .saving compiled succeeded breaks
    · rename_i failed
      exact .inl ⟨1, rfl, Nat.le_succ 1, fun failure escapes => failed (escapes.of_answer compiled).1⟩

def plainSurroundings : Surroundings :=
  ⟨⟨fun _ _ => ⟨[], .done (.importNames [] none)⟩, fun _ _ _ => ⟨[], .done ()⟩⟩, .ofJson, .empty, ""⟩

end PagePress.CommandLine
