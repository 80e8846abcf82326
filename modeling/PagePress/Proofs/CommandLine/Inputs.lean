import PagePress.Proofs.CommandLine.Texts

/-!
What a run of the command line reads before it compiles: the settings, the compiler that they
describe, the source and the line map, in this order. The run goes on with them, or ends with the
first failure.
-/

set_option autoImplicit false

namespace PagePress.CommandLine

/-- What a run compiles: the text of the source, with the compiler that the settings describe, and
the line map. -/
structure Inputs where
  settings : Settings
  compiler : PageCompiler
  text : List Char
  map : Option LineMap

structure Inputs.Read [Text.Encodings] [FieldRules] (x : Surroundings) (a : Arguments) (d : Disk)
    (i : Inputs) :
    Prop where
  settings : readSettings x d a.config = .ok i.settings
  compiler : PageCompiler.ofSettings i.settings = .ok i.compiler
  text : readText d a.source a.encoding = .ok i.text
  map : readLineMap d a.lineMap = .ok i.map

def Inputs.filled (i : Inputs) (encoding : String) : PageCompiler :=
  { i.compiler with sinks := [⟨String.ofList i.text, encoding⟩] }

variable {x : Surroundings} {a : Arguments} {d : Disk}

theorem Inputs.Read.fresh [Text.Encodings] [FieldRules] {i : Inputs} (read : i.Read x a d) :
    i.compiler.sinks = [] ∧ IsTexts i.compiler.options.words := by
  rcases ofSettings_cases (reserved_ne_empty read.settings) with ⟨⟨c, made, fresh⟩, -⟩ | ⟨fails, -⟩
  · obtain rfl := Except.ok.inj (read.compiler.symm.trans made)
    exact fresh
  · cases read.compiler.symm.trans fails

theorem prepare_eq_ok_iff [Text.Encodings] [FieldRules] {c : PageCompiler} {map : Option LineMap} :
    prepare x a d = .ok (c, map) ↔
      ∃ i : Inputs, i.Read x a d ∧ i.filled (a.encoding.getD "") = c ∧ i.map = map := by
  have filled {compiler : PageCompiler} (empty : compiler.sinks = []) (text : String) :
      (compiler.openSink (a.encoding.getD "")).writeTo 0 text =
        { compiler with sinks := [⟨text, a.encoding.getD ""⟩] } := by
    simp [PageCompiler.openSink, PageCompiler.writeTo, empty]
  simp only [prepare, bind_eq_ok_iff, pure, Except.pure, Except.ok.injEq, Prod.mk.injEq]
  constructor
  · rintro ⟨settings, first, compiler, made, text, source, read, mapped, written, rfl⟩
    have all : Inputs.Read x a d ⟨settings, compiler, text, read⟩ := ⟨first, made, source, mapped⟩
    exact ⟨_, all, (filled all.fresh.1 _).symm.trans written, rfl⟩
  · rintro ⟨i, read, rfl, rfl⟩
    exact ⟨i.settings, read.settings, i.compiler, read.compiler, i.text, read.text, i.map, read.map,
      filled read.fresh.1 _, rfl⟩

/-- The failures before a compilation that are not reported, in the order in which they come up. -/
inductive InputBreak [Text.Encodings] [FieldRules] (x : Surroundings) (a : Arguments) (d : Disk) :
    Failure → Prop
  | settings {path : String} {failure : Failure} (named : Names a.config path)
    (breaks : SettingsBreak x d path failure) : InputBreak x a d failure
  | options {settings : Settings} {option : String}
    (read : readSettings x d a.config = .ok settings) (member : option ∈ settings.extraOptions)
    (blank : IsBlankText option) : InputBreak x a d .missingFlag
  | source {settings : Settings} {compiler : PageCompiler} {failure : Failure}
    (read : readSettings x d a.config = .ok settings)
    (made : PageCompiler.ofSettings settings = .ok compiler)
    (breaks : TextBreak d a.source a.encoding failure) : InputBreak x a d failure
  | lineMap {settings : Settings} {compiler : PageCompiler} {text : List Char} {path : String}
    {failure : Failure} (read : readSettings x d a.config = .ok settings)
    (made : PageCompiler.ofSettings settings = .ok compiler)
    (source : readText d a.source a.encoding = .ok text) (named : Names a.lineMap path)
    (breaks : MapBreak d path failure) : InputBreak x a d failure

theorem prepare_unreported_iff [Text.Encodings] [FieldRules] {failure : Failure} :
    (prepare x a d = .error failure ∧ isReported failure = false) ↔ InputBreak x a d failure := by
  simp only [prepare, bind_eq_error_iff, pure, Except.pure, reduceCtorEq, and_false, exists_false,
    or_false]
  constructor
  · rintro ⟨fails | ⟨settings, read, fails | ⟨compiler, made, fails | ⟨text, source, fails⟩⟩⟩,
      unreported⟩
    · obtain ⟨path, named, breaks⟩ := readSettings_unreported_iff.1 ⟨fails, unreported⟩
      exact .settings named breaks
    · obtain ⟨⟨option, member, blank⟩, rfl⟩ :=
        (ofSettings_unreported_iff (reserved_ne_empty read)).1 ⟨fails, unreported⟩
      exact .options read member blank
    · exact .source read made (readText_unreported_iff.1 ⟨fails, unreported⟩)
    · obtain ⟨path, named, breaks⟩ := readLineMap_unreported_iff.1 ⟨fails, unreported⟩
      exact .lineMap read made source named breaks
  · intro breaks
    cases breaks with
    | settings named breaks =>
      obtain ⟨fails, unreported⟩ := readSettings_unreported_iff.2 ⟨_, named, breaks⟩
      exact ⟨.inl fails, unreported⟩
    | options read member blank =>
      obtain ⟨fails, unreported⟩ :=
        (ofSettings_unreported_iff (reserved_ne_empty read)).2 ⟨⟨_, member, blank⟩, rfl⟩
      exact ⟨.inr ⟨_, read, .inl fails⟩, unreported⟩
    | source read made breaks =>
      obtain ⟨fails, unreported⟩ := readText_unreported_iff.2 breaks
      exact ⟨.inr ⟨_, read, .inr ⟨_, made, .inl fails⟩⟩, unreported⟩
    | lineMap read made source named breaks =>
      obtain ⟨fails, unreported⟩ := readLineMap_unreported_iff.2 ⟨_, named, breaks⟩
      exact ⟨.inr ⟨_, read, .inr ⟨_, made, .inr ⟨_, source, fails⟩⟩⟩, unreported⟩

end PagePress.CommandLine
