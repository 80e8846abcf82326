import PagePress.Proofs.Session
import PagePress.Proofs.Validation
import PagePress.Text.Encoding.Standard

/-!
Compilations that fail before the service is asked for a task. What is wrong with the name, the text,
the classpath or the options is told as a configuration that is wrong, with the exceptions listed
here, in which a check breaks instead of telling.
-/

set_option autoImplicit false

namespace PagePress.PageCompiler

/-- The checks before the service is asked meet something that they do not foresee: in the name of
the encoding, or in the encoding itself, which breaks on the text; or, when the text can be encoded,
on the classpath; or, when that is in order too, in the options. -/
inductive MeetsUnforeseen [Text.Encodings] (c : PageCompiler) (fe : FrontEnd) (d : Disk)
    (name : String) (sink : Sink) : Failure → Prop
  | nullCharacter (encoding : Text.EncodingName.of sink.encoding = .unspeakable) :
      MeetsUnforeseen c fe d name sink .nullCharacter
  | transformation (encoding : Text.EncodingName.of sink.encoding = .transformation) :
      MeetsUnforeseen c fe d name sink (.notTextEncoding sink.encoding "encode")
  | encoding {e : Text.Encoding} {reason : String}
      (encoding : Text.EncodingName.of sink.encoding = .text e)
      (breaks : e.encode sink.text = .error (.broken reason)) :
      MeetsUnforeseen c fe d name sink (.brokenEncoding sink.encoding reason)
  | classpath {bytes : Bytes} {failure : Failure}
      (encoded : SourceUnit.encodeAs name sink.encoding sink.text = .ok bytes)
      (meets : MeetsTooLong d (checkClasspath d) c.classpath failure) :
      MeetsUnforeseen c fe d name sink failure
  | options {bytes : Bytes} {failure : Failure}
      (encoded : SourceUnit.encodeAs name sink.encoding sink.text = .ok bytes)
      (found : checkClasspath d c.classpath = .ok ())
      (meets : PageTask.OptionsMeet fe d c.options.words failure) :
      MeetsUnforeseen c fe d name sink failure

/-- What encoding a text meets unforeseen: the name cannot be looked up, or is that of a
transformation, or the encoding breaks on the text. -/
private theorem encoding_unforeseen_iff [Text.Encodings] (name : String) (sink : Sink)
    (failure : Failure) :
    (SourceUnit.encodeAs name sink.encoding sink.text = .error failure ∧
        failure.isConfiguration = false) ↔
      (Text.EncodingName.of sink.encoding = .unspeakable ∧ failure = .nullCharacter) ∨
        (Text.EncodingName.of sink.encoding = .transformation ∧
          failure = .notTextEncoding sink.encoding "encode") ∨
        ∃ e reason, Text.EncodingName.of sink.encoding = .text e ∧
          e.encode sink.text = .error (.broken reason) ∧
          failure = .brokenEncoding sink.encoding reason := by
  unfold SourceUnit.encodeAs
  cases Text.EncodingName.of sink.encoding with
  | unspeakable =>
    constructor
    · rintro ⟨⟨⟩, -⟩
      exact .inl ⟨rfl, rfl⟩
    · rintro (⟨-, rfl⟩ | ⟨⟨⟩, -⟩ | ⟨_, _, ⟨⟩, -⟩)
      exact ⟨rfl, rfl⟩
  | transformation =>
    constructor
    · rintro ⟨⟨⟩, -⟩
      exact .inr (.inl ⟨rfl, rfl⟩)
    · rintro (⟨⟨⟩, -⟩ | ⟨-, rfl⟩ | ⟨_, _, ⟨⟩, -⟩)
      exact ⟨rfl, rfl⟩
  | unknown =>
    refine iff_of_false ?_ (by simp)
    rintro ⟨⟨⟩, ⟨⟩⟩
  | text e =>
    dsimp only
    constructor
    · rintro ⟨fails, other⟩
      cases encoded : e.encode sink.text with
      | ok bytes =>
        rw [encoded] at fails
        cases fails
      | error fault =>
        rw [encoded] at fails
        cases fails
        cases fault with
        | lacking fault => cases other
        | broken reason => exact .inr (.inr ⟨e, reason, rfl, encoded, rfl⟩)
    · rintro (⟨⟨⟩, -⟩ | ⟨⟨⟩, -⟩ | ⟨_, reason, ⟨⟩, breaks, rfl⟩)
      exact ⟨by rw [breaks]; rfl, rfl⟩

variable {c : PageCompiler} {d : Disk} {name : String} {sink : Sink}

/-- A compilation with a sink fails before the service is asked, with something else than a wrong
configuration, exactly when the name is one of a unit and a check meets what it does not foresee.
Then the failure is the one that the check meets, and nothing is changed. -/
theorem unforeseen_iff [Text.Encodings] (c : PageCompiler) (fe : FrontEnd) (name : String)
    (guide : Option LineGuide) (w : Workspace) {sink : Sink} (last : c.sinks.getLast? = some sink)
    (failure : Failure) :
    ((c.prepare (PageTask.service fe) w.disk name = .error failure ∧
        failure.isConfiguration = false) ↔
      isUnitName name = true ∧ c.MeetsUnforeseen fe w.disk name sink failure) ∧
      (c.prepare (PageTask.service fe) w.disk name = .error failure →
        c.compile (PageTask.service fe) name guide w = (.error failure, w)) := by
  constructor
  · rw [prepare_eq _ last]
    cases named : isUnitName name with
    | false =>
      constructor
      · rintro ⟨⟨⟩, ⟨⟩⟩
      · rintro ⟨⟨⟩, -⟩
    | true =>
      have encoding := encoding_unforeseen_iff name sink failure
      have classpath := classpath_unforeseen_iff w.disk c.classpath failure
      have options := options_unforeseen_iff fe w.disk c.options.words failure
      have prepared : (((PageTask.service fe).validate w.disk c.options.words).map fun options =>
          (SourceUnit.mk name sink.text sink.encoding, options)) = .error failure ↔
            (PageTask.service fe).validate w.disk c.options.words = .error failure := by
        cases (PageTask.service fe).validate w.disk c.options.words <;> simp [Except.map]
      simp only [if_true, true_and]
      rw [bind_unforeseen_iff, encoding]
      simp only [bind_unforeseen_iff, prepared, classpath, options]
      constructor
      · rintro ((⟨kind, rfl⟩ | ⟨kind, rfl⟩ | ⟨_, _, kind, breaks, rfl⟩) |
          ⟨_, encoded, meets | ⟨_, found, meets⟩⟩)
        · exact .nullCharacter kind
        · exact .transformation kind
        · exact .encoding kind breaks
        · exact .classpath encoded meets
        · exact .options encoded found meets
      · intro meets
        cases meets with
        | nullCharacter kind => exact .inl (.inl ⟨kind, rfl⟩)
        | transformation kind => exact .inl (.inr (.inl ⟨kind, rfl⟩))
        | encoding kind breaks => exact .inl (.inr (.inr ⟨_, _, kind, breaks, rfl⟩))
        | classpath encoded meets => exact .inr ⟨_, encoded, .inl meets⟩
        | options encoded found meets => exact .inr ⟨_, encoded, .inr ⟨_, found, meets⟩⟩
  · intro fails
    rw [compile, fails]

/-- A transformation is known by name, but it is no encoding of texts. -/
theorem transformation_is_unforeseen :
    let c : PageCompiler := ⟨"generated", false, [], .empty, [⟨"x = 1\n", "rot13"⟩]⟩
    let fe : FrontEnd := ⟨fun _ _ => ⟨[], .done (.importNames [] none)⟩, fun _ _ _ => ⟨[], .done ()⟩⟩
    let w := Workspace.start .empty (.empty ⟨0, []⟩)
    c.sinks.getLast? = some ⟨"x = 1\n", "rot13"⟩ ∧
      c.compile (PageTask.service fe) "generated.A" none w =
        (.error (.notTextEncoding "rot13" "encode"), w) := by
  intro c fe w
  have last : c.sinks.getLast? = some ⟨"x = 1\n", "rot13"⟩ := rfl
  obtain ⟨iff, fails⟩ := unforeseen_iff c fe "generated.A" none w last
    (.notTextEncoding "rot13" "encode")
  have kind : Text.EncodingName.of "rot13" = .transformation := by
    have uncoded : Text.Encodings.codec? "rot13" = none := by decide +kernel
    have known : Text.Encodings.isTransformation "rot13" = true := by decide +kernel
    have speakable : "rot13".toList.contains '\x00' = false := by decide +kernel
    simp only [Text.EncodingName.of, Text.Encodings.find?, Text.Encodings.tabulated?, uncoded, known,
      speakable]
    rfl
  have meets : c.MeetsUnforeseen fe w.disk "generated.A" ⟨"x = 1\n", "rot13"⟩
      (.notTextEncoding "rot13" "encode") := .transformation kind
  exact ⟨last, fails (iff.2 ⟨by decide +kernel, meets⟩).1⟩

/-- A raised digit counts as a digit, but it is no part of a number: the check of the level breaks
on it before the service is asked for a task. -/
theorem raised_digit_breaks_the_check :
    let c : PageCompiler := ⟨"generated", false, [], CompilerOptions.empty.addSource "3.²",
      [⟨"x = 1\n", "utf-8"⟩]⟩
    let fe : FrontEnd := ⟨fun _ _ => ⟨[], .done (.importNames [] none)⟩, fun _ _ _ => ⟨[], .done ()⟩⟩
    let w := Workspace.start .empty (.empty ⟨0, []⟩)
    let failure : Failure := .notAnInteger (.badText (.malformed "²"))
    c.prepare (PageTask.service fe) w.disk "generated.A" = .error failure ∧
      (c.compile (PageTask.service fe) "generated.A" none w).1 = .error failure ∧
      ∀ error, failure ≠ .configuration error := by
  intro c fe w failure
  have broken : c.prepare (PageTask.service fe) w.disk "generated.A" = .error failure := by
    decide +kernel
  exact ⟨broken, by rw [compile, broken], nofun⟩

end PagePress.PageCompiler
