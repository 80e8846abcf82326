import PagePress.Proofs.CommandLine.Inputs
import PagePress.Proofs.PageTask.Compilation
import PagePress.Proofs.Validation

/-!
The compilation in a run of the command line. Whatever is wrong with the name, the text, the classpath
or the options is reported, and so is a package that cannot be listed; only the front end can break
it with a failure of another kind. The disk is never changed, and a compilation that succeeded has
left the artifact in the store.
-/

set_option autoImplicit false

namespace PagePress

open CommandLine (isReported IsTexts)

private theorem isReported_of_isConfiguration {failure : Failure}
    (configuration : failure.isConfiguration = true) : isReported failure = true := by
  cases failure with
  | configuration => rfl
  | _ => cases configuration

private theorem MeetsTooLong.isReported {d : Disk} {all : List Path → Except Failure Unit}
    {paths : List Path} {failure : Failure} (meets : MeetsTooLong d all paths failure) :
    isReported failure = true := by
  obtain ⟨-, -, -, -, -, -, rfl⟩ := meets
  rfl

private theorem MeetsUnreadable.isReported {value : String} {failure : Failure}
    (meets : MeetsUnreadable value failure) : isReported failure = true := by
  obtain ⟨-, -, -, -, -, -, -, rfl⟩ := meets
  rfl

namespace PageTask

private theorem GroupMeets.isReported {d : Disk} {g : OptionGroup} {failure : Failure}
    (meets : GroupMeets d g failure) : isReported failure = true := by
  cases meets with
  | level _ unreadable => exact unreadable.isReported
  | extensions _ tooLong => exact tooLong.isReported

private theorem not_meetsNoText {words : List Datum} (texts : ∀ word ∈ words, ∃ s, word = .text s)
    (failure : Failure) : ¬ MeetsNoText words failure := by
  intro meets
  induction meets with
  | list items rest =>
    obtain ⟨s, other⟩ := texts _ List.mem_cons_self
    cases other
  | record fields rest =>
    obtain ⟨s, other⟩ := texts _ List.mem_cons_self
    cases other
  | argument takesOne noText rest =>
    obtain ⟨s, rfl⟩ := texts _ (List.mem_cons_of_mem _ List.mem_cons_self)
    exact noText s rfl
  | behindFlag takesNone behind ih => exact ih (List.forall_mem_cons.1 texts).2
  | behindGroup takesOne fits behind ih =>
    exact ih (List.forall_mem_cons.1 (List.forall_mem_cons.1 texts).2).2

private theorem check_reported {d : Disk} {g : OptionGroup} {failure : Failure}
    (fails : check d g = .error failure) : isReported failure = true := by
  cases kind : failure.isConfiguration with
  | true => exact isReported_of_isConfiguration kind
  | false => exact ((group_unforeseen_iff d g failure).1 ⟨fails, kind⟩).isReported

private theorem parse_reported {value flag : String} {failure : Failure}
    (fails : LanguageLevel.parse value flag = .error failure) : isReported failure = true := by
  cases kind : failure.isConfiguration with
  | true => exact isReported_of_isConfiguration kind
  | false => exact ((level_unforeseen_iff value flag failure).1 ⟨fails, kind⟩).isReported

private theorem apply_reported {s : Demands} {g : OptionGroup} {failure : Failure}
    (fails : apply s g = .error failure) : isReported failure = true := by
  unfold apply at fails
  split at fails
  · rcases bind_eq_error_iff.1 fails with unread | ⟨level, -, other⟩
    · exact parse_reported unread
    · cases other
  · split at fails
    · cases fails
    · split at fails
      · cases fails
      · split at fails
        · cases fails
        · split at fails <;> cases fails

private theorem demandsOf_reported {d : Disk} {options : List String} {failure : Failure}
    (fails : demandsOf d options = .error failure) : isReported failure = true := by
  rcases bind_eq_error_iff.1 fails with uncut | ⟨groups, -, later⟩
  · obtain ⟨e, -, rfl⟩ := mapError_eq_error_iff.1 uncut
    rfl
  · generalize (⟨none, false, [], false, false⟩ : Demands) = s at later
    induction groups generalizing s with
    | nil => cases later
    | cons g rest ih =>
      rcases bind_eq_error_iff.1 later with refused | ⟨done, -, later⟩
      · exact check_reported refused
      · rcases bind_eq_error_iff.1 later with refused | ⟨next, -, later⟩
        · exact apply_reported refused
        · exact ih next later

end PageTask

private theorem Catalog.check_error {k : Catalog} {requests : List ImportRequest}
    {failure : Failure}
    (fails : (k.check requests).2 = .error failure) : ∃ e, failure = .disk e := by
  induction requests with
  | nil => cases fails
  | cons r rest ih =>
    unfold check at fails
    split at fails
    · rename_i refusal seen
      obtain rfl : refusal = failure := Except.error.inj fails
      unfold sees at seen
      split at seen
      · cases seen
      · cases listed : k.names (Name.packageOf r.module) with
        | ok names =>
          rw [listed] at seen
          cases seen
        | error e =>
          rw [listed] at seen
          cases seen
          unfold names at listed
          split at listed
          · cases listed
          · split at listed
            · cases listed
            · cases listed
              exact ⟨_, rfl⟩
    · exact ih fails
    · exact ih fails

namespace CommandLine

/-- The front end breaks with a failure that is not reported: the parser, or, when all imports could
be looked up, the generator. -/
inductive FrontEndBreak (fe : FrontEnd) (s : Demands) (u : SourceUnit) (k : Catalog) :
    Failure → Prop
  | parser {failure : Failure} (broken : (fe.parse u.source s.level).ending = .broken failure)
    (unreported : isReported failure = false) : FrontEndBreak fe s u k failure
  | generator {tree : SyntaxTree} {failure : Failure}
    (parsed : (fe.parse u.source s.level).ending = .done tree)
    (lookedUp : (k.check tree.allRequests).2 = .ok ())
    (broken : (fe.generate u.source s.level s.optimization).ending = .broken failure)
    (unreported : isReported failure = false) : FrontEndBreak fe s u k failure

private theorem outcome_unreported_iff {fe : FrontEnd} {s : Demands} {u : SourceUnit} {k : Catalog}
    {failure : Failure} :
    ((PageTask.outcome fe s u k).ending = .error failure ∧ isReported failure = false) ↔
      FrontEndBreak fe s u k failure := by
  constructor
  · rintro ⟨fails, unreported⟩
    unfold PageTask.outcome at fails
    dsimp only at fails
    split at fails
    · rename_i broken
      cases fails
      exact .parser broken unreported
    · cases fails
    · rename_i tree parsed
      unfold PageTask.treeOutcome at fails
      cases looked : k.check tree.allRequests with
      | mk unmet ending =>
        simp only [looked] at fails
        cases ending with
        | error e =>
          obtain ⟨e, rfl⟩ : ∃ e', e = .disk e' := Catalog.check_error (congrArg Prod.snd looked)
          cases fails
          cases unreported
        | ok done =>
          unfold PageTask.generated at fails
          dsimp only at fails
          split at fails
          · rename_i broken
            cases fails
            exact .generator parsed (by rw [looked]) broken unreported
          · cases fails
          · split at fails
            · cases fails
            · split at fails <;> cases fails
  · rintro (⟨broken, unreported⟩ | ⟨parsed, lookedUp, broken, unreported⟩)
    · exact ⟨by simp [PageTask.outcome, broken], unreported⟩
    · refine ⟨?_, unreported⟩
      simp only [PageTask.outcome, parsed, PageTask.treeOutcome]
      generalize k.check _ = looked at lookedUp
      obtain ⟨unmet, ending⟩ := looked
      cases lookedUp
      simp [PageTask.generated, broken]

/-- An encoding in which a file was opened is found again when the text is encoded, or is unknown. -/
private theorem encodeAs_reported [Text.Encodings] {encoding : String} {e : Text.Encoding}
    (opened : openedAs encoding = .text e) {name text : String} {failure : Failure}
    (fails : SourceUnit.encodeAs name encoding text = .error failure) :
    isReported failure = true := by
  unfold openedAs at opened
  unfold SourceUnit.encodeAs at fails
  split at opened
  · rename_i usual
    have unknown : Text.EncodingName.of usualEncoding = .unknown := Text.EncodingName.of_locale
    rw [usual, unknown] at fails
    cases fails
    rfl
  · rw [opened] at fails
    obtain ⟨fault, -, rfl⟩ := mapError_eq_error_iff.1 fails
    cases fault <;> rfl

private theorem checkClasspath_reported {d : Disk} {classpath : List Path} {failure : Failure}
    (fails : PageCompiler.checkClasspath d classpath = .error failure) :
    isReported failure = true := by
  cases kind : failure.isConfiguration with
  | true => exact isReported_of_isConfiguration kind
  | false => exact ((classpath_unforeseen_iff d classpath failure).1 ⟨fails, kind⟩).isReported

private theorem validate_reported [Text.Encodings] {fe : FrontEnd} {d : Disk} {words : List Datum}
    (texts : IsTexts words) {failure : Failure}
    (fails : (PageTask.service fe).validate d words = .error failure) :
    isReported failure = true := by
  cases kind : failure.isConfiguration with
  | true => exact isReported_of_isConfiguration kind
  | false =>
    cases (options_unforeseen_iff fe d words failure).1 ⟨fails, kind⟩ with
    | word noText =>
      obtain ⟨all, rfl⟩ := texts
      refine absurd noText (PageTask.not_meetsNoText (fun word member => ?_) failure)
      obtain ⟨s, -, rfl⟩ := List.mem_map.1 member
      exact ⟨s, rfl⟩
    | group _ _ meets => exact meets.isReported

variable {x : Surroundings} {a : Arguments} {w : Workspace} {i : Inputs} {name : String}

private theorem prepare_reported [Text.Encodings] [FieldRules] (read : i.Read x a w.disk)
    {failure : Failure}
    (fails : (i.filled (a.encoding.getD "")).prepare (PageTask.service x.frontEnd) w.disk name =
      .error failure) : isReported failure = true := by
  obtain ⟨encoding, e, given, opened⟩ := readText_ok read.text
  have last : (i.filled encoding).sinks.getLast? = some ⟨String.ofList i.text, encoding⟩ := rfl
  rw [given, Option.getD_some, PageCompiler.prepare_eq _ last] at fails
  split at fails
  · rcases bind_eq_error_iff.1 fails with unencoded | ⟨bytes, -, later⟩
    · exact encodeAs_reported opened unencoded
    · rcases bind_eq_error_iff.1 later with unsearched | ⟨done, -, later⟩
      · exact checkClasspath_reported unsearched
      · change ((PageTask.service x.frontEnd).validate w.disk i.compiler.options.words).map _ = _
          at later
        cases validated : (PageTask.service x.frontEnd).validate w.disk i.compiler.options.words with
        | ok words =>
          rw [validated] at later
          cases later
        | error e =>
          rw [validated] at later
          cases later
          exact validate_reported read.fresh.2 validated
  · cases fails
    rfl

private theorem commission_reported [Text.Encodings] [FieldRules] (read : i.Read x a w.disk)
    {failure : Failure}
    (fails : (i.filled (a.encoding.getD "")).commission x.frontEnd w.disk name = .error failure) :
    isReported failure = true := by
  unfold PageCompiler.commission at fails
  split at fails
  · rename_i refused
    cases fails
    exact prepare_reported read refused
  · rename_i unit options prepared
    cases demanded : PageTask.demandsOf w.disk options with
    | ok s =>
      rw [demanded] at fails
      cases fails
    | error e =>
      rw [demanded] at fails
      cases fails
      exact PageTask.demandsOf_reported demanded

/-- A compilation fails with what is not reported exactly when the front end breaks so. -/
theorem compile_unreported_iff [Text.Encodings] [FieldRules] (read : i.Read x a w.disk)
    {failure : Failure} (guide : Option LineGuide) :
    (((i.filled (a.encoding.getD "")).compile (PageTask.service x.frontEnd) name guide w).1 =
        .error failure ∧ isReported failure = false) ↔
      ∃ u s, (i.filled (a.encoding.getD "")).commission x.frontEnd w.disk name = .ok (u, s) ∧
        FrontEndBreak x.frontEnd s u ((i.filled (a.encoding.getD "")).catalog w) failure := by
  generalize compiler : i.filled (a.encoding.getD "") = c
  cases commissioned : c.commission x.frontEnd w.disk name with
  | error e =>
    rw [(PageCompiler.compile_refused c x.frontEnd guide w commissioned).1]
    refine iff_of_false ?_ nofun
    rintro ⟨⟨⟩, unreported⟩
    rw [← compiler] at commissioned
    rw [commission_reported read commissioned] at unreported
    cases unreported
  | ok pair =>
    obtain ⟨u, s⟩ := pair
    obtain ⟨size, settled⟩ := PageCompiler.compile_settled c x.frontEnd guide w commissioned
    have only : (∃ u' s', (Except.ok (u, s) : Except Failure (SourceUnit × Demands)) = .ok (u', s') ∧
        FrontEndBreak x.frontEnd s' u' (c.catalog w) failure) ↔
        FrontEndBreak x.frontEnd s u (c.catalog w) failure := by
      constructor
      · rintro ⟨_, _, same, breaks⟩
        cases same
        exact breaks
      · exact fun breaks => ⟨u, s, rfl, breaks⟩
    rw [only, ← outcome_unreported_iff]
    refine and_congr_left fun _ => ?_
    cases ending : (PageTask.outcome x.frontEnd s u (c.catalog w)).ending with
    | error e => rw [(settled.broken e ending).1, Except.error.injEq, Except.error.injEq]
    | ok good =>
      cases good with
      | true => simp [(settled.published ending).1]
      | false => simp [(settled.failed ending).2]

theorem disk_compile [Text.Encodings] (c : PageCompiler) (fe : FrontEnd) (name : String)
    (guide : Option LineGuide)
    (w : Workspace) : (c.compile (PageTask.service fe) name guide w).2.disk = w.disk := by
  cases commissioned : c.commission fe w.disk name with
  | ok pair =>
    obtain ⟨size, settled⟩ := PageCompiler.compile_settled c fe guide w commissioned
    exact settled.disk
  | error failure =>
    have asked := PageCompiler.task_page c fe w.disk name
    rw [commissioned] at asked
    unfold PageCompiler.compile
    cases prepared : c.prepare (PageTask.service fe) w.disk name with
    | error e => rfl
    | ok pair =>
      obtain ⟨unit, options⟩ := pair
      rw [PageCompiler.task_of_prepare prepared] at asked
      have refused : (PageTask.service fe).task (FileAccess.setLocation w.renew .classPath
          c.classpath).disk options [unit] = .error failure := asked
      simp only [PageCompiler.execute, refused]
      rfl

/-- What a compilation that succeeded has left in the store: the code of the unit. -/
theorem stored_of_success [Text.Encodings] {c : PageCompiler} {fe : FrontEnd}
    {guide : Option LineGuide} {answer : CompilationResult} {v : Workspace}
    (compiled : c.compile (PageTask.service fe) name guide w = (.ok answer, v))
    (succeeded : answer.success = true) :
    ∃ content, v.store.get? name = some content ∧ content ≠ [] := by
  have good : PageCompiler.succeeded (c.compile (PageTask.service fe) name guide w).1 = true := by
    rw [compiled]
    exact succeeded
  obtain ⟨u, s, commissioned, ending⟩ := (PageCompiler.page_succeeds_iff c fe name guide w).1 good
  obtain ⟨size, settled⟩ := PageCompiler.compile_settled c fe guide w commissioned
  obtain ⟨-, stored⟩ := settled.published ending
  obtain ⟨rfl, -⟩ := PageCompiler.commission_ok commissioned
  rw [compiled] at stored
  refine ⟨PageTask.codeOf u w.clock.now size, ?_, PageTask.codeOf_ne_nil u w.clock.now size⟩
  rw [stored, Store.get?_insert, if_pos rfl]

end CommandLine

end PagePress
