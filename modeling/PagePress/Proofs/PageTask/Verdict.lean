import PagePress.Proofs.PageTask.Outcome
import PagePress.Proofs.Session
import PagePress.Text.Encoding.Standard

/-!
The verdict of a task over any number of units, and what it puts out, whatever other access to files
stands behind its own. Every unit is compiled where the one before it left off, whatever became of
that one. A unit without an error adds one sealed artifact to the index, every other unit adds
nothing; and the task succeeds exactly when no error was reported at all.
-/

set_option autoImplicit false

namespace PagePress.PageTask

private theorem clean_append (front rest : List Diagnostic) :
    Clean (front ++ rest) ↔ Clean front ∧ Clean rest := List.forall_mem_append

private theorem clean_flatMap {α : Type} (stages : List α) (reported : α → List Diagnostic) :
    Clean (stages.flatMap reported) ↔ ∀ t ∈ stages, Clean (reported t) := by
  simp only [Clean, List.mem_flatMap]
  exact ⟨fun clean t member d here => clean d ⟨t, member, here⟩,
    fun clean d ⟨t, member, here⟩ => clean t member d here⟩

private theorem clean_missing_iff (u : SourceUnit) (requests : List ImportRequest) :
    Clean (requests.map (missing u)) ↔ requests = [] := by
  constructor
  · intro clean
    cases requests with
    | nil => rfl
    | cons r rest => exact absurd rfl (clean (missing u r) List.mem_cons_self)
  · rintro rfl d reported
    cases reported

private theorem not_clean_error (front : List Diagnostic) (u : SourceUnit) (n : Notice) :
    ¬ Clean (front ++ [diagnosticOf u .error n]) := fun clean =>
  clean (diagnosticOf u .error n) (List.mem_append_right _ List.mem_cons_self) rfl

/-- An outcome with an answer is a good one exactly when no error is reported. -/
def Outcome.Sound (o : Outcome) : Prop :=
  ∀ good, o.ending = .ok good → (good = true ↔ Clean o.reported)

private theorem Outcome.Sound.front {o : Outcome} (sound : o.Sound) {front : List Diagnostic}
    (clean : Clean front) : (⟨front ++ o.reported, o.ending⟩ : Outcome).Sound := by
  intro good ending
  rw [sound good ending, clean_append]
  exact ⟨fun rest => ⟨clean, rest⟩, And.right⟩

private theorem sound_of_refused (front : List Diagnostic) (u : SourceUnit) (n : Notice) :
    (⟨front ++ [diagnosticOf u .error n], .ok false⟩ : Outcome).Sound := by
  rintro good ⟨⟩
  exact ⟨(nomatch ·), fun clean => absurd clean (not_clean_error front u n)⟩

private theorem sound_of_broken (reported : List Diagnostic) (failure : Failure) :
    (⟨reported, .error failure⟩ : Outcome).Sound := fun _ ending => nomatch ending

private theorem generated_sound (fe : FrontEnd) (s : Demands) (u : SourceUnit) (warned : Bool)
    (unmet : List ImportRequest) : (generated fe s u warned unmet).Sound := by
  simp only [generated]
  cases (fe.generate u.source s.level s.optimization).ending with
  | broken failure => exact sound_of_broken _ failure
  | refused n => exact sound_of_refused _ u n
  | done result =>
    have clean : Clean (unmet.map (missing u) ++
        warningsOf u s (fe.generate u.source s.level s.optimization).warnings) ↔ unmet = [] := by
      rw [clean_append, clean_missing_iff]
      exact ⟨And.left, fun none => ⟨none, clean_warningsOf u s _⟩⟩
    dsimp only
    split
    · rename_i missed
      rintro good ⟨⟩
      rw [clean]
      constructor
      · intro good
        cases good
      · intro none
        simp [none] at missed
    · rename_i met
      split
      · exact sound_of_refused _ u strictNotice
      · rintro good ⟨⟩
        rw [clean]
        exact ⟨fun _ => by simpa using met, fun _ => rfl⟩

theorem outcome_sound (fe : FrontEnd) (s : Demands) (u : SourceUnit) (k : Catalog) :
    (outcome fe s u k).Sound := by
  simp only [outcome]
  cases (fe.parse u.source s.level).ending with
  | broken failure => exact sound_of_broken _ failure
  | refused n => exact sound_of_refused _ u n
  | done tree =>
    refine Outcome.Sound.front ?_ (clean_warningsOf u s _)
    unfold treeOutcome
    split
    · exact sound_of_broken _ _
    · exact generated_sound fe s u _ _

section Access

variable (m : FileAccess)

private theorem run_isVisible_same (known : Listings) (module : String) (w : Workspace) :
    ((isVisible known module).run m w).2 = w := by
  simp only [isVisible, listing]
  split
  · rfl
  · rw [Activity.run_andThen]
    split
    · rfl
    · simp only [Activity.run]
      cases m.list w .classPath (Name.packageOf module) [.source, .compiled] true with
      | error failure => rfl
      | ok objects =>
        simp [Activity.run_andThen, Activity.run_binaryNames]

/-- The import check over any access to files: it reports some imports, as modules that cannot be
found, and passes when these are none. -/
private theorem run_checkImports_reports (u : SourceUnit) (requests : List ImportRequest)
    (known : Listings) (w : Workspace) :
    ∃ (unmet : List ImportRequest) (answer : Except Failure (Bool × Listings)),
      (checkImports u known requests).run m w =
        (answer, { w with diagnostics := w.diagnostics ++ unmet.map (missing u) }) ∧
      ∀ resolved known', answer = .ok (resolved, known') → resolved = unmet.isEmpty := by
  induction requests generalizing w known with
  | nil => exact ⟨[], .ok (true, known), by simp [checkImports], by simp⟩
  | cons r rest ih =>
    have same := run_isVisible_same m known r.module w
    simp only [checkImports, Activity.run_andThen]
    generalize (isVisible known r.module).run m w = asked at same
    obtain ⟨answer, v⟩ := asked
    obtain rfl : v = w := same
    cases answer with
    | error failure => exact ⟨[], .error failure, by simp, by simp⟩
    | ok shown =>
      obtain ⟨visible, known₁⟩ := shown
      cases visible with
      | true =>
        obtain ⟨unmet, answer, checked, resolved⟩ := ih known₁ v
        refine ⟨unmet, answer, ?_, resolved⟩
        simp only [Activity.goOn_ok, if_true, Activity.run_done, Activity.run_andThen, checked]
        cases answer <;> simp
      | false =>
        obtain ⟨unmet, answer, checked, -⟩ :=
          ih known₁ { v with diagnostics := v.diagnostics ++ [missing u r] }
        refine ⟨r :: unmet, answer.map fun found => (false, found.2), ?_, ?_⟩
        · have reported : (report u .error (notFound r)).run m v =
              (.ok (), { v with diagnostics := v.diagnostics ++ [missing u r] }) := rfl
          simp only [Activity.goOn_ok, Bool.false_eq_true, if_false, Activity.run_andThen, reported,
            checked]
          cases answer <;> simp [Except.map]
        · cases answer with
          | error failure => simp [Except.map]
          | ok pair =>
            rintro resolved known' ⟨⟩
            rfl

variable (fe : FrontEnd) (s : Demands) (u : SourceUnit)

private theorem run_compileTree_settles [Text.Encodings] (warned : Bool) (tree : SyntaxTree)
    (known : Listings) (w : Workspace) :
    ∃ (o : Outcome) (known' : Listings), o.Sound ∧
      (compileTree fe s u warned tree known).run m w = settle m u o known' w := by
  obtain ⟨unmet, answer, checked, resolved⟩ :=
    run_checkImports_reports m u tree.allRequests known w
  cases answer with
  | error failure =>
    exact ⟨⟨unmet.map (missing u), .error failure⟩, known, sound_of_broken _ failure,
      run_compileTree_of_broken m fe s u warned checked⟩
  | ok pair =>
    obtain ⟨passed, known'⟩ := pair
    obtain rfl := resolved passed known' rfl
    exact ⟨generated fe s u warned unmet, known', generated_sound fe s u warned unmet,
      run_compileTree_of_checked m fe s u warned checked⟩

/-- However the compilation of a unit goes, it is settled by an outcome whose answer is true to what
is reported. -/
private theorem run_compileUnit_settles [Text.Encodings] (known : Listings) (w : Workspace) :
    ∃ (o : Outcome) (known' : Listings), o.Sound ∧
      (compileUnit fe s u known).run m w = settle m u o known' w := by
  cases parsed : (fe.parse u.source s.level).ending with
  | broken failure =>
    exact ⟨_, known, sound_of_broken [] failure,
      run_compileUnit_of_broken m fe s u parsed known w⟩
  | refused n =>
    exact ⟨_, known, sound_of_refused _ u n, run_compileUnit_of_refused m fe s u parsed known w⟩
  | done tree =>
    let front := warningsOf u s (fe.parse u.source s.level).warnings
    obtain ⟨o, known', sound, compiled⟩ := run_compileTree_settles m fe s u
      (!(fe.parse u.source s.level).warnings.isEmpty) tree known
      { w with diagnostics := w.diagnostics ++ front }
    exact ⟨_, known', sound.front (clean_warningsOf u s _),
      run_compileUnit_of_tree m fe s u parsed rfl compiled⟩

end Access

/-- What became of one unit of a task: whether it was found good, what was reported for it, and the
artifacts that were added to the index for it. -/
structure Stage where
  unit : SourceUnit
  good : Bool
  reported : List Diagnostic
  made : List Artifact

/-- A unit is found good when no error is reported for it. Then it has made one artifact, which is
named as the unit and sealed around something; else it has made none. -/
structure Stage.Sound (t : Stage) : Prop where
  good_iff : t.good = true ↔ Clean t.reported
  made_one : Clean t.reported → ∃ a content, t.made = [a] ∧ a.name = t.unit.name ∧
    a.kind = .compiled ∧ a.content = some content ∧ content ≠ []
  made_none : ¬ Clean t.reported → t.made = []

/-- Units are compiled one after the other, each on the listings and the workspace that the one
before it left, and each adds to the collector and to the index what became of it. -/
inductive Stages [Text.Encodings] (fe : FrontEnd) (s : Demands) (m : FileAccess) :
    List Stage → Listings → Workspace → Workspace → Prop
  | none (known : Listings) (w : Workspace) : Stages fe s m [] known w w
  | next {t : Stage} {rest : List Stage} {known later : Listings} {u v w : Workspace}
      (compiled : (compileUnit fe s t.unit known).run m u = (.ok (t.good, later), v))
      (reported : v.diagnostics = u.diagnostics ++ t.reported)
      (made : v.index.artifacts = u.index.artifacts ++ t.made)
      (others : Stages fe s m rest later v w) : Stages fe s m (t :: rest) known u w

private theorem Stages.diagnostics_eq [Text.Encodings] {fe : FrontEnd} {s : Demands}
    {m : FileAccess} {stages : List Stage} {known : Listings} {u v : Workspace}
    (h : Stages fe s m stages known u v) :
    v.diagnostics = u.diagnostics ++ stages.flatMap Stage.reported := by
  induction h with
  | none => simp
  | next _ reported _ _ ih => rw [ih, reported, List.flatMap_cons, List.append_assoc]

private theorem Stages.artifacts_eq [Text.Encodings] {fe : FrontEnd} {s : Demands} {m : FileAccess}
    {stages : List Stage} {known : Listings} {u v : Workspace}
    (h : Stages fe s m stages known u v) :
    v.index.artifacts = u.index.artifacts ++ stages.flatMap Stage.made := by
  induction h with
  | none => simp
  | next _ _ made _ ih => rw [ih, made, List.flatMap_cons, List.append_assoc]

section Virtual

variable (fe : FrontEnd) (s : Demands) (delegate : FileAccess) (reserved : String)

private theorem emit_ok [Text.Encodings] {u : SourceUnit} {w v : Workspace}
    (ran : (emit u).run (.virtual delegate reserved) w = (.ok (), v)) :
    ∃ reading size, v.diagnostics = w.diagnostics ∧
      v.index.artifacts = w.index.artifacts ++ [artifactOf u reading size] := by
  cases encoded : u.encoded with
  | error failure => simp [emit, encoded, Activity.ofAnswer, Activity.andThen] at ran
  | ok bytes =>
    by_cases named : u.name = ""
    · simp [emit, encoded, Activity.ofAnswer, Activity.andThen, Activity.run, FileAccess.output,
        named] at ran
    · rw [run_emit delegate reserved u named encoded w] at ran
      cases ran
      exact ⟨w.clock.now, bytes.length, rfl, rfl⟩

private theorem compileUnit_stage [Text.Encodings] {u : SourceUnit} {known later : Listings}
    {w v : Workspace} {good : Bool}
    (ran : (compileUnit fe s u known).run (.virtual delegate reserved) w = (.ok (good, later), v)) :
    ∃ t : Stage, t.unit = u ∧ t.good = good ∧ t.Sound ∧
      v.diagnostics = w.diagnostics ++ t.reported ∧
      v.index.artifacts = w.index.artifacts ++ t.made := by
  obtain ⟨⟨reported, ending⟩, known', sound, settled⟩ :=
    run_compileUnit_settles (.virtual delegate reserved) fe s u known w
  rw [settled] at ran
  cases ending with
  | error failure => simp [settle] at ran
  | ok answer =>
    have answer_iff := sound answer rfl
    cases answer with
    | false =>
      simp only [settle, Prod.mk.injEq, Except.ok.injEq] at ran
      obtain ⟨⟨rfl, -⟩, rfl⟩ := ran
      refine ⟨⟨u, false, reported, []⟩, rfl, rfl, ⟨answer_iff, fun clean => ?_, fun _ => rfl⟩, rfl,
        by simp⟩
      cases answer_iff.2 clean
    | true =>
      simp only [settle] at ran
      cases emitted : (emit u).run (.virtual delegate reserved)
          { w with diagnostics := w.diagnostics ++ reported } with
      | mk done x =>
        rw [emitted] at ran
        cases done with
        | error failure => cases ran
        | ok done =>
          cases ran
          obtain ⟨reading, size, collected, index⟩ := emit_ok delegate reserved emitted
          refine ⟨⟨u, true, reported, [artifactOf u reading size]⟩, rfl, rfl, ⟨answer_iff, fun _ => ?_,
            fun stained => absurd (answer_iff.1 rfl) stained⟩, collected, index⟩
          exact ⟨_, _, rfl, rfl, rfl, rfl, codeOf_ne_nil u reading size⟩

private theorem compileUnits_stages [Text.Encodings] {units : List SourceUnit} {known : Listings}
    {w v : Workspace} {verdict : Bool}
    (ran : (compileUnits fe s units known).run (.virtual delegate reserved) w = (.ok verdict, v)) :
    ∃ stages : List Stage, stages.map Stage.unit = units ∧
      Stages fe s (.virtual delegate reserved) stages known w v ∧
      (verdict = true ↔ ∀ t ∈ stages, t.good = true) ∧ ∀ t ∈ stages, t.Sound := by
  induction units generalizing known w verdict with
  | nil =>
    cases ran
    exact ⟨[], rfl, .none known _, by simp, by simp⟩
  | cons u rest ih =>
    rw [compileUnits, Activity.run_andThen] at ran
    cases compiled : (compileUnit fe s u known).run (.virtual delegate reserved) w with
    | mk answer x =>
      rw [compiled] at ran
      cases answer with
      | error failure => cases ran
      | ok pair =>
        obtain ⟨good, later⟩ := pair
        rw [Activity.goOn_ok, Activity.run_andThen] at ran
        cases others : (compileUnits fe s rest later).run (.virtual delegate reserved) x with
        | mk answer y =>
          rw [others] at ran
          cases answer with
          | error failure => cases ran
          | ok fine =>
            cases ran
            obtain ⟨t, rfl, rfl, sound, reported, made⟩ :=
              compileUnit_stage fe s delegate reserved compiled
            obtain ⟨stages, rfl, row, fine_iff, all⟩ := ih others
            refine ⟨t :: stages, rfl, .next compiled reported made row, ?_,
              List.forall_mem_cons.2 ⟨sound, all⟩⟩
            rw [Bool.and_eq_true, fine_iff, List.forall_mem_cons]

end Virtual

/-- A task that comes to its end has compiled all of its units in their order. What it reports and
makes is what it reports and makes for each of them, one sealed artifact for a unit without an error
and nothing for any other; and it succeeds exactly when no error is reported. -/
theorem verdict_tells_output [Text.Encodings] (fe : FrontEnd) (d : Disk) (options : List String)
    (units : List SourceUnit) (task : Activity Bool) (delegate : FileAccess) (reserved : String)
    (w : Workspace) (verdict : Bool) (asked : (service fe).task d options units = .ok task)
    (ended : (task.run (.virtual delegate reserved) w).1 = .ok verdict) :
    let v := (task.run (.virtual delegate reserved) w).2
    ∃ (s : Demands) (stages : List Stage), demandsOf d options = .ok s ∧
      stages.map Stage.unit = units ∧
      Stages fe s (.virtual delegate reserved) stages [] (located s w) v ∧
      v.diagnostics = w.diagnostics ++ stages.flatMap Stage.reported ∧
      v.index.artifacts = w.index.artifacts ++ stages.flatMap Stage.made ∧
      (verdict = true ↔ Clean (stages.flatMap Stage.reported)) ∧ ∀ t ∈ stages, t.Sound := by
  intro v
  simp only [service] at asked
  cases demanded : demandsOf d options with
  | error failure =>
    rw [demanded] at asked
    cases asked
  | ok s =>
    rw [demanded] at asked
    cases asked
    -- The paths of extensions are set before the first unit.
    have ran : (compileUnits fe s units []).run (.virtual delegate reserved) (located s w) =
        (.ok verdict, v) := by
      rw [← run_activity_eq, ← ended]
    obtain ⟨stages, same, row, verdict_iff, sound⟩ :=
      compileUnits_stages fe s delegate reserved ran
    have collected := row.diagnostics_eq
    have index := row.artifacts_eq
    rw [located_diagnostics] at collected
    rw [located_index] at index
    refine ⟨s, stages, rfl, same, row, collected, index, ?_, sound⟩
    rw [verdict_iff, clean_flatMap]
    exact forall₂_congr fun t member => (sound t member).good_iff

/-- Of three units the first is refused and the last imports what is missing: the one in between is
still compiled, and it alone makes an artifact. -/
theorem verdict_on_three_units :
    let fe : FrontEnd := ⟨fun source _ =>
      if source = "(" then ⟨[], .refused ⟨"unexpected end", some 1⟩⟩
      else if source = "import generated.C\n" then
        ⟨[], .done (.importNames ["generated.C"] (some 1))⟩
      else ⟨[⟨"invalid escape", some 1⟩], .done (.importNames [] none)⟩, fun _ _ _ => ⟨[], .done ()⟩⟩
    let units : List SourceUnit := [⟨"generated.A", "(", "utf-8"⟩,
      ⟨"generated.D", "'\\d'\n", "utf-8"⟩, ⟨"generated.E", "import generated.C\n", "utf-8"⟩]
    let s : Demands := ⟨none, false, [], false, false⟩
    let task := activity fe s units
    let w := Workspace.start .empty ((Store.empty ⟨0, []⟩).put "generated.B" (some [0])).2
    let ran := task.run (.virtual .standard "generated") w
    (service fe).task .empty [] units = .ok task ∧ ran.1 = .ok false ∧
      ran.2.diagnostics.map (·.severity) = [.error, .warning, .error] ∧
      ran.2.index.artifacts.map (·.name) = ["generated.D"] ∧
      ∃ stages : List Stage, stages.map Stage.unit = units ∧
        Stages fe s (.virtual .standard "generated") stages [] (located s w) ran.2 ∧
        ¬ Clean (stages.flatMap Stage.reported) ∧ ∀ t ∈ stages, t.Sound := by
  intro fe units s task w ran
  have demanded : demandsOf .empty [] = .ok s := PageCompiler.ok_of_toOption (by decide +kernel)
  have asked : (service fe).task .empty [] units = .ok task := by
    simp only [service, demanded]
    rfl
  have ended : ran.1 = .ok false := PageCompiler.ok_of_toOption (by decide +kernel)
  obtain ⟨again, stages, same, units_eq, row, -, -, verdict_iff, sound⟩ :=
    verdict_tells_output fe .empty [] units task .standard "generated" w false asked ended
  cases demanded.symm.trans same
  exact ⟨asked, ended, by decide +kernel, by decide +kernel, stages, units_eq, row,
    fun clean => (nomatch verdict_iff.2 clean), sound⟩

end PagePress.PageTask
