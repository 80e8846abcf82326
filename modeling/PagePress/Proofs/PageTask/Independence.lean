import PagePress.Proofs.Delegation
import PagePress.Proofs.PageTask.Verdict
import PagePress.Text.Encoding.Standard

/-!
The units of a task one by one. While a task runs, only what it brings forth grows; the files that
its imports are looked up in stay, so the listings that it keeps are those that it would be given
again. What a unit comes to therefore depends neither on the units before it nor on what was kept,
and a task over two rows of units is a task over the one, and then a task over the other.
-/

set_option autoImplicit false

namespace PagePress.PageTask

/-- What an access lists for a package, as a task keeps it. -/
def listed (m : FileAccess) (w : Workspace) (package : String) : Except Failure (List String) :=
  (m.list w .classPath package [.source, .compiled] true).map (kept m w)

def seen (m : FileAccess) (w : Workspace) (module : String) : Except Failure Bool :=
  if Name.packageOf module = "" then .ok true
  else (listed m w (Name.packageOf module)).map fun names => shows names module

def Faithful (m : FileAccess) (w : Workspace) (known : Listings) : Prop :=
  ∀ package names, (package, names) ∈ known → listed m w package = .ok names

private theorem faithful_nil (m : FileAccess) (w : Workspace) : Faithful m w [] := by
  intro package names member
  cases member

private theorem ne_produced_of_mem_list (m : FileAccess) {w : Workspace} {location : Location}
    {package : String} {kinds : List Kind} {recurse : Bool} {objects : List FileObject}
    (given : m.list w location package kinds recurse = .ok objects) :
    ∀ object ∈ objects, ∀ position, object ≠ .produced position := by
  induction m with
  | standard =>
    simp only [FileAccess.list] at given
    split at given
    · cases given
      intro object member position
      obtain ⟨file, -, rfl⟩ := List.mem_map.1 member
      exact FileObject.noConfusion
    · cases given
  | forwarding delegate ih => exact ih given
  | «virtual» delegate reserved ih =>
    simp only [FileAccess.list] at given
    split at given
    · cases given
      intro object member position
      unfold FileAccess.storedMembers at member
      split at member
      · obtain ⟨name, -, held⟩ := List.mem_filterMap.1 member
        obtain ⟨content, -, rfl⟩ := Option.map_eq_some_iff.1 held
        exact FileObject.noConfusion
      · cases member
    · exact ih given

private theorem listed_congr {v w : Workspace} (same : v.SameFiles w) (m : FileAccess)
    (package : String) :
    listed m v package = listed m w package := by
  unfold listed
  rw [FileAccess.list_congr same]
  cases given : m.list w .classPath package [.source, .compiled] true with
  | error failure => rfl
  | ok objects =>
    have names : ∀ object ∈ objects, m.binaryName v object = m.binaryName w object :=
      fun object member =>
        FileAccess.binaryName_congr v w (ne_produced_of_mem_list m given object member) m
    simp only [Except.map, kept]
    rw [List.map_congr_left names]

private theorem run_listing_of_faithful {m : FileAccess} {v w : Workspace} {known : Listings}
    (same : v.SameFiles w) (faithful : Faithful m w known) (package : String) :
    ∃ later, Faithful m w later ∧
      (listing known package).run m v = ((listed m w package).map fun names => (names, later), v) := by
  unfold listing
  split
  · rename_i key names found
    have here : key = package := by simpa using List.find?_some found
    have held := faithful key names (List.mem_of_find?_eq_some found)
    rw [here] at held
    exact ⟨known, faithful, by simp [held, Except.map]⟩
  · -- Nothing was kept: what is listed now is listed on the files of the start.
    have fresh := listed_congr same m package
    rw [← fresh]
    unfold listed at fresh ⊢
    simp only [Activity.run]
    cases given : m.list v .classPath package [.source, .compiled] true with
    | error failure => exact ⟨known, faithful, rfl⟩
    | ok objects =>
      rw [given] at fresh
      refine ⟨known ++ [(package, kept m v objects)], ?_, ?_⟩
      · intro other names member
        rcases List.mem_append.1 member with old | new
        · exact faithful other names old
        · cases List.mem_singleton.1 new
          exact fresh.symm
      · simp only [Activity.run_andThen, Activity.run_ofAnswer, Activity.goOn_ok,
          Activity.run_binaryNames, Activity.run_done, Except.map]
        rfl

private theorem run_isVisible_of_faithful {m : FileAccess} {v w : Workspace} {known : Listings}
    (same : v.SameFiles w) (faithful : Faithful m w known) (module : String) :
    ∃ later, Faithful m w later ∧
      (isVisible known module).run m v =
        ((seen m w module).map fun visible => (visible, later), v) := by
  unfold isVisible seen
  by_cases top : Name.packageOf module = ""
  · exact ⟨known, faithful, by simp [top, Except.map]⟩
  · obtain ⟨later, kept, asked⟩ :=
      run_listing_of_faithful same faithful (Name.packageOf module)
    refine ⟨later, kept, ?_⟩
    simp only [top, if_false, Activity.run_andThen, asked]
    cases listed m w (Name.packageOf module) <;> rfl

/-- The requests that a way of looking modules up does not meet, up to the first that cannot be
looked up, and whether all were looked up. -/
def lookUp (sees : String → Except Failure Bool) :
    List ImportRequest → List ImportRequest × Except Failure Unit
  | [] => ([], .ok ())
  | r :: rest =>
    match sees r.module with
    | .error failure => ([], .error failure)
    | .ok true => lookUp sees rest
    | .ok false => (r :: (lookUp sees rest).1, (lookUp sees rest).2)

theorem run_checkImports_of_faithful (m : FileAccess) (w : Workspace) (u : SourceUnit)
    (requests : List ImportRequest) {v : Workspace} {known : Listings} (same : v.SameFiles w)
    (faithful : Faithful m w known) :
    ∃ later, Faithful m w later ∧ (checkImports u known requests).run m v =
      ((lookUp (seen m w) requests).2.map fun _ => ((lookUp (seen m w) requests).1.isEmpty, later),
        { v with diagnostics :=
            v.diagnostics ++ (lookUp (seen m w) requests).1.map (missing u) }) := by
  induction requests generalizing v known with
  | nil => exact ⟨known, faithful, by simp [checkImports, lookUp, Except.map]⟩
  | cons r rest ih =>
    obtain ⟨middle, between, asked⟩ := run_isVisible_of_faithful same faithful r.module
    simp only [checkImports, Activity.run_andThen, asked, lookUp]
    cases shown : seen m w r.module with
    | error failure => exact ⟨middle, between, by simp [Except.map]⟩
    | ok visible =>
      cases visible with
      | true =>
        obtain ⟨later, kept, checked⟩ := ih same between
        refine ⟨later, kept, ?_⟩
        simp only [Except.map, Activity.goOn_ok, if_true, Activity.run_done, Activity.run_andThen,
          checked]
        cases (lookUp (seen m w) rest).2 <;> simp
      | false =>
        -- The report is in the collector before the rest is looked up; the files are the same.
        let x : Workspace := { v with diagnostics := v.diagnostics ++ [missing u r] }
        have files : x.SameFiles w := ⟨same.disk, same.locations, same.store⟩
        obtain ⟨later, kept, checked⟩ := ih files between
        refine ⟨later, kept, ?_⟩
        have reported : (report u .error (notFound r)).run m v = (.ok (), x) := rfl
        simp only [Except.map, Activity.goOn_ok, Bool.false_eq_true, if_false, reported,
          Activity.run_andThen, checked]
        cases (lookUp (seen m w) rest).2 <;> simp [x]

/-- The outcome for a tree whose imports were looked up, with those that are not met. -/
def concluded (fe : FrontEnd) (s : Demands) (u : SourceUnit) (warned : Bool) :
    List ImportRequest × Except Failure Unit → Outcome
  | (unmet, .error failure) => ⟨unmet.map (missing u), .error failure⟩
  | (unmet, .ok ()) => generated fe s u warned unmet

/-- The outcome of a unit whose imports are looked up in a given way. -/
def outcomeOver (fe : FrontEnd) (s : Demands) (u : SourceUnit)
    (sees : String → Except Failure Bool) : Outcome :=
  let pass := fe.parse u.source s.level
  let front := warningsOf u s pass.warnings
  match pass.ending with
  | .broken failure => ⟨[], .error failure⟩
  | .refused n => ⟨front ++ [diagnosticOf u .error n], .ok false⟩
  | .done tree =>
    let rest := concluded fe s u (!pass.warnings.isEmpty) (lookUp sees tree.allRequests)
    ⟨front ++ rest.reported, rest.ending⟩

/-- The artifacts of units whose texts take so many bytes, each made at the next reading of a
clock. -/
def dated : List (SourceUnit × Nat) → Clock → List Artifact
  | [], _ => []
  | (u, size) :: rest, clock => artifactOf u clock.now size :: dated rest clock.tick

private theorem dated_append (made others : List (SourceUnit × Nat)) (clock : Clock) :
    dated (made ++ others) clock = dated made clock ++ dated others (clock.advance made.length) := by
  induction made generalizing clock with
  | nil => rfl
  | cons first rest ih => exact congrArg (artifactOf first.1 clock.now first.2 :: ·) (ih clock.tick)

/-- What units bring forth, and how their compilation ends; what is made still lacks its date. -/
structure Yield where
  reported : List Diagnostic
  made : List (SourceUnit × Nat)
  log : List LogLine
  ending : Except Failure Bool

namespace Yield

def leave (y : Yield) (w : Workspace) : Workspace :=
  { w with
    diagnostics := w.diagnostics ++ y.reported
    index := ⟨w.index.artifacts ++ dated y.made w.clock⟩
    clock := w.clock.advance y.made.length
    log := w.log ++ y.log }

/-- The yield of units and of further ones after them, which are not compiled after a failure. -/
def followed (y z : Yield) : Yield :=
  match y.ending with
  | .error _ => y
  | .ok good =>
    ⟨y.reported ++ z.reported, y.made ++ z.made, y.log ++ z.log,
      z.ending.map fun others => good && others⟩

def none : Yield := ⟨[], [], [], .ok true⟩

private theorem leave_none (w : Workspace) : none.leave w = w := by
  simp [leave, none, dated, Clock.advance]

private theorem leave_sameFiles (y : Yield) {v w : Workspace} (same : v.SameFiles w) :
    (y.leave v).SameFiles w := ⟨same.disk, same.locations, same.store⟩

private theorem none_followed (y : Yield) : none.followed y = y := by
  obtain ⟨reported, made, log, ending⟩ := y
  cases ending <;> simp [followed, none, Except.map]

private theorem followed_none (y : Yield) : y.followed none = y := by
  obtain ⟨reported, made, log, ending⟩ := y
  cases ending <;> simp [followed, none, Except.map]

private theorem followed_ending_iff (y z : Yield) (verdict : Bool) :
    (y.followed z).ending = .ok verdict ↔
      ∃ a b, y.ending = .ok a ∧ z.ending = .ok b ∧ verdict = (a && b) := by
  unfold followed
  cases first : y.ending with
  | error failure => simp [first]
  | ok a =>
    cases second : z.ending with
    | error failure => simp [Except.map]
    | ok b => simp [Except.map, eq_comm]

private theorem followed_of_ended {y z : Yield} {verdict : Bool}
    (ended : (y.followed z).ending = .ok verdict) :
    (y.followed z).reported = y.reported ++ z.reported ∧
    (y.followed z).made = y.made ++ z.made := by
  obtain ⟨a, b, first, second, -⟩ := (followed_ending_iff y z verdict).1 ended
  simp [followed, first]

private theorem followed_assoc (x y z : Yield) : (x.followed y).followed z = x.followed
    (y.followed z) := by
  obtain ⟨reported, made, log, ending⟩ := x
  cases ending with
  | error failure => rfl
  | ok good =>
    obtain ⟨reported', made', log', ending'⟩ := y
    cases ending' with
    | error failure => rfl
    | ok others =>
      cases last : z.ending <;> simp [followed, Except.map, last, Bool.and_assoc]

end Yield

/-- How many bytes the text of a unit takes that is emitted, or why it is not. -/
def emission [Text.Encodings] (u : SourceUnit) : Except Failure Nat :=
  match u.encoded with
  | .error failure => .error failure
  | .ok bytes => if u.name = "" then .error (.adapter .outputWithoutName) else .ok bytes.length

def Outcome.yield [Text.Encodings] (o : Outcome) (u : SourceUnit) : Yield :=
  match o.ending, emission u with
  | .ok true, .ok size => ⟨o.reported, [(u, size)], emitLog u, .ok true⟩
  | .ok true, .error failure => ⟨o.reported, [], [], .error failure⟩
  | ending, _ => ⟨o.reported, [], [], ending⟩

/-- The yield of a unit whose imports are looked up with an access on the files of a workspace. -/
def yieldOver [Text.Encodings] (fe : FrontEnd) (s : Demands) (m : FileAccess) (w : Workspace)
    (u : SourceUnit) :
    Yield := (outcomeOver fe s u (seen m w)).yield u

section Virtual

variable (delegate : FileAccess) (reserved : String)

private theorem run_emit_eq [Text.Encodings] (u : SourceUnit) (w : Workspace) :
    (emit u).run (.virtual delegate reserved) w =
      match emission u with
      | .error failure => (.error failure, w)
      | .ok size => (.ok (), { w with
          index := w.index.register (artifactOf u w.clock.now size)
          clock := w.clock.tick
          log := w.log ++ emitLog u }) := by
  unfold emission
  cases encoded : u.encoded with
  | error failure => simp [emit, encoded, Activity.ofAnswer, Activity.andThen]
  | ok bytes =>
    by_cases named : u.name = ""
    · simp [emit, encoded, Activity.ofAnswer, Activity.andThen, Activity.run, FileAccess.output,
        named]
    · simp only [run_emit delegate reserved u named encoded w, named, if_false]

private theorem settle_eq_yield [Text.Encodings] (u : SourceUnit) (o : Outcome) (known : Listings)
    (w : Workspace) :
    settle (.virtual delegate reserved) u o known w =
      ((o.yield u).ending.map fun good => (good, known), (o.yield u).leave w) := by
  obtain ⟨reported, ending⟩ := o
  cases ending with
  | error failure => simp [settle, Outcome.yield, Yield.leave, dated, Clock.advance, Except.map]
  | ok good =>
    cases good with
    | false => simp [settle, Outcome.yield, Yield.leave, dated, Clock.advance, Except.map]
    | true =>
      simp only [settle, run_emit_eq, Outcome.yield]
      cases emission u with
      | error failure => simp [Yield.leave, dated, Clock.advance, Except.map]
      | ok size => simp [Yield.leave, dated, Clock.advance, Except.map, PackageIndex.register]

end Virtual

section Units

variable (m : FileAccess) (fe : FrontEnd) (s : Demands) (w : Workspace)

private theorem run_compileUnit_of_faithful [Text.Encodings] (u : SourceUnit) {v : Workspace}
    {known : Listings} (same : v.SameFiles w) (faithful : Faithful m w known) :
    ∃ later, Faithful m w later ∧
      (compileUnit fe s u known).run m v = settle m u (outcomeOver fe s u (seen m w)) later v := by
  cases parsed : (fe.parse u.source s.level).ending with
  | broken failure =>
    simp only [outcomeOver, parsed]
    exact ⟨known, faithful, run_compileUnit_of_broken m fe s u parsed known v⟩
  | refused n =>
    simp only [outcomeOver, parsed]
    exact ⟨known, faithful, run_compileUnit_of_refused m fe s u parsed known v⟩
  | done tree =>
    let front := warningsOf u s (fe.parse u.source s.level).warnings
    let x : Workspace := { v with diagnostics := v.diagnostics ++ front }
    have files : x.SameFiles w := ⟨same.disk, same.locations, same.store⟩
    obtain ⟨later, kept, checked⟩ :=
      run_checkImports_of_faithful m w u tree.allRequests files faithful
    refine ⟨later, kept, ?_⟩
    simp only [outcomeOver, parsed]
    refine run_compileUnit_of_tree m fe s u parsed rfl ?_
    revert checked
    generalize lookUp (seen m w) tree.allRequests = found
    obtain ⟨unmet, looked⟩ := found
    intro checked
    cases looked with
    | error failure => exact run_compileTree_of_broken m fe s u _ checked
    | ok done => exact run_compileTree_of_checked m fe s u _ checked

/-- Units yield something on the files of a workspace: whatever was brought forth and kept before,
this is how they end and what they leave. -/
def Yields [Text.Encodings] (units : List SourceUnit) (y : Yield) : Prop :=
  ∀ (v : Workspace) (known : Listings), v.SameFiles w → Faithful m w known →
    (compileUnits fe s units known).run m v = (y.ending, y.leave v)

end Units

section Rows

variable (fe : FrontEnd) (s : Demands) (delegate : FileAccess) (reserved : String) (w : Workspace)

private theorem yields_none [Text.Encodings] : Yields (.virtual delegate reserved) fe s w
    [] .none := by
  intro v known same faithful
  rw [Yield.leave_none]
  rfl

private theorem yields_cons [Text.Encodings] (u : SourceUnit) {rest : List SourceUnit} {z : Yield}
    (others : Yields (.virtual delegate reserved) fe s w rest z) :
    Yields (.virtual delegate reserved) fe s w (u :: rest)
      ((yieldOver fe s (.virtual delegate reserved) w u).followed z) := by
  intro v known same faithful
  obtain ⟨later, kept, compiled⟩ := run_compileUnit_of_faithful _ fe s w u same faithful
  rw [settle_eq_yield] at compiled
  rw [compileUnits, Activity.run_andThen, compiled, ← yieldOver]
  generalize yieldOver fe s (.virtual delegate reserved) w u = y
  cases ended : y.ending with
  | error failure => simp [Except.map, Yield.followed, ended]
  | ok good =>
    -- The rest is compiled on the same files and on rows that are still faithful.
    have ran := others _ later (y.leave_sameFiles same) kept
    simp only [Except.map, Activity.goOn_ok, Activity.run_andThen, ran]
    cases last : z.ending <;>
      simp [Yield.followed, ended, last, Except.map, Yield.leave, dated_append,
        Clock.advance_advance]

private theorem exists_yields [Text.Encodings] (us : List SourceUnit) :
    ∃ y : Yield, Yields (.virtual delegate reserved) fe s w us y ∧
      ∀ vs z, Yields (.virtual delegate reserved) fe s w vs z →
        Yields (.virtual delegate reserved) fe s w (us ++ vs) (y.followed z) := by
  induction us with
  | nil =>
    refine ⟨.none, yields_none fe s delegate reserved w, ?_⟩
    intro vs z others
    rwa [Yield.none_followed]
  | cons u rest ih =>
    obtain ⟨z, alone, row⟩ := ih
    refine ⟨_, yields_cons fe s delegate reserved w u alone, ?_⟩
    intro vs x others
    rw [Yield.followed_assoc]
    exact yields_cons fe s delegate reserved w u (row vs x others)

end Rows

private theorem located_sameFiles (s : Demands) {v w : Workspace} (same : v.SameFiles w) :
    (located s v).SameFiles (located s w) := by
  unfold located
  split
  · exact same
  · exact ⟨same.disk, by simp only [FileAccess.setLocation, same.locations], same.store⟩

private theorem run_activity_of_yields [Text.Encodings] {fe : FrontEnd} {s : Demands}
    {units : List SourceUnit} {delegate : FileAccess} {reserved : String} {w : Workspace}
    {y : Yield} (yields : Yields (.virtual delegate reserved) fe s (located s w) units y)
    (clock : Clock) :
    (activity fe s units).run (.virtual delegate reserved) { w with clock } =
      (y.ending, y.leave (located s { w with clock })) := by
  rw [run_activity_eq]
  exact yields _ [] (located_sameFiles s ⟨rfl, rfl, rfl⟩) (faithful_nil _ _)

theorem run_activity_unit [Text.Encodings] (fe : FrontEnd) (s : Demands) (u : SourceUnit)
    (delegate : FileAccess) (reserved : String) (w : Workspace) :
    (activity fe s [u]).run (.virtual delegate reserved) w =
      ((yieldOver fe s (.virtual delegate reserved) (located s w) u).ending,
        (yieldOver fe s (.virtual delegate reserved) (located s w) u).leave (located s w)) := by
  have alone := yields_cons fe s delegate reserved (located s w) u
    (yields_none fe s delegate reserved (located s w))
  rw [Yield.followed_none] at alone
  exact run_activity_of_yields alone w.clock

/-- The task over two rows of units is the task over the first and the task over the second, as if
the other had never been: it comes to an end when both do, its verdict is that of both, and it
reports and makes what the first does and then what the second does. When a task runs decides
nothing but the dates of what it makes, so at equal readings the artifacts are equal: the second row
is dated from where the first left the clock. Listings that are kept change nothing, as long as they
are what the access would list. -/
theorem units_do_not_influence_each_other [Text.Encodings] (fe : FrontEnd) (d : Disk)
    (options : List String) (us vs : List SourceUnit) (delegate : FileAccess) (reserved : String)
    (w : Workspace) {both : Activity Bool}
    (asked : (service fe).task d options (us ++ vs) = .ok both) :
    let m : FileAccess := .virtual delegate reserved
    ∃ first second : Activity Bool,
      (service fe).task d options us = .ok first ∧ (service fe).task d options vs = .ok second ∧
      (∀ verdict clock clock', (both.run m w).1 = .ok verdict ↔
        ∃ a b, (first.run m { w with clock }).1 = .ok a ∧
          (second.run m { w with clock := clock' }).1 = .ok b ∧ verdict = (a && b)) ∧
      (∀ verdict, (both.run m w).1 = .ok verdict →
        ∃ (reported reported' : List Diagnostic) (made made' : List (SourceUnit × Nat)),
          (∀ clock, (first.run m { w with clock }).2.diagnostics = w.diagnostics ++ reported ∧
            (first.run m { w with clock }).2.index.artifacts =
              w.index.artifacts ++ dated made clock) ∧
          (∀ clock, (second.run m { w with clock }).2.diagnostics = w.diagnostics ++ reported' ∧
            (second.run m { w with clock }).2.index.artifacts =
              w.index.artifacts ++ dated made' clock) ∧
          (both.run m w).2.diagnostics = w.diagnostics ++ (reported ++ reported') ∧
          (both.run m w).2.index.artifacts = w.index.artifacts ++
            (dated made w.clock ++ dated made' (first.run m w).2.clock)) ∧
      ∀ s, demandsOf d options = .ok s → ∀ (units : List SourceUnit) (known : Listings)
        (v : Workspace), v.SameFiles (located s w) → Faithful m (located s w) known →
          (compileUnits fe s units known).run m v = (compileUnits fe s units []).run m v := by
  intro m
  simp only [service] at asked ⊢
  cases demanded : demandsOf d options with
  | error failure =>
    rw [demanded] at asked
    cases asked
  | ok s =>
    rw [demanded] at asked
    cases asked
    obtain ⟨y, yields, before⟩ := exists_yields fe s delegate reserved (located s w) us
    obtain ⟨z, yields', -⟩ := exists_yields fe s delegate reserved (located s w) vs
    have ran := run_activity_of_yields yields
    have ran' := run_activity_of_yields yields'
    have together := run_activity_of_yields (before vs z yields') w.clock
    refine ⟨activity fe s us, activity fe s vs, rfl, rfl, ?_, ?_, ?_⟩
    · intro verdict clock clock'
      rw [together, ran, ran']
      exact Yield.followed_ending_iff y z verdict
    · intro verdict ended
      rw [together] at ended
      obtain ⟨reported, made⟩ := Yield.followed_of_ended ended
      refine ⟨y.reported, z.reported, y.made, z.made, fun clock => ?_, fun clock => ?_, ?_, ?_⟩
      · rw [ran]
        simp [Yield.leave]
      · rw [ran']
        simp [Yield.leave]
      · rw [together]
        simp [Yield.leave, reported]
      · rw [together, show (activity fe s us).run m w = _ from ran w.clock]
        simp [Yield.leave, made, dated_append]
    · rintro _ ⟨⟩ units known v same faithful
      obtain ⟨x, alone, -⟩ := exists_yields fe s delegate reserved (located s w) units
      rw [alone v known same faithful, alone v [] same (faithful_nil m (located s w))]

/-- Of two units the first imports what is missing: it fails alone as well, and the second is
compiled as if the first had never been there. -/
theorem missing_import_stays_with_its_unit :
    let fe : FrontEnd := ⟨fun source _ =>
      ⟨[], .done (.importNames [if source = "" then "generated.C" else "generated.B"] (some 1))⟩,
      fun _ _ _ => ⟨[], .done ()⟩⟩
    let us : List SourceUnit := [⟨"generated.A", "", "utf-8"⟩]
    let vs : List SourceUnit := [⟨"generated.D", "import generated.B\n", "utf-8"⟩]
    let s : Demands := ⟨none, false, [], false, false⟩
    let m : FileAccess := .virtual .standard "generated"
    let w := Workspace.start .empty ((Store.empty ⟨0, []⟩).put "generated.B" (some [0])).2
    (service fe).task .empty [] (us ++ vs) = .ok (activity fe s (us ++ vs)) ∧
      ((activity fe s (us ++ vs)).run m w).1 = .ok false ∧
      ((activity fe s (us ++ vs)).run m w).2.index.artifacts.map (·.name) = ["generated.D"] ∧
      ((activity fe s us).run m w).1 = .ok false ∧ ((activity fe s vs).run m w).1 = .ok true := by
  intro fe us vs s m w
  have demanded : demandsOf .empty [] = .ok s := PageCompiler.ok_of_toOption (by decide +kernel)
  have asks (units : List SourceUnit) :
      (service fe).task .empty [] units = .ok (activity fe s units) := by
    simp only [service, demanded]
    rfl
  have ended : ((activity fe s (us ++ vs)).run m w).1 = .ok false :=
    PageCompiler.ok_of_toOption (by decide +kernel)
  have good : ((activity fe s vs).run m w).1 = .ok true :=
    PageCompiler.ok_of_toOption (by decide +kernel)
  obtain ⟨first, second, asked, asked', verdict_iff, -, -⟩ :=
    units_do_not_influence_each_other fe .empty [] us vs .standard "generated" w (asks (us ++ vs))
  obtain rfl : activity fe s us = first := Except.ok.inj ((asks us).symm.trans asked)
  obtain rfl : activity fe s vs = second := Except.ok.inj ((asks vs).symm.trans asked')
  obtain ⟨a, b, failed, compiled, both⟩ := (verdict_iff false w.clock w.clock).1 ended
  obtain rfl : true = b := Except.ok.inj (good.symm.trans compiled)
  obtain rfl : false = a := both.trans (Bool.and_true a)
  exact ⟨asks _, ended, by decide +kernel, failed, good⟩

end PagePress.PageTask
