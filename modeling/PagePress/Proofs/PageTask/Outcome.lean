import PagePress.Proofs.PageTask.Imports

/-!
What the compilation of a page comes to. Its outcome is a function of the front end, the demands,
the unit and the catalog: what is reported, in order, and how it ends. A run reports just that, and
makes one artifact, sealed and named as the unit, when it ends well.
-/

set_option autoImplicit false

namespace PagePress.PageTask

/-- What the compilation of a unit reports, and how it ends. -/
structure Outcome where
  reported : List Diagnostic
  ending : Except Failure Bool

def warningsOf (u : SourceUnit) (s : Demands) (warnings : List Notice) : List Diagnostic :=
  if s.quiet then [] else warnings.map (diagnosticOf u .warning)

/-- The outcome when the imports were looked up and all but `unmet` were found. -/
def generated (fe : FrontEnd) (s : Demands) (u : SourceUnit) (warned : Bool)
    (unmet : List ImportRequest) : Outcome :=
  let pass := fe.generate u.source s.level s.optimization
  let front := unmet.map (missing u) ++ warningsOf u s pass.warnings
  match pass.ending with
  | .broken failure => ⟨unmet.map (missing u), .error failure⟩
  | .refused n => ⟨front ++ [diagnosticOf u .error n], .ok false⟩
  | .done _ =>
    if !unmet.isEmpty then ⟨front, .ok false⟩
    else if (warned || !pass.warnings.isEmpty) && s.strict then
      ⟨front ++ [diagnosticOf u .error strictNotice], .ok false⟩
    else ⟨front, .ok true⟩

def treeOutcome (fe : FrontEnd) (s : Demands) (u : SourceUnit) (k : Catalog) (warned : Bool)
    (tree : SyntaxTree) : Outcome :=
  match k.check tree.allRequests with
  | (unmet, .error failure) => ⟨unmet.map (missing u), .error failure⟩
  | (unmet, .ok ()) => generated fe s u warned unmet

def outcome (fe : FrontEnd) (s : Demands) (u : SourceUnit) (k : Catalog) : Outcome :=
  let pass := fe.parse u.source s.level
  let front := warningsOf u s pass.warnings
  match pass.ending with
  | .broken failure => ⟨[], .error failure⟩
  | .refused n => ⟨front ++ [diagnosticOf u .error n], .ok false⟩
  | .done tree =>
    let rest := treeOutcome fe s u k (!pass.warnings.isEmpty) tree
    ⟨front ++ rest.reported, rest.ending⟩

/-- The sealed artifact of a unit whose text takes `size` bytes, made at a reading of the clock. -/
def artifactOf (u : SourceUnit) (reading : Int) (size : Nat) : Artifact :=
  ⟨u.name, .compiled, Artifact.memoryUri u.name .compiled, some (codeOf u reading size),
    some ⟨[], true⟩⟩

def emitLog (u : SourceUnit) : List LogLine :=
  [FileAccess.allocated (.create u.name .compiled "") .classOutput,
    ⟨.service, .debug, "Compiled " ++ u.name⟩]

/-- What a compilation with an outcome leaves of a workspace. Only a unit that ends well reads the
clock. -/
def leave (u : SourceUnit) (size : Nat) (o : Outcome) (w : Workspace) : Workspace :=
  match o.ending with
  | .ok true => { w with
      diagnostics := w.diagnostics ++ o.reported
      index := w.index.register (artifactOf u w.clock.now size)
      clock := w.clock.tick
      log := w.log ++ emitLog u }
  | _ => { w with diagnostics := w.diagnostics ++ o.reported }

def Clean (reported : List Diagnostic) : Prop := ∀ d ∈ reported, d.severity ≠ .error

instance (reported : List Diagnostic) : Decidable (Clean reported) :=
  inferInstanceAs (Decidable (∀ d ∈ reported, d.severity ≠ .error))

theorem clean_warningsOf (u : SourceUnit) (s : Demands) (warnings : List Notice) :
    Clean (warningsOf u s warnings) := by
  intro d reported
  unfold warningsOf at reported
  split at reported
  · cases reported
  · obtain ⟨n, -, rfl⟩ := List.mem_map.1 reported
    simp [diagnosticOf]

/-- A unit compiles exactly when it is parsed, all its imports are met, its code is generated, and
no warning counts as an error. -/
theorem outcome_good_iff (fe : FrontEnd) (s : Demands) (u : SourceUnit) (k : Catalog) :
    (outcome fe s u k).ending = .ok true ↔
      ∃ tree, (fe.parse u.source s.level).ending = .done tree ∧
        k.check tree.allRequests = ([], .ok ()) ∧
        (fe.generate u.source s.level s.optimization).ending = .done () ∧
        ((!(fe.parse u.source s.level).warnings.isEmpty ||
          !(fe.generate u.source s.level s.optimization).warnings.isEmpty) && s.strict) = false := by
  simp only [outcome]
  cases (fe.parse u.source s.level).ending with
  | broken failure => simp
  | refused n => simp
  | done tree =>
    simp only [treeOutcome, PassEnd.done.injEq, exists_eq_left']
    obtain ⟨unmet, looked⟩ := k.check tree.allRequests
    cases looked with
    | error failure => simp
    | ok done =>
      simp only [generated]
      cases (fe.generate u.source s.level s.optimization).ending with
      | broken failure => simp
      | refused n => simp
      | done result =>
        by_cases met : unmet = []
        · by_cases strict : ((!(fe.parse u.source s.level).warnings.isEmpty ||
              !(fe.generate u.source s.level s.optimization).warnings.isEmpty) && s.strict) = true
          · simp [met, strict]
          · simp [met, strict]
        · simp [met]

section Parsed

variable {fe : FrontEnd} {s : Demands} {u : SourceUnit} {tree : SyntaxTree}
  (parsed : (fe.parse u.source s.level).ending = .done tree) (k : Catalog)

include parsed

/-- When all imports were looked up, but not all are met, the unit fails as soon as its code is
generated. -/
theorem outcome_of_unmet (ended : (k.check tree.allRequests).2 = .ok ())
    (unmet : (k.check tree.allRequests).1 ≠ [])
    (generates : (fe.generate u.source s.level s.optimization).ending = .done ()) :
    (outcome fe s u k).ending = .ok false := by
  simp only [outcome, parsed, treeOutcome]
  revert ended unmet
  generalize k.check tree.allRequests = looked
  obtain ⟨requests, ending⟩ := looked
  rintro rfl unmet
  have filled : requests.isEmpty = false := by simpa using unmet
  simp only [generated, generates, filled, Bool.not_false, if_true]

theorem check_ended_of_answer {answer : Bool} (given : (outcome fe s u k).ending = .ok answer) :
    (k.check tree.allRequests).2 = .ok () := by
  simp only [outcome, parsed, treeOutcome] at given
  revert given
  generalize k.check tree.allRequests = looked
  obtain ⟨requests, ending⟩ := looked
  intro given
  cases ending with
  | error failure => cases given
  | ok done => rfl

theorem missing_mem_reported {r : ImportRequest} (unmet : r ∈ (k.check tree.allRequests).1) :
    missing u r ∈ (outcome fe s u k).reported := by
  have listed : missing u r ∈ (k.check tree.allRequests).1.map (missing u) :=
    List.mem_map_of_mem unmet
  simp only [outcome, parsed, treeOutcome]
  apply List.mem_append_right
  revert listed
  generalize k.check tree.allRequests = looked
  obtain ⟨requests, ending⟩ := looked
  intro listed
  cases ending with
  | error failure => exact listed
  | ok done =>
    simp only [generated]
    cases (fe.generate u.source s.level s.optimization).ending with
    | broken failure => exact listed
    | refused n => exact List.mem_append_left _ (List.mem_append_left _ listed)
    | done result =>
      have filled : requests.isEmpty = false := by
        cases requests with
        | nil => cases listed
        | cons first rest => rfl
      simp only [filled, Bool.not_false, if_true]
      exact List.mem_append_left _ listed

/-- An error is reported for an import that is not met, by the generator, or, when all imports are
met, for warnings that count as errors. -/
theorem reported_error {d : Diagnostic} (reported : d ∈ (outcome fe s u k).reported)
    (grave : d.severity = .error) :
    (∃ r ∈ (k.check tree.allRequests).1, d = missing u r) ∨
      (∃ n, (fe.generate u.source s.level s.optimization).ending = .refused n ∧
        d = diagnosticOf u .error n) ∨
      ((k.check tree.allRequests).1 = [] ∧ d = diagnosticOf u .error strictNotice) := by
  have mild (warnings : List Notice) : d ∉ warningsOf u s warnings := fun member =>
    clean_warningsOf u s warnings d member grave
  have unmet (requests : List ImportRequest) (member : d ∈ requests.map (missing u)) :
      ∃ r ∈ requests, d = missing u r := by
    obtain ⟨r, inside, rfl⟩ := List.mem_map.1 member
    exact ⟨r, inside, rfl⟩
  simp only [outcome, parsed, treeOutcome] at reported
  rcases List.mem_append.1 reported with front | rest
  · exact absurd front (mild _)
  · revert rest
    generalize k.check tree.allRequests = looked
    obtain ⟨requests, ending⟩ := looked
    intro rest
    cases ending with
    | error failure => exact .inl (unmet _ rest)
    | ok done =>
      simp only [generated] at rest
      cases generates : (fe.generate u.source s.level s.optimization).ending with
      | broken failure =>
        rw [generates] at rest
        exact .inl (unmet _ rest)
      | refused n =>
        simp only [generates, List.mem_append, List.mem_singleton] at rest
        rcases rest with (here | there) | own
        · exact .inl (unmet _ here)
        · exact absurd there (mild _)
        · exact .inr (.inl ⟨n, rfl, own⟩)
      | done result =>
        rw [generates] at rest
        dsimp only at rest
        split at rest
        · rcases List.mem_append.1 rest with here | there
          · exact .inl (unmet _ here)
          · exact absurd there (mild _)
        · rename_i met
          split at rest
          · simp only [List.mem_append, List.mem_singleton] at rest
            rcases rest with (here | there) | own
            · exact .inl (unmet _ here)
            · exact absurd there (mild _)
            · exact .inr (.inr ⟨by simpa using met, own⟩)
          · rcases List.mem_append.1 rest with here | there
            · exact .inl (unmet _ here)
            · exact absurd there (mild _)

end Parsed

@[simp] theorem leave_diagnostics (u : SourceUnit) (size : Nat) (o : Outcome) (w : Workspace) :
    (leave u size o w).diagnostics = w.diagnostics ++ o.reported := by
  unfold leave
  split <;> rfl

@[simp] theorem leave_disk (u : SourceUnit) (size : Nat) (o : Outcome) (w : Workspace) :
    (leave u size o w).disk = w.disk := by
  unfold leave
  split <;> rfl

@[simp] theorem leave_store (u : SourceUnit) (size : Nat) (o : Outcome) (w : Workspace) :
    (leave u size o w).store = w.store := by
  unfold leave
  split <;> rfl

theorem leave_index {o : Outcome} (good : o.ending = .ok true) (u : SourceUnit) (size : Nat)
    (w : Workspace) :
    (leave u size o w).index = w.index.register (artifactOf u w.clock.now size) := by
  rw [leave, good]

theorem codeOf_ne_nil (u : SourceUnit) (reading : Int) (size : Nat) :
    codeOf u reading size ≠ [] := by
  simp [codeOf, CodeFile.write, CodeFile.header, CodeFile.mark]

theorem run_report (m : FileAccess) (u : SourceUnit) (severity : Severity) (n : Notice)
    (w : Workspace) : (report u severity n).run m w =
      (.ok (), { w with diagnostics := w.diagnostics ++ [diagnosticOf u severity n] }) := rfl

private theorem run_reportWarnings (m : FileAccess) (u : SourceUnit) (s : Demands)
    (warnings : List Notice) (w : Workspace) : (reportWarnings u s warnings).run m w =
      (.ok (), { w with diagnostics := w.diagnostics ++ warningsOf u s warnings }) := by
  induction warnings generalizing w with
  | nil => simp [reportWarnings, warningsOf]
  | cons n rest ih =>
    rw [reportWarnings, Activity.run_andThen]
    cases quiet : s.quiet with
    | true =>
      simp only [if_true, Activity.run_done, Activity.goOn_ok, ih]
      simp [warningsOf, quiet]
    | false =>
      simp only [Bool.false_eq_true, if_false, run_report, Activity.goOn_ok, ih]
      simp [warningsOf, quiet]

theorem run_emit [Text.Encodings] (delegate : FileAccess) (reserved : String) (u : SourceUnit)
    {bytes : Bytes} (named : u.name ≠ "") (encoded : u.encoded = .ok bytes) (w : Workspace) :
    (emit u).run (.virtual delegate reserved) w = (.ok (), { w with
      index := w.index.register (artifactOf u w.clock.now bytes.length)
      clock := w.clock.tick
      log := w.log ++ emitLog u }) := by
  let made : Artifact := .create u.name .compiled ""
  let v : Workspace := ({ w with index := w.index.register made } : Workspace).tell
    (FileAccess.allocated made .classOutput)
  have asked : (FileAccess.virtual delegate reserved).output w .classOutput u.name .compiled =
      (.ok (.produced (v.index.size - 1)), v) := by
    simp only [FileAccess.output, named, if_false]
    rfl
  have place : v.index.size - 1 = w.index.artifacts.length := by
    simp [v, Workspace.tell, PackageIndex.size, PackageIndex.register]
  have found : v.index.get? (v.index.size - 1) =
      some ⟨u.name, .compiled, Artifact.memoryUri u.name .compiled, none, none⟩ := by
    rw [place]
    simp [v, Workspace.tell, PackageIndex.get?, PackageIndex.register, made, Artifact.create]
  have wrote := Activity.run_writeArtifact delegate reserved v.tick _ _ _ _ _
    (codeOf_ne_nil u w.clock.now bytes.length) found
  have index : v.index.update (v.index.size - 1) (artifactOf u w.clock.now bytes.length) =
      w.index.register (artifactOf u w.clock.now bytes.length) := by
    rw [place]
    simp [v, Workspace.tell, PackageIndex.update, PackageIndex.register]
  rw [emit, encoded]
  simp only [Activity.run_andThen, Activity.run_ofAnswer, Activity.goOn_ok, Activity.run, asked]
  rw [show v.clock = w.clock from rfl, wrote]
  simp only [Activity.goOn_ok, Workspace.tick]
  rw [show (⟨u.name, .compiled, Artifact.memoryUri u.name .compiled,
    some (codeOf u w.clock.now bytes.length), some ⟨[], true⟩⟩ : Artifact) =
      artifactOf u w.clock.now bytes.length from rfl, index]
  simp [Workspace.tell, v, emitLog, made]

/-- What the compilation of a unit with an outcome answers and leaves, over any access to files: what
is reported is in the collector, and a good unit is emitted. -/
def settle [Text.Encodings] (m : FileAccess) (u : SourceUnit) (o : Outcome) (known : Listings)
    (w : Workspace) :
    Except Failure (Bool × Listings) × Workspace :=
  let w := { w with diagnostics := w.diagnostics ++ o.reported }
  match o.ending with
  | .error failure => (.error failure, w)
  | .ok false => (.ok (false, known), w)
  | .ok true => Activity.goOn (fun _ w => (.ok (true, known), w)) ((emit u).run m w)

section Settled

variable (m : FileAccess) (fe : FrontEnd) (s : Demands) (u : SourceUnit)

theorem run_compileTree_of_checked [Text.Encodings] (warned : Bool) {tree : SyntaxTree}
    {known known' : Listings} {unmet : List ImportRequest} {w : Workspace}
    (checked : (checkImports u known tree.allRequests).run m w =
      (.ok (unmet.isEmpty, known'),
        { w with diagnostics := w.diagnostics ++ unmet.map (missing u) })) :
    (compileTree fe s u warned tree known).run m w =
      settle m u (generated fe s u warned unmet) known' w := by
  simp only [compileTree, Activity.run_andThen, checked, Activity.goOn_ok, generated, settle]
  cases (fe.generate u.source s.level s.optimization).ending with
  | broken failure => rfl
  | refused n => simp [Activity.run_andThen, run_reportWarnings, run_report]
  | done =>
    simp only [Activity.run_andThen, run_reportWarnings, Activity.goOn_ok]
    by_cases met : unmet.isEmpty = true
    · by_cases strict : ((warned ||
          !(fe.generate u.source s.level s.optimization).warnings.isEmpty) && s.strict) = true
      · simp [met, strict, Activity.run_andThen, run_report]
      · simp [met, strict, Activity.run_andThen]
        rfl
    · simp [met]

theorem run_compileTree_of_broken [Text.Encodings] (warned : Bool) {tree : SyntaxTree}
    {known : Listings} {failure : Failure} {v w : Workspace}
    (checked : (checkImports u known tree.allRequests).run m w = (.error failure, v)) :
    (compileTree fe s u warned tree known).run m w = (.error failure, v) := by
  simp only [compileTree, Activity.run_andThen, checked]
  rfl

theorem run_compileUnit_of_broken [Text.Encodings] {failure : Failure}
    (parsed : (fe.parse u.source s.level).ending = .broken failure) (known : Listings)
    (w : Workspace) :
    (compileUnit fe s u known).run m w = settle m u ⟨[], .error failure⟩ known w := by
  simp [compileUnit, parsed, settle]

theorem run_compileUnit_of_refused [Text.Encodings] {n : Notice}
    (parsed : (fe.parse u.source s.level).ending = .refused n) (known : Listings) (w : Workspace) :
    (compileUnit fe s u known).run m w =
      settle m u ⟨warningsOf u s (fe.parse u.source s.level).warnings ++ [diagnosticOf u .error n],
        .ok false⟩ known w := by
  simp [compileUnit, parsed, Activity.run_andThen, run_reportWarnings, run_report, settle]

/-- The warnings of the parser are in the collector before the tree is compiled. -/
theorem run_compileUnit_of_tree [Text.Encodings] {tree : SyntaxTree}
    (parsed : (fe.parse u.source s.level).ending = .done tree) {known known' : Listings}
    {front : List Diagnostic} {o : Outcome} {w : Workspace}
    (warned : front = warningsOf u s (fe.parse u.source s.level).warnings)
    (compiled : (compileTree fe s u (!(fe.parse u.source s.level).warnings.isEmpty) tree known).run
        m { w with diagnostics := w.diagnostics ++ front } =
      settle m u o known' { w with diagnostics := w.diagnostics ++ front }) :
    (compileUnit fe s u known).run m w =
      settle m u ⟨front ++ o.reported, o.ending⟩ known' w := by
  simp only [compileUnit, parsed, Activity.run_andThen, run_reportWarnings, Activity.goOn_ok,
    ← warned, compiled]
  simp only [settle, List.append_assoc]

end Settled

/-- Over a virtual access, a unit with a name and an encoding that represents it leaves what its
outcome says. -/
private theorem settle_virtual [Text.Encodings] (delegate : FileAccess) (reserved : String)
    {u : SourceUnit} {bytes : Bytes} (named : u.name ≠ "") (encoded : u.encoded = .ok bytes)
    (o : Outcome) (known : Listings) (w : Workspace) :
    settle (.virtual delegate reserved) u o known w =
      (o.ending.map fun good => (good, known), leave u bytes.length o w) := by
  obtain ⟨reported, ending⟩ := o
  cases ending with
  | error failure => rfl
  | ok good =>
    cases good with
    | false => rfl
    | true => simp [settle, leave, run_emit delegate reserved u named encoded, Except.map]

variable (fe : FrontEnd) (s : Demands) {u : SourceUnit} (reserved : String) {bytes : Bytes}

private theorem run_compileTree [Text.Encodings] (warned : Bool) (tree : SyntaxTree) (w : Workspace)
    {known : Listings} (current : Current (.ofWorkspace reserved w) known) :
    ∃ known', Current (.ofWorkspace reserved w) known' ∧
      (compileTree fe s u warned tree known).run (.virtual .standard reserved) w =
        settle (.virtual .standard reserved) u
          (treeOutcome fe s u (.ofWorkspace reserved w) warned tree) known' w := by
  obtain ⟨known', current', checked⟩ := run_checkImports reserved w u tree.allRequests current
  refine ⟨known', current', ?_⟩
  unfold treeOutcome
  revert checked
  generalize (Catalog.ofWorkspace reserved w).check tree.allRequests = looked
  obtain ⟨unmet, ending⟩ := looked
  intro checked
  cases ending with
  | error failure => exact run_compileTree_of_broken _ fe s u warned checked
  | ok done => exact run_compileTree_of_checked _ fe s u warned checked

private theorem run_compileUnit [Text.Encodings] (named : u.name ≠ "")
    (encoded : u.encoded = .ok bytes) (w : Workspace) {known : Listings}
    (current : Current (.ofWorkspace reserved w) known) :
    ∃ known', Current (.ofWorkspace reserved w) known' ∧
      (compileUnit fe s u known).run (.virtual .standard reserved) w =
        ((outcome fe s u (.ofWorkspace reserved w)).ending.map fun good => (good, known'),
          leave u bytes.length (outcome fe s u (.ofWorkspace reserved w)) w) := by
  simp only [← settle_virtual .standard reserved named encoded, outcome]
  cases parsed : (fe.parse u.source s.level).ending with
  | broken failure =>
    exact ⟨known, current, run_compileUnit_of_broken _ fe s u parsed known w⟩
  | refused n => exact ⟨known, current, run_compileUnit_of_refused _ fe s u parsed known w⟩
  | done tree =>
    -- Reporting the warnings of the parser leaves the catalog as it is.
    let front := warningsOf u s (fe.parse u.source s.level).warnings
    obtain ⟨known', current', compiled⟩ := run_compileTree fe s reserved
      (!(fe.parse u.source s.level).warnings.isEmpty) tree
      { w with diagnostics := w.diagnostics ++ front } current
    exact ⟨known', current', run_compileUnit_of_tree _ fe s u parsed rfl compiled⟩

/-- The paths of a workspace for a task: those of extensions are set if there are any. -/
def located (s : Demands) (w : Workspace) : Workspace :=
  if s.extensions.isEmpty then w else FileAccess.setLocation w .extensionPath s.extensions

@[simp] theorem located_diagnostics (s : Demands) (w : Workspace) :
    (located s w).diagnostics = w.diagnostics := by
  unfold located
  split <;> rfl

@[simp] theorem located_disk (s : Demands) (w : Workspace) : (located s w).disk = w.disk := by
  unfold located
  split <;> rfl

@[simp] theorem located_store (s : Demands) (w : Workspace) : (located s w).store = w.store := by
  unfold located
  split <;> rfl

@[simp] theorem located_index (s : Demands) (w : Workspace) : (located s w).index = w.index := by
  unfold located
  split <;> rfl

@[simp] theorem located_clock (s : Demands) (w : Workspace) : (located s w).clock = w.clock := by
  unfold located
  split <;> rfl

private theorem run_compileAll [Text.Encodings] (m : FileAccess) (units : List SourceUnit)
    (w : Workspace) :
    (compileAll fe s units).run m w = (compileUnits fe s units []).run m w := by
  rw [compileAll, Activity.run_andThen]
  rcases (compileUnits fe s units []).run m w with ⟨_ | good, v⟩
  · rfl
  · exact Activity.run_flush m (.done good) v

theorem run_activity_eq [Text.Encodings] (m : FileAccess) (units : List SourceUnit)
    (w : Workspace) :
    (activity fe s units).run m w = (compileUnits fe s units []).run m (located s w) := by
  unfold activity located
  split <;> exact run_compileAll fe s m units _

/-- A task with one unit ends as the outcome of the unit says and leaves what it says. -/
theorem run_activity [Text.Encodings] (named : u.name ≠ "") (encoded : u.encoded = .ok bytes)
    (w : Workspace) :
    (activity fe s [u]).run (.virtual .standard reserved) w =
      ((outcome fe s u (.ofWorkspace reserved w)).ending,
        leave u bytes.length (outcome fe s u (.ofWorkspace reserved w)) (located s w)) := by
  have here : Catalog.ofWorkspace reserved (located s w) = .ofWorkspace reserved w := by
    unfold located
    split <;> rfl
  obtain ⟨known', -, compiled⟩ :=
    run_compileUnit fe s reserved named encoded (located s w) (current_nil _)
  rw [here] at compiled
  rw [run_activity_eq]
  simp only [compileUnits, Activity.run_andThen, compiled]
  cases (outcome fe s u (.ofWorkspace reserved w)).ending with
  | error failure => rfl
  | ok good => simp [Except.map, Activity.andThen]

end PagePress.PageTask
