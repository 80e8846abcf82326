import PagePress.Proofs.PageTask.Outcome
import PagePress.Proofs.Session
import PagePress.Proofs.Store.Insertion

/-!
Compilations of pages as a whole. When nothing is wrong with what it was given, a compilation ends
as the outcome of its unit says: what was reported is in the collector, and the store has the code
file of the unit, or is as it was.
-/

set_option autoImplicit false

namespace PagePress.PageCompiler

def commission [Text.Encodings] (c : PageCompiler) (fe : FrontEnd) (d : Disk) (name : String) :
    Except Failure (SourceUnit × Demands) :=
  match c.prepare (PageTask.service fe) d name with
  | .error failure => .error failure
  | .ok (unit, options) => (PageTask.demandsOf d options).map fun demands => (unit, demands)

def catalog (c : PageCompiler) (w : Workspace) : Catalog :=
  ⟨c.reserved, c.classpath, w.disk, w.store⟩

/-- The modules that the unit of a compilation imports by their full names. -/
def imports [Text.Encodings] (c : PageCompiler) (fe : FrontEnd) (d : Disk) (name : String) :
    List ImportRequest :=
  match c.commission fe d name with
  | .error _ => []
  | .ok (u, s) =>
    match (fe.parse u.source s.level).ending with
    | .done tree => tree.allRequests
    | _ => []

/-- How a compilation of a page ends, and what it leaves. -/
structure Settled (c : PageCompiler) (u : SourceUnit) (size : Nat) (o : PageTask.Outcome)
    (guide : Option LineGuide) (w : Workspace) (answer : Except Failure CompilationResult)
    (v : Workspace) : Prop where
  reported : v.diagnostics = o.reported
  disk : v.disk = w.disk
  broken : ∀ failure, o.ending = .error failure → answer = .error failure ∧ v.store = w.store
  failed : o.ending = .ok false → v.store = w.store ∧
    answer = .ok ⟨u.name, false, (Relocation.relocateAll guide c.includeNotes o.reported).1⟩
  published : o.ending = .ok true → answer = .ok ⟨u.name, true, []⟩ ∧
    v.store = (w.store.insert u.name (PageTask.codeOf u w.clock.now size)).2

theorem task_page [Text.Encodings] (c : PageCompiler) (fe : FrontEnd) (d : Disk) (name : String) :
    c.task (PageTask.service fe) d name =
      (c.commission fe d name).map fun (u, s) => PageTask.activity fe s [u] := by
  unfold commission task
  cases c.prepare (PageTask.service fe) d name with
  | error failure => rfl
  | ok pair =>
    obtain ⟨unit, options⟩ := pair
    simp only [PageTask.service]
    cases PageTask.demandsOf d options <;> rfl

/-- The unit of a commission has the name that was given, and an encoding that represents it. -/
theorem commission_ok [Text.Encodings] {c : PageCompiler} {fe : FrontEnd} {d : Disk} {name : String}
    {u : SourceUnit} {s : Demands} (h : c.commission fe d name = .ok (u, s)) :
    u.name = name ∧ u.name ≠ "" ∧ ∃ bytes, u.encoded = .ok bytes := by
  unfold commission at h
  cases prepared : c.prepare (PageTask.service fe) d name with
  | error failure =>
    rw [prepared] at h
    cases h
  | ok pair =>
    obtain ⟨unit, options⟩ := pair
    rw [prepared] at h
    cases demanded : PageTask.demandsOf d options with
    | error failure =>
      simp only [demanded] at h
      cases h
    | ok demands =>
      simp only [demanded] at h
      cases h
      obtain ⟨sink, -, isName, made, -, -⟩ := prepare_ok prepared
      obtain ⟨rfl, encoded⟩ := make_ok made
      refine ⟨rfl, ?_, encoded⟩
      rintro rfl
      simp [isUnitName] at isName

theorem imports_eq [Text.Encodings] {c : PageCompiler} {fe : FrontEnd} {d : Disk} {name : String}
    {u : SourceUnit} {s : Demands} {tree : SyntaxTree}
    (commissioned : c.commission fe d name = .ok (u, s))
    (parsed : (fe.parse u.source s.level).ending = .done tree) :
    c.imports fe d name = tree.allRequests := by
  simp only [imports, commissioned, parsed]

theorem tree_of_mem_imports [Text.Encodings] {c : PageCompiler} {fe : FrontEnd} {d : Disk}
    {name : String} {r : ImportRequest} (imported : r ∈ c.imports fe d name) :
    ∃ u s tree, c.commission fe d name = .ok (u, s) ∧
      (fe.parse u.source s.level).ending = .done tree := by
  unfold imports at imported
  split at imported
  · cases imported
  · rename_i u s commissioned
    split at imported
    · rename_i tree parsed
      exact ⟨u, s, tree, commissioned, parsed⟩
    · cases imported

private theorem commit_single (u : SourceUnit) (reading : Int) (size : Nat) (v : Workspace)
    (only : v.index.artifacts = [PageTask.artifactOf u reading size]) :
    ∃ log, commit u.name v = (.ok (), { v with
      store := (v.store.insert u.name (PageTask.codeOf u reading size)).2, log }) := by
  simp [commit, only, PageTask.artifactOf, Artifact.isSealed, Store.putMany, Store.contents?,
    Store.insertAll]

private theorem sealed_alone (c : PageCompiler) (u : SourceUnit) (s : Demands) (size : Nat)
    (w : Workspace) {o : PageTask.Outcome} (good : o.ending = .ok true) :
    (PageTask.leave u size o (PageTask.located s (c.session w))).index.artifacts =
      [PageTask.artifactOf u w.clock.now size] := by
  rw [PageTask.leave_index good, PageTask.located_index, PageTask.located_clock]
  rfl

theorem compile_refused [Text.Encodings] (c : PageCompiler) (fe : FrontEnd) {name : String}
    (guide : Option LineGuide) (w : Workspace) {failure : Failure}
    (refused : c.commission fe w.disk name = .error failure) :
    (c.compile (PageTask.service fe) name guide w).1 = .error failure ∧
      (c.compile (PageTask.service fe) name guide w).2.store = w.store := by
  have asked : c.task (PageTask.service fe) w.disk name = .error failure := by
    rw [task_page, refused]
    rfl
  have course := compile_course c (PageTask.service fe) name guide w
  generalize c.compile (PageTask.service fe) name guide w = outcome at course
  cases course with
  | refused again kept =>
    cases asked.symm.trans again
    exact ⟨rfl, kept⟩
  | _ again => cases asked.symm.trans again

/-- A compilation of a page with a commission ends as the outcome of its unit says. -/
theorem compile_settled_of_encoded [Text.Encodings] (c : PageCompiler) (fe : FrontEnd)
    {name : String} (guide : Option LineGuide) (w : Workspace) {u : SourceUnit} {s : Demands}
    {bytes : Bytes} (commissioned : c.commission fe w.disk name = .ok (u, s))
    (encoded : u.encoded = .ok bytes) :
    Settled c u bytes.length (PageTask.outcome fe s u (c.catalog w)) guide w
      (c.compile (PageTask.service fe) name guide w).1
      (c.compile (PageTask.service fe) name guide w).2 := by
  obtain ⟨rfl, named, -⟩ := commission_ok commissioned
  have asked : c.task (PageTask.service fe) w.disk u.name = .ok (PageTask.activity fe s [u]) := by
    rw [task_page, commissioned]
    rfl
  have ran := PageTask.run_activity fe s c.reserved named encoded (c.session w)
  rw [show FileAccess.virtual .standard c.reserved = c.access from rfl,
    show Catalog.ofWorkspace c.reserved (c.session w) = c.catalog w from rfl] at ran
  generalize PageTask.outcome fe s u (c.catalog w) = o at ran
  -- The run is known, so the outcome decides which course the compilation took.
  have course := compile_course c (PageTask.service fe) u.name guide w
  generalize c.compile (PageTask.service fe) u.name guide w = outcome at course
  cases course with
  | refused refusal => rw [asked] at refusal; cases refusal
  | broken again rerun =>
    obtain rfl := Except.ok.inj (asked.symm.trans again)
    obtain ⟨ending, rfl⟩ := Prod.mk.inj (ran.symm.trans rerun)
    refine ⟨?_, ?_, ?_, ?_, ?_⟩ <;> simp_all [session, Workspace.renew, FileAccess.setLocation]
  | failed again rerun =>
    obtain rfl := Except.ok.inj (asked.symm.trans again)
    obtain ⟨ending, rfl⟩ := Prod.mk.inj (ran.symm.trans rerun)
    refine ⟨?_, ?_, ?_, ?_, ?_⟩ <;> simp_all [session, Workspace.renew, FileAccess.setLocation]
  | withheld again rerun committed =>
    obtain rfl := Except.ok.inj (asked.symm.trans again)
    obtain ⟨ending, rfl⟩ := Prod.mk.inj (ran.symm.trans rerun)
    obtain ⟨log, done⟩ := commit_single u _ bytes.length _ (sealed_alone c u s bytes.length w ending)
    rw [committed] at done
    cases done
  | published again rerun committed =>
    obtain rfl := Except.ok.inj (asked.symm.trans again)
    obtain ⟨ending, rfl⟩ := Prod.mk.inj (ran.symm.trans rerun)
    obtain ⟨log, done⟩ := commit_single u _ bytes.length _ (sealed_alone c u s bytes.length w ending)
    rw [committed] at done
    cases done
    refine ⟨?_, ?_, ?_, ?_, ?_⟩ <;> simp_all [session, Workspace.renew, FileAccess.setLocation]

theorem compile_settled [Text.Encodings] (c : PageCompiler) (fe : FrontEnd) {name : String}
    (guide : Option LineGuide) (w : Workspace) {u : SourceUnit} {s : Demands}
    (commissioned : c.commission fe w.disk name = .ok (u, s)) :
    ∃ size, Settled c u size (PageTask.outcome fe s u (c.catalog w)) guide w
      (c.compile (PageTask.service fe) name guide w).1
      (c.compile (PageTask.service fe) name guide w).2 := by
  obtain ⟨-, -, bytes, encoded⟩ := commission_ok commissioned
  exact ⟨bytes.length, compile_settled_of_encoded c fe guide w commissioned encoded⟩

/-- A compilation of a page succeeds exactly when it has a commission whose unit compiles. -/
theorem page_succeeds_iff [Text.Encodings] (c : PageCompiler) (fe : FrontEnd) (name : String)
    (guide : Option LineGuide) (w : Workspace) :
    succeeded (c.compile (PageTask.service fe) name guide w).1 = true ↔
      ∃ u s, c.commission fe w.disk name = .ok (u, s) ∧
        (PageTask.outcome fe s u (c.catalog w)).ending = .ok true := by
  cases commissioned : c.commission fe w.disk name with
  | error failure => simp [(compile_refused c fe guide w commissioned).1, succeeded]
  | ok pair =>
    obtain ⟨u, s⟩ := pair
    obtain ⟨size, settled⟩ := compile_settled c fe guide w commissioned
    constructor
    · intro good
      refine ⟨u, s, rfl, ?_⟩
      cases ending : (PageTask.outcome fe s u (c.catalog w)).ending with
      | error failure =>
        rw [(settled.broken failure ending).1] at good
        cases good
      | ok done =>
        cases done with
        | true => rfl
        | false =>
          rw [(settled.failed ending).2] at good
          cases good
    · rintro ⟨_, _, same, ending⟩
      cases same
      rw [(settled.published ending).1]
      rfl

end PagePress.PageCompiler
