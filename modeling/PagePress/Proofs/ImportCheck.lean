import Mathlib.Tactic.ByContra
import PagePress.Proofs.Modules.Finder
import PagePress.Proofs.PageTask.Compilation
import PagePress.Proofs.Relocation
import PagePress.Text.Encoding.Standard

/-!
The import check against the finder. Inside the namespace a compilation reports a module that cannot
be found exactly when something is stored in the package of the module and a finder over the same
store finds nothing for the module. An empty package is left to the finder.
-/

set_option autoImplicit false

namespace PagePress

/-- Inside the namespace a module is not seen exactly when its package holds something and a finder
does not find it. -/
private theorem Catalog.unseen_iff {k : Catalog} (consistent : k.store.Consistent)
    (named : k.reserved ≠ "") {module : String}
    (inside : Name.isWithin (Name.packageOf module) k.reserved = true) (provided : Bool) :
    k.sees module = .ok false ↔
      (∃ stored, k.store.contains stored = true ∧
        Name.isBelow stored (Name.packageOf module) = true) ∧
      Finder.find k.store k.reserved module provided = none := by
  have below := Name.isBelow_of_isWithin_packageOf named inside
  rw [Finder.find_eq_none_iff consistent below]
  by_cases packaged : Name.packageOf module = ""
  · -- Only the empty name lies within the namespace without being below it.
    rw [packaged] at inside
    rcases (Name.isWithin_iff _ _).1 inside with same | under
    · exact absurd same.symm named
    · exact absurd (Name.length_lt_of_isBelow under) (by simp)
  obtain ⟨visible, sees, visible_iff⟩ := sees_inside consistent packaged inside
  rw [sees]
  constructor
  · intro unseen
    cases unseen
    refine ⟨?_, fun stored here => ?_⟩
    · by_contra none
      refine nomatch visible_iff.2 (.inl fun stored here => ?_)
      rw [← Bool.not_eq_true]
      exact fun under => none ⟨stored, here, under⟩
    · rw [← Bool.not_eq_true]
      exact fun within => nomatch visible_iff.2 (.inr ⟨stored, here, within⟩)
  · rintro ⟨⟨stored, here, under⟩, apart⟩
    cases visible with
    | false => rfl
    | true =>
      rcases visible_iff.1 rfl with empty | ⟨other, held, within⟩
      · rw [empty stored here] at under
        cases under
      · rw [apart other held] at within
        cases within

namespace PageTask

private theorem notFound_message_inj {a b : String}
    (same : "cannot find module '" ++ a ++ "'" = "cannot find module '" ++ b ++ "'") : a = b := by
  have chars := congrArg String.toList same
  apply String.toList_injective
  simpa using chars

private theorem strictNotice_message_ne (module : String) :
    strictNotice.message ≠ "cannot find module '" ++ module ++ "'" := by
  intro same
  have chars := congrArg String.toList same
  simp [strictNotice] at chars

/-- A module that was looked up is reported exactly when the catalog does not show it, if the
generator does not say the same of it. -/
theorem reported_iff {fe : FrontEnd} {s : Demands} {u : SourceUnit} {tree : SyntaxTree}
    (parsed : (fe.parse u.source s.level).ending = .done tree) (k : Catalog) {r : ImportRequest}
    (generator : ∀ n, (fe.generate u.source s.level s.optimization).ending = .refused n →
      n.message ≠ "cannot find module '" ++ r.module ++ "'")
    (looked : r ∈ k.lookedUp tree.allRequests) :
    (∃ d ∈ (outcome fe s u k).reported, d.severity = .error ∧
      d.message = "cannot find module '" ++ r.module ++ "'") ↔ k.sees r.module = .ok false := by
  constructor
  · rintro ⟨d, reported, grave, message⟩
    rcases reported_error parsed k reported grave with
      ⟨q, unmet, rfl⟩ | ⟨n, refused, rfl⟩ | ⟨-, rfl⟩
    · have same : q.module = r.module := notFound_message_inj message
      rw [← same]
      exact ((k.mem_check _ q).1 unmet).2
    · exact absurd message (generator n refused)
    · exact absurd message (strictNotice_message_ne r.module)
  · intro unseen
    have unmet := (k.mem_check _ r).2 ⟨looked, unseen⟩
    exact ⟨missing u r, missing_mem_reported parsed k unmet, rfl, rfl⟩

end PageTask

namespace PageCompiler

/-- For every module of the namespace that a unit imports: the import check, once it gets to the
module, reports it exactly when its package holds something and a finder over the same store finds
nothing; when it does not get there, the compilation breaks; and the errors of a compilation that
gives a result tell the same as the reports. -/
theorem import_check_agrees_with_finder [Text.Encodings] (c : PageCompiler) (fe : FrontEnd)
    (name : String) (guide : Option LineGuide) (w : Workspace) (r : ImportRequest) (provided : Bool)
    (named : c.reserved ≠ "") (reachable : w.store.Reachable)
    (imported : r ∈ c.imports fe w.disk name)
    (inside : Name.isWithin (Name.packageOf r.module) c.reserved = true)
    (generator : ∀ source level o n, (fe.generate source level o).ending = .refused n →
      n.message ≠ "cannot find module '" ++ r.module ++ "'") :
    let compiled := c.compile (PageTask.service fe) name guide w
    let looked := (c.catalog w).lookedUp (c.imports fe w.disk name)
    let unfound := (∃ stored, w.store.contains stored = true ∧
        Name.isBelow stored (Name.packageOf r.module) = true) ∧
      Finder.find w.store c.reserved r.module provided = none
    (r ∈ looked → ((∃ d ∈ compiled.2.diagnostics, d.severity = .error ∧
      d.message = "cannot find module '" ++ r.module ++ "'") ↔ unfound)) ∧
    (r ∉ looked → ∃ failure, compiled.1 = .error failure) ∧
    ∀ result, compiled.1 = .ok result → ((∃ e ∈ result.errors, e.severity = .error ∧
      e.message = "cannot find module '" ++ r.module ++ "'") ↔ unfound) := by
  intro compiled looked unfound
  obtain ⟨u, s, tree, commissioned, parsed⟩ := tree_of_mem_imports imported
  have requests : c.imports fe w.disk name = tree.allRequests := imports_eq commissioned parsed
  obtain ⟨size, settled⟩ := compile_settled c fe guide w commissioned
  have unseen : (c.catalog w).sees r.module = .ok false ↔ unfound :=
    Catalog.unseen_iff (k := c.catalog w) reachable.consistent named inside provided
  have reports (got : r ∈ looked) := PageTask.reported_iff parsed (c.catalog w)
    (generator u.source s.level s.optimization) (requests ▸ got)
  have collected : compiled.2.diagnostics = (PageTask.outcome fe s u (c.catalog w)).reported :=
    settled.reported
  -- A compilation that gives a result has looked up all imports.
  have answered (b : Bool) (ending : (PageTask.outcome fe s u (c.catalog w)).ending = .ok b) :
      r ∈ looked := by
    have ended := PageTask.check_ended_of_answer parsed (c.catalog w) ending
    have all := Catalog.lookedUp_of_ended ended
    rw [← requests] at all
    rw [show looked = c.imports fe w.disk name from all]
    exact imported
  refine ⟨fun got => ?_, fun missed => ?_, fun result given => ?_⟩
  · rw [collected, reports got, unseen]
  · cases ending : (PageTask.outcome fe s u (c.catalog w)).ending with
    | error failure => exact ⟨failure, (settled.broken failure ending).1⟩
    | ok b => exact absurd (answered b ending) missed
  · cases ending : (PageTask.outcome fe s u (c.catalog w)).ending with
    | error failure =>
      rw [show compiled.1 = _ from (settled.broken failure ending).1] at given
      cases given
    | ok b =>
      rw [← unseen, ← reports (answered b ending)]
      cases b with
      | true =>
        rw [show compiled.1 = _ from (settled.published ending).1] at given
        cases given
        obtain ⟨other, again, met, -⟩ := (PageTask.outcome_good_iff fe s u _).1 ending
        cases parsed.symm.trans again
        constructor
        · rintro ⟨e, inside, -⟩
          cases inside
        · intro reported
          have unmet := (Catalog.mem_check _ tree.allRequests r).2
            ⟨requests ▸ answered true ending, (reports (answered true ending)).1 reported⟩
          rw [met] at unmet
          cases unmet
      | false =>
        rw [show compiled.1 = _ from (settled.failed ending).2] at given
        cases given
        exact Relocation.exists_error_iff guide c.includeNotes _ _

/-- A page that imports what is missing from a package that is not empty. -/
theorem import_of_missing_sibling_agrees :
    let c : PageCompiler := ⟨"generated", false, [], .empty, [⟨"import generated.C\n", "utf-8"⟩]⟩
    let fe : FrontEnd := ⟨fun _ _ => ⟨[], .done (.importNames ["generated.C"] (some 1))⟩,
      fun _ _ _ => ⟨[], .done ()⟩⟩
    let w := Workspace.start .empty ((Store.empty ⟨0, []⟩).put "generated.B" (some [0])).2
    let r : ImportRequest := ⟨"generated.C", some 1⟩
    let result : CompilationResult := ⟨"generated.A", false,
      [⟨.error, "cannot find module 'generated.C'", .int 1, some 1, .null, false⟩]⟩
    c.reserved ≠ "" ∧ w.store.Reachable ∧ r ∈ c.imports fe w.disk "generated.A" ∧
      Name.isWithin (Name.packageOf r.module) c.reserved = true ∧
      (c.compile (PageTask.service fe) "generated.A" none w).1 = .ok result ∧
      ((∃ e ∈ result.errors, e.severity = .error ∧
          e.message = "cannot find module '" ++ r.module ++ "'") ↔
        (∃ stored, w.store.contains stored = true ∧
            Name.isBelow stored (Name.packageOf r.module) = true) ∧
          Finder.find w.store c.reserved r.module true = none) := by
  intro c fe w r result
  have named : c.reserved ≠ "" := by decide
  have reachable : w.store.Reachable := .put "generated.B" (some [0]) (.empty ⟨0, []⟩)
  have imported : r ∈ c.imports fe w.disk "generated.A" := by decide +kernel
  have inside : Name.isWithin (Name.packageOf r.module) c.reserved = true := by decide +kernel
  have given : (c.compile (PageTask.service fe) "generated.A" none w).1 = .ok result :=
    ok_of_toOption (by decide +kernel)
  have agrees := import_check_agrees_with_finder c fe "generated.A" none w r true named reachable
    imported inside fun _ _ _ _ refused => nomatch refused
  exact ⟨named, reachable, imported, inside, given, agrees.2.2 result given⟩

end PageCompiler

end PagePress
