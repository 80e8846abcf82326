import Mathlib.Tactic.ByContra
import PagePress.Proofs.PageTask.Compilation
import PagePress.Proofs.Relocation
import PagePress.Text.Encoding.Standard

/-!
Compiling a page again. The first compilation may store the only thing that its package holds, and
then the package counts as known: the modules that were imported from it while it was empty cannot
be found any more. The second compilation fails for just these modules.
-/

set_option autoImplicit false

namespace PagePress

/-- Storing a unit hides a module: the package of the module was empty, the unit fills it, and the
unit is neither the module nor below it. -/
structure Hides (s : Store) (reserved name module : String) : Prop where
  packaged : Name.packageOf module ≠ ""
  inside : Name.isWithin (Name.packageOf module) reserved = true
  empty : ∀ stored, s.contains stored = true → Name.isBelow stored (Name.packageOf module) = false
  fills : Name.isBelow name (Name.packageOf module) = true
  apart : Name.isWithin name module = false

private theorem Catalog.sees_insert {k : Catalog} (consistent : k.store.Consistent) (name : String)
    (content : Bytes) {module : String} (seen : k.sees module = .ok true) :
    ∃ visible, ({ k with store := (k.store.insert name content).2 } : Catalog).sees module =
        .ok visible ∧ (visible = true ↔ ¬ Hides k.store k.reserved name module) := by
  by_cases packaged : Name.packageOf module = ""
  · refine ⟨true, by rw [sees_outside k _ (.inl packaged), seen], ?_⟩
    exact ⟨fun _ hides => hides.packaged packaged, fun _ => rfl⟩
  cases inside : Name.isWithin (Name.packageOf module) k.reserved with
  | false =>
    refine ⟨true, by rw [sees_outside k _ (.inr inside), seen], ?_⟩
    refine ⟨fun _ hides => ?_, fun _ => rfl⟩
    have within := hides.inside
    rw [inside] at within
    cases within
  | true =>
    obtain ⟨before, saw, before_iff⟩ := sees_inside consistent packaged inside
    rw [seen] at saw
    cases saw
    let after : Catalog := { k with store := (k.store.insert name content).2 }
    have held (stored : String) : after.store.contains stored = true ↔
        stored = name ∨ k.store.contains stored = true := by
      show (k.store.insert name content).2.contains stored = true ↔ _
      rw [Store.contains_insert, Bool.or_eq_true, decide_eq_true_iff]
    obtain ⟨visible, sees, visible_iff⟩ :=
      sees_inside (k := after) (consistent.insert name content) packaged inside
    refine ⟨visible, sees, visible_iff.trans ?_⟩
    constructor
    · rintro (none | ⟨stored, here, within⟩) hides
      · have below := none name ((held name).2 (.inl rfl))
        rw [hides.fills] at below
        cases below
      · rcases (held stored).1 here with rfl | old
        · rw [hides.apart] at within
          cases within
        · have below := Name.isBelow_of_isWithin within (Name.isBelow_package packaged)
          rw [hides.empty stored old] at below
          cases below
    · intro shown
      rcases before_iff.1 rfl with empty | ⟨stored, old, within⟩
      · cases fills : Name.isBelow name (Name.packageOf module) with
        | false =>
          refine .inl fun stored here => ?_
          rcases (held stored).1 here with rfl | old
          · exact fills
          · exact empty stored old
        | true =>
          cases apart : Name.isWithin name module with
          | true => exact .inr ⟨name, (held name).2 (.inl rfl), apart⟩
          | false => exact absurd ⟨packaged, inside, empty, fills, apart⟩ shown
      · exact .inr ⟨stored, (held stored).2 (.inr old), within⟩

/-- The check that all imports passed, once more after a unit was stored: it comes to its end, and
what is not met is what the unit hides. -/
private theorem Catalog.check_insert {k : Catalog} (consistent : k.store.Consistent) (name : String)
    (content : Bytes) {requests : List ImportRequest} (met : k.check requests = ([], .ok ())) :
    let after : Catalog := { k with store := (k.store.insert name content).2 }
    (after.check requests).2 = .ok () ∧
      ∀ r, r ∈ (after.check requests).1 ↔
        r ∈ requests ∧ Hides k.store k.reserved name r.module := by
  intro after
  have seen : ∀ r ∈ requests, k.sees r.module = .ok true := by
    intro r member
    have ended : (k.check requests).2 = .ok () := by rw [met]
    obtain ⟨visible, sees⟩ := (check_ended_iff k requests).1 ended r member
    cases visible with
    | true => exact sees
    | false =>
      have unmet : r ∈ (k.check requests).1 := by
        rw [mem_check, lookedUp_of_ended ended]
        exact ⟨member, sees⟩
      rw [met] at unmet
      cases unmet
  have again (r : ImportRequest) (member : r ∈ requests) :=
    sees_insert consistent name content (seen r member)
  have ended : (after.check requests).2 = .ok () := by
    rw [check_ended_iff]
    intro r member
    obtain ⟨visible, sees, -⟩ := again r member
    exact ⟨visible, sees⟩
  refine ⟨ended, fun r => ?_⟩
  rw [mem_check, lookedUp_of_ended ended]
  refine and_congr_right fun member => ?_
  obtain ⟨visible, sees, visible_iff⟩ := again r member
  rw [sees]
  cases visible with
  | true => exact ⟨(nomatch ·), fun hides => absurd hides (visible_iff.1 rfl)⟩
  | false =>
    refine ⟨fun _ => ?_, fun _ => rfl⟩
    by_contra shown
    cases visible_iff.2 shown

namespace PageTask

/-- A request is hidden from a unit that makes it by storing the unit. -/
def Hidden (k : Catalog) (u : SourceUnit) (tree : SyntaxTree) (r : ImportRequest) : Prop :=
  r ∈ tree.allRequests ∧ Hides k.store k.reserved u.name r.module

/-- The outcome of a unit that compiled, once more after the unit was stored: it compiles again when
nothing is hidden from it, and else fails with an error for each request that is. -/
private theorem outcome_insert {fe : FrontEnd} {s : Demands} {u : SourceUnit} {tree : SyntaxTree}
    (parsed : (fe.parse u.source s.level).ending = .done tree) {k : Catalog}
    (consistent : k.store.Consistent) (content : Bytes)
    (good : (outcome fe s u k).ending = .ok true) :
    let again := outcome fe s u { k with store := (k.store.insert u.name content).2 }
    ((∀ r, ¬ Hidden k u tree r) ∧ again.ending = .ok true) ∨
      ((∃ r, Hidden k u tree r) ∧ again.ending = .ok false ∧
        (∀ r, Hidden k u tree r → missing u r ∈ again.reported) ∧
        ∀ d ∈ again.reported, d.severity = .error → ∃ r, Hidden k u tree r ∧ d = missing u r) := by
  intro again
  obtain ⟨_, same, met, generates, lenient⟩ := (outcome_good_iff fe s u k).1 good
  cases parsed.symm.trans same
  let after : Catalog := { k with store := (k.store.insert u.name content).2 }
  obtain ⟨ended, hidden⟩ : (after.check tree.allRequests).2 = .ok () ∧
      ∀ r, r ∈ (after.check tree.allRequests).1 ↔ Hidden k u tree r :=
    Catalog.check_insert consistent u.name content met
  by_cases all : (after.check tree.allRequests).1 = []
  · refine .inl ⟨fun r hides => ?_, ?_⟩
    · have unmet := (hidden r).2 hides
      rw [all] at unmet
      cases unmet
    · exact (outcome_good_iff fe s u after).2 ⟨tree, parsed, Prod.ext all ended, generates, lenient⟩
  · obtain ⟨first, unmet⟩ := List.exists_mem_of_ne_nil _ all
    refine .inr ⟨⟨first, (hidden first).1 unmet⟩, outcome_of_unmet parsed after ended all generates,
      fun r hides => missing_mem_reported parsed after ((hidden r).2 hides), ?_⟩
    intro d reported grave
    rcases reported_error parsed after reported grave with
      ⟨r, missed, rfl⟩ | ⟨n, refused, -⟩ | ⟨none, -⟩
    · exact ⟨r, (hidden r).1 missed, rfl⟩
    · rw [generates] at refused
      cases refused
    · exact absurd none all

end PageTask

namespace PageCompiler

/-- An error that says that a requested module cannot be found. -/
structure SaysMissing (r : ImportRequest) (e : CompilationError) : Prop where
  severity : e.severity = .error
  message : e.message = "cannot find module '" ++ r.module ++ "'"
  generatedLine : e.generatedLine = r.line

private theorem saysMissing_iff (u : SourceUnit) (r : ImportRequest) (e : CompilationError) :
    SaysMissing r e ↔ Relocation.Keeps (PageTask.missing u r) e :=
  ⟨fun h => ⟨h.1, h.2, h.3⟩, fun h => ⟨h.1, h.2, h.3⟩⟩

/-- Compiling a page again, right after it was compiled: it succeeds exactly when the page hides
none of the modules that it imports, and else fails for those that it hides. -/
theorem recompile_succeeds_iff [Text.Encodings] (c : PageCompiler) (fe : FrontEnd) (name : String)
    (guide : Option LineGuide) (w : Workspace) (reachable : w.store.Reachable)
    (first : succeeded (c.compile (PageTask.service fe) name guide w).1 = true) :
    let v := (c.compile (PageTask.service fe) name guide w).2
    let again := c.compile (PageTask.service fe) name guide v
    let imports := c.imports fe w.disk name
    (succeeded again.1 = true ↔ ∀ r ∈ imports, ¬ Hides w.store c.reserved name r.module) ∧
      (succeeded again.1 = false → again.2.store = v.store ∧ ∃ errors,
        again.1 = .ok ⟨name, false, errors⟩ ∧
        (∀ r ∈ imports, Hides w.store c.reserved name r.module → ∃ e ∈ errors, SaysMissing r e) ∧
        ∀ e ∈ errors, e.severity = .error →
          ∃ r ∈ imports, Hides w.store c.reserved name r.module ∧ SaysMissing r e) := by
  intro v again imports
  obtain ⟨u, s, commissioned, good⟩ := (page_succeeds_iff c fe name guide w).1 first
  obtain ⟨rfl, -, -⟩ := commission_ok commissioned
  obtain ⟨tree, parsed, -⟩ := (PageTask.outcome_good_iff fe s u _).1 good
  have requests : imports = tree.allRequests := imports_eq commissioned parsed
  obtain ⟨size, settled⟩ := compile_settled c fe guide w commissioned
  have kept : v.disk = w.disk := settled.disk
  obtain ⟨-, stored⟩ := settled.published good
  let content := PageTask.codeOf u w.clock.now size
  have catalog : c.catalog v =
      { c.catalog w with store := (w.store.insert u.name content).2 } := by
    rw [PageCompiler.catalog, kept, stored]
    rfl
  -- The second compilation has the same commission, and the catalog that the first left.
  have recommissioned : c.commission fe v.disk u.name = .ok (u, s) := by rw [kept, commissioned]
  obtain ⟨_, resettled⟩ := compile_settled c fe guide v recommissioned
  rw [catalog] at resettled
  rw [requests]
  rcases PageTask.outcome_insert parsed reachable.consistent content good with
    ⟨shown, fine⟩ | ⟨⟨first, hidden⟩, failing, reports, only⟩
  · have answer : again.1 = .ok ⟨u.name, true, []⟩ := (resettled.published fine).1
    rw [answer]
    exact ⟨⟨fun _ r member hides => shown r ⟨member, hides⟩, fun _ => rfl⟩, (nomatch ·)⟩
  · obtain ⟨unstored, answer⟩ := resettled.failed failing
    have handed (ds : List Diagnostic) := Relocation.relocateAll_handedBack guide c.includeNotes ds
    rw [show again.1 = _ from answer]
    refine ⟨⟨(nomatch ·), fun none => absurd hidden.2 (none first hidden.1)⟩,
      fun _ => ⟨unstored, _, rfl, fun r member hides => ?_, fun e inside grave => ?_⟩⟩
    · have selected := (Relocation.mem_select c.includeNotes _ _).2
        ⟨reports r ⟨member, hides⟩, fun _ => (nomatch ·)⟩
      obtain ⟨e, inside, keeps⟩ := (handed _).exists_error selected
      exact ⟨e, inside, (saysMissing_iff u r e).2 keeps⟩
    · obtain ⟨d, selected, keeps⟩ := (handed _).exists_diagnostic inside
      obtain ⟨reported, -⟩ := (Relocation.mem_select _ _ _).1 selected
      obtain ⟨r, ⟨member, hides⟩, rfl⟩ := only d reported (keeps.severity.symm.trans grave)
      exact ⟨r, member, hides, (saysMissing_iff u r e).2 keeps⟩

/-- A page that imports a stored page compiles again. -/
theorem recompile_importer_of_stored :
    let c : PageCompiler := ⟨"generated", false, [], .empty, [⟨"import generated.B\n", "utf-8"⟩]⟩
    let fe : FrontEnd := ⟨fun _ _ => ⟨[], .done (.importNames ["generated.B"] (some 1))⟩,
      fun _ _ _ => ⟨[], .done ()⟩⟩
    let w := Workspace.start .empty ((Store.empty ⟨0, []⟩).put "generated.B" (some [0])).2
    let first := c.compile (PageTask.service fe) "generated.A" none w
    w.store.Reachable ∧ succeeded first.1 = true ∧
      (succeeded (c.compile (PageTask.service fe) "generated.A" none first.2).1 = true ↔
        ∀ r ∈ c.imports fe w.disk "generated.A",
          ¬ Hides w.store c.reserved "generated.A" r.module) := by
  intro c fe w first
  have reachable : w.store.Reachable := .put "generated.B" (some [0]) (.empty ⟨0, []⟩)
  have good : succeeded first.1 = true := by decide +kernel
  exact ⟨reachable, good, (recompile_succeeds_iff c fe "generated.A" none w reachable good).1⟩

/-- A page that imports another page of its package compiles into the empty store, and then not
again: the package is not empty any more, and what it imports is not in it. -/
theorem recompile_importer_of_sibling_fails :
    let c : PageCompiler := ⟨"generated", false, [], .empty, [⟨"import generated.B\n", "utf-8"⟩]⟩
    let fe : FrontEnd := ⟨fun _ _ => ⟨[], .done (.importNames ["generated.B"] (some 1))⟩,
      fun _ _ _ => ⟨[], .done ()⟩⟩
    let w := Workspace.start .empty (.empty ⟨0, []⟩)
    let first := c.compile (PageTask.service fe) "generated.A" none w
    let again := c.compile (PageTask.service fe) "generated.A" none first.2
    w.store.Reachable ∧ succeeded first.1 = true ∧ succeeded again.1 = false := by
  intro c fe w first again
  exact ⟨.empty ⟨0, []⟩, by decide +kernel⟩

end PageCompiler

end PagePress
