import PagePress.Proofs.ImportCheck
import PagePress.Proofs.PageTask.Verdict
import PagePress.Text.Encoding.Standard

/-!
The namespace itself as an import. A finder answers it in every state of the store. The import check
does not ask the store, because the package that the namespace stands in is not reserved: it looks
among the files of that package, and when there are some, but none within the namespace, it reports
the namespace as missing.
-/

set_option autoImplicit false

namespace PagePress

namespace Name

private theorem isWithin_packageOf_self {name : String} (packaged : packageOf name ≠ "") :
    isWithin (packageOf name) name = false := by
  have shorter := length_lt_of_isBelow (isBelow_package packaged)
  rw [← Bool.not_eq_true, isWithin_iff]
  rintro (same | below)
  · rw [same] at shorter
    exact Nat.lt_irrefl _ shorter
  · exact Nat.lt_asymm shorter (length_lt_of_isBelow below)

private theorem isWithin_empty {package : String} (named : package ≠ "") :
    isWithin "" package = false := by
  rw [← Bool.not_eq_true, isWithin_iff]
  rintro (same | below)
  · exact named same.symm
  · exact absurd (length_lt_of_isBelow below) (by simp)

end Name

namespace Finder

private theorem find_reserved_isSome (s : Store) (reserved : String) (provided : Bool) :
    (find s reserved reserved provided).isSome = true := by
  have within : Name.isWithin reserved reserved = true := (Name.isWithin_iff _ _).2 (.inl rfl)
  simp only [find, within, beq_self_eq_true, Bool.true_or, if_true]
  split <;> rfl

end Finder

namespace Catalog

/-- The package around the namespace has files on the classpath, and none of them is within the
namespace. -/
structure HidesRoot (k : Catalog) (files : List DiskFile) : Prop where
  packaged : Name.packageOf k.reserved ≠ ""
  listed : DiskFile.list k.disk k.classpath (Name.packageOf k.reserved) [.source, .compiled] true =
    .ok files
  filled : ∃ f ∈ files, f.binaryName ≠ ""
  apart : ∀ f ∈ files, Name.isWithin f.binaryName k.reserved = false

private theorem shows_eq_false_iff (files : List DiskFile) {module : String} (named : module ≠ "") :
    PageTask.shows ((files.map DiskFile.binaryName).filter (· != "")) module = false ↔
      (∃ f ∈ files, f.binaryName ≠ "") ∧
        ∀ f ∈ files, Name.isWithin f.binaryName module = false := by
  simp only [PageTask.shows, Bool.or_eq_false_iff, List.isEmpty_eq_false_iff,
    List.any_eq_false, List.mem_filter, List.mem_map, bne_iff_ne, Bool.not_eq_true]
  refine and_congr ?_ ⟨fun apart f member => ?_, ?_⟩
  · constructor
    · intro filled
      obtain ⟨name, member⟩ := List.exists_mem_of_ne_nil _ filled
      obtain ⟨listed, some⟩ := List.mem_filter.1 member
      obtain ⟨f, here, rfl⟩ := List.mem_map.1 listed
      exact ⟨f, here, by simpa using some⟩
    · rintro ⟨f, here, some⟩
      exact List.ne_nil_of_mem
        (List.mem_filter.2 ⟨List.mem_map_of_mem here, by simpa using some⟩)
  · by_cases nameless : f.binaryName = ""
    · rw [nameless, Name.isWithin_empty named]
    · exact apart _ ⟨⟨f, member, rfl⟩, nameless⟩
  · rintro apart _ ⟨⟨f, member, rfl⟩, -⟩
    exact apart f member

private theorem root_unseen_iff (k : Catalog) :
    k.sees k.reserved = .ok false ↔ ∃ files, k.HidesRoot files := by
  by_cases packaged : Name.packageOf k.reserved = ""
  · simp only [sees, packaged, if_true]
    constructor
    · intro seen
      cases seen
    · rintro ⟨files, hides⟩
      exact absurd packaged hides.packaged
  have named : k.reserved ≠ "" := fun none => packaged (by rw [none]; decide +kernel)
  have looked := Name.isWithin_packageOf_self packaged
  cases listed : DiskFile.list k.disk k.classpath (Name.packageOf k.reserved) [.source, .compiled]
      true with
  | error error =>
    have seen : k.sees k.reserved = .error (.disk error) := by
      simp only [sees, names, packaged, looked, Bool.false_eq_true, if_false, listed, Except.map]
    rw [seen]
    constructor
    · intro none
      cases none
    · rintro ⟨files, hides⟩
      cases listed.symm.trans hides.listed
  | ok files =>
    have seen : k.sees k.reserved = .ok (PageTask.shows
        ((files.map DiskFile.binaryName).filter (· != "")) k.reserved) := by
      simp only [sees, names, packaged, looked, Bool.false_eq_true, if_false, listed, Except.map]
    rw [seen]
    simp only [Except.ok.injEq, shows_eq_false_iff files named]
    constructor
    · rintro ⟨filled, apart⟩
      exact ⟨files, packaged, listed, filled, apart⟩
    · rintro ⟨others, -, again, filled, apart⟩
      cases listed.symm.trans again
      exact ⟨filled, apart⟩

end Catalog

namespace PageCompiler

private theorem Settled.exists_error_iff {c : PageCompiler} {fe : FrontEnd} {s : Demands}
    {u : SourceUnit} {k : Catalog} {size : Nat} {guide : Option LineGuide} {w v : Workspace}
    {answer : Except Failure CompilationResult} {result : CompilationResult}
    (settled : Settled c u size (PageTask.outcome fe s u k) guide w answer v)
    (given : answer = .ok result) (message : String) :
    (∃ e ∈ result.errors, e.severity = .error ∧ e.message = message) ↔
      ∃ d ∈ (PageTask.outcome fe s u k).reported, d.severity = .error ∧ d.message = message := by
  have sound := PageTask.outcome_sound fe s u k
  cases ending : (PageTask.outcome fe s u k).ending with
  | error failure => cases given.symm.trans (settled.broken failure ending).1
  | ok good =>
    cases good with
    | true =>
      cases given.symm.trans (settled.published ending).1
      have clean := (sound true ending).1 rfl
      exact ⟨fun ⟨e, inside, _⟩ => (nomatch inside),
        fun ⟨d, reported, grave, _⟩ => absurd grave (clean d reported)⟩
    | false =>
      cases given.symm.trans (settled.failed ending).2
      exact Relocation.exists_error_iff guide c.includeNotes _ message

private theorem Settled.lookedUp_eq {c : PageCompiler} {fe : FrontEnd} {s : Demands}
    {u : SourceUnit} {k : Catalog} {size : Nat} {guide : Option LineGuide} {w v : Workspace}
    {answer : Except Failure CompilationResult} {result : CompilationResult} {tree : SyntaxTree}
    (settled : Settled c u size (PageTask.outcome fe s u k) guide w answer v)
    (parsed : (fe.parse u.source s.level).ending = .done tree) (given : answer = .ok result) :
    k.lookedUp tree.allRequests = tree.allRequests := by
  cases ending : (PageTask.outcome fe s u k).ending with
  | error failure => cases given.symm.trans (settled.broken failure ending).1
  | ok good => exact Catalog.lookedUp_of_ended (PageTask.check_ended_of_answer parsed k ending)

/-- The namespace as an import: a finder answers it, whatever is stored, but the import check, once
it gets to it, reports it exactly when the package around the namespace has files on the classpath
and none of them is within the namespace. A compilation that gives a result has got to it, and its
errors say the same. -/
theorem namespace_reported_iff [Text.Encodings] (c : PageCompiler) (fe : FrontEnd) (name : String)
    (guide : Option LineGuide) (w : Workspace) (r : ImportRequest) (provided : Bool)
    (imported : r ∈ c.imports fe w.disk name) (root : r.module = c.reserved)
    (generator : ∀ source level o n, (fe.generate source level o).ending = .refused n →
      n.message ≠ "cannot find module '" ++ c.reserved ++ "'") :
    let compiled := c.compile (PageTask.service fe) name guide w
    let looked := (c.catalog w).lookedUp (c.imports fe w.disk name)
    let hidden := ∃ files, (c.catalog w).HidesRoot files
    (Finder.find w.store c.reserved c.reserved provided).isSome = true ∧
      (r ∈ looked → ((∃ d ∈ compiled.2.diagnostics, d.severity = .error ∧
        d.message = "cannot find module '" ++ c.reserved ++ "'") ↔ hidden)) ∧
      (r ∉ looked → ∃ failure, compiled.1 = .error failure) ∧
      ∀ result, compiled.1 = .ok result → ((∃ e ∈ result.errors, e.severity = .error ∧
        e.message = "cannot find module '" ++ c.reserved ++ "'") ↔ hidden) := by
  intro compiled looked hidden
  obtain ⟨u, s, tree, commissioned, parsed⟩ := tree_of_mem_imports imported
  have requests : c.imports fe w.disk name = tree.allRequests := imports_eq commissioned parsed
  obtain ⟨size, settled⟩ := compile_settled c fe guide w commissioned
  have reports (got : r ∈ looked) :
      (∃ d ∈ (PageTask.outcome fe s u (c.catalog w)).reported, d.severity = .error ∧
        d.message = "cannot find module '" ++ c.reserved ++ "'") ↔ hidden := by
    have said := PageTask.reported_iff parsed (c.catalog w) (r := r)
      (root ▸ generator u.source s.level s.optimization) (requests ▸ got)
    rw [root] at said
    exact said.trans (c.catalog w).root_unseen_iff
  have answered {result : CompilationResult} (given : compiled.1 = .ok result) : r ∈ looked := by
    have all := settled.lookedUp_eq parsed given
    rw [← requests] at all
    rw [show looked = c.imports fe w.disk name from all]
    exact imported
  refine ⟨Finder.find_reserved_isSome _ _ _, fun got => ?_, fun missed => ?_,
    fun result given => ?_⟩
  · rw [show compiled.2.diagnostics = _ from settled.reported]
    exact reports got
  · cases ending : compiled.1 with
    | error failure => exact ⟨failure, rfl⟩
    | ok result => exact absurd (answered ending) missed
  · rw [settled.exists_error_iff given]
    exact reports (answered given)

/-- With nothing of the package around it on the classpath, the namespace can be imported. -/
theorem namespace_imported_without_files :
    let c : PageCompiler := ⟨"app.generated", false, [], .empty,
      [⟨"from app.generated import B\n", "utf-8"⟩]⟩
    let fe : FrontEnd := ⟨fun _ _ => ⟨[], .done (.importFrom (some "app.generated") 0 (some 1))⟩,
      fun _ _ _ => ⟨[], .done ()⟩⟩
    let w := Workspace.start .empty (.empty ⟨0, []⟩)
    let r : ImportRequest := ⟨"app.generated", some 1⟩
    let compiled := c.compile (PageTask.service fe) "app.generated.A" none w
    r ∈ c.imports fe w.disk "app.generated.A" ∧ r.module = c.reserved ∧
      compiled.1 = .ok ⟨"app.generated.A", true, []⟩ ∧
      (Finder.find w.store c.reserved c.reserved true).isSome = true ∧
      ¬ ∃ files, (c.catalog w).HidesRoot files := by
  intro c fe w r compiled
  have imported : r ∈ c.imports fe w.disk "app.generated.A" := by decide +kernel
  have given : compiled.1 = .ok ⟨"app.generated.A", true, []⟩ := ok_of_toOption (by decide +kernel)
  obtain ⟨found, -, -, said⟩ := namespace_reported_iff c fe "app.generated.A" none w r true imported
    rfl fun _ _ _ _ refused => nomatch refused
  exact ⟨imported, rfl, given, found, fun hidden => nomatch (said _ given).2 hidden⟩

/-- A file in the package around the namespace makes the import of the namespace fail, although a
page of the namespace is stored and a finder answers the namespace. -/
theorem namespace_missing_beside_file :
    let c : PageCompiler := ⟨"app.generated", false, [.ofString "lib"], .empty,
      [⟨"from app.generated import B\n", "utf-8"⟩]⟩
    let fe : FrontEnd := ⟨fun _ _ => ⟨[], .done (.importFrom (some "app.generated") 0 (some 1))⟩,
      fun _ _ _ => ⟨[], .done ()⟩⟩
    let disk : Disk := ⟨[(["lib"], .directory), (["lib", "app"], .directory),
      (["lib", "app", "core.py"], .file [])], []⟩
    let w := Workspace.start disk ((Store.empty ⟨0, []⟩).put "app.generated.B" (some [0])).2
    (c.compile (PageTask.service fe) "app.generated.A" none w).1 = .ok ⟨"app.generated.A", false,
        [⟨.error, "cannot find module 'app.generated'", .int 1, some 1, .null, false⟩]⟩ ∧
      (Finder.find w.store c.reserved "app.generated" true).isSome = true := by
  intro c fe disk w
  exact ⟨ok_of_toOption (by decide +kernel), by decide +kernel⟩

end PageCompiler

end PagePress
