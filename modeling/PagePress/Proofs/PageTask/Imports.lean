import PagePress.Proofs.Activity.Sequencing
import PagePress.Proofs.PageTask.Catalog

/-!
The import check, computed. It changes nothing that its catalog depends on, so the listings that it
keeps are those that it would be given again, and it reports just what its catalog does not show.
-/

set_option autoImplicit false

namespace PagePress.PageTask

def diagnosticOf (u : SourceUnit) (severity : Severity) (n : Notice) : Diagnostic :=
  ⟨severity, n.message, n.line, some u.uri⟩

def missing (u : SourceUnit) (r : ImportRequest) : Diagnostic := diagnosticOf u .error (notFound r)

def Current (k : Catalog) (known : Listings) : Prop :=
  ∀ package names, (package, names) ∈ known → k.names package = .ok names

theorem current_nil (k : Catalog) : Current k [] := by
  intro package names member
  cases member

/-- The names that a task keeps of the files that it is shown. -/
def kept (m : FileAccess) (w : Workspace) (objects : List FileObject) : List String :=
  ((objects.map (m.binaryName w)).filterMap id).filter (· != "")

private theorem kept_cons {m : FileAccess} {w : Workspace} {object : FileObject} {name : String}
    (named : m.binaryName w object = some name) (rest : List FileObject) :
    kept m w (object :: rest) = if name != "" then name :: kept m w rest else kept m w rest := by
  simp only [kept, List.map_cons, named, List.filterMap_cons, id, List.filter_cons]

private theorem kept_stored (reserved : String) (w : Workspace) (names : List String) :
    kept (.virtual .standard reserved) w (names.filterMap fun name =>
        (w.store.get? name).map fun content => .stored (.ofContent name .compiled content)) =
      names.filter fun name => w.store.contains name && name != "" := by
  induction names with
  | nil => rfl
  | cons name rest ih =>
    have held := Store.contains_eq_isSome_get? w.store name
    cases content : w.store.get? name with
    | none =>
      rw [content, Option.isSome_none] at held
      rw [List.filterMap_cons_none (by rw [content]; rfl), ih, List.filter_cons, held]
      rfl
    | some bytes =>
      rw [content, Option.isSome_some] at held
      rw [List.filterMap_cons_some (by rw [content]; rfl), kept_cons rfl, ih, List.filter_cons,
        held]
      rfl

private theorem kept_disk (reserved : String) (w : Workspace) (files : List DiskFile) :
    kept (.virtual .standard reserved) w (files.map .disk) =
      (files.map DiskFile.binaryName).filter (· != "") := by
  induction files with
  | nil => rfl
  | cons file rest ih =>
    rw [List.map_cons, kept_cons rfl, ih, List.map_cons, List.filter_cons]

private theorem names_of_list (reserved : String) (w : Workspace) (package : String) :
    ((FileAccess.virtual .standard reserved).list w .classPath package [.source, .compiled]
      true).map (kept (.virtual .standard reserved) w) =
        (Catalog.ofWorkspace reserved w).names package := by
  unfold Catalog.names
  by_cases within : Name.isWithin package reserved = true
  · have own : ((FileAccess.virtual .standard reserved).list w .classPath package
        [.source, .compiled] true) = .ok (FileAccess.storedMembers w.store package
          [.source, .compiled] true) := by
      simp [FileAccess.list, within]
    rw [own]
    simp only [Catalog.ofWorkspace, within, if_true, Except.map]
    congr 1
    exact kept_stored reserved w _
  · have other : ((FileAccess.virtual .standard reserved).list w .classPath package
        [.source, .compiled] true) = FileAccess.standard.list w .classPath package
          [.source, .compiled] true := by
      simp [FileAccess.list, within]
    rw [other]
    simp only [Catalog.ofWorkspace, within, Bool.false_eq_true, if_false, FileAccess.list,
      LocationTable.get]
    cases DiskFile.list w.disk w.locations.classPath package [.source, .compiled] true with
    | error error => rfl
    | ok files =>
      simp only [Except.map]
      congr 1
      exact kept_disk reserved w files

variable (reserved : String) (w : Workspace)

private theorem run_listing {known : Listings} (current : Current (.ofWorkspace reserved w) known)
    (package : String) :
    ∃ known', Current (.ofWorkspace reserved w) known' ∧
      (listing known package).run (.virtual .standard reserved) w =
        (((Catalog.ofWorkspace reserved w).names package).map fun names => (names, known'), w) := by
  unfold listing
  split
  · rename_i key names found
    have here : key = package := by simpa using List.find?_some found
    have listed := current key names (List.mem_of_find?_eq_some found)
    refine ⟨known, current, ?_⟩
    rw [here] at listed
    simp [listed, Except.map]
  · rw [← names_of_list]
    simp only [Activity.run]
    cases listed : (FileAccess.virtual .standard reserved).list w .classPath package
        [.source, .compiled] true with
    | error failure => exact ⟨known, current, rfl⟩
    | ok objects =>
      have fresh := names_of_list reserved w package
      rw [listed] at fresh
      simp only [Except.map] at fresh
      refine ⟨known ++ [(package, kept (.virtual .standard reserved) w objects)], ?_, ?_⟩
      · intro other names member
        rcases List.mem_append.1 member with old | new
        · exact current other names old
        · cases List.mem_singleton.1 new
          exact fresh.symm
      · simp only [Activity.run_andThen, Activity.run_ofAnswer, Activity.goOn_ok,
          Activity.run_binaryNames, Activity.run_done, Except.map]
        rfl

private theorem run_isVisible {known : Listings} (current : Current (.ofWorkspace reserved w) known)
    (module : String) :
    ∃ known', Current (.ofWorkspace reserved w) known' ∧
      (isVisible known module).run (.virtual .standard reserved) w =
        (((Catalog.ofWorkspace reserved w).sees module).map fun visible => (visible, known'),
          w) := by
  unfold isVisible Catalog.sees
  by_cases top : Name.packageOf module = ""
  · refine ⟨known, current, ?_⟩
    simp [top, Except.map]
  · obtain ⟨known', current', asked⟩ := run_listing reserved w current (Name.packageOf module)
    refine ⟨known', current', ?_⟩
    simp only [top, if_false, Activity.run_andThen, asked]
    cases (Catalog.ofWorkspace reserved w).names (Name.packageOf module) <;> rfl

/-- The import check: it reports what the catalog does not show, and changes nothing else. -/
theorem run_checkImports (u : SourceUnit) (requests : List ImportRequest) {known : Listings}
    (current : Current (.ofWorkspace reserved w) known) :
    ∃ known', Current (.ofWorkspace reserved w) known' ∧
      (checkImports u known requests).run (.virtual .standard reserved) w =
        (((Catalog.ofWorkspace reserved w).check requests).2.map fun _ =>
            (((Catalog.ofWorkspace reserved w).check requests).1.isEmpty, known'),
          { w with diagnostics := w.diagnostics ++
              ((Catalog.ofWorkspace reserved w).check requests).1.map (missing u) }) := by
  induction requests generalizing w known with
  | nil => exact ⟨known, current, by simp [checkImports, Catalog.check, Except.map]⟩
  | cons r rest ih =>
    obtain ⟨known₁, current₁, asked⟩ := run_isVisible reserved w current r.module
    simp only [checkImports, Activity.run_andThen, asked, Catalog.check]
    cases seen : (Catalog.ofWorkspace reserved w).sees r.module with
    | error failure => exact ⟨known₁, current₁, by simp [Except.map]⟩
    | ok visible =>
      cases visible with
      | true =>
        obtain ⟨known₂, current₂, checked⟩ := ih w current₁
        refine ⟨known₂, current₂, ?_⟩
        simp only [Except.map, Activity.goOn_ok, if_true, Activity.run_done, Activity.run_andThen,
          checked]
        cases ((Catalog.ofWorkspace reserved w).check rest).2 <;> simp
      | false =>
        -- The report is in the collector before the rest is looked up; the catalog is the same.
        let v : Workspace := { w with diagnostics := w.diagnostics ++ [missing u r] }
        obtain ⟨known₂, current₂, checked⟩ := ih v current₁
        refine ⟨known₂, current₂, ?_⟩
        have same : Catalog.ofWorkspace reserved v = Catalog.ofWorkspace reserved w := rfl
        rw [same] at checked
        have reported : (report u .error (notFound r)).run (.virtual .standard reserved) w =
            (.ok (), v) := rfl
        simp only [Except.map, Activity.goOn_ok, Bool.false_eq_true, if_false, Activity.run_andThen,
          reported, checked]
        cases ((Catalog.ofWorkspace reserved w).check rest).2 <;> simp [v]

end PagePress.PageTask
