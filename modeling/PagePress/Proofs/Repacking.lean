import Mathlib.Data.List.Forall2
import PagePress.Proofs.Files.Listing
import PagePress.Proofs.PageTask.Compilation
import PagePress.Text.Encoding.Standard

/-!
The classpath in another order, or with directories packed into archives. A compilation sees of it
only the paths that are listed for the packages of its imports, and these stay the same. What does
not stay is a limit: below a directory the path of a package, or of something in it, can be too long
to be asked about, and then the compilation breaks, while an archive has members of any length.
-/

set_option autoImplicit false

namespace PagePress

namespace DiskFile

def nameOf (path : Path) : String := binaryName ⟨.here, path, .source⟩

private theorem binaryName_eq (f : DiskFile) : f.binaryName = nameOf f.path := rfl

/-- A path is among those that are listed for a package below a root, at any depth. -/
def Shows (d : Disk) (package root path : Path) : Prop :=
  ∃ row, listRoot d package [.source, .compiled] true root = .ok row ∧ ∃ f ∈ row, f.path = path

def Listable (d : Disk) (package root : Path) : Prop :=
  ∃ row, listRoot d package [.source, .compiled] true root = .ok row

/-- Two rows of roots come to the same for a package: all of the one can be listed when all of the
other can be, and they show the same paths. -/
structure SameShown (d : Disk) (package : Path) (roots others : List Path) : Prop where
  listable : (∀ root ∈ roots, Listable d package root) ↔ ∀ root ∈ others, Listable d package root
  paths : ∀ path, (∃ root ∈ roots, Shows d package root path) ↔
    ∃ root ∈ others, Shows d package root path

section SameShown

variable {d : Disk} {package : Path}

private theorem SameShown.trans {roots others more : List Path}
    (first : SameShown d package roots others)
    (second : SameShown d package others more) : SameShown d package roots more :=
  ⟨first.listable.trans second.listable, fun path => (first.paths path).trans (second.paths path)⟩

private theorem sameShown_of_perm {roots others : List Path} (same : roots.Perm others) :
    SameShown d package roots others := by
  constructor
  · simp only [same.mem_iff]
  · simp only [same.mem_iff, implies_true]

private theorem sameShown_of_forall₂ {roots others : List Path}
    (each : List.Forall₂ (fun root other => SameShown d package [root] [other]) roots others) :
    SameShown d package roots others := by
  induction each with
  | nil => exact ⟨Iff.rfl, fun _ => Iff.rfl⟩
  | @cons root other roots others same _ ih =>
    have listable : Listable d package root ↔ Listable d package other := by
      simpa using same.listable
    have paths (path : Path) : Shows d package root path ↔ Shows d package other path := by
      simpa using same.paths path
    constructor
    · rw [List.forall_mem_cons, List.forall_mem_cons, listable, ih.listable]
    · intro path
      simp only [List.mem_cons, exists_eq_or_imp, paths, ih.paths]

/-- An archive of the files of a directory comes to the same as the directory, for a package that
can be listed below the directory. -/
private theorem sameShown_of_packed (tree : d.IsTree) (relative : package.anchor = .here)
    (down : ∀ part ∈ package.parts, Disk.GoesDown part) {root other : Path} {base : Address}
    {archive : Archive} (packed : IsPacked d root other base archive)
    (listable : Listable d package root) : SameShown d package [root] [other] := by
  obtain ⟨row, listed⟩ := listable
  have listed' : listRoot d package [.source, .compiled] true other =
      .ok (listArchive archive.members other package [.source, .compiled] true) :=
    listRoot_archive packed.archive
  constructor
  · simp [Listable, listed, listed']
  · intro path
    simp only [List.mem_singleton, exists_eq_left, Shows, listed, listed', Except.ok.injEq,
      exists_eq_left']
    -- Both show the paths of the files that stand below the directory of the package.
    constructor
    · rintro ⟨f, member, rfl⟩
      obtain ⟨way, node, there, some, deep, isFile, kind, wanted, told, rfl⟩ :=
        (mem_listRoot_directory tree relative down packed.rooted packed.directory listed).1 member
      exact ⟨_, (mem_listRoot_packed tree relative packed listed').2
        ⟨way, node, there, some, deep, isFile, kind, wanted, told, rfl⟩, rfl⟩
    · rintro ⟨f, member, rfl⟩
      obtain ⟨way, node, there, some, deep, isFile, kind, wanted, told, rfl⟩ :=
        (mem_listRoot_packed tree relative packed listed').1 member
      exact ⟨_, (mem_listRoot_directory tree relative down packed.rooted packed.directory
        listed).2 ⟨way, node, there, some, deep, isFile, kind, wanted, told, rfl⟩, rfl⟩

end SameShown

private theorem mem_names_iff {d : Disk} {roots : List Path} {package : String}
    {files : List DiskFile} (listed : list d roots package [.source, .compiled] true = .ok files)
    {name : String} :
    name ∈ (files.map binaryName).filter (· != "") ↔
      name ≠ "" ∧ ∃ path, (∃ root ∈ roots, Shows d (packagePath package) root path) ∧
        nameOf path = name := by
  simp only [List.mem_filter, List.mem_map, mem_list listed, bne_iff_ne, and_comm (a := name ≠ "")]
  refine and_congr_left fun _ => ?_
  constructor
  · rintro ⟨f, ⟨root, member, row, given, inside⟩, rfl⟩
    exact ⟨f.path, ⟨root, member, row, given, f, inside, rfl⟩, (binaryName_eq f).symm⟩
  · rintro ⟨_, ⟨root, member, row, given, f, inside, rfl⟩, rfl⟩
    exact ⟨f, ⟨root, member, row, given, inside⟩, binaryName_eq f⟩

end DiskFile

namespace PageTask

private theorem shows_congr {names others : List String}
    (same : ∀ name, name ∈ names ↔ name ∈ others)
    (module : String) : shows names module = shows others module := by
  have empty : names.isEmpty = others.isEmpty := by
    rw [Bool.eq_iff_iff, List.isEmpty_iff, List.isEmpty_iff, List.eq_nil_iff_forall_not_mem,
      List.eq_nil_iff_forall_not_mem]
    exact forall_congr' fun name => not_congr (same name)
  have any : (names.any fun name => Name.isWithin name module) =
      others.any fun name => Name.isWithin name module := by
    rw [Bool.eq_iff_iff, List.any_eq_true, List.any_eq_true]
    exact exists_congr fun name => and_congr_left fun _ => same name
  rw [shows, shows, empty, any]

end PageTask

namespace Catalog

private theorem sees_congr (k : Catalog) {others : List Path} {module : String}
    (same : DiskFile.SameShown k.disk (DiskFile.packagePath (Name.packageOf module)) k.classpath
      others) :
    (({ k with classpath := others } : Catalog).sees module).toOption =
      (k.sees module).toOption := by
  unfold sees
  by_cases top : Name.packageOf module = ""
  · rw [if_pos top, if_pos top]
  · rw [if_neg top, if_neg top]
    simp only [names]
    by_cases within : Name.isWithin (Name.packageOf module) k.reserved = true
    · rw [if_pos within, if_pos within]
    · rw [if_neg within, if_neg within]
      have both : (∃ files, DiskFile.list k.disk k.classpath (Name.packageOf module)
            [.source, .compiled] true = .ok files) ↔
          ∃ files, DiskFile.list k.disk others (Name.packageOf module)
            [.source, .compiled] true = .ok files := by
        rw [DiskFile.exists_list_iff, DiskFile.exists_list_iff]
        exact same.listable
      cases listed : DiskFile.list k.disk k.classpath (Name.packageOf module)
          [.source, .compiled] true with
      | error e =>
        cases listed' : DiskFile.list k.disk others (Name.packageOf module)
            [.source, .compiled] true with
        | error e' => rfl
        | ok files' =>
          obtain ⟨files, given⟩ := both.2 ⟨files', listed'⟩
          cases listed.symm.trans given
      | ok files =>
        obtain ⟨files', listed'⟩ := both.1 ⟨files, listed⟩
        rw [listed']
        simp only [Except.map, Except.toOption]
        refine congrArg some (PageTask.shows_congr (fun name => ?_) module)
        rw [DiskFile.mem_names_iff listed', DiskFile.mem_names_iff listed]
        exact and_congr_right fun _ => exists_congr fun path =>
          and_congr_left fun _ => (same.paths path).symm

private theorem check_congr {k l : Catalog} {requests : List ImportRequest}
    (same : ∀ r ∈ requests, (k.sees r.module).toOption = (l.sees r.module).toOption) :
    (k.check requests).1 = (l.check requests).1 ∧
      (k.check requests).2.toOption = (l.check requests).2.toOption := by
  induction requests with
  | nil => exact ⟨rfl, rfl⟩
  | cons r rest ih =>
    obtain ⟨first, others⟩ := List.forall_mem_cons.1 same
    obtain ⟨unmet, ended⟩ := ih others
    cases seen : k.sees r.module with
    | error failure =>
      cases seen' : l.sees r.module with
      | error failure' => simp [check, seen, seen', Except.toOption]
      | ok visible => simp [seen, seen', Except.toOption] at first
    | ok visible =>
      cases seen' : l.sees r.module with
      | error failure => simp [seen, seen', Except.toOption] at first
      | ok visible' =>
        obtain rfl : visible = visible' := by simpa [seen, seen', Except.toOption] using first
        cases visible <;> simp [check, seen, seen', unmet, ended]

private theorem exists_of_check_error {k : Catalog} {requests : List ImportRequest}
    {failure : Failure} (ended : (k.check requests).2 = .error failure) :
    ∃ r ∈ requests, k.sees r.module = .error failure := by
  induction requests with
  | nil => cases ended
  | cons r rest ih =>
    cases seen : k.sees r.module with
    | error failure' =>
      simp only [check, seen] at ended
      cases ended
      exact ⟨r, List.mem_cons_self, seen⟩
    | ok visible =>
      have later : (k.check rest).2 = .error failure := by
        cases visible <;> simpa [check, seen] using ended
      obtain ⟨other, member, broken⟩ := ih later
      exact ⟨other, List.mem_cons_of_mem r member, broken⟩

end Catalog

namespace PageTask

private theorem outcome_congr (fe : FrontEnd) (s : Demands) (u : SourceUnit) {k l : Catalog}
    (same : ∀ tree, (fe.parse u.source s.level).ending = .done tree →
      ∀ r ∈ tree.allRequests, (k.sees r.module).toOption = (l.sees r.module).toOption) :
    (outcome fe s u k).reported = (outcome fe s u l).reported ∧
      (outcome fe s u k).ending.toOption = (outcome fe s u l).ending.toOption := by
  simp only [outcome]
  cases parsed : (fe.parse u.source s.level).ending with
  | broken failure => exact ⟨rfl, rfl⟩
  | refused n => exact ⟨rfl, rfl⟩
  | done tree =>
    obtain ⟨unmet, ended⟩ := Catalog.check_congr (same tree parsed)
    simp only [treeOutcome]
    revert unmet ended
    generalize k.check tree.allRequests = looked
    generalize l.check tree.allRequests = looked'
    obtain ⟨requests, ending⟩ := looked
    obtain ⟨requests', ending'⟩ := looked'
    rintro rfl ended
    cases ending with
    | error failure =>
      cases ending' with
      | error failure' => exact ⟨rfl, rfl⟩
      | ok done => cases ended
    | ok done =>
      cases ending' with
      | error failure' => cases ended
      | ok done' => exact ⟨rfl, rfl⟩

end PageTask

namespace PageCompiler

/-- Two compilations agree: they give the same result or none, and leave the same store. -/
def Agree (first second : Except Failure CompilationResult × Workspace) : Prop :=
  first.1.toOption = second.1.toOption ∧ first.2.store = second.2.store

private theorem commission_congr [Text.Encodings] {c : PageCompiler} {fe : FrontEnd} {d : Disk}
    {others : List Path} (checked : checkClasspath d c.classpath = .ok ())
    (checked' : checkClasspath d others = .ok ())
    (name : String) : ({ c with classpath := others } : PageCompiler).commission fe d name =
      c.commission fe d name := by
  have prepared : ({ c with classpath := others } : PageCompiler).prepare (PageTask.service fe) d
      name = c.prepare (PageTask.service fe) d name := by
    simp only [prepare, checked, checked']
  rw [commission, prepared, commission]

private theorem agree_of_sees [Text.Encodings] (c : PageCompiler) (fe : FrontEnd) (name : String)
    (guide : Option LineGuide) (w : Workspace) {others : List Path}
    (checked : checkClasspath w.disk c.classpath = .ok ())
    (checked' : checkClasspath w.disk others = .ok ()) (same : ∀ r ∈ c.imports fe w.disk name,
      ((c.catalog w).sees r.module).toOption =
        (({ c.catalog w with classpath := others } : Catalog).sees r.module).toOption) :
    Agree (c.compile (PageTask.service fe) name guide w)
      (({ c with classpath := others } : PageCompiler).compile (PageTask.service fe) name guide
        w) := by
  let c' : PageCompiler := { c with classpath := others }
  have shared : c'.commission fe w.disk name = c.commission fe w.disk name :=
    commission_congr checked checked' name
  cases commissioned : c.commission fe w.disk name with
  | error failure =>
    obtain ⟨answer, store⟩ := compile_refused c fe guide w commissioned
    obtain ⟨answer', store'⟩ := compile_refused c' fe guide w (shared.trans commissioned)
    exact ⟨by rw [answer, answer'], store.trans store'.symm⟩
  | ok pair =>
    obtain ⟨u, s⟩ := pair
    obtain ⟨-, -, bytes, encoded⟩ := commission_ok commissioned
    have settled := compile_settled_of_encoded c fe guide w commissioned encoded
    have settled' := compile_settled_of_encoded c' fe guide w (shared.trans commissioned) encoded
    obtain ⟨reported, ending⟩ := PageTask.outcome_congr fe s u (k := c.catalog w)
      (l := c'.catalog w) fun tree parsed => by
        rw [← imports_eq commissioned parsed]
        exact same
    cases ended : (PageTask.outcome fe s u (c.catalog w)).ending with
    | error failure =>
      cases ended' : (PageTask.outcome fe s u (c'.catalog w)).ending with
      | error failure' =>
        obtain ⟨answer, store⟩ := settled.broken failure ended
        obtain ⟨answer', store'⟩ := settled'.broken failure' ended'
        exact ⟨by rw [answer, answer']; rfl, store.trans store'.symm⟩
      | ok good => simp [ended, ended', Except.toOption] at ending
    | ok good =>
      have ended' : (PageTask.outcome fe s u (c'.catalog w)).ending = .ok good := by
        rw [ended] at ending
        exact ok_of_toOption ending.symm
      cases good with
      | false =>
        obtain ⟨store, answer⟩ := settled.failed ended
        obtain ⟨store', answer'⟩ := settled'.failed ended'
        exact ⟨by rw [answer, answer', reported], store.trans store'.symm⟩
      | true =>
        obtain ⟨answer, store⟩ := settled.published ended
        obtain ⟨answer', store'⟩ := settled'.published ended'
        exact ⟨by rw [answer, answer'], store.trans store'.symm⟩

end PageCompiler

namespace Catalog

/-- The package of a module cannot be listed below a directory of the classpath: its path, or that
of something in it that the listing asks about, is too long. -/
structure Outsized (k : Catalog) (module : String) : Prop where
  packaged : Name.packageOf module ≠ ""
  outside : Name.isWithin (Name.packageOf module) k.reserved = false
  long : ∃ root ∈ k.classpath, k.disk.lookup root = .ok (some .directory) ∧
    ∃ asked, DiskFile.AsksAbout k.disk root (DiskFile.packagePath (Name.packageOf module))
      [.source, .compiled] true asked ∧
      ∃ path, k.disk.lookup asked = .error (.nameTooLong path)

def IsClasspath (d : Disk) (roots : List Path) : Prop :=
  ∀ root ∈ roots, d.lookup root = .ok (some .directory) ∨
    ∃ packed, d.lookup root = .ok (some (.archive packed))

private theorem listRoot_error {d : Disk} {package root : Path} {kinds : List Kind} {recurse : Bool}
    (relative : package.anchor = .here) (there : d.lookup root = .ok (some .directory) ∨
      ∃ packed, d.lookup root = .ok (some (.archive packed))) {e : DiskError}
    (refused : DiskFile.listRoot d package kinds recurse root = .error e) :
    d.lookup root = .ok (some .directory) ∧
      ∃ asked, DiskFile.AsksAbout d root package kinds recurse asked ∧ d.lookup asked = .error e ∧
        ∃ path, e = .nameTooLong path := by
  rcases there with directory | ⟨packed, archive⟩
  · obtain ⟨base, rooted, found⟩ := Disk.lookup_eq_some_iff.1 directory
    obtain ⟨asked, asks, wrong⟩ :=
      DiskFile.exists_of_listRoot_directory_error relative rooted found refused
    exact ⟨directory, asked, asks, wrong, _, ((Disk.lookup_eq_error_iff d asked e).1 wrong).2⟩
  · rw [DiskFile.listRoot_archive archive] at refused
    cases refused

private theorem sees_eq_error_iff {k : Catalog} {module : String} {failure : Failure} :
    k.sees module = .error failure ↔ Name.packageOf module ≠ "" ∧
      Name.isWithin (Name.packageOf module) k.reserved = false ∧
      ∃ e, DiskFile.list k.disk k.classpath (Name.packageOf module) [.source, .compiled] true =
        .error e ∧ failure = .disk e := by
  unfold sees names
  by_cases top : Name.packageOf module = ""
  · simp [top]
  · by_cases within : Name.isWithin (Name.packageOf module) k.reserved = true
    · simp [top, within, Except.map]
    · cases DiskFile.list k.disk k.classpath (Name.packageOf module) [.source, .compiled] true <;>
        simp [top, within, Except.map, eq_comm]

private theorem relative_of_whole {module : String} (whole : '/' ∉ module.toList)
    (packaged : Name.packageOf module ≠ "") :
    (DiskFile.packagePath (Name.packageOf module)).anchor = .here := by
  have slashless : '/' ∉ (Name.packageOf module).toList := fun slash =>
    whole (Name.mem_of_mem_packageOf packaged slash)
  rw [DiskFile.packagePath_eq slashless]

/-- On a classpath of directories and archives the imports that cannot be looked up are those whose
package cannot be listed below one of the directories. -/
private theorem outsized_iff {k : Catalog} (there : IsClasspath k.disk k.classpath)
    {module : String} (whole : '/' ∉ module.toList) :
    Outsized k module ↔ ∃ failure, k.sees module = .error failure := by
  constructor
  · rintro ⟨packaged, outside, root, member, directory, asked, asks, path, long⟩
    obtain ⟨base, rooted, found⟩ := Disk.lookup_eq_some_iff.1 directory
    cases listed : DiskFile.list k.disk k.classpath (Name.packageOf module)
        [.source, .compiled] true with
    | error e => exact ⟨.disk e, sees_eq_error_iff.2 ⟨packaged, outside, e, listed, rfl⟩⟩
    | ok files =>
      have relative := relative_of_whole whole packaged
      obtain ⟨answer, given⟩ := (DiskFile.exists_listRoot_directory_iff relative rooted found).1
        (DiskFile.exists_list_iff.1 ⟨files, listed⟩ root member) asked asks
      cases given.symm.trans long
  · rintro ⟨failure, broken⟩
    obtain ⟨packaged, outside, e, listed, -⟩ := sees_eq_error_iff.1 broken
    obtain ⟨root, member, refused⟩ := DiskFile.exists_of_list_error listed
    obtain ⟨directory, asked, asks, long, path, rfl⟩ :=
      listRoot_error (relative_of_whole whole packaged) (there root member) refused
    exact ⟨packaged, outside, root, member, directory, asked, asks, path, long⟩

private theorem failure_of_sees {k : Catalog} (there : IsClasspath k.disk k.classpath)
    {module : String} (whole : '/' ∉ module.toList) {failure : Failure}
    (broken : k.sees module = .error failure) :
    ∃ path, failure = .disk (.nameTooLong path) := by
  obtain ⟨packaged, -, e, listed, rfl⟩ := sees_eq_error_iff.1 broken
  obtain ⟨root, member, refused⟩ := DiskFile.exists_of_list_error listed
  obtain ⟨-, -, -, -, path, rfl⟩ :=
    listRoot_error (relative_of_whole whole packaged) (there root member) refused
  exact ⟨path, rfl⟩

private theorem outsized_of_long {k : Catalog} {module : String} {root : Path}
    (member : root ∈ k.classpath) (directory : k.disk.lookup root = .ok (some .directory))
    (single : '.' ∉ (Name.packageOf module).toList)
    (slashless : '/' ∉ (Name.packageOf module).toList)
    (speakable : '\x00' ∉ (Name.packageOf module).toList)
    (outside : Name.isWithin (Name.packageOf module) k.reserved = false)
    (long : Disk.nameLimit < (Name.packageOf module).utf8ByteSize) : k.Outsized module := by
  have packaged : Name.packageOf module ≠ "" := by
    intro empty
    rw [empty] at long
    exact absurd long (by decide)
  have down : Disk.GoesDown (Name.packageOf module) :=
    ⟨packaged, fun dot => single (by rw [dot]; decide), fun dots => single (by rw [dots]; decide)⟩
  have silent : Disk.hasNull [Name.packageOf module] = false := by
    simpa [Disk.hasNull] using speakable
  obtain ⟨base, rooted, found⟩ := Disk.lookup_eq_some_iff.1 directory
  refine ⟨packaged, outside, root, member, directory, _, .package, ?_⟩
  rw [DiskFile.packagePath_of_single slashless single packaged]
  exact Disk.lookup_join_of_long rooted found down silent long

private theorem sees_of_bare {k : Catalog} {module : String}
    (bare : ∀ root ∈ k.classpath, ∃ packed, k.disk.lookup root = .ok (some (.archive packed)) ∧
      packed.members = [])
    (outside : Name.isWithin (Name.packageOf module) k.reserved = false) :
    k.sees module = .ok true := by
  have nothing : DiskFile.list k.disk k.classpath (Name.packageOf module)
      [.source, .compiled] true = .ok [] := by
    revert bare
    generalize k.classpath = roots
    intro bare
    induction roots with
    | nil => rfl
    | cons root rest ih =>
      obtain ⟨⟨packed, archive, none⟩, others⟩ := List.forall_mem_cons.1 bare
      rw [DiskFile.list_cons, DiskFile.listRoot_archive archive, none, ih others]
      simp [DiskFile.listArchive, Except.bind, Except.map]
  rw [sees]
  split
  · rfl
  · rw [names, if_neg (by simp [outside]), nothing]
    rfl

end Catalog

namespace PageCompiler

private theorem checkClasspath_of_isClasspath {d : Disk} {roots : List Path}
    (there : Catalog.IsClasspath d roots) : checkClasspath d roots = .ok () :=
  checkClasspath_eq_ok_iff.2 there

private theorem store_of_compile_error [Text.Encodings] (c : PageCompiler) (fe : FrontEnd)
    {name : String} (guide : Option LineGuide) (w : Workspace) {failure : Failure}
    (broken : (c.compile (PageTask.service fe) name guide w).1 = .error failure) :
    (c.compile (PageTask.service fe) name guide w).2.store = w.store := by
  cases commissioned : c.commission fe w.disk name with
  | error refusal => exact (compile_refused c fe guide w commissioned).2
  | ok pair =>
    obtain ⟨u, s⟩ := pair
    obtain ⟨size, settled⟩ := compile_settled c fe guide w commissioned
    cases ended : (PageTask.outcome fe s u (c.catalog w)).ending with
    | error failure => exact (settled.broken failure ended).2
    | ok good =>
      cases good with
      | false => exact (settled.failed ended).1
      | true => cases broken.symm.trans (settled.published ended).1

private theorem compile_of_outsized [Text.Encodings] (c : PageCompiler) (fe : FrontEnd)
    (name : String) (guide : Option LineGuide) (w : Workspace)
    (there : Catalog.IsClasspath w.disk c.classpath)
    (whole : ∀ r ∈ c.imports fe w.disk name, '/' ∉ r.module.toList) {r : ImportRequest}
    (imported : r ∈ c.imports fe w.disk name) (outsized : (c.catalog w).Outsized r.module) :
    let compiled := c.compile (PageTask.service fe) name guide w
    (∃ path, compiled.1 = .error (.disk (.nameTooLong path))) ∧ compiled.2.store = w.store := by
  intro compiled
  have reach : Catalog.IsClasspath (c.catalog w).disk (c.catalog w).classpath := there
  obtain ⟨u, s, tree, commissioned, parsed⟩ := tree_of_mem_imports imported
  obtain ⟨size, settled⟩ := compile_settled c fe guide w commissioned
  obtain ⟨failure, unseen⟩ := (Catalog.outsized_iff reach (whole r imported)).1 outsized
  rw [imports_eq commissioned parsed] at imported whole
  cases ended : ((c.catalog w).check tree.allRequests).2 with
  | ok done =>
    obtain ⟨visible, seen⟩ := ((c.catalog w).check_ended_iff _).1 ended r imported
    cases seen.symm.trans unseen
  | error failure' =>
    obtain ⟨other, member, broken⟩ := Catalog.exists_of_check_error ended
    obtain ⟨path, rfl⟩ := Catalog.failure_of_sees reach (whole other member) broken
    have ending : (PageTask.outcome fe s u (c.catalog w)).ending =
        .error (.disk (.nameTooLong path)) := by
      simp only [PageTask.outcome, parsed, PageTask.treeOutcome]
      revert ended
      generalize (c.catalog w).check tree.allRequests = looked
      obtain ⟨unmet, ending⟩ := looked
      rintro rfl
      rfl
    obtain ⟨answer, store⟩ := settled.broken _ ending
    exact ⟨⟨path, answer⟩, store⟩

/-- Another order of a classpath, with some of its directories packed into archives. -/
def Repacked (d : Disk) (roots others : List Path) : Prop :=
  ∃ packed, List.Forall₂ (fun root other => other = root ∨
    ∃ base archive, DiskFile.IsPacked d root other base archive) roots packed ∧ packed.Perm others

private theorem Repacked.isClasspath {d : Disk} {roots others : List Path}
    (repacked : Repacked d roots others) (there : Catalog.IsClasspath d roots) :
    Catalog.IsClasspath d others := by
  obtain ⟨packed, each, same⟩ := repacked
  have found : Catalog.IsClasspath d packed := by
    clear same
    induction each with
    | nil => exact nofun
    | cons pair _ ih =>
      obtain ⟨first, more⟩ := List.forall_mem_cons.1 there
      refine List.forall_mem_cons.2 ⟨?_, ih more⟩
      rcases pair with rfl | ⟨base, archive, packs⟩
      · exact first
      · exact .inr ⟨archive, packs.archive⟩
  exact fun root member => found root (same.mem_iff.2 member)

private theorem sees_of_repacked {k : Catalog} {others : List Path} (tree : k.disk.IsTree)
    {module : String} (whole : '/' ∉ module.toList) (repacked : Repacked k.disk k.classpath others)
    (fits : ¬ k.Outsized module) :
    (k.sees module).toOption =
      (({ k with classpath := others } : Catalog).sees module).toOption := by
  by_cases packaged : Name.packageOf module = ""
  · simp [Catalog.sees, packaged]
  by_cases within : Name.isWithin (Name.packageOf module) k.reserved = true
  · simp [Catalog.sees, Catalog.names, packaged, within]
  obtain ⟨packed, each, same⟩ := repacked
  have relative := Catalog.relative_of_whole whole packaged
  have down (part : String) :
      part ∈ (DiskFile.packagePath (Name.packageOf module)).parts → Disk.GoesDown part :=
    DiskFile.goesDown_of_mem_packagePath
  have listable {root : Path} (member : root ∈ k.classpath) {base : Address}
      (rooted : k.disk.address root = .ok base) (directory : k.disk.node? base = some .directory) :
      DiskFile.Listable k.disk (DiskFile.packagePath (Name.packageOf module)) root := by
    refine (DiskFile.exists_listRoot_directory_iff relative rooted directory).2 fun p asks => ?_
    cases found : k.disk.lookup p with
    | ok answer => exact ⟨answer, rfl⟩
    | error e =>
      obtain ⟨-, rfl⟩ := (Disk.lookup_eq_error_iff _ _ e).1 found
      exact absurd ⟨packaged, by simpa using within, root, member,
        Disk.lookup_eq_some_iff.2 ⟨base, rooted, directory⟩, p, asks, _, found⟩ fits
  have alike : List.Forall₂ (fun root other => DiskFile.SameShown k.disk
      (DiskFile.packagePath (Name.packageOf module)) [root] [other]) k.classpath packed := by
    have among : ∀ root ∈ k.classpath, root ∈ k.classpath := fun _ member => member
    refine ((List.forall₂_and_left _ _).2 ⟨among, each⟩).imp ?_
    rintro root _ ⟨member, rfl | ⟨base, archive, packs⟩⟩
    · exact ⟨Iff.rfl, fun _ => Iff.rfl⟩
    · exact DiskFile.sameShown_of_packed tree relative down packs
        (listable member packs.rooted packs.directory)
  exact (k.sees_congr ((DiskFile.sameShown_of_forall₂ alike).trans
    (DiskFile.sameShown_of_perm same))).symm

/-- A classpath of directories and archives in another order is compiled with alike. With some of
the directories packed into archives it is, too, with one exception: when a package that is imported
cannot be listed below a directory of the classpath, the compilation breaks, and over the archives it
need not. -/
theorem repacked_classpath_compiles_alike [Text.Encodings] (c : PageCompiler) (fe : FrontEnd)
    (name : String) (guide : Option LineGuide) (w : Workspace) (others : List Path)
    (tree : w.disk.IsTree) (there : Catalog.IsClasspath w.disk c.classpath)
    (whole : ∀ r ∈ c.imports fe w.disk name, '/' ∉ r.module.toList)
    (repacked : Repacked w.disk c.classpath others) :
    let first := c.compile (PageTask.service fe) name guide w
    let second :=
      ({ c with classpath := others } : PageCompiler).compile (PageTask.service fe) name guide w
    let outsized := ∃ r ∈ c.imports fe w.disk name, (c.catalog w).Outsized r.module
    (c.classpath.Perm others → Agree first second) ∧
    (outsized → (∃ path, first.1 = .error (.disk (.nameTooLong path))) ∧
      first.2.store = w.store) ∧
    (¬ Agree first second ↔ outsized ∧ ∃ result, second.1 = .ok result) := by
  intro first second outsized
  have checked : checkClasspath w.disk c.classpath = .ok () := checkClasspath_of_isClasspath there
  have checked' : checkClasspath w.disk others = .ok () :=
    checkClasspath_of_isClasspath (repacked.isClasspath there)
  have breaks : outsized → (∃ path, first.1 = .error (.disk (.nameTooLong path))) ∧
      first.2.store = w.store := by
    rintro ⟨r, imported, long⟩
    exact compile_of_outsized c fe name guide w there whole imported long
  refine ⟨fun same => ?_, breaks, ?_, ?_⟩
  · refine agree_of_sees c fe name guide w checked checked' fun r _ => ?_
    exact ((c.catalog w).sees_congr (DiskFile.sameShown_of_perm same)).symm
  · intro differ
    have long : outsized := by
      by_contra fits
      refine differ (agree_of_sees c fe name guide w checked checked' fun r imported => ?_)
      exact sees_of_repacked (k := c.catalog w) tree (whole r imported) repacked
        fun long => fits ⟨r, imported, long⟩
    refine ⟨long, ?_⟩
    cases answer : second.1 with
    | ok result => exact ⟨result, rfl⟩
    | error failure =>
      -- Both break and leave the store as it was, so they agree after all.
      obtain ⟨⟨path, broken⟩, store⟩ := breaks long
      have store' : second.2.store = w.store := store_of_compile_error _ fe guide w answer
      exact absurd ⟨by rw [broken, answer]; rfl, store.trans store'.symm⟩ differ
  · rintro ⟨long, result, answer⟩ ⟨agreed, -⟩
    obtain ⟨⟨path, broken⟩, -⟩ := breaks long
    rw [broken, answer] at agreed
    cases agreed

/-- A directory that is packed and moved behind another: a module that is missing beside a file of
its package is reported all the same. -/
theorem missing_module_reported_over_archive :
    let c : PageCompiler := ⟨"generated", false, [.ofString "lib", .ofString "ext"], .empty,
      [⟨"import app.page\n", "utf-8"⟩]⟩
    let others : List Path := [.ofString "ext", .ofString "lib.zip"]
    let fe : FrontEnd := ⟨fun _ _ => ⟨[], .done (.importNames ["app.page"] (some 1))⟩,
      fun _ _ _ => ⟨[], .done ()⟩⟩
    let disk : Disk := ⟨[(["lib"], .directory), (["lib", "app"], .directory),
      (["lib", "app", "core.py"], .file []), (["ext"], .directory),
      (["lib.zip"], .archive ⟨[("app/core.py", [])], []⟩)], []⟩
    let w := Workspace.start disk (.empty ⟨0, []⟩)
    let first := c.compile (PageTask.service fe) "generated.A" none w
    let second := ({ c with classpath := others } : PageCompiler).compile (PageTask.service fe)
      "generated.A" none w
    disk.IsTree ∧ Repacked disk c.classpath others ∧ Agree first second ∧
      first.1 = .ok ⟨"generated.A", false,
        [⟨.error, "cannot find module 'app.page'", .int 1, some 1, .null, false⟩]⟩ := by
  intro c others fe disk w first second
  have tree : disk.IsTree := by decide +kernel
  have there : Catalog.IsClasspath disk c.classpath :=
    List.forall_mem_cons.2 ⟨.inl (by decide +kernel),
      List.forall_mem_cons.2 ⟨.inl (by decide +kernel), nofun⟩⟩
  have whole : ∀ r ∈ c.imports fe disk "generated.A", '/' ∉ r.module.toList := by decide +kernel
  have packed : DiskFile.IsPacked disk (.ofString "lib") (.ofString "lib.zip") ["lib"]
      ⟨[("app/core.py", [])], []⟩ := by
    have stands : disk.below ["lib"] true =
        [(["app"], .directory), (["app", "core.py"], .file [])] := by decide +kernel
    refine ⟨by decide +kernel, by decide +kernel, by decide +kernel, fun member => ?_⟩
    have joined : "/".intercalate ["app", "core.py"] = "app/core.py" := rfl
    rw [stands]
    constructor
    · intro inside
      exact ⟨_, _, .tail _ (.head _), rfl, (List.mem_singleton.1 inside).trans joined.symm⟩
    · rintro ⟨way, node, inside, isFile, rfl⟩
      obtain ⟨rfl, rfl⟩ | ⟨rfl, rfl⟩ : (way = ["app"] ∧ node = .directory) ∨
          (way = ["app", "core.py"] ∧ node = .file []) := by simpa using inside
      · cases isFile
      · exact List.mem_singleton.2 joined
  have repacked : Repacked disk c.classpath others := by
    refine ⟨[.ofString "lib.zip", .ofString "ext"], ?_, .swap _ _ _⟩
    exact .cons (.inr ⟨_, _, packed⟩) (.cons (.inl rfl) .nil)
  have answer : first.1 = .ok ⟨"generated.A", false,
      [⟨.error, "cannot find module 'app.page'", .int 1, some 1, .null, false⟩]⟩ :=
    ok_of_toOption (by decide +kernel)
  obtain ⟨-, breaks, differ_iff⟩ := repacked_classpath_compiles_alike c fe "generated.A" none w
    others tree there whole repacked
  refine ⟨tree, repacked, ?_, answer⟩
  by_contra differ
  obtain ⟨⟨path, broken⟩, -⟩ := breaks (differ_iff.1 differ).1
  cases answer.symm.trans broken

/-- An import from a package with a name that is too long for a directory: over a directory the
compilation breaks, over an archive of its files, of which there are none, it succeeds. -/
theorem long_package_breaks_over_directory :
    let long := String.ofList (List.replicate 256 'a')
    let c : PageCompiler := ⟨"generated", false, [.ofString "lib"], .empty,
      [⟨"import " ++ long ++ ".b\n", "utf-8"⟩]⟩
    let c' : PageCompiler := { c with classpath := [.ofString "lib.zip"] }
    let fe : FrontEnd := ⟨fun _ _ => ⟨[], .done (.importNames [long ++ ".b"] (some 1))⟩,
      fun _ _ _ => ⟨[], .done ()⟩⟩
    let disk : Disk := ⟨[(["lib"], .directory), (["lib.zip"], .archive ⟨[], []⟩)], []⟩
    let w := Workspace.start disk (.empty ⟨0, []⟩)
    disk.IsTree ∧ DiskFile.IsPacked disk (.ofString "lib") (.ofString "lib.zip") ["lib"] ⟨[], []⟩ ∧
      (∃ path, (c.compile (PageTask.service fe) "generated.A" none w).1 =
        .error (.disk (.nameTooLong path))) ∧
      succeeded (c'.compile (PageTask.service fe) "generated.A" none w).1 = true := by
  intro long c c' fe disk w
  let r : ImportRequest := ⟨long ++ ".b", some 1⟩
  let u : SourceUnit := ⟨"generated.A", "import " ++ long ++ ".b\n", "utf-8"⟩
  let s : Demands := ⟨none, false, [], false, false⟩
  let tree : SyntaxTree := .importNames [long ++ ".b"] (some 1)
  have chars : long.toList = List.replicate 256 'a' := String.toList_ofList
  have only {other : Char} (inside : other ∈ long.toList) : other = 'a' := by
    rw [chars] at inside
    exact List.eq_of_mem_replicate inside
  have package : Name.packageOf r.module = long := by
    have below : long ++ ".b" = Name.below long "b" := by
      apply String.toList_injective
      simp [Name.below]
    rw [show r.module = long ++ ".b" from rfl, below]
    exact Name.packageOf_below (by decide)
  have outside : Name.isWithin (Name.packageOf r.module) "generated" = false := by
    have absent : 'g' ∉ long.toList := fun inside => absurd (only inside) (by decide)
    rw [package, ← Bool.not_eq_true, Name.isWithin_iff, Name.isBelow_iff]
    rintro (same | ⟨rest, same⟩)
    · exact absent (by rw [same]; decide)
    · exact absent (by rw [same]; simp)
  have requests : tree.allRequests = [r] := by
    rw [SyntaxTree.allRequests, SyntaxTree.walk, SyntaxTree.levels_eq,
      show SyntaxTree.descend [tree] = [] from rfl, SyntaxTree.levels_nil]
    rfl
  have commissioned : c.commission fe disk "generated.A" = .ok (u, s) :=
    ok_of_toOption (by decide +kernel)
  have commissioned' : c'.commission fe disk "generated.A" = .ok (u, s) :=
    ok_of_toOption (by decide +kernel)
  have rooted : disk.address (.ofString "lib") = .ok ["lib"] := by decide +kernel
  have directory : disk.node? ["lib"] = some .directory := by decide +kernel
  have archive : disk.lookup (.ofString "lib.zip") = .ok (some (.archive ⟨[], []⟩)) := by
    decide +kernel
  have packed : DiskFile.IsPacked disk (.ofString "lib") (.ofString "lib.zip") ["lib"] ⟨[], []⟩ := by
    refine ⟨rooted, directory, archive, fun name => ?_⟩
    have none : disk.below ["lib"] true = [] := by decide +kernel
    simp [none]
  refine ⟨by decide +kernel, packed, ?_, ?_⟩
  · have found : disk.lookup (.ofString "lib") = .ok (some .directory) :=
      Disk.lookup_eq_some_iff.2 ⟨_, rooted, directory⟩
    have there : Catalog.IsClasspath disk c.classpath := by
      intro root member
      obtain rfl := List.mem_singleton.1 member
      exact .inl found
    have imported : r ∈ c.imports fe disk "generated.A" := by
      rw [imports_eq commissioned rfl, requests]
      exact List.mem_singleton_self r
    have outsized : (c.catalog w).Outsized r.module := by
      have size : Disk.nameLimit < long.utf8ByteSize := by decide +kernel
      refine Catalog.outsized_of_long (List.mem_singleton_self _) found ?_ ?_ ?_ outside ?_ <;>
        rw [package]
      · exact fun dot => absurd (only dot) (by decide)
      · exact fun slash => absurd (only slash) (by decide)
      · exact fun null => absurd (only null) (by decide)
      · exact size
    have whole : ∀ r ∈ c.imports fe disk "generated.A", '/' ∉ r.module.toList := by
      intro other member slash
      rw [imports_eq commissioned rfl, requests, List.mem_singleton] at member
      subst member
      have letters : '/' ∉ (long ++ ".b").toList := by
        rw [String.toList_append, List.mem_append, not_or]
        exact ⟨fun slash => absurd (only slash) (by decide), by decide⟩
      exact letters slash
    exact (compile_of_outsized c fe "generated.A" none w there whole imported outsized).1
  · have bare : ∀ root ∈ c'.classpath, ∃ packed,
        disk.lookup root = .ok (some (.archive packed)) ∧ packed.members = [] := by
      intro root member
      obtain rfl := List.mem_singleton.1 member
      exact ⟨_, archive, rfl⟩
    have seen : (c'.catalog w).sees r.module = .ok true := Catalog.sees_of_bare bare outside
    have checked : (c'.catalog w).check tree.allRequests = ([], .ok ()) := by
      rw [requests, Catalog.check, seen]
      rfl
    exact (page_succeeds_iff c' fe "generated.A" none w).2 ⟨u, s, commissioned',
      (PageTask.outcome_good_iff fe s u (c'.catalog w)).2 ⟨tree, rfl, checked, rfl, rfl⟩⟩

end PageCompiler

end PagePress
