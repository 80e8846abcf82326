import Mathlib.Data.List.Dedup
import Mathlib.Data.List.Infix
import Mathlib.Data.List.Perm.Basic
import PagePress.Files.Access
import PagePress.Proofs.Files.Rows

/-!
The listing of a package is exact. Main statement: the standard access lists root by root what each
root holds of the package, unless a path that it asks about is too long or holds a null character;
and a recursive listing is, root by root and up to order, made of the plain listings of the package
and of all directories below it, which have nothing in common.
-/

set_option autoImplicit false

namespace PagePress

namespace DiskFile

/-- A directory that a recursive listing of a package goes into: that of the package, and each one
below it. In an archive there are the directories that its members lie in. -/
inductive IsDirectoryFrom (d : Disk) (root package : Path) : Path → Prop
  | self : IsDirectoryFrom d root package package
  | directory {base : Address} {way : List String} (rooted : d.address root = .ok base)
      (here : d.node? base = some .directory) (filled : way ≠ [])
      (there : (base ++ package.parts ++ way, .directory) ∈ d.nodes) :
      IsDirectoryFrom d root package ⟨package.anchor, package.parts ++ way⟩
  | archive {packed : Archive} {name : String} {way rest : List String}
      (found : d.lookup root = .ok (some (.archive packed)))
      (member : name ∈ packed.members.map (·.1))
      (filled : way ≠ []) (below : rest ≠ [])
      (there : Path.ofString name = ⟨package.anchor, package.parts ++ way ++ rest⟩) :
      IsDirectoryFrom d root package ⟨package.anchor, package.parts ++ way⟩

/-- A row is, up to order, the disjoint union of the plain listings of all directories of a
package. -/
def IsUnion (d : Disk) (package : Path) (kinds : List Kind) (root : Path) (row : List DiskFile) :
    Prop :=
  ∃ packages : List Path, packages.Nodup ∧
    (∀ q, q ∈ packages ↔ IsDirectoryFrom d root package q) ∧
    ∃ plain : Path → List DiskFile,
      (∀ q ∈ packages, listRoot d q kinds false root = .ok (plain q)) ∧
      row.Perm (packages.flatMap plain) ∧
      packages.Pairwise fun q q' => (plain q).Disjoint (plain q')

section Partition

private theorem perm_flatMap_filter {α β : Type} [DecidableEq β] (key : α → β) {keys : List β}
    (distinct : keys.Nodup) {row : List α} (covered : ∀ a ∈ row, key a ∈ keys) :
    row.Perm (keys.flatMap fun k => row.filter fun a => key a = k) := by
  induction keys generalizing row with
  | nil =>
    obtain rfl : row = [] := List.eq_nil_iff_forall_not_mem.2 fun a member => by
      cases covered a member
    exact .nil
  | cons k keys ih =>
    obtain ⟨apart, distinct⟩ := List.nodup_cons.1 distinct
    let others := row.filter fun a => !decide (key a = k)
    have covered' : ∀ a ∈ others, key a ∈ keys := by
      intro a member
      obtain ⟨there, other⟩ := List.mem_filter.1 member
      exact (List.mem_cons.1 (covered a there)).resolve_left (by simpa using other)
    have same : (keys.flatMap fun k' => others.filter fun a => key a = k') =
        keys.flatMap fun k' => row.filter fun a => key a = k' := by
      refine List.flatMap_congr fun k' member => ?_
      rw [List.filter_filter]
      refine List.filter_congr fun a _ => ?_
      have differ : k' ≠ k := fun equal => apart (equal ▸ member)
      by_cases here : key a = k'
      · simp [here, differ]
      · simp [here]
    have split : ((row.filter fun a => key a = k) ++ others).Perm row :=
      List.filter_append_perm _ row
    rw [List.flatMap_cons, ← same]
    exact split.symm.trans ((ih distinct covered').append_left _)

private theorem exists_enumeration {α : Type} [DecidableEq α] {P : α → Prop} (candidates : List α)
    (all : ∀ a, P a → a ∈ candidates) : ∃ row : List α, row.Nodup ∧ ∀ a, a ∈ row ↔ P a := by
  classical
  refine ⟨(candidates.filter P).dedup, List.nodup_dedup _, fun a => ?_⟩
  rw [List.mem_dedup, List.mem_filter, decide_eq_true_eq]
  exact ⟨fun found => found.2, fun held => ⟨all a held, held⟩⟩

end Partition

section Directories

variable {d : Disk} {root package : Path} {kinds : List Kind}

private theorem inPackage_false_iff {path : Path} :
    InPackage package path false ↔ path.parts ≠ [] ∧ path.parent = package := by
  constructor
  · rintro ⟨named, -, -, deep⟩
    exact ⟨named, deep.resolve_left (by simp)⟩
  · rintro ⟨named, rfl⟩
    exact ⟨named, rfl, List.prefix_refl _, .inr rfl⟩

private theorem inPackage_below_iff {path : Path} (way : List String) :
    InPackage ⟨package.anchor, package.parts ++ way⟩ path false ↔
      InPackage package path true ∧ path.parent = ⟨package.anchor, package.parts ++ way⟩ := by
  rw [inPackage_false_iff]
  constructor
  · rintro ⟨named, parent⟩
    have anchored : path.parent.anchor = package.anchor := by rw [parent]
    exact ⟨⟨named, anchored, by simp [parent], .inl rfl⟩, parent⟩
  · rintro ⟨inside, parent⟩
    exact ⟨inside.named, parent⟩

private theorem InPackage.exists_parent {path : Path} (inside : InPackage package path true) :
    ∃ way last, path = ⟨package.anchor, package.parts ++ way ++ [last]⟩ ∧
      path.parent = ⟨package.anchor, package.parts ++ way⟩ := by
  obtain ⟨anchored, way, parts, filled, -⟩ := inPackage_iff_way.1 inside
  obtain ⟨front, last, rfl⟩ := (List.eq_nil_or_concat' way).resolve_left filled
  rw [← List.append_assoc] at parts
  obtain ⟨anchor, _⟩ := path
  cases anchored
  cases parts
  exact ⟨front, last, rfl, by simp [Path.parent]⟩

private theorem IsDirectoryFrom.exists_way {q : Path}
    (directory : IsDirectoryFrom d root package q) :
    ∃ way, q = ⟨package.anchor, package.parts ++ way⟩ := by
  cases directory with
  | self => exact ⟨[], by simp⟩
  | directory => exact ⟨_, rfl⟩
  | archive => exact ⟨_, rfl⟩

private theorem exists_directories (d : Disk) (root package : Path) :
    ∃ packages : List Path, packages.Nodup ∧
      ∀ q, q ∈ packages ↔ IsDirectoryFrom d root package q := by
  let onDisk (base : Address) : List Path := d.nodes.map fun entry =>
    ⟨package.anchor, package.parts ++ entry.1.drop (base ++ package.parts).length⟩
  let inArchive (members : List (String × Bytes)) : List Path :=
    (members.map (·.1)).flatMap fun name =>
      (Path.ofString name).parts.inits.map fun parts => ⟨package.anchor, parts⟩
  obtain ⟨members, ofArchive⟩ : ∃ members, ∀ packed,
      d.lookup root = .ok (some (.archive packed)) → members = packed.members := by
    by_cases archive : ∃ packed, d.lookup root = .ok (some (.archive packed))
    · obtain ⟨packed, found⟩ := archive
      refine ⟨packed.members, fun packed' found' => ?_⟩
      rw [found] at found'
      cases found'
      rfl
    · exact ⟨[], fun packed found => absurd ⟨packed, found⟩ archive⟩
  let candidates : List Path :=
    package :: (d.address root).toOption.toList.flatMap onDisk ++ inArchive members
  refine exists_enumeration candidates fun q directory => ?_
  cases directory with
  | self => simp [candidates]
  | @directory base way rooted here filled there =>
    have known : (⟨package.anchor, package.parts ++ way⟩ : Path) ∈ onDisk base := by
      refine List.mem_map.2 ⟨_, there, ?_⟩
      rw [List.drop_left]
    simp [candidates, rooted, known, Except.toOption]
  | @archive packed name way rest found member filled below there =>
    have known : (⟨package.anchor, package.parts ++ way⟩ : Path) ∈ inArchive packed.members := by
      refine List.mem_flatMap.2 ⟨name, member, List.mem_map.2 ⟨package.parts ++ way, ?_, rfl⟩⟩
      rw [there, List.mem_inits]
      exact List.prefix_append _ rest
    rw [← ofArchive packed found] at known
    simp [candidates, known]

end Directories

section Plain

variable {d : Disk} {root package : Path} {kinds : List Kind}

/-- In a directory below a package, a plain listing asks about nothing that the recursive listing of
the package does not ask about. -/
private theorem asksAbout_of_plain (tree : d.IsTree) (relative : package.anchor = .here)
    (down : ∀ part ∈ package.parts, Disk.GoesDown part) {base : Address}
    (rooted : d.address root = .ok base) {way : List String} (filled : way ≠ [])
    (there : (base ++ package.parts ++ way, .directory) ∈ d.nodes) {answer : Option Node}
    (asked : d.lookup (root.join package) = .ok answer) {p : Path}
    (asks : AsksAbout d root ⟨package.anchor, package.parts ++ way⟩ kinds false p) :
    AsksAbout d root package kinds true p := by
  obtain ⟨-, found⟩ := Disk.lookup_join_of_below tree relative rooted there filled asked
  have here : d.node? (base ++ package.parts) = some .directory := tree.directory there filled
  have named : ∀ part ∈ way, Disk.GoesDown part := fun part member =>
    (tree.named _ there part (List.mem_append_right _ member)).goesDown
  rw [relative] at asks
  cases asks with
  | package =>
    rw [← Path.join_join_of_relative root relative]
    exact .directory found here rfl (Disk.mem_below.2 ⟨there, filled, .inl rfl⟩)
  | directory _ _ deep _ => cases deep
  | @named way' spot node kind found' _ there' wanted told =>
    have onWay : ∀ part ∈ package.parts ++ way, Disk.GoesDown part := by
      intro part member
      exact (List.mem_append.1 member).elim (down part) (named part)
    obtain rfl : spot = base ++ (package.parts ++ way) :=
      Disk.address_join_of_found (p := ⟨.here, package.parts ++ way⟩) rfl onWay rooted found'
    obtain ⟨below, filled', -⟩ := Disk.mem_below.1 there'
    have below' : (way ++ way', node) ∈ d.below (base ++ package.parts) true := by
      refine Disk.mem_below.2 ⟨?_, by simp [filled], .inl rfl⟩
      simpa only [List.append_assoc] using below
    rw [← Path.suffix_append .here way filled'] at told
    have joined : (root.join ⟨.here, package.parts ++ way⟩).join ⟨.here, way'⟩ =
        (root.join package).join ⟨.here, way ++ way'⟩ := by
      rw [Path.join_join_of_relative root rfl, Path.join_join_of_relative root relative,
        List.append_assoc]
    rw [joined]
    exact .named found here below' wanted told

private theorem IsDirectoryFrom.goesDown (tree : d.IsTree)
    (down : ∀ part ∈ package.parts, Disk.GoesDown part) {base : Address}
    (rooted : d.address root = .ok base) (here : d.node? base = some .directory) {q : Path}
    (directory : IsDirectoryFrom d root package q) : ∀ part ∈ q.parts, Disk.GoesDown part := by
  cases directory with
  | self => exact down
  | @directory base' way _ _ _ there =>
    intro part member
    rcases List.mem_append.1 member with above | below
    · exact down part above
    · exact (tree.named _ there part (List.mem_append_right _ below)).goesDown
  | archive found =>
    rw [Disk.lookup_eq_some_iff.2 ⟨base, rooted, here⟩] at found
    cases found

/-- All that the plain listing of a directory of a package asks about, the recursive listing of the
package asks about. -/
private theorem IsDirectoryFrom.asksAbout (tree : d.IsTree) (relative : package.anchor = .here)
    (down : ∀ part ∈ package.parts, Disk.GoesDown part) {base : Address}
    (rooted : d.address root = .ok base) (here : d.node? base = some .directory)
    {answer : Option Node} (asked : d.lookup (root.join package) = .ok answer) {q : Path}
    (directory : IsDirectoryFrom d root package q) {p : Path}
    (asks : AsksAbout d root q kinds false p) : AsksAbout d root package kinds true p := by
  cases directory with
  | self =>
    cases asks with
    | package => exact .package
    | directory _ _ deep _ => cases deep
    | named found here there wanted told =>
      obtain ⟨below, filled, -⟩ := Disk.mem_below.1 there
      exact .named found here (Disk.mem_below.2 ⟨below, filled, .inl rfl⟩) wanted told
  | @directory base' way rooted' _ filled there =>
    obtain rfl : base = base' := Except.ok.inj (rooted.symm.trans rooted')
    exact asksAbout_of_plain tree relative down rooted filled there asked asks
  | archive found =>
    rw [Disk.lookup_eq_some_iff.2 ⟨base, rooted, here⟩] at found
    cases found

/-- Each directory of a package is listed plainly as the part of the recursive listing that lies
directly in it. -/
private theorem exists_plain_directory (files : d.IsFileSystem) (relative : package.anchor = .here)
    (down : ∀ part ∈ package.parts, Disk.GoesDown part) {base : Address}
    (rooted : d.address root = .ok base) (here : d.node? base = some .directory)
    {row : List DiskFile} (listed : listRoot d package kinds true root = .ok row) {q : Path}
    (directory : IsDirectoryFrom d root package q) :
    ∃ plain, listRoot d q kinds false root = .ok plain ∧
      plain.Perm (row.filter fun f => f.path.parent = q) := by
  have answers := (exists_listRoot_directory_iff relative rooted here).1 ⟨row, listed⟩
  obtain ⟨answer, asked⟩ := answers _ .package
  have downQ := directory.goesDown files.toIsTree down rooted here
  have answersQ : ∀ p, AsksAbout d root q kinds false p → ∃ answer, d.lookup p = .ok answer :=
    fun p asks => answers p (directory.asksAbout files.toIsTree relative down rooted here asked asks)
  obtain ⟨way, rfl⟩ := directory.exists_way
  have relativeQ : (⟨package.anchor, package.parts ++ way⟩ : Path).anchor = .here := relative
  obtain ⟨plain, listedQ⟩ := (exists_listRoot_directory_iff relativeQ rooted here).2 answersQ
  refine ⟨plain, listedQ, ?_⟩
  have onceQ : plain.Nodup := row_nodup rooted here listedQ files.distinct
  have once : row.Nodup := row_nodup rooted here listed files.distinct
  refine (List.perm_ext_iff_of_nodup onceQ (once.filter _)).2 fun f => ?_
  rw [mem_row_directory files relativeQ rooted here listedQ downQ, List.mem_filter,
    mem_row_directory files relative rooted here listed down, decide_eq_true_eq]
  simp only [inPackage_below_iff]
  constructor
  · rintro ⟨way', node, there, isFile, ⟨inside, parent⟩, kind, wanted, told, rfl⟩
    exact ⟨⟨way', node, there, isFile, inside, kind, wanted, told, rfl⟩, parent⟩
  · rintro ⟨⟨way', node, there, isFile, inside, kind, wanted, told, rfl⟩, parent⟩
    exact ⟨way', node, there, isFile, ⟨inside, parent⟩, kind, wanted, told, rfl⟩

private theorem listArchive_plain (members : List (String × Bytes)) (way : List String) :
    listArchive members root ⟨package.anchor, package.parts ++ way⟩ kinds false =
      (listArchive members root package kinds true).filter fun f =>
        f.path.parent = ⟨package.anchor, package.parts ++ way⟩ := by
  rw [listArchive_eq, listArchive_eq, List.filter_filterMap]
  refine List.filterMap_congr fun name _ => Option.ext fun f => ?_
  rw [Option.filter_eq_some_iff, asModule_eq_some_iff, asModule_eq_some_iff, inPackage_below_iff,
    decide_eq_true_eq]
  constructor
  · rintro ⟨⟨inside, parent⟩, kind, wanted, told, rfl⟩
    exact ⟨⟨inside, kind, wanted, told, rfl⟩, parent⟩
  · rintro ⟨⟨inside, kind, wanted, told, rfl⟩, parent⟩
    exact ⟨⟨inside, parent⟩, kind, wanted, told, rfl⟩

private theorem exists_plain (files : d.IsFileSystem) (relative : package.anchor = .here)
    (down : ∀ part ∈ package.parts, Disk.GoesDown part) {row : List DiskFile}
    (listed : listRoot d package kinds true root = .ok row) {q : Path}
    (directory : IsDirectoryFrom d root package q) :
    ∃ plain, listRoot d q kinds false root = .ok plain ∧
      plain.Perm (row.filter fun f => f.path.parent = q) := by
  cases isRow_of_listRoot files relative down listed with
  | directory rooted here _ _ =>
    exact exists_plain_directory files relative down rooted here listed directory
  | archive found _ _ _ =>
    rw [listRoot_archive found] at listed
    cases listed
    obtain ⟨way, rfl⟩ := directory.exists_way
    refine ⟨_, listRoot_archive found, ?_⟩
    rw [listArchive_plain]
  | other found noDirectory noArchive =>
    refine ⟨[], ?_, .nil⟩
    rwa [listRoot_other found noDirectory noArchive] at listed ⊢

private theorem isDirectoryFrom_parent (files : d.IsFileSystem) (relative : package.anchor = .here)
    (down : ∀ part ∈ package.parts, Disk.GoesDown part) {row : List DiskFile}
    (listed : listRoot d package kinds true root = .ok row) {f : DiskFile} (member : f ∈ row) :
    IsDirectoryFrom d root package f.path.parent := by
  cases isRow_of_listRoot files relative down listed with
  | @directory base _ rooted here same _ =>
    obtain ⟨_, node, there, -, inside, kind, -, -, rfl⟩ := (same f).1 member
    obtain ⟨way, last, whole, parent⟩ := inside.exists_parent
    obtain rfl : _ = package.parts ++ way ++ [last] := congrArg Path.parts whole
    rw [parent]
    by_cases direct : way = []
    · rw [direct, List.append_nil]
      exact .self
    · have above : d.node? (base ++ (package.parts ++ way)) = some .directory := by
        rw [← List.append_assoc] at there
        exact files.directory there (List.cons_ne_nil last [])
      refine .directory rooted here direct ?_
      rw [List.append_assoc]
      exact Disk.mem_of_node? (by simp [direct]) above
  | archive found _ _ _ =>
    rw [listRoot_archive found] at listed
    cases listed
    rw [listArchive_eq, List.mem_filterMap] at member
    obtain ⟨name, sorted, shown⟩ := member
    obtain ⟨inside, kind, -, -, rfl⟩ := asModule_eq_some_iff.1 shown
    have there := (List.mergeSort_perm _ _).mem_iff.1 sorted
    obtain ⟨way, last, whole, parent⟩ := inside.exists_parent
    rw [parent]
    by_cases direct : way = []
    · rw [direct, List.append_nil]
      exact .self
    · exact .archive found there direct (List.cons_ne_nil last []) whole
  | other => cases member

private theorem exists_plain_listings (files : d.IsFileSystem) (relative : package.anchor = .here)
    (down : ∀ part ∈ package.parts, Disk.GoesDown part) {row : List DiskFile}
    (listed : listRoot d package kinds true root = .ok row) :
    IsUnion d package kinds root row := by
  obtain ⟨packages, distinct, all⟩ := exists_directories d root package
  let plain (q : Path) : List DiskFile := (listRoot d q kinds false root).toOption.getD []
  have each : ∀ q ∈ packages, listRoot d q kinds false root = .ok (plain q) ∧
      (plain q).Perm (row.filter fun f => f.path.parent = q) := by
    intro q member
    obtain ⟨own, listedQ, same⟩ := exists_plain files relative down listed ((all q).1 member)
    have is : plain q = own := by simp [plain, listedQ, Except.toOption]
    rw [is]
    exact ⟨listedQ, same⟩
  refine ⟨packages, distinct, all, plain, fun q member => (each q member).1, ?_, ?_⟩
  · have covered : ∀ f ∈ row, f.path.parent ∈ packages := fun f member =>
      (all _).2 (isDirectoryFrom_parent files relative down listed member)
    refine (perm_flatMap_filter (fun f => f.path.parent) distinct covered).trans ?_
    exact List.Perm.flatMap_left packages fun q member => (each q member).2.symm
  · refine distinct.imp_of_mem fun {q q'} member member' differ f here there => differ ?_
    have own := (each q member).2.mem_iff.1 here
    have own' := (each q' member').2.mem_iff.1 there
    rw [List.mem_filter, decide_eq_true_eq] at own own'
    exact own.2.symm.trans own'.2

end Plain

end DiskFile

namespace FileAccess

open DiskFile

theorem list_of_rows {w : Workspace} (location : Location) {package : String} {kinds : List Kind}
    {recurse : Bool} {rows : List (List DiskFile)} (each : List.Forall₂ (fun root row =>
      listRoot w.disk (packagePath package) kinds recurse root = .ok row)
      (w.locations.get location) rows) :
    FileAccess.standard.list w location package kinds recurse = .ok (rows.flatten.map .disk) := by
  rw [FileAccess.list, list_eq_ok_iff.2 ⟨rows, each, rfl⟩]

theorem list_of_error {w : Workspace} {location : Location} {package : String} {kinds : List Kind}
    {recurse : Bool} {e : DiskError}
    (refused : DiskFile.list w.disk (w.locations.get location) package kinds recurse = .error e) :
    FileAccess.standard.list w location package kinds recurse = .error (.disk e) := by
  rw [FileAccess.list, refused]

end FileAccess

end PagePress
