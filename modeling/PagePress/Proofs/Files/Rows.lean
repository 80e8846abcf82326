import Mathlib.Data.List.Lex
import Mathlib.Data.String.Basic
import PagePress.Files.Access
import PagePress.Proofs.Files.Listing

/-!
What a listing of a package enumerates, root by root. Below a directory it is one object for each
file of the kinds whose directory is that of the package or, with `recurse`, one below it, in the
order of the names on the way down; in an archive it is one object for each member with such a path,
in the order of the names of the members. So a recursive listing is made of the plain listings of
the package and of all directories below it.
-/

set_option autoImplicit false

namespace PagePress.DiskFile

/-- A path lies in a package: its directory is that of the package or, with `recurse`, one below. -/
structure InPackage (package path : Path) (recurse : Bool) : Prop where
  named : path.parts ≠ []
  anchored : path.anchor = package.anchor
  below : package.parts <+: path.parent.parts
  deep : recurse = true ∨ path.parent = package

/-- A path of a module of a package, of one of some kinds. -/
structure IsModule (package : Path) (kinds : List Kind) (recurse : Bool) (path : Path) : Prop where
  inside : InPackage package path recurse
  told : ∃ kind ∈ kinds, Kind.ofSuffix? path.suffix = some kind

instance (package path : Path) (recurse : Bool) : Decidable (InPackage package path recurse) :=
  decidable_of_iff (path.parts ≠ [] ∧ path.anchor = package.anchor ∧
    package.parts <+: path.parent.parts ∧ (recurse = true ∨ path.parent = package))
    ⟨fun ⟨a, b, c, d⟩ => ⟨a, b, c, d⟩, fun ⟨a, b, c, d⟩ => ⟨a, b, c, d⟩⟩

instance (package : Path) (kinds : List Kind) (recurse : Bool) (path : Path) :
    Decidable (IsModule package kinds recurse path) :=
  decidable_of_iff (InPackage package path recurse ∧
    ∃ kind ∈ kinds, Kind.ofSuffix? path.suffix = some kind)
    ⟨fun ⟨inside, told⟩ => ⟨inside, told⟩, fun ⟨inside, told⟩ => ⟨inside, told⟩⟩

/-- What a listing of a package shows of a root. -/
inductive IsRow (d : Disk) (package : Path) (kinds : List Kind) (recurse : Bool) (root : Path) :
    List DiskFile → Prop
  | directory {base : Address} {row : List DiskFile} (rooted : d.address root = .ok base)
      (here : d.node? base = some .directory)
      (exact : ∀ f, f ∈ row ↔ ∃ way node, (base ++ way, node) ∈ d.nodes ∧ node.isFile = true ∧
        InPackage package ⟨.here, way⟩ recurse ∧ IsOf kinds root ⟨.here, way⟩ f)
      (ordered : row.Pairwise fun f g => f.path.parts < g.path.parts) :
      IsRow d package kinds recurse root row
  | archive {packed : Archive} {names : List String} {row : List DiskFile}
      (found : d.lookup root = .ok (some (.archive packed)))
      (exact : names.Perm ((packed.members.map (·.1)).filter fun name =>
        IsModule package kinds recurse (Path.ofString name)))
      (ordered : names.Pairwise (· ≤ ·))
      (shown : List.Forall₂ (fun name f => IsOf kinds root (Path.ofString name) f) names row) :
      IsRow d package kinds recurse root row
  | other {node : Option Node} (found : d.lookup root = .ok node)
      (noDirectory : node ≠ some .directory) (noArchive : ∀ packed, node ≠ some (.archive packed)) :
      IsRow d package kinds recurse root []

section InPackage

variable {package path : Path} {recurse : Bool}

theorem inPackage_iff_way :
    InPackage package path recurse ↔ path.anchor = package.anchor ∧
      ∃ way, path.parts = package.parts ++ way ∧ way ≠ [] ∧
        (recurse = true ∨ way.length = 1) := by
  obtain ⟨anchor, parts⟩ := path
  constructor
  · rintro ⟨named, anchored, below, deep⟩
    obtain ⟨init, last, rfl⟩ := (List.eq_nil_or_concat' parts).resolve_left named
    have upper : (⟨anchor, init ++ [last]⟩ : Path).parent = ⟨anchor, init⟩ := by simp [Path.parent]
    rw [upper] at below deep
    obtain ⟨rest, split⟩ := below
    have split : init = package.parts ++ rest := split.symm
    refine ⟨anchored, rest ++ [last], by simp [split], by simp, deep.imp_right fun same => ?_⟩
    have direct : package.parts ++ rest = package.parts := by rw [← split, ← same]
    simp [List.append_right_eq_self.1 direct]
  · rintro ⟨anchored, way, split, filled, deep⟩
    obtain rfl : parts = package.parts ++ way := split
    obtain ⟨rest, last, rfl⟩ := (List.eq_nil_or_concat' way).resolve_left filled
    have upper : (⟨anchor, package.parts ++ (rest ++ [last])⟩ : Path).parent =
        ⟨anchor, package.parts ++ rest⟩ := by
      rw [← List.append_assoc]
      simp [Path.parent]
    refine ⟨by simp, anchored, ?_, ?_⟩
    · rw [upper]
      exact List.prefix_append package.parts rest
    · rw [upper]
      refine deep.imp_right fun single => ?_
      have direct : rest = [] := by simpa using single
      rw [direct, List.append_nil, show anchor = package.anchor from anchored]

private theorem inPackage_eq_true_iff (named : path.parts ≠ []) :
    inPackage package path recurse = true ↔ InPackage package path recurse := by
  by_cases same : package.anchor = path.anchor
  · rw [inPackage_iff same named, inPackage_iff_way]
    simp [same]
  · have apart : path.anchor ≠ package.anchor := fun equal => same equal.symm
    have parent : path.parent ≠ package := fun equal =>
      apart (show path.parent.anchor = package.anchor from congrArg Path.anchor equal)
    refine iff_of_false ?_ fun inside => apart inside.anchored
    have above : package.isAbove path.parent = false := by
      simp [Path.isAbove, Path.parent, same]
    simp [inPackage, parent, above]

theorem parts_ne_nil_of_told {kind : Kind} (told : Kind.ofSuffix? path.suffix = some kind) :
    path.parts ≠ [] := by
  intro none
  have bare : path.suffix = "" := by
    simp [Path.suffix, Path.name, none, Path.stemLength?]
  rw [bare] at told
  cases told

end InPackage

section Order

private theorem namesLe_iff {a b : List String} : namesLe a b = true ↔ a ≤ b := by
  rw [← not_lt]
  induction a generalizing b with
  | nil => cases b <;> simp [namesLe]
  | cons x a ih =>
    cases b with
    | nil => simp [namesLe]
    | cons y b =>
      rw [namesLe, List.cons_lt_cons_iff]
      by_cases same : x = y
      · simp [same, ih]
      · have order : x < y ↔ ¬y < x := by rw [not_lt, le_iff_lt_or_eq, or_iff_left same]
        simp [same, Ne.symm same, order, -String.lt_iff_ltb]

private theorem append_lt_append_iff (front : List String) {a b : List String} :
    front ++ a < front ++ b ↔ a < b := by
  induction front with
  | nil => rfl
  | cons x front ih => simp [ih]

private theorem prefix_of_reaches {base spot : Address} {recurse : Bool}
    (reached : Disk.reaches base spot recurse = true) : base <+: spot := by
  simp only [Disk.reaches, Bool.and_eq_true, List.isPrefixOf_iff_prefix] at reached
  exact reached.1.1

/-- On a disk that is kept in the order of the addresses nothing needs to be sorted. -/
theorem entries_of_pairwise {d : Disk} (sorted : d.nodes.Pairwise fun a b => namesLe a.1 b.1 = true)
    (spot : Address) (recurse : Bool) : entries d spot recurse = d.below spot recurse := by
  refine List.mergeSort_of_pairwise (List.pairwise_map.2 ?_)
  refine (sorted.filter _).imp_of_mem ?_
  rintro ⟨first, _⟩ ⟨second, _⟩ member member' le
  obtain ⟨rest, rfl⟩ := prefix_of_reaches (List.mem_filter.1 member).2
  obtain ⟨rest', rfl⟩ := prefix_of_reaches (List.mem_filter.1 member').2
  simp only [List.drop_left]
  rw [namesLe_iff, ← not_lt, append_lt_append_iff, not_lt] at le
  exact namesLe_iff.2 le

private theorem entries_pairwise {d : Disk} (distinct : (d.nodes.map (·.1)).Nodup) (spot : Address)
    (recurse : Bool) : (entries d spot recurse).Pairwise fun a b => a.1 < b.1 := by
  have sorted : (entries d spot recurse).Pairwise fun a b => namesLe a.1 b.1 = true := by
    refine List.pairwise_mergeSort ?_ ?_ _
    · intro a b c first second
      exact namesLe_iff.2 ((namesLe_iff.1 first).trans (namesLe_iff.1 second))
    · intro a b
      rw [Bool.or_eq_true, namesLe_iff, namesLe_iff]
      exact le_total a.1 b.1
  have apart : (entries d spot recurse).Pairwise fun a b => a.1 ≠ b.1 := by
    have nodup : (d.below spot recurse).Pairwise fun a b => a.1 ≠ b.1 := by
      have kept := (List.pairwise_map.1 distinct).filter fun entry =>
        Disk.reaches spot entry.1 recurse
      refine List.pairwise_map.2 (kept.imp_of_mem ?_)
      rintro ⟨first, _⟩ ⟨second, _⟩ member member' differ same
      obtain ⟨rest, rfl⟩ := prefix_of_reaches (List.mem_filter.1 member).2
      obtain ⟨rest', rfl⟩ := prefix_of_reaches (List.mem_filter.1 member').2
      simp only [List.drop_left] at same
      exact differ (congrArg (spot ++ ·) same)
    exact (List.Perm.pairwise_iff (fun differ => Ne.symm differ)
      (List.mergeSort_perm _ _)).2 nodup
  refine (sorted.and apart).imp ?_
  rintro a b ⟨le, ne⟩
  exact lt_of_le_of_ne (namesLe_iff.1 le) ne

private theorem listDirectory_pairwise {d : Disk} (distinct : (d.nodes.map (·.1)).Nodup)
    (root package : Path) (kinds : List Kind) (recurse : Bool) :
    (listDirectory d root package kinds recurse).Pairwise fun f g =>
      f.path.parts < g.path.parts := by
  unfold listDirectory
  split
  · exact List.Pairwise.nil
  · rename_i spot _
    refine (entries_pairwise distinct spot recurse).filterMap _ ?_
    rintro ⟨way, node⟩ ⟨way', node'⟩ before f shown g shown'
    obtain ⟨-, path, relative, same, _, -, -, rfl⟩ := fileAt?_eq_some_iff.1 shown
    obtain ⟨-, path', relative', same', _, -, -, rfl⟩ := fileAt?_eq_some_iff.1 shown'
    -- Both ways go on behind the package, and the paths of both go on behind the root.
    have parts : (root.join package).parts ++ way = root.parts ++ path.parts := by
      rw [Path.join_of_relative root relative] at same
      exact congrArg Path.parts same
    have parts' : (root.join package).parts ++ way' = root.parts ++ path'.parts := by
      rw [Path.join_of_relative root relative'] at same'
      exact congrArg Path.parts same'
    rw [← append_lt_append_iff root.parts, ← parts, ← parts', append_lt_append_iff]
    exact before

theorem sortedNames_pairwise (names : List String) :
    (names.mergeSort fun a b => decide (a ≤ b)).Pairwise (· ≤ ·) := by
  have sorted : (names.mergeSort fun a b => decide (a ≤ b)).Pairwise
      fun a b => decide (a ≤ b) = true := by
    refine List.pairwise_mergeSort ?_ ?_ names
    · intro a b c first second
      exact decide_eq_true ((of_decide_eq_true first).trans (of_decide_eq_true second))
    · intro a b
      simpa only [Bool.or_eq_true, decide_eq_true_eq] using le_total a b
  exact sorted.imp fun {a b} le => of_decide_eq_true le

end Order

section Rows

variable {d : Disk} {package root : Path} {kinds : List Kind} {recurse : Bool}

def asModule (root package : Path) (kinds : List Kind) (recurse : Bool) (path : Path) :
    Option DiskFile :=
  if IsModule package kinds recurse path then
    (Kind.ofSuffix? path.suffix).map fun kind => ⟨root, path, kind⟩
  else none

theorem asModule_eq_some_iff {path : Path} {f : DiskFile} :
    asModule root package kinds recurse path = some f ↔
      InPackage package path recurse ∧ IsOf kinds root path f := by
  unfold asModule
  constructor
  · intro shown
    split at shown
    · rename_i module
      obtain ⟨kind, wanted, told⟩ := module.told
      rw [told] at shown
      cases shown
      exact ⟨module.inside, kind, wanted, told, rfl⟩
    · cases shown
  · rintro ⟨inside, kind, wanted, told, rfl⟩
    rw [if_pos ⟨inside, kind, wanted, told⟩, told]
    rfl

theorem listArchive_eq (members : List (String × Bytes)) :
    listArchive members root package kinds recurse =
      ((members.map (·.1)).mergeSort fun a b => decide (a ≤ b)).filterMap fun name =>
        asModule root package kinds recurse (Path.ofString name) := by
  refine List.filterMap_congr fun name _ => ?_
  cases told : Kind.ofSuffix? (Path.ofString name).suffix with
  | none =>
    have foreign : ¬IsModule package kinds recurse (Path.ofString name) := by
      rintro ⟨-, kind, -, told'⟩
      rw [told] at told'
      cases told'
    simp [asModule, foreign, told]
  | some kind =>
    have inside : inPackage package (Path.ofString name) recurse = true ↔
        InPackage package (Path.ofString name) recurse :=
      inPackage_eq_true_iff (parts_ne_nil_of_told told)
    have module : IsModule package kinds recurse (Path.ofString name) ↔
        (kinds.contains kind && inPackage package (Path.ofString name) recurse) = true := by
      rw [Bool.and_eq_true, inside, List.contains_iff_mem]
      constructor
      · rintro ⟨there, kind', wanted, told'⟩
        obtain rfl : kind = kind' := Option.some.inj (told.symm.trans told')
        exact ⟨wanted, there⟩
      · rintro ⟨wanted, there⟩
        exact ⟨there, kind, wanted, told⟩
    simp only [asModule, told, module, Option.map_some]

private theorem forall₂_listArchive (root package : Path) (kinds : List Kind) (recurse : Bool)
    (members : List (String × Bytes)) :
    ∃ names : List String, names.Perm ((members.map (·.1)).filter fun name =>
        IsModule package kinds recurse (Path.ofString name)) ∧
      names.Pairwise (· ≤ ·) ∧
      List.Forall₂ (fun name f => IsOf kinds root (Path.ofString name) f) names
        (listArchive members root package kinds recurse) := by
  rw [listArchive_eq]
  generalize sorted_eq : ((members.map (·.1)).mergeSort fun a b => decide (a ≤ b)) = sorted
  have perm : sorted.Perm (members.map (·.1)) := sorted_eq ▸ List.mergeSort_perm _ _
  have ordered : sorted.Pairwise (· ≤ ·) := sorted_eq ▸ sortedNames_pairwise _
  refine ⟨sorted.filter fun name => IsModule package kinds recurse (Path.ofString name),
    perm.filter _, ordered.filter _, ?_⟩
  clear sorted_eq perm ordered
  induction sorted with
  | nil => exact .nil
  | cons name rest ih =>
    rw [List.filter_cons, List.filterMap_cons]
    by_cases module : IsModule package kinds recurse (Path.ofString name)
    · obtain ⟨kind, wanted, told⟩ := module.told
      have shown : asModule root package kinds recurse (Path.ofString name) =
          some ⟨root, Path.ofString name, kind⟩ :=
        asModule_eq_some_iff.2 ⟨module.inside, kind, wanted, told, rfl⟩
      rw [if_pos (decide_eq_true module), shown]
      exact .cons ⟨kind, wanted, told, rfl⟩ ih
    · have dropped : asModule root package kinds recurse (Path.ofString name) = none :=
        if_neg module
      rw [if_neg (by simp [module]), dropped]
      exact ih

section Below

variable (files : d.IsFileSystem) (relative : package.anchor = .here) {base : Address}
  (rooted : d.address root = .ok base) (directory : d.node? base = some .directory)
  {row : List DiskFile} (listed : listRoot d package kinds recurse root = .ok row)

include files relative rooted directory listed

theorem mem_row_directory (down : ∀ part ∈ package.parts, Disk.GoesDown part) {f : DiskFile} :
    f ∈ row ↔ ∃ way node, (base ++ way, node) ∈ d.nodes ∧ node.isFile = true ∧
      InPackage package ⟨.here, way⟩ recurse ∧ IsOf kinds root ⟨.here, way⟩ f := by
  rw [mem_listRoot_directory files.toIsTree relative down rooted directory listed]
  constructor
  · rintro ⟨way, node, there, filled, deep, isFile, isOf⟩
    rw [List.append_assoc] at there
    exact ⟨_, node, there, isFile,
      inPackage_iff_way.2 ⟨relative.symm, way, rfl, filled, deep⟩, isOf⟩
  · rintro ⟨_, node, there, isFile, inside, isOf⟩
    obtain ⟨-, way, rfl, filled, deep⟩ := inPackage_iff_way.1 inside
    rw [← List.append_assoc] at there
    exact ⟨way, node, there, filled, deep, isFile, isOf⟩

omit files relative in
private theorem row_pairwise (distinct : (d.nodes.map (·.1)).Nodup) :
    row.Pairwise fun f g => f.path.parts < g.path.parts := by
  rcases (listRoot_directory_eq_ok_iff rooted directory).1 listed with
    ⟨-, -, rfl⟩ | ⟨-, -, -, rfl⟩
  · exact listDirectory_pairwise distinct root package kinds recurse
  · exact List.Pairwise.nil

omit files relative in
theorem row_nodup (distinct : (d.nodes.map (·.1)).Nodup) : row.Nodup := by
  refine (row_pairwise rooted directory listed distinct).imp fun {f g} before same => ?_
  rw [same] at before
  exact lt_irrefl _ before

end Below

theorem listRoot_other {node : Option Node} (found : d.lookup root = .ok node)
    (noDirectory : node ≠ some .directory) (noArchive : ∀ packed, node ≠ some (.archive packed)) :
    listRoot d package kinds recurse root =
      if Disk.hasNull root.parts then .error .nullByte else .ok [] := by
  simp only [listRoot, found, bind, Except.bind]
  rcases node with _ | _ | _ | packed
  · rfl
  · exact absurd rfl noDirectory
  · rfl
  · exact absurd rfl (noArchive packed)

/-- What there is below a root, with what a listing of a package makes of it. What it makes of a
directory is said by `listRoot_directory`. -/
inductive Meets (d : Disk) (package : Path) (kinds : List Kind) (recurse : Bool) (root : Path) :
    Except DiskError (List DiskFile) → Prop
  | unaskable {e : DiskError} (wrong : d.lookup root = .error e) :
      Meets d package kinds recurse root (.error e)
  | directory {base : Address} {answer : Except DiskError (List DiskFile)}
      (rooted : d.address root = .ok base) (here : d.node? base = some .directory) :
      Meets d package kinds recurse root answer
  | archive {packed : Archive} (found : d.lookup root = .ok (some (.archive packed))) :
      Meets d package kinds recurse root (.ok (listArchive packed.members root package kinds recurse))
  | null (silent : Disk.hasNull root.parts = true) : Meets d package kinds recurse root (.error .nullByte)
  | other {node : Option Node} (found : d.lookup root = .ok node)
      (noDirectory : node ≠ some .directory)
      (noArchive : ∀ packed, node ≠ some (.archive packed)) :
      Meets d package kinds recurse root (.ok [])

theorem meets_listRoot (d : Disk) (package : Path) (kinds : List Kind) (recurse : Bool)
    (root : Path) : Meets d package kinds recurse root (listRoot d package kinds recurse root) := by
  cases found : d.lookup root with
  | error e =>
    have broken : listRoot d package kinds recurse root = .error e := by
      simp only [listRoot, found, bind, Except.bind]
    rw [broken]
    exact .unaskable found
  | ok node =>
    by_cases isDirectory : node = some .directory
    · rw [isDirectory] at found
      obtain ⟨base, rooted, here⟩ := Disk.lookup_eq_some_iff.1 found
      exact .directory rooted here
    · by_cases isArchive : ∃ packed, node = some (.archive packed)
      · obtain ⟨packed, rfl⟩ := isArchive
        rw [listRoot_archive found]
        exact .archive found
      · rw [listRoot_other found isDirectory (not_exists.1 isArchive)]
        split
        · rename_i silent
          exact .null silent
        · exact .other found isDirectory (not_exists.1 isArchive)

/-- What a listing shows of a root is what the root holds of the package. -/
theorem isRow_of_listRoot (files : d.IsFileSystem) (relative : package.anchor = .here)
    (down : ∀ part ∈ package.parts, Disk.GoesDown part) {row : List DiskFile}
    (listed : listRoot d package kinds recurse root = .ok row) :
    IsRow d package kinds recurse root row := by
  have meets := meets_listRoot d package kinds recurse root
  rw [listed] at meets
  cases meets with
  | directory rooted here =>
    exact .directory rooted here
      (fun f => mem_row_directory files relative rooted here listed down)
      (row_pairwise rooted here listed files.distinct)
  | @archive packed found =>
    obtain ⟨names, same, ordered, shown⟩ :=
      forall₂_listArchive root package kinds recurse packed.members
    exact .archive found same ordered shown
  | other found noDirectory noArchive => exact .other found noDirectory noArchive

theorem root_of_mem_listRoot {row : List DiskFile} {f : DiskFile}
    (listed : listRoot d package kinds recurse root = .ok row) (member : f ∈ row) :
    f.root = root := by
  have meets := meets_listRoot d package kinds recurse root
  rw [listed] at meets
  cases meets with
  | directory rooted here =>
    rcases (listRoot_directory_eq_ok_iff rooted here).1 listed with ⟨there, -, rfl⟩ | ⟨-, -, -, rfl⟩
    · obtain ⟨spot, reached, -⟩ := Disk.lookup_eq_some_iff.1 there
      obtain ⟨_, _, -, -, _, -, -, _, -, -, rfl⟩ := (mem_listDirectory reached).1 member
      rfl
    · cases member
  | archive found =>
    obtain ⟨name, -, -, kind, -, -, rfl⟩ := mem_listArchive.1 member
    rfl
  | other => cases member

/-- What of a root cannot be listed for a relative package: the root itself cannot be asked about, or
something below it that the listing asks about. -/
inductive Unlistable (d : Disk) (package : Path) (kinds : List Kind) (recurse : Bool)
    (root : Path) :
    DiskError → Prop
  | root {e : DiskError} (wrong : d.lookup root = .error e) : Unlistable d package kinds recurse root e
  | null (silent : Disk.hasNull root.parts = true) :
      Unlistable d package kinds recurse root .nullByte
  | below {p : Path} {e : DiskError} (here : d.lookup root = .ok (some .directory))
      (asks : AsksAbout d root package kinds recurse p) (wrong : d.lookup p = .error e) :
      Unlistable d package kinds recurse root e

theorem unlistable_of_listRoot_error (relative : package.anchor = .here) {e : DiskError}
    (broken : listRoot d package kinds recurse root = .error e) :
    Unlistable d package kinds recurse root e := by
  have meets := meets_listRoot d package kinds recurse root
  rw [broken] at meets
  cases meets with
  | unaskable wrong => exact .root wrong
  | directory rooted here =>
    obtain ⟨p, asks, wrong⟩ := exists_of_listRoot_directory_error relative rooted here broken
    exact .below (Disk.lookup_eq_some_iff.2 ⟨_, rooted, here⟩) asks wrong
  | null silent => exact .null silent

private theorem lookup_of_null (silent : Disk.hasNull root.parts = true) :
    d.lookup root = .ok none := by
  simp [Disk.lookup, Disk.address, Disk.locate, silent]

theorem exists_listRoot_iff (relative : package.anchor = .here) :
    (∃ row, listRoot d package kinds recurse root = .ok row) ↔
      ∀ e, ¬Unlistable d package kinds recurse root e := by
  constructor
  · rintro ⟨row, listed⟩ e broken
    cases broken with
    | root wrong => simp [listRoot, wrong, bind, Except.bind] at listed
    | null silent =>
      rw [listRoot_other (lookup_of_null silent) (by simp) (by simp), if_pos silent] at listed
      cases listed
    | below here asks wrong =>
      obtain ⟨base, rooted, directory⟩ := Disk.lookup_eq_some_iff.1 here
      obtain ⟨answer, asked⟩ :=
        (exists_listRoot_directory_iff relative rooted directory).1 ⟨row, listed⟩ _ asks
      rw [wrong] at asked
      cases asked
  · intro fine
    cases listed : listRoot d package kinds recurse root with
    | ok row => exact ⟨row, rfl⟩
    | error e => exact absurd (unlistable_of_listRoot_error relative listed) (fine e)

end Rows

section Table

variable {d : Disk} {package : String} {kinds : List Kind} {recurse : Bool}

theorem list_eq_ok_iff {roots : List Path} {files : List DiskFile} :
    list d roots package kinds recurse = .ok files ↔
      ∃ rows, List.Forall₂ (fun root row =>
          listRoot d (packagePath package) kinds recurse root = .ok row) roots rows ∧
        files = rows.flatten := by
  induction roots generalizing files with
  | nil => simp [list_nil, eq_comm]
  | cons root roots ih =>
    rw [list_cons_eq_ok_iff]
    constructor
    · rintro ⟨row, more, first, others, rfl⟩
      obtain ⟨rows, listed, rfl⟩ := ih.1 others
      exact ⟨row :: rows, .cons first listed, rfl⟩
    · rintro ⟨rows, listed, rfl⟩
      cases listed with
      | cons first others => exact ⟨_, _, first, ih.2 ⟨_, others, rfl⟩, rfl⟩

end Table

end PagePress.DiskFile
