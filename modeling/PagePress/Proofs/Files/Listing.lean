import PagePress.Proofs.Files.Tree
import PagePress.Proofs.Validation

/-!
What is listed for a package below a root. Below a directory these are the files that stand below the
directory of the package; in an archive, the members whose names go on behind the parts of the
package. So an archive of the files of a directory shows the same paths as the directory.
-/

set_option autoImplicit false

namespace PagePress

namespace Disk

variable {d : Disk}

theorem hasNull_append (front rest : List String) :
    hasNull (front ++ rest) = (hasNull front || hasNull rest) := List.any_append

theorem address_eq_ok_iff {p : Path} {spot : Address} :
    d.address p = .ok spot ↔ hasNull p.parts = false ∧ p.toString.utf8ByteSize ≤ pathLimit ∧
      d.walk (d.origin p.anchor) p.parts = .ok spot := by
  unfold address locate
  split
  · simp_all
  · split
    · rename_i long
      simp [Nat.not_le.2 long]
    · cases d.walk (d.origin p.anchor) p.parts with
      | error obstacle => simp [Except.mapError]
      | ok reached => simp_all [Except.mapError]

theorem lookup_eq_some_iff {p : Path} {node : Node} :
    d.lookup p = .ok (some node) ↔ ∃ spot, d.address p = .ok spot ∧ d.node? spot = some node := by
  unfold lookup
  cases d.address p with
  | ok spot => simp
  | error e => cases e <;> simp

theorem content?_of_found {p : Path} {content : Bytes}
    (found : d.lookup p = .ok (some (.file content))) : d.content? p = some content := by
  rw [content?, find?, found]
  rfl

theorem short_of_lookup {p : Path} (speakable : hasNull p.parts = false) {answer : Option Node}
    (asked : d.lookup p = .ok answer) : p.toString.utf8ByteSize ≤ pathLimit := by
  by_contra long
  have refused : d.address p = .error (.nameTooLong p.toString) := by
    rw [address, locate, if_neg (by simp [speakable]), if_pos (Nat.not_le.1 long)]
  simp [lookup, refused] at asked

/-- A way down from a directory that is found leads to the address that it names. -/
theorem address_join_of_found {root p : Path} {base spot : Address} (relative : p.anchor = .here)
    (down : ∀ part ∈ p.parts, GoesDown part) (rooted : d.address root = .ok base)
    (reached : d.address (root.join p) = .ok spot) : spot = base ++ p.parts := by
  obtain ⟨-, -, toRoot⟩ := address_eq_ok_iff.1 rooted
  obtain ⟨-, -, along⟩ := address_eq_ok_iff.1 reached
  rw [Path.join_of_relative root relative, walk_append, toRoot] at along
  exact eq_of_walk down along

/-- What stands on the disk is found by its way down from a directory, unless the path is too long
to be asked about. -/
theorem address_join_of_there (tree : d.IsTree) {root p : Path} {base : Address}
    (relative : p.anchor = .here) (rooted : d.address root = .ok base) {way : List String}
    {node : Node} (there : (base ++ p.parts ++ way, node) ∈ d.nodes) {answer : Option Node}
    (asked : d.lookup (root.join p) = .ok answer) :
    d.address (root.join p) = .ok (base ++ p.parts) := by
  obtain ⟨speakable, -, toRoot⟩ := address_eq_ok_iff.1 rooted
  have joined := Path.join_of_relative root relative
  have named : ∀ part ∈ p.parts, IsName part := fun part member =>
    tree.named _ there part (by simp [member])
  have silent : hasNull (root.join p).parts = false := by
    have quiet : hasNull p.parts = false := by
      rw [hasNull, List.any_eq_false]
      intro part member
      simpa using (named part member).speakable
    rw [joined, hasNull_append, speakable, quiet]
    rfl
  have walked : d.walk (d.origin (root.join p).anchor) (root.join p).parts =
      .ok (base ++ p.parts) := by
    rw [joined, walk_append, toRoot]
    refine walk_of_directories named fun front rest split below => ?_
    have behind : (base ++ front ++ (rest ++ way), node) ∈ d.nodes := by
      rw [split] at there
      simpa using there
    exact tree.directory behind (by simp [below])
  exact address_eq_ok_iff.2 ⟨silent, short_of_lookup silent asked, walked⟩

/-- A directory with something below it is found, unless its path is too long. -/
theorem lookup_join_of_below (tree : d.IsTree) {root p : Path} {base : Address}
    (relative : p.anchor = .here) (rooted : d.address root = .ok base) {way : List String}
    {node : Node} (there : (base ++ p.parts ++ way, node) ∈ d.nodes) (below : way ≠ [])
    {answer : Option Node} (asked : d.lookup (root.join p) = .ok answer) :
    answer = some .directory ∧ d.address (root.join p) = .ok (base ++ p.parts) := by
  have reached := address_join_of_there tree relative rooted there asked
  have directory : d.node? (base ++ p.parts) = some .directory := tree.directory there below
  have found := lookup_eq_some_iff.2 ⟨_, reached, directory⟩
  exact ⟨Except.ok.inj (asked.symm.trans found), reached⟩

theorem lookup_join_of_long {root : Path} {base : Address} (rooted : d.address root = .ok base)
    (directory : d.node? base = some .directory) {part : String} {rest : List String}
    (down : GoesDown part) (speakable : hasNull (part :: rest) = false)
    (long : nameLimit < part.utf8ByteSize) :
    ∃ path, d.lookup (root.join ⟨.here, part :: rest⟩) = .error (.nameTooLong path) := by
  obtain ⟨silent, -, toRoot⟩ := address_eq_ok_iff.1 rooted
  let p := root.join ⟨.here, part :: rest⟩
  have parts : p.parts = root.parts ++ part :: rest := rfl
  have quiet : hasNull p.parts = false := by
    rw [parts, hasNull_append, silent, speakable]
    rfl
  have walked : d.walk (d.origin p.anchor) p.parts = .error .nameTooLong := by
    change d.walk (d.origin root.anchor) (root.parts ++ part :: rest) = _
    rw [walk_append, toRoot, Except.bind, walk_cons_of_goesDown down directory, if_pos long]
  have refused : d.address p = .error (.nameTooLong p.toString) := by
    rw [address, locate, if_neg (by simp [quiet])]
    split
    · rfl
    · rw [walked]
      rfl
  exact ⟨p.toString, (lookup_eq_error_iff d p _).2 ⟨refused, rfl⟩⟩

private theorem eq_error_of_map {α β : Type} {f : α → β} {answer : Except DiskError α}
    {e : DiskError} (broken : answer.map f = .error e) : answer = .error e := by
  cases answer <;> cases broken
  rfl

private theorem ask_join {root way : Path} (relative : way.anchor = .here) :
    d.ask root (root.join way) = (d.lookup (root.join way)).map fun _ => () := by
  have below : (root.join way).relativeTo? root = some way :=
    Path.relativeTo?_eq_some_iff.2 ⟨relative, rfl⟩
  unfold ask
  cases d.lookup (root.join way) with
  | error e => rfl
  | ok answer => simp [below, bind, Except.bind, pure, Except.pure, Except.map]

theorem exists_of_ask {root p : Path} (fine : d.ask root p = .ok ()) :
    ∃ answer, d.lookup p = .ok answer := by
  unfold ask at fine
  cases asked : d.lookup p with
  | error e =>
    rw [asked] at fine
    cases fine
  | ok answer => exact ⟨answer, rfl⟩

theorem askAll_eq_ok_iff {root : Path} {paths : List Path} :
    d.askAll root paths = .ok () ↔ ∀ p ∈ paths, d.ask root p = .ok () := by
  induction paths with
  | nil => simp [askAll]
  | cons p rest ih =>
    rw [List.forall_mem_cons, ← ih, askAll]
    cases d.ask root p <;> simp [bind, Except.bind]

private theorem exists_of_askAll_error {root : Path} {paths : List Path} {e : DiskError}
    (broken : d.askAll root paths = .error e) : ∃ p ∈ paths, d.ask root p = .error e := by
  induction paths with
  | nil => cases broken
  | cons p rest ih =>
    rw [askAll] at broken
    cases asked : d.ask root p with
    | error e' =>
      rw [asked] at broken
      cases broken
      exact ⟨p, List.mem_cons_self, asked⟩
    | ok answer =>
      rw [asked] at broken
      obtain ⟨q, member, wrong⟩ := ih broken
      exact ⟨q, List.mem_cons_of_mem p member, wrong⟩

end Disk

namespace DiskFile

/-- A file of one of some kinds, by its path below a root. -/
def IsOf (kinds : List Kind) (root path : Path) (f : DiskFile) : Prop :=
  ∃ kind ∈ kinds, Kind.ofSuffix? path.suffix = some kind ∧ f = ⟨root, path, kind⟩

theorem fileAt?_eq_some_iff {root package : Path} {kinds : List Kind} {way : List String}
    {node : Node} {f : DiskFile} :
    fileAt? root package kinds way node = some f ↔ node.isFile = true ∧
      ∃ path, path.anchor = .here ∧ (root.join package).join ⟨.here, way⟩ = root.join path ∧
        IsOf kinds root path f := by
  unfold fileAt?
  constructor
  · intro shown
    obtain ⟨path, below, shown⟩ := Option.bind_eq_some_iff.1 shown
    obtain ⟨kind, told, shown⟩ := Option.bind_eq_some_iff.1 shown
    obtain ⟨relative, same⟩ := Path.relativeTo?_eq_some_iff.1 below
    split at shown
    · rename_i wanted
      simp only [Bool.and_eq_true, List.contains_iff_mem] at wanted
      cases shown
      exact ⟨wanted.2, path, relative, same, kind, wanted.1, told, rfl⟩
    · cases shown
  · rintro ⟨isFile, path, relative, same, kind, wanted, told, rfl⟩
    have below := Path.relativeTo?_eq_some_iff.2 ⟨relative, same⟩
    simp [below, told, wanted, isFile]

/-- The files that a listing shows of a directory are those of the package that lie below the
root. -/
theorem mem_listDirectory {d : Disk} {root package : Path} {kinds : List Kind} {recurse : Bool}
    {spot : Address} (reached : d.address (root.join package) = .ok spot) {f : DiskFile} :
    f ∈ listDirectory d root package kinds recurse ↔
      ∃ way node, (way, node) ∈ d.below spot recurse ∧ node.isFile = true ∧
        ∃ path, path.anchor = .here ∧ (root.join package).join ⟨.here, way⟩ = root.join path ∧
          IsOf kinds root path f := by
  simp only [listDirectory, entries, reached, List.mem_filterMap, List.mem_mergeSort, Prod.exists,
    fileAt?_eq_some_iff]

theorem mem_listDirectory_of_relative {d : Disk} {root package : Path} {kinds : List Kind}
    {recurse : Bool} (relative : package.anchor = .here) {spot : Address}
    (reached : d.address (root.join package) = .ok spot) {f : DiskFile} :
    f ∈ listDirectory d root package kinds recurse ↔
      ∃ way node, (way, node) ∈ d.below spot recurse ∧ node.isFile = true ∧
        IsOf kinds root ⟨.here, package.parts ++ way⟩ f := by
  rw [mem_listDirectory reached]
  refine exists_congr fun way => exists_congr fun node => ?_
  have joined := Path.join_join_of_relative root relative way
  constructor
  · rintro ⟨there, isFile, ⟨anchor, parts⟩, rfl, same, isOf⟩
    rw [joined, Path.join_of_relative root rfl, Path.join_of_relative root rfl] at same
    obtain rfl : package.parts ++ way = parts := List.append_cancel_left (congrArg Path.parts same)
    exact ⟨there, isFile, isOf⟩
  · rintro ⟨there, isFile, isOf⟩
    exact ⟨there, isFile, _, rfl, joined, isOf⟩

/-- A path that the listing of a package below a directory asks about: that of the package and, if a
directory is there, those of the directories below it that are gone through and of all that is named
like a file of the kinds. -/
inductive AsksAbout (d : Disk) (root package : Path) (kinds : List Kind) (recurse : Bool) :
    Path → Prop
  | package : AsksAbout d root package kinds recurse (root.join package)
  | directory {way : List String} {spot : Address}
      (found : d.address (root.join package) = .ok spot) (here : d.node? spot = some .directory)
      (deep : recurse = true) (there : (way, .directory) ∈ d.below spot recurse) :
      AsksAbout d root package kinds recurse ((root.join package).join ⟨.here, way⟩)
  | named {way : List String} {spot : Address} {node : Node} {kind : Kind}
      (found : d.address (root.join package) = .ok spot) (here : d.node? spot = some .directory)
      (there : (way, node) ∈ d.below spot recurse) (wanted : kind ∈ kinds)
      (told : Kind.ofSuffix? (⟨.here, way⟩ : Path).suffix = some kind) :
      AsksAbout d root package kinds recurse ((root.join package).join ⟨.here, way⟩)

theorem mem_askedBelow {d : Disk} {root package : Path} {kinds : List Kind} {recurse : Bool}
    {spot : Address} (reached : d.address (root.join package) = .ok spot) {p : Path} :
    p ∈ askedBelow d root package kinds recurse ↔
      ∃ way node, (way, node) ∈ d.below spot recurse ∧
        ((recurse = true ∧ node = .directory) ∨
          ∃ kind ∈ kinds, Kind.ofSuffix? (⟨.here, way⟩ : Path).suffix = some kind) ∧
        p = (root.join package).join ⟨.here, way⟩ := by
  have told (suffix : String) : (Kind.ofSuffix? suffix).any kinds.contains = true ↔
      ∃ kind ∈ kinds, Kind.ofSuffix? suffix = some kind := by
    cases Kind.ofSuffix? suffix <;> simp
  simp only [askedBelow, entries, reached, List.mem_map, List.mem_append, List.mem_filter,
    List.mem_mergeSort, Prod.exists, Prod.mk.injEq, Bool.and_eq_true, decide_eq_true_eq, told]
  have named {way : List String} {node : Node} (below : (way, node) ∈ d.below spot recurse) :
      ((root.join package).join ⟨.here, way⟩).suffix = (⟨.here, way⟩ : Path).suffix :=
    Path.suffix_join _ (Disk.mem_below.1 below).2.1
  constructor
  · rintro ⟨_, node, ⟨⟨way, _, below, rfl, rfl⟩, deep⟩ | ⟨⟨way, _, below, rfl, rfl⟩, wanted⟩, rfl⟩
    · exact ⟨way, _, below, .inl deep, rfl⟩
    · rw [named below] at wanted
      exact ⟨way, _, below, .inr wanted, rfl⟩
  · rintro ⟨way, node, below, deep | wanted, rfl⟩
    · exact ⟨_, node, .inl ⟨⟨way, node, below, rfl, rfl⟩, deep⟩, rfl⟩
    · rw [← named below] at wanted
      exact ⟨_, node, .inr ⟨⟨way, node, below, rfl, rfl⟩, wanted⟩, rfl⟩

private theorem ask_of_mem_askedBelow {d : Disk} {root package : Path} {kinds : List Kind}
    {recurse : Bool} (relative : package.anchor = .here) {p : Path}
    (member : p ∈ askedBelow d root package kinds recurse) :
    d.ask root p = (d.lookup p).map fun _ => () := by
  cases reached : d.address (root.join package) with
  | error e =>
    rw [askedBelow, reached] at member
    cases member
  | ok spot =>
    obtain ⟨way, -, -, -, rfl⟩ := (mem_askedBelow reached).1 member
    rw [Path.join_join_of_relative root relative, Disk.ask_join rfl]

private theorem asksAbout_iff {d : Disk} {root package : Path} {kinds : List Kind} {recurse : Bool}
    {p : Path} :
    AsksAbout d root package kinds recurse p ↔ p = root.join package ∨
      (d.lookup (root.join package) = .ok (some .directory) ∧
        p ∈ askedBelow d root package kinds recurse) := by
  constructor
  · intro asks
    cases asks with
    | package => exact .inl rfl
    | directory found here deep there =>
      exact .inr ⟨Disk.lookup_eq_some_iff.2 ⟨_, found, here⟩,
        (mem_askedBelow found).2 ⟨_, _, there, .inl ⟨deep, rfl⟩, rfl⟩⟩
    | named found here there wanted told =>
      exact .inr ⟨Disk.lookup_eq_some_iff.2 ⟨_, found, here⟩,
        (mem_askedBelow found).2 ⟨_, _, there, .inr ⟨_, wanted, told⟩, rfl⟩⟩
  · rintro (rfl | ⟨directory, member⟩)
    · exact .package
    · obtain ⟨spot, found, here⟩ := Disk.lookup_eq_some_iff.1 directory
      obtain ⟨way, node, there, ⟨deep, rfl⟩ | ⟨kind, wanted, told⟩, rfl⟩ :=
        (mem_askedBelow found).1 member
      · exact .directory found here deep there
      · exact .named found here there wanted told

theorem inPackage_iff {package member : Path} (same : package.anchor = member.anchor)
    (some : member.parts ≠ []) (recurse : Bool) :
    inPackage package member recurse = true ↔
      ∃ way, member.parts = package.parts ++ way ∧ way ≠ [] ∧
        (recurse = true ∨ way.length = 1) := by
  obtain ⟨anchor, front⟩ := package
  obtain ⟨_, parts⟩ := member
  obtain rfl : anchor = _ := same
  obtain ⟨init, last, rfl⟩ := (List.eq_nil_or_concat' parts).resolve_left some
  have upper : (⟨anchor, init ++ [last]⟩ : Path).parent = ⟨anchor, init⟩ := by simp [Path.parent]
  simp only [inPackage, upper, Path.isAbove, Bool.or_eq_true, Bool.and_eq_true, beq_iff_eq,
    Path.mk.injEq, true_and, decide_eq_true_eq, List.isPrefixOf_iff_prefix]
  constructor
  · rintro (rfl | ⟨deep, -, rest, rfl⟩)
    · exact ⟨[last], rfl, List.cons_ne_nil last [], .inr rfl⟩
    · exact ⟨rest ++ [last], by simp, by simp, .inl deep⟩
  · rintro ⟨way, split, filled, deep⟩
    -- The last name of the way is that of the member; what is before it leads to its directory.
    obtain ⟨rest, last', rfl⟩ := (List.eq_nil_or_concat' way).resolve_left filled
    rw [← List.append_assoc] at split
    obtain rfl : init = front ++ rest := (List.append_inj' split rfl).1
    by_cases direct : rest = []
    · exact .inl (by simp [direct])
    · have positive := List.length_pos_iff.2 direct
      have recursive : recurse = true := deep.resolve_right (by simp [direct])
      exact .inr ⟨recursive, by rw [List.length_append]; omega, rest, rfl⟩

theorem mem_listArchive {members : List (String × Bytes)} {root package : Path} {kinds : List Kind}
    {recurse : Bool} {f : DiskFile} :
    f ∈ listArchive members root package kinds recurse ↔
      ∃ name ∈ members.map (·.1), inPackage package (Path.ofString name) recurse = true ∧
        IsOf kinds root (Path.ofString name) f := by
  simp only [listArchive, List.mem_filterMap, List.mem_mergeSort]
  refine exists_congr fun name => and_congr_right fun _ => ?_
  unfold IsOf
  cases Kind.ofSuffix? (Path.ofString name).suffix with
  | none => simp
  | some kind =>
    by_cases wanted : kind ∈ kinds
    · cases inPackage package (Path.ofString name) recurse <;> simp [wanted, eq_comm]
    · simp [wanted]

/-- An archive holds the files of a directory, under their ways from there on. -/
structure IsPacked (d : Disk) (root other : Path) (base : Address) (packed : Archive) : Prop where
  rooted : d.address root = .ok base
  directory : d.node? base = some .directory
  archive : d.lookup other = .ok (some (.archive packed))
  same : ∀ name, name ∈ packed.members.map (·.1) ↔
    ∃ way node, (way, node) ∈ d.below base true ∧ node.isFile = true ∧ name = "/".intercalate way

section Root

variable {d : Disk} {kinds : List Kind} {recurse : Bool}

theorem listRoot_archive {package root : Path} {packed : Archive}
    (archive : d.lookup root = .ok (some (.archive packed))) :
    listRoot d package kinds recurse root =
      .ok (listArchive packed.members root package kinds recurse) := by
  simp only [listRoot, archive]
  rfl

theorem listRoot_directory {package root : Path} {base : Address}
    (rooted : d.address root = .ok base) (directory : d.node? base = some .directory) :
    listRoot d package kinds recurse root =
      (d.lookup (root.join package)).bind fun answer =>
        if answer = some .directory then
          (d.askAll root (askedBelow d root package kinds recurse)).map fun _ =>
            listDirectory d root package kinds recurse
        else .ok [] := by
  have found : d.lookup root = .ok (some .directory) :=
    Disk.lookup_eq_some_iff.2 ⟨base, rooted, directory⟩
  simp only [listRoot, found, bind, Except.bind]
  rcases d.lookup (root.join package) with error | (_ | _ | _ | _) <;> rfl

/-- A listing below a directory is that of the directory of the package, if there is one, and empty
if there is none; all that it asks about can be asked about. -/
theorem listRoot_directory_eq_ok_iff {package root : Path} {base : Address}
    (rooted : d.address root = .ok base) (directory : d.node? base = some .directory)
    {row : List DiskFile} :
    listRoot d package kinds recurse root = .ok row ↔
      (d.lookup (root.join package) = .ok (some .directory) ∧
        d.askAll root (askedBelow d root package kinds recurse) = .ok () ∧
        row = listDirectory d root package kinds recurse) ∨
      ∃ answer, d.lookup (root.join package) = .ok answer ∧ answer ≠ some .directory ∧
        row = [] := by
  rw [listRoot_directory rooted directory]
  cases d.lookup (root.join package) with
  | error e => simp [Except.bind]
  | ok answer =>
    by_cases found : answer = some .directory
    · cases d.askAll root (askedBelow d root package kinds recurse) <;>
        simp [Except.bind, Except.map, found, eq_comm]
    · simp [Except.bind, found, eq_comm]

/-- A listing below a directory gives an answer when all that it asks about can be asked about. -/
theorem exists_listRoot_directory_iff {package root : Path} {base : Address}
    (relative : package.anchor = .here) (rooted : d.address root = .ok base)
    (directory : d.node? base = some .directory) :
    (∃ row, listRoot d package kinds recurse root = .ok row) ↔
      ∀ p, AsksAbout d root package kinds recurse p → ∃ answer, d.lookup p = .ok answer := by
  simp only [listRoot_directory_eq_ok_iff rooted directory, Disk.askAll_eq_ok_iff, asksAbout_iff]
  constructor
  · rintro ⟨row, ⟨found, fine, -⟩ | ⟨answer, found, other, -⟩⟩ p (rfl | ⟨found', member⟩)
    · exact ⟨_, found⟩
    · exact Disk.exists_of_ask (fine p member)
    · exact ⟨answer, found⟩
    · exact absurd (Except.ok.inj (found.symm.trans found')) other
  · intro fine
    obtain ⟨answer, found⟩ := fine _ (.inl rfl)
    by_cases here : answer = some .directory
    · rw [here] at found
      refine ⟨_, .inl ⟨found, fun p member => ?_, rfl⟩⟩
      obtain ⟨answer, asked⟩ := fine p (.inr ⟨found, member⟩)
      rw [ask_of_mem_askedBelow relative member, asked]
      rfl
    · exact ⟨[], .inr ⟨answer, found, here, rfl⟩⟩

theorem exists_of_listRoot_directory_error {package root : Path} {base : Address}
    (relative : package.anchor = .here) (rooted : d.address root = .ok base)
    (directory : d.node? base = some .directory) {e : DiskError}
    (broken : listRoot d package kinds recurse root = .error e) :
    ∃ p, AsksAbout d root package kinds recurse p ∧ d.lookup p = .error e := by
  rw [listRoot_directory rooted directory] at broken
  cases asked : d.lookup (root.join package) with
  | error e' =>
    rw [asked] at broken
    cases broken
    exact ⟨_, .package, asked⟩
  | ok answer =>
    rw [asked] at broken
    change (if answer = some .directory then _ else _) = _ at broken
    split at broken
    · rename_i here
      cases below : d.askAll root (askedBelow d root package kinds recurse) with
      | ok done =>
        rw [below] at broken
        cases broken
      | error e' =>
        rw [below] at broken
        cases broken
        obtain ⟨p, member, wrong⟩ := Disk.exists_of_askAll_error below
        rw [ask_of_mem_askedBelow relative member] at wrong
        have wrong := Disk.eq_error_of_map wrong
        exact ⟨p, asksAbout_iff.2 (.inr ⟨by rw [asked, here], member⟩), wrong⟩
    · cases broken

/-- What is listed below a directory: the files below the directory of the package. -/
theorem mem_listRoot_directory (tree : d.IsTree) {package root : Path} {base : Address}
    (relative : package.anchor = .here) (down : ∀ part ∈ package.parts, Disk.GoesDown part)
    (rooted : d.address root = .ok base) (directory : d.node? base = some .directory)
    {files : List DiskFile} (listed : listRoot d package kinds recurse root = .ok files)
    {f : DiskFile} :
    f ∈ files ↔ ∃ way node, (base ++ package.parts ++ way, node) ∈ d.nodes ∧ way ≠ [] ∧
      (recurse = true ∨ way.length = 1) ∧ node.isFile = true ∧
      IsOf kinds root ⟨.here, package.parts ++ way⟩ f := by
  rcases (listRoot_directory_eq_ok_iff rooted directory).1 listed with
    ⟨found, -, rfl⟩ | ⟨answer, asked, other, rfl⟩
  · obtain ⟨spot, reached, -⟩ := Disk.lookup_eq_some_iff.1 found
    obtain rfl := Disk.address_join_of_found relative down rooted reached
    rw [mem_listDirectory_of_relative relative reached]
    simp only [Disk.mem_below, and_assoc]
  · -- Nothing stands below what is no directory.
    refine iff_of_false List.not_mem_nil ?_
    rintro ⟨way, node, there, some, -⟩
    exact other (Disk.lookup_join_of_below tree relative rooted there some asked).1

theorem mem_listRoot_packed (tree : d.IsTree) {package root other : Path} {base : Address}
    {archive : Archive} (relative : package.anchor = .here)
    (packed : IsPacked d root other base archive) {files : List DiskFile}
    (listed : listRoot d package kinds recurse other = .ok files) {f : DiskFile} :
    f ∈ files ↔ ∃ way node, (base ++ package.parts ++ way, node) ∈ d.nodes ∧ way ≠ [] ∧
      (recurse = true ∨ way.length = 1) ∧ node.isFile = true ∧
      IsOf kinds other ⟨.here, package.parts ++ way⟩ f := by
  rw [listRoot_archive packed.archive] at listed
  cases listed
  rw [mem_listArchive]
  have read {way : List String} {node : Node} (below : (way, node) ∈ d.below base true) :
      Path.ofString ("/".intercalate way) = ⟨.here, way⟩ ∧ way ≠ [] := by
    obtain ⟨there, some, -⟩ := Disk.mem_below.1 below
    refine ⟨Path.ofString_intercalate some fun part member => ?_, some⟩
    exact tree.named _ there part (List.mem_append_right base member)
  constructor
  · rintro ⟨name, member, inside, isOf⟩
    obtain ⟨way, node, below, isFile, rfl⟩ := (packed.same name).1 member
    obtain ⟨path, some⟩ := read below
    rw [path] at inside isOf
    obtain ⟨rest, split, filled, deep⟩ := (inPackage_iff relative some recurse).1 inside
    obtain rfl : way = package.parts ++ rest := split
    obtain ⟨there, -, -⟩ := Disk.mem_below.1 below
    exact ⟨rest, node, by rwa [List.append_assoc], filled, deep, isFile, isOf⟩
  · rintro ⟨way, node, there, filled, deep, isFile, isOf⟩
    have below : (package.parts ++ way, node) ∈ d.below base true :=
      Disk.mem_below.2 ⟨by rwa [← List.append_assoc], by simp [filled], .inl rfl⟩
    obtain ⟨path, some⟩ := read below
    refine ⟨"/".intercalate (package.parts ++ way), ?_, ?_, ?_⟩
    · exact (packed.same _).2 ⟨_, node, below, isFile, rfl⟩
    · rw [path]
      exact (inPackage_iff relative some recurse).2 ⟨way, rfl, filled, deep⟩
    · rwa [path]

end Root

section Roots

variable {d : Disk} {package : String} {kinds : List Kind} {recurse : Bool}

theorem list_nil : list d [] package kinds recurse = .ok [] := rfl

theorem list_cons (root : Path) (roots : List Path) :
    list d (root :: roots) package kinds recurse =
      (listRoot d (packagePath package) kinds recurse root).bind fun row =>
        (list d roots package kinds recurse).map (row ++ ·) := by
  simp only [list, List.mapM_cons]
  cases listRoot d (packagePath package) kinds recurse root with
  | error e => rfl
  | ok row => cases roots.mapM (listRoot d (packagePath package) kinds recurse) <;> rfl

theorem list_cons_eq_ok_iff {root : Path} {roots : List Path} {files : List DiskFile} :
    list d (root :: roots) package kinds recurse = .ok files ↔
      ∃ row more, listRoot d (packagePath package) kinds recurse root = .ok row ∧
        list d roots package kinds recurse = .ok more ∧ files = row ++ more := by
  rw [list_cons]
  cases listRoot d (packagePath package) kinds recurse root with
  | error e => simp [Except.bind]
  | ok row =>
    cases list d roots package kinds recurse <;> simp [Except.bind, Except.map, eq_comm]

theorem exists_list_iff {roots : List Path} :
    (∃ files, list d roots package kinds recurse = .ok files) ↔
      ∀ root ∈ roots, ∃ row, listRoot d (packagePath package) kinds recurse root = .ok row := by
  induction roots with
  | nil => simp [list_nil]
  | cons root roots ih =>
    rw [List.forall_mem_cons, ← ih]
    constructor
    · rintro ⟨files, listed⟩
      obtain ⟨row, more, first, others, -⟩ := list_cons_eq_ok_iff.1 listed
      exact ⟨⟨row, first⟩, more, others⟩
    · rintro ⟨⟨row, first⟩, more, others⟩
      exact ⟨row ++ more, list_cons_eq_ok_iff.2 ⟨row, more, first, others, rfl⟩⟩

theorem exists_of_list_error {roots : List Path} {e : DiskError}
    (refused : list d roots package kinds recurse = .error e) :
    ∃ root ∈ roots, listRoot d (packagePath package) kinds recurse root = .error e := by
  induction roots with
  | nil => cases refused
  | cons root roots ih =>
    rw [list_cons] at refused
    cases first : listRoot d (packagePath package) kinds recurse root with
    | error e' =>
      rw [first] at refused
      cases refused
      exact ⟨root, List.mem_cons_self, first⟩
    | ok row =>
      rw [first] at refused
      cases others : list d roots package kinds recurse with
      | error e' =>
        rw [others] at refused
        cases refused
        obtain ⟨bad, member, wrong⟩ := ih others
        exact ⟨bad, List.mem_cons_of_mem root member, wrong⟩
      | ok more =>
        rw [others] at refused
        cases refused

theorem mem_list {roots : List Path} {files : List DiskFile}
    (listed : list d roots package kinds recurse = .ok files) {f : DiskFile} :
    f ∈ files ↔ ∃ root ∈ roots, ∃ row,
      listRoot d (packagePath package) kinds recurse root = .ok row ∧ f ∈ row := by
  induction roots generalizing files with
  | nil =>
    cases listed
    simp
  | cons root roots ih =>
    obtain ⟨row, more, first, others, rfl⟩ := list_cons_eq_ok_iff.1 listed
    simp only [List.mem_append, List.mem_cons, exists_eq_or_imp, first, Except.ok.injEq,
      exists_eq_left', ih others]

end Roots

end DiskFile

end PagePress
