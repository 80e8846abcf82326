import Mathlib.Data.List.Count
import PagePress.Proofs.Files.Landing
import PagePress.Proofs.Files.UnitPath
import PagePress.Proofs.ListedReading

/-!
The output of a unit to the disk. Main statement: what is written to the file of a unit is read back
and listed under its package, and the files of other units below the same root read as they did.
-/

set_option autoImplicit false

namespace PagePress

namespace DiskFile

def ofUnit (root : Path) (name : String) (kind : Kind) : DiskFile :=
  ⟨root, unitPath name kind, kind⟩

private theorem isMember_eq_false {d : Disk} {f : DiskFile} (outside : f.isMember d = .ok false) :
    d.lookup f.root = .ok none ∨ d.lookup f.root = .ok (some .directory) := by
  unfold isMember at outside
  cases found : d.lookup f.root with
  | error e =>
    rw [found] at outside
    cases outside
  | ok answer =>
    rw [found] at outside
    rcases answer with _ | _ | _ | _
    · exact .inl rfl
    · exact .inr rfl
    · cases outside
    · cases outside

section Written

variable {d d' : Disk} {f : DiskFile} {spot : Address} {content : Bytes}

/-- Once a file below a root was written the root is a directory from which the file is led to. -/
theorem exists_root_of_written (relative : f.path.anchor = .here)
    (outside : f.isMember d = .ok false) (deeper : f.path.parts ≠ [])
    (written : Disk.Written d d' f.target spot content) :
    ∃ base, d'.address f.root = .ok base ∧ d'.node? base = some .directory ∧
      d'.walk base f.path.parts = .ok spot := by
  obtain ⟨speakable, -, walked⟩ := Disk.address_eq_ok_iff.1 written.reached
  rw [target, Path.join_of_relative f.root relative] at speakable walked
  obtain ⟨base, toRoot, onward, here⟩ := Disk.walk_split walked (.inl deeper)
  have quiet : Disk.hasNull f.root.parts = false := by
    rw [Disk.hasNull_append, Bool.or_eq_false_iff] at speakable
    exact speakable.1
  have short : f.root.toString.utf8ByteSize ≤ Disk.pathLimit := by
    rcases isMember_eq_false outside with asked | asked
    · exact Disk.short_of_lookup quiet asked
    · exact Disk.short_of_lookup quiet asked
  exact ⟨base, Disk.address_eq_ok_iff.2 ⟨quiet, short, toRoot⟩, here, onward⟩

/-- What was written to a file is read back, as long as the root of the file is no file itself. -/
theorem read_of_written (outside : f.isMember d' = .ok false)
    (written : Disk.Written d d' f.target spot content) : f.read d' = .ok content := by
  have opened : d'.read f.target = .ok (.file content) :=
    Disk.read_eq_ok_iff.2 ⟨spot, written.reached, written.holds, rfl⟩
  rcases isMember_eq_false outside with found | found <;>
    · simp only [read, found, opened]
      rfl

end Written

/-- Where the file of a unit stands once it was written. -/
structure Placed (d d' : Disk) (root : Path) (name : String) (kind : Kind) (base : Address)
    (content : Bytes) : Prop where
  rooted : d'.address root = .ok base
  here : d'.node? base = some .directory
  led : d'.walk base (Name.parts name).dropLast = .ok (base ++ (Name.parts name).dropLast)
  package : d'.node? (base ++ (Name.parts name).dropLast) = some .directory
  written : Disk.Written d d' (ofUnit root name kind).target
    (base ++ (unitPath name kind).parts) content

section Placed

variable {d d' : Disk} {root : Path} {name : String} {kind : Kind} {content : Bytes}

private theorem exists_placed (proper : Name.IsUnit name) (modular : kind ≠ .other)
    (outside : (ofUnit root name kind).isMember d = .ok false) {spot : Address}
    (written : Disk.Written d d' (ofUnit root name kind).target spot content) :
    ∃ base, Placed d d' root name kind base content := by
  obtain ⟨init, last, split⟩ := Name.exists_parts name
  have path : unitPath name kind = ⟨.here, init ++ [last ++ kind.suffix]⟩ :=
    unitPath_of_parts split
  have down : ∀ part ∈ (unitPath name kind).parts, Disk.GoesDown part := fun part member =>
    goesDown_of_mem_unitPath proper modular member
  have deeper : (ofUnit root name kind).path.parts ≠ [] := by simp [ofUnit, path]
  obtain ⟨base, rooted, here, onward⟩ := exists_root_of_written rfl outside deeper written
  have spot_eq : spot = base ++ (unitPath name kind).parts := Disk.eq_of_walk down onward
  change d'.walk base (unitPath name kind).parts = _ at onward
  rw [path] at onward down
  obtain ⟨middle, above, -, directory⟩ := Disk.walk_split onward (.inl (List.cons_ne_nil _ []))
  obtain rfl := Disk.eq_of_walk (fun part member => down part (by simp [member])) above
  have package : (Name.parts name).dropLast = init := by rw [split, List.dropLast_concat]
  exact ⟨base, rooted, here, package ▸ above, package ▸ directory, spot_eq ▸ written⟩

variable {base : Address}

private theorem Placed.found (placed : Placed d d' root name kind base content) :
    d'.lookup root = .ok (some .directory) :=
  Disk.lookup_eq_some_iff.2 ⟨base, placed.rooted, placed.here⟩

private theorem Placed.read (placed : Placed d d' root name kind base content) :
    (ofUnit root name kind).read d' = .ok content :=
  read_directory (f := ofUnit root name kind) placed.rooted placed.here placed.written.reached
    placed.written.holds rfl

end Placed

section Listed

variable {d d' : Disk} {root : Path} {name : String} {kind : Kind} {content : Bytes}
  {base : Address} {kinds : List Kind} {recurse : Bool}

private theorem Placed.package_reached (placed : Placed d d' root name kind base content)
    {package : Path} (split : package = ⟨.here, (Name.parts name).dropLast⟩) {answer : Option Node}
    (asked : d'.lookup (root.join package) = .ok answer) :
    d'.address (root.join package) = .ok (base ++ package.parts) := by
  subst split
  obtain ⟨silent, -, toRoot⟩ := Disk.address_eq_ok_iff.1 placed.rooted
  obtain ⟨speakable, -⟩ := Disk.address_eq_ok_iff.1 placed.written.reached
  have parts : (ofUnit root name kind).target.parts =
      root.parts ++ (Name.parts name).dropLast ++ [_] := (List.append_assoc _ _ _).symm
  have quiet : Disk.hasNull (root.parts ++ (Name.parts name).dropLast) = false := by
    rw [parts, Disk.hasNull_append, Bool.or_eq_false_iff] at speakable
    exact speakable.1
  refine Disk.address_eq_ok_iff.2 ⟨quiet, Disk.short_of_lookup quiet asked, ?_⟩
  change d'.walk (d'.origin root.anchor) (root.parts ++ (Name.parts name).dropLast) = _
  rw [Disk.walk_append, toRoot]
  exact placed.led

private theorem Placed.count_row (placed : Placed d d' root name kind base content)
    (proper : Name.IsUnit name) (modular : kind ≠ .other) (distinct : (d.nodes.map (·.1)).Nodup)
    {row : List DiskFile}
    (listed : listRoot d' (packagePath (Name.packageOf name)) kinds recurse root = .ok row) :
    row.count (ofUnit root name kind) = if kind ∈ kinds then 1 else 0 := by
  obtain ⟨init, last, split⟩ := Name.exists_parts name
  have package : packagePath (Name.packageOf name) = ⟨.here, init⟩ := by
    rw [packagePath_packageOf proper, split, List.dropLast_concat]
  have path : unitPath name kind = ⟨.here, init ++ [last ++ kind.suffix]⟩ :=
    unitPath_of_parts split
  have directory := placed.package
  rw [split, List.dropLast_concat] at directory
  have stands := placed.written.holds
  rw [path] at stands
  rw [package] at listed
  -- The directory of the package can be asked about, since the listing gave an answer.
  obtain ⟨answer, asked⟩ := (exists_listRoot_directory_iff rfl placed.rooted placed.here).1
    ⟨row, listed⟩ _ .package
  have reached : d'.address (root.join ⟨.here, init⟩) = .ok (base ++ init) :=
    placed.package_reached (by rw [split, List.dropLast_concat]) asked
  have found := Disk.lookup_eq_some_iff.2 ⟨_, reached, directory⟩
  have shown : row = listDirectory d' root ⟨.here, init⟩ kinds recurse := by
    rcases (listRoot_directory_eq_ok_iff placed.rooted placed.here).1 listed with
      ⟨-, -, same⟩ | ⟨other, asked', apart, -⟩
    · exact same
    · exact absurd (Except.ok.inj (asked'.symm.trans found)) apart
  have once : row.Nodup :=
    row_nodup placed.rooted placed.here listed (placed.written.distinct distinct)
  split_ifs with wanted
  · refine List.count_eq_one_of_mem once ?_
    rw [shown, mem_listDirectory_of_relative rfl reached]
    refine ⟨[last ++ kind.suffix], .file content, ?_, rfl, kind, wanted, ?_, ?_⟩
    · refine Disk.mem_below.2 ⟨?_, List.cons_ne_nil _ [], .inr rfl⟩
      rw [List.append_assoc]
      exact Disk.mem_of_node? (by simp) stands
    · rw [← path, suffix_unitPath modular proper.filled]
      exact Kind.ofSuffix?_suffix modular
    · rw [ofUnit, path]
  · refine List.count_eq_zero.2 fun member => wanted ?_
    rw [shown, mem_listDirectory_of_relative rfl reached] at member
    obtain ⟨way, node, -, -, kind', wanted', -, same⟩ := member
    rw [show kind = kind' from congrArg DiskFile.kind same]
    exact wanted'

/-- At a location the file of a unit is listed once for each time that the location holds its
root. -/
private theorem Placed.count_list (placed : Placed d d' root name kind base content)
    (proper : Name.IsUnit name) (modular : kind ≠ .other) (distinct : (d.nodes.map (·.1)).Nodup)
    {roots : List Path} {files : List DiskFile}
    (listed : DiskFile.list d' roots (Name.packageOf name) kinds recurse = .ok files) :
    files.count (ofUnit root name kind) = if kind ∈ kinds then roots.count root else 0 := by
  obtain ⟨rows, each, rfl⟩ := list_eq_ok_iff.1 listed
  clear listed
  induction each with
  | nil => simp
  | @cons root' row roots rows first _ ih =>
    rw [List.flatten_cons, List.count_append, ih]
    by_cases same : root' = root
    · subst same
      rw [placed.count_row proper modular distinct first, List.count_cons_self]
      split_ifs
      · omega
      · rfl
    · have none : row.count (ofUnit root name kind) = 0 :=
        List.count_eq_zero.2 fun member => same (root_of_mem_listRoot first member).symm
      rw [none, List.count_cons_of_ne same, Nat.zero_add]

end Listed

section Others

variable {d d' : Disk} {root : Path} {name name' : String} {kind kind' : Kind} {content : Bytes}
  {base : Address}

private theorem read_of_outside
    (asked : d.lookup root = .ok none ∨ d.lookup root = .ok (some .directory)) :
    (ofUnit root name kind).read d =
      ((d.read (ofUnit root name kind).target).map Node.content).mapError .disk := by
  have found : d.lookup (ofUnit root name kind).root = .ok none ∨
      d.lookup (ofUnit root name kind).root = .ok (some .directory) := asked
  rcases found with found | found <;>
    · simp only [read, found]
      rfl

private theorem read_error_of_outside
    (asked : d.lookup root = .ok none ∨ d.lookup root = .ok (some .directory)) {e : DiskError}
    (fails : d.read (ofUnit root name kind).target = .error e) :
    (ofUnit root name kind).read d = .error (.disk e) := by
  rw [read_of_outside asked, fails]
  rfl

variable (placed : Placed d d' root name kind base content) (proper : Name.IsUnit name)
  (proper' : Name.IsUnit name') (modular : kind ≠ .other) (modular' : kind' ≠ .other)
  (differ : (name', kind') ≠ (name, kind))

include proper proper' modular modular' differ

omit proper in
private theorem parts_ne (proper : Name.IsUnit name) :
    (unitPath name' kind').parts ≠ (unitPath name kind).parts := by
  intro same
  have path : unitPath name' kind' = unitPath name kind := congrArg (Path.mk .here) same
  obtain ⟨rfl, rfl⟩ := unitPath_inj proper' proper modular' modular path
  exact differ rfl

omit proper proper' modular' differ in
private theorem parts_ne_append {more : List String} (filled : more ≠ []) :
    (unitPath name' kind').parts ≠ (unitPath name kind).parts ++ more := by
  intro same
  obtain ⟨init, last, split⟩ := Name.exists_parts name
  obtain ⟨init', last', split'⟩ := Name.exists_parts name'
  obtain ⟨front, final, rfl⟩ := (List.eq_nil_or_concat' more).resolve_left filled
  rw [unitPath_of_parts split, unitPath_of_parts split', ← List.append_assoc] at same
  have above : init' = init ++ [last ++ kind.suffix] ++ front := (List.append_inj' same rfl).1
  have member : last ++ kind.suffix ∈ Name.parts name' := by simp [split', above]
  exact Name.pointless_of_mem_parts member (point_mem_of_parts modular last)

omit proper proper' modular differ in
private theorem dropLast_ne_append (more : List String) :
    (Name.parts name).dropLast ≠ (unitPath name' kind').parts ++ more := by
  intro same
  obtain ⟨init', last', split'⟩ := Name.exists_parts name'
  rw [unitPath_of_parts split'] at same
  have member : last' ++ kind'.suffix ∈ Name.parts name :=
    List.mem_of_mem_dropLast (by simp [same])
  exact Name.pointless_of_mem_parts member (point_mem_of_parts modular' last')

include placed

private theorem Placed.read_kept
    (asked : d.lookup root = .ok none ∨ d.lookup root = .ok (some .directory)) {bytes : Bytes}
    (reads : (ofUnit root name' kind').read d = .ok bytes) :
    (ofUnit root name' kind').read d' = .ok bytes := by
  rw [read_of_outside asked] at reads
  rw [read_of_outside (.inr placed.found)]
  cases old : d.read (ofUnit root name' kind').target with
  | error e =>
    rw [old] at reads
    cases reads
  | ok node =>
    obtain ⟨spot, reached, there, isFile⟩ := Disk.read_eq_ok_iff.1 old
    have reached' := Disk.address_mono (fun _ => placed.written.kept) placed.written.start reached
    have spot_eq : spot = base ++ (unitPath name' kind').parts := by
      obtain ⟨-, -, walked⟩ := Disk.address_eq_ok_iff.1 reached'
      obtain ⟨-, -, toRoot⟩ := Disk.address_eq_ok_iff.1 placed.rooted
      change d'.walk (d'.origin root.anchor) (root.parts ++ (unitPath name' kind').parts) = _ at walked
      rw [Disk.walk_append, toRoot] at walked
      exact Disk.eq_of_walk (fun _ => goesDown_of_mem_unitPath proper' modular') walked
    have apart : spot ≠ base ++ (unitPath name kind).parts := by
      rw [spot_eq]
      intro same
      exact parts_ne proper' modular modular' differ proper (List.append_cancel_left same)
    have there' : d'.node? spot = some node := by
      rcases placed.written.node spot apart with same | ⟨absent, -⟩
      · rw [same, there]
      · rw [absent] at there
        cases there
    rw [Disk.read_eq_ok_iff.2 ⟨spot, reached', there', isFile⟩, ← reads, old]

section RisesInside

variable {front rest : List String} {middle : Address} (split : root.parts = front ++ rest)
  (toMiddle : d.walk (d.origin root.anchor) front = .ok middle) (down : ∀ part ∈ rest, Disk.GoesDown part)

include split toMiddle

omit proper proper' modular modular' differ in
/-- The directory that the root goes up from is led to as before, and the root lies below it. -/
private theorem Placed.base_below (down : ∀ part ∈ rest, Disk.GoesDown part) :
    d'.walk (d'.origin root.anchor) front = .ok middle ∧ base = middle ++ rest := by
  have toMiddle' : d'.walk (d'.origin root.anchor) front = .ok middle := by
    rw [Disk.origin_congr placed.written.start]
    exact Disk.walk_mono (fun _ => placed.written.kept) toMiddle
  obtain ⟨-, -, toRoot⟩ := Disk.address_eq_ok_iff.1 placed.rooted
  rw [split, Disk.walk_append, toMiddle'] at toRoot
  exact ⟨toMiddle', Disk.eq_of_walk down toRoot⟩

include down

private theorem Placed.node_same (here : d.node? middle = some .directory) :
    d'.node? (base ++ (unitPath name' kind').parts) =
      d.node? (base ++ (unitPath name' kind').parts) := by
  obtain ⟨toMiddle', base_eq⟩ := placed.base_below split toMiddle down
  have apart : base ++ (unitPath name' kind').parts ≠ base ++ (unitPath name kind).parts := by
    intro same
    exact parts_ne proper' modular modular' differ proper (List.append_cancel_left same)
  refine (placed.written.node _ apart).resolve_right ?_
  rintro ⟨absent, -, upper, lower, passes, led⟩
  change d'.walk (d'.origin root.anchor) upper = _ at led
  have package : (ofUnit root name kind).target.parent.parts =
      front ++ (rest ++ (Name.parts name).dropLast) := by
    change (root.parts ++ ((Name.parts name).dropLast ++ [_])).dropLast = _
    rw [← List.append_assoc, List.dropLast_concat, split, List.append_assoc]
  rw [package] at passes
  rcases List.append_eq_append_iff.1 passes with ⟨more, rfl, tails⟩ | ⟨more, rfl, -⟩
  · -- Behind the part that is there, the new directories are above the file.
    rw [Disk.walk_append, toMiddle'] at led
    have downwards : ∀ part ∈ more, Disk.GoesDown part := by
      intro part member
      have inside : part ∈ rest ++ (Name.parts name).dropLast := by simp [tails, member]
      rcases List.mem_append.1 inside with early | late
      · exact down part early
      · have path : (unitPath name kind).parts = (Name.parts name).dropLast ++ [_] := rfl
        exact goesDown_of_mem_unitPath proper modular (by rw [path]; simp [late])
    have reached := Disk.eq_of_walk downwards led
    rw [base_eq, List.append_assoc] at reached
    rw [← List.append_cancel_left reached, List.append_assoc] at tails
    exact dropLast_ne_append modular' lower (List.append_cancel_left tails)
  · -- What leads to it was a directory before.
    obtain ⟨middle', led', -, directory⟩ := Disk.walk_split toMiddle (.inr here)
    have again := Disk.walk_mono (fun _ => placed.written.kept) led'
    rw [Disk.origin_congr placed.written.start, again] at led
    rw [← Except.ok.inj led, directory] at absent
    cases absent

omit proper proper' modular' differ in
private theorem Placed.node_on_way {above below : List String}
    (passes : rest ++ (unitPath name' kind').parts = above ++ below) (filled : below ≠ []) :
    d'.node? (middle ++ above) = d.node? (middle ++ above) ∨
      (d.node? (middle ++ above) = none ∧ d'.node? (middle ++ above) = some .directory) := by
  obtain ⟨-, base_eq⟩ := placed.base_below split toMiddle down
  have apart : middle ++ above ≠ base ++ (unitPath name kind).parts := by
    rw [base_eq, List.append_assoc]
    intro same
    rw [List.append_cancel_left same, List.append_assoc] at passes
    exact parts_ne_append modular filled (List.append_cancel_left passes)
  refine (placed.written.node _ apart).imp_right ?_
  rintro ⟨absent, made, -⟩
  exact ⟨absent, made⟩

end RisesInside

/-- Where the root rises inside, another unit reads as before, unless its path holds a name that is
too long; then it reads neither before nor afterwards. -/
private theorem Placed.read_same (tree : d.IsTree)
    (asked : d.lookup root = .ok none ∨ d.lookup root = .ok (some .directory))
    (inside : d.RisesInside root) :
    (ofUnit root name' kind').read d' = (ofUnit root name' kind').read d ∨
      ((∃ failure, (ofUnit root name' kind').read d = .error failure) ∧
        (∃ failure, (ofUnit root name' kind').read d' = .error failure) ∧
        ∃ part ∈ (unitPath name' kind').parts, Disk.nameLimit < part.utf8ByteSize) := by
  obtain ⟨front, rest, middle, split, toMiddle, here, down⟩ := inside
  obtain ⟨toMiddle', base_eq⟩ := placed.base_below split toMiddle down
  let target := (ofUnit root name' kind').target
  let way := rest ++ (unitPath name' kind').parts
  have parts : target.parts = front ++ way := by
    change root.parts ++ (unitPath name' kind').parts = _
    rw [split, List.append_assoc]
  have onward : ∀ part ∈ way, Disk.GoesDown part := by
    intro part member
    exact (List.mem_append.1 member).elim (down part) (goesDown_of_mem_unitPath proper' modular')
  have last : d'.node? (middle ++ way) = d.node? (middle ++ way) := by
    have same := placed.node_same proper proper' modular modular' differ split toMiddle down here
    rwa [base_eq, List.append_assoc] at same
  have old : d.landed (d.origin target.anchor) target.parts = d.landed middle way := by
    rw [parts]
    exact Disk.landed_append toMiddle
  have new : d'.landed (d'.origin target.anchor) target.parts = d'.landed middle way := by
    rw [parts]
    exact Disk.landed_append toMiddle'
  have landed := Disk.landed_grown tree onward
    (fun above below => placed.node_on_way modular split toMiddle down) last
  rcases landed with same | ⟨nothing, long, part, member, size⟩
  · left
    rw [read_of_outside asked, read_of_outside (.inr placed.found), Disk.read_eq, Disk.read_eq d,
      new, old, same]
  · right
    obtain ⟨_, before⟩ : ∃ e, d.read target = .error e :=
      Disk.exists_read_error (by simp [old, nothing])
    obtain ⟨_, after⟩ : ∃ e, d'.read target = .error e :=
      Disk.exists_read_error (by simp [new, long])
    refine ⟨⟨_, read_error_of_outside asked before⟩,
      ⟨_, read_error_of_outside (.inr placed.found) after⟩, part, ?_, size⟩
    refine (List.mem_append.1 member).resolve_left fun early => ?_
    obtain ⟨-, -, toRoot⟩ := Disk.address_eq_ok_iff.1 placed.rooted
    rw [split, Disk.walk_append, toMiddle'] at toRoot
    exact absurd (Disk.short_of_walk down toRoot part early) (Nat.not_le.2 size)

end Others

end DiskFile

namespace FileAccess

open DiskFile

private theorem output_standard {w : Workspace} {location : Location} {name : String} {kind : Kind}
    {object : FileObject} (proper : Name.IsUnit name)
    (resolved : (FileAccess.standard.output w location name kind).1 = .ok object) :
    ∃ root, root ∈ w.locations.get location ∧ object = .disk (ofUnit root name kind) := by
  unfold FileAccess.output at resolved
  split at resolved
  · cases resolved
  · rename_i root roots held
    rw [forOutput_eq proper] at resolved
    cases resolved
    exact ⟨root, by simp [held], rfl⟩

/-- A location is listed unless something of its roots cannot be, and an answer holds the file of a
unit once for each time that the location holds its root. -/
private theorem count_of_placed {d : Disk} {v : Workspace} {root : Path} {name : String}
    {kind : Kind} {base : Address} {content : Bytes}
    (placed : Placed d v.disk root name kind base content) (proper : Name.IsUnit name)
    (modular : kind ≠ .other) (distinct : (d.nodes.map (·.1)).Nodup) (place : Location)
    (kinds : List Kind) (recurse : Bool) :
    let answer := FileAccess.standard.list v place (Name.packageOf name) kinds recurse
    ((∀ root ∈ v.locations.get place, ∀ e,
        ¬Unlistable v.disk (packagePath (Name.packageOf name)) kinds recurse root e) →
      ∃ objects, answer = .ok objects) ∧
    ∀ objects, answer = .ok objects → objects.count (.disk (ofUnit root name kind)) =
      if kind ∈ kinds then (v.locations.get place).count root else 0 := by
  intro answer
  cases listed : DiskFile.list v.disk (v.locations.get place) (Name.packageOf name) kinds
      recurse with
  | error e =>
    have refused : answer = .error (.disk e) := list_of_error listed
    rw [refused]
    refine ⟨fun fine => ?_, by simp⟩
    obtain ⟨root', member, broken⟩ := exists_of_list_error listed
    have relative : (packagePath (Name.packageOf name)).anchor = .here := by
      rw [packagePath_packageOf proper]
    exact absurd (unlistable_of_listRoot_error relative broken) (fine root' member e)
  | ok all =>
    have given : answer = .ok (all.map .disk) := by
      simp only [answer, FileAccess.list]
      rw [listed]
    rw [given]
    refine ⟨fun _ => ⟨_, rfl⟩, ?_⟩
    rintro _ ⟨⟩
    rw [List.count_map_of_injective _ _ (fun f g same => FileObject.disk.inj same)]
    exact placed.count_list proper modular distinct listed

/-- The output for a unit that is written to the disk has the name of the unit, is read back, and is
listed once under its package for each time that a location holds its root, when its kind is asked
for. Another unit below the same root that could be read reads as before; if the root goes up only
from directories that were there, one that could not be read cannot be read afterwards either, and
fails in the same way unless its path holds a name that is too long. -/
theorem output_is_read_back {w v : Workspace} (files : w.disk.IsFileSystem) {name : String}
    (proper : Name.IsUnit name) {kind : Kind} (modular : kind ≠ .other) {location : Location}
    {object result : FileObject} {chunks : List Bytes}
    (resolved : (FileAccess.standard.output w location name kind).1 = .ok object)
    (wrote : (Activity.writeArtifact object (chunks.map some)).run .standard w =
      (.ok result, v)) :
    ∃ f : DiskFile, object = .disk f ∧ result = object ∧
      FileAccess.standard.binaryName v object = some name ∧
      FileAccess.standard.read v object = .ok chunks.flatten ∧
      (∀ place kinds recurse,
        let roots := w.locations.get place
        let answer := FileAccess.standard.list v place (Name.packageOf name) kinds recurse
        ((∀ root ∈ roots, ∀ e,
            ¬Unlistable v.disk (packagePath (Name.packageOf name)) kinds recurse root e) →
          ∃ objects, answer = .ok objects) ∧
        ∀ objects, answer = .ok objects →
          objects.count object = if kind ∈ kinds then roots.count f.root else 0) ∧
      ∀ place name' kind' other, Name.IsUnit name' → kind' ≠ .other →
        (name', kind') ≠ (name, kind) →
        (FileAccess.standard.output w place name' kind').1 = .ok (.disk other) →
        other.root = f.root →
        let before := FileAccess.standard.read w (.disk other)
        let after := FileAccess.standard.read v (.disk other)
        (∀ bytes, before = .ok bytes → after = .ok bytes) ∧
        (w.disk.RisesInside f.root → after = before ∨
          ((∃ failure, before = .error failure) ∧ (∃ failure, after = .error failure) ∧
            ∃ part ∈ other.path.parts, Disk.nameLimit < part.utf8ByteSize)) := by
  obtain ⟨root, -, rfl⟩ := output_standard proper resolved
  obtain ⟨rfl, outside, same, spot, written⟩ := Activity.run_writeArtifact_disk wrote
  obtain ⟨base, placed⟩ := exists_placed proper modular outside written
  have asked : w.disk.lookup root = .ok none ∨ w.disk.lookup root = .ok (some .directory) :=
    isMember_eq_false outside
  have locations (place : Location) : v.locations.get place = w.locations.get place := by
    rw [same]
  refine ⟨ofUnit root name kind, rfl, rfl, ?_, placed.read, ?_, ?_⟩
  · exact congrArg some (binaryName_unitPath proper modular root kind)
  · intro place kinds recurse
    rw [← locations place]
    exact count_of_placed placed proper modular files.distinct place kinds recurse
  · rintro place name' kind' other proper' modular' differ resolved' below before after
    obtain ⟨root', -, same'⟩ := output_standard proper' resolved'
    cases same'
    obtain rfl : root' = root := below
    exact ⟨fun bytes reads => placed.read_kept proper proper' modular modular' differ asked reads,
      fun inside => placed.read_same proper proper' modular modular' differ files.toIsTree asked
        inside⟩

/-- A source is written in two pieces into a package that is missing, below a root told from the top;
a source beside it stays. -/
theorem output_in_missing_package_is_read :
    let disk : Disk := ⟨[(["home"], .directory), (["lib"], .directory),
      (["lib", "old.py"], .file [79])], ["home"]⟩
    let w : Workspace := { Workspace.start disk (.empty ⟨0, []⟩) with
      locations := LocationTable.empty.set .classOutput [.ofString "/lib"] }
    let object := FileObject.disk (ofUnit (.ofString "/lib") "app.core" .source)
    let old := FileObject.disk (ofUnit (.ofString "/lib") "old" .source)
    disk.IsFileSystem ∧ Name.IsUnit "app.core" ∧ disk.RisesInside (.ofString "/lib") ∧
      ∃ v, (Activity.writeArtifact object ([[1], [2]].map some)).run .standard w =
          (.ok object, v) ∧
        FileAccess.standard.binaryName v object = some "app.core" ∧
        FileAccess.standard.read v object = .ok [1, 2] ∧
        (∀ objects, FileAccess.standard.list v .classOutput "app" [.source] false = .ok objects →
          objects.count object = 1) ∧
        FileAccess.standard.read v old = .ok [79] := by
  intro disk w object old
  have files : disk.IsFileSystem := by decide +kernel
  have proper : Name.IsUnit "app.core" := by decide +kernel
  have rises : disk.RisesInside (.ofString "/lib") := by
    have parts : (Path.ofString "/lib").parts = [] ++ ["lib"] := by decide +kernel
    have down : ∀ part ∈ ["lib"], Disk.GoesDown part := by simp [Disk.GoesDown]
    exact ⟨[], ["lib"], [], parts, rfl, rfl, down⟩
  have goes {run : Except Failure FileObject × Workspace} (first : run.1 = .ok object) :
      ∃ v, run = (.ok object, v) := ⟨run.2, Prod.ext first rfl⟩
  have first : ((Activity.writeArtifact object ([[1], [2]].map some)).run .standard w).1 =
      .ok object := by decide +kernel
  obtain ⟨v, wrote⟩ := goes first
  have resolved : (FileAccess.standard.output w .classOutput "app.core" .source).1 = .ok object := by
    decide +kernel
  obtain ⟨f, same, -, named, reads, listed, others⟩ :=
    output_is_read_back (w := w) files proper (by decide) resolved wrote
  obtain rfl : ofUnit (.ofString "/lib") "app.core" .source = f := FileObject.disk.inj same
  refine ⟨files, proper, rises, v, wrote, named, reads, fun objects answer => ?_, ?_⟩
  · have package : Name.packageOf "app.core" = "app" := by decide +kernel
    rw [(listed .classOutput [.source] false).2 objects (package ▸ answer)]
    decide +kernel
  · have kept := others .classOutput "old" .source (ofUnit (.ofString "/lib") "old" .source)
      (by decide +kernel) (by decide) (by decide) (by decide +kernel) rfl
    exact kept.1 [79] (by decide +kernel)

section LongName

variable {letters : String} (size : letters.utf8ByteSize = 256)
  (only : ∀ c ∈ letters.toList, c = 'a')

/-- The path of a unit of a package `pkg` below a root `lib`. -/
def longPath (letters : String) : Path := ⟨.here, ["lib", "pkg", letters ++ ".py"]⟩

include size only

private theorem isUnit_long : Name.IsUnit ("pkg" ++ "." ++ letters) := by
  have apart (text : String) (other : text.utf8ByteSize ≠ 256) : letters ≠ text := by
    rintro rfl
    exact other size
  have absent (c : Char) (other : c ≠ 'a') : c ∉ letters.toList := fun inside =>
    other (only c inside)
  exact Name.isUnit_concat (by decide +kernel) (by decide) (apart "" (by decide))
    (apart "__init__" (by decide)) (by simp [absent])

omit size in
private theorem unitPath_long : unitPath ("pkg" ++ "." ++ letters) .source =
    ⟨.here, ["pkg", letters ++ ".py"]⟩ := by
  have package : Name.parts "pkg" = ["pkg"] := by decide +kernel
  have pointless : '.' ∉ letters.toList := fun inside => absurd (only _ inside) (by decide)
  have parts : Name.parts ("pkg" ++ "." ++ letters) = ["pkg"] ++ [letters] := by
    rw [Name.parts_concat "pkg" pointless, package]
  rw [unitPath_of_parts parts]
  rfl

omit size in
private theorem target_long : (ofUnit (.ofString "lib") ("pkg" ++ "." ++ letters) .source).target =
    longPath letters := by
  have rooted : Path.ofString "lib" = ⟨.here, ["lib"]⟩ := by decide +kernel
  change (Path.ofString "lib").join (unitPath ("pkg" ++ "." ++ letters) .source) = _
  rw [unitPath_long only, rooted]
  rfl

omit size in
private theorem quiet_long : Disk.hasNull (longPath letters).parts = false := by
  have silent : '\x00' ∉ letters.toList := fun inside => absurd (only _ inside) (by decide)
  simp [longPath, Disk.hasNull, silent]

omit only in
private theorem short_long : (longPath letters).toString.utf8ByteSize ≤ Disk.pathLimit := by
  have shown : (longPath letters).toString = "lib/pkg/" ++ (letters ++ ".py") := by
    apply String.toList_injective
    simp [longPath, Path.toString, Anchor.text]
  rw [shown, String.utf8ByteSize_append, String.utf8ByteSize_append, size]
  decide +kernel

private theorem landed_long {d : Disk} {spot : Address}
    (walked : d.walk d.start ["lib", "pkg"] = .ok spot) (here : d.node? spot = some .directory) :
    d.landed d.start (longPath letters).parts = .error .nameTooLong := by
  have member : letters ++ ".py" ∈ (unitPath ("pkg" ++ "." ++ letters) .source).parts := by
    rw [unitPath_long only]
    simp
  have modular : Kind.source ≠ .other := by decide
  have down := goesDown_of_mem_unitPath (isUnit_long size only) modular member
  have tooLong : Disk.nameLimit < (letters ++ ".py").utf8ByteSize := by
    rw [String.utf8ByteSize_append, size]
    decide
  change d.landed _ (["lib", "pkg"] ++ [letters ++ ".py"]) = _
  rw [Disk.landed_append walked, Disk.landed_cons down here, if_pos tooLong]

end LongName

/-- Where less holds than that other units read as before and that every location answers. The root
`x/../lib` goes up from a directory that is missing and is made for the output: a unit that could not
be read is read afterwards. The path of another unit holds a name that is too long, in a directory
that was missing: it fails in another way than before. And a location that holds the root behind one
that cannot be asked about lists nothing. -/
theorem other_unit_reads_otherwise :
    let start (nodes : List (Address × Node)) (root : String) : Workspace :=
      { Workspace.start ⟨nodes, []⟩ (.empty ⟨0, []⟩) with
        locations := (LocationTable.empty.set .classOutput [.ofString root]).set .classPath
          [.ofString "\x00", .ofString root] }
    let unit (root name : String) : FileObject := .disk (ofUnit (.ofString root) name .source)
    let write (root : String) (w : Workspace) :=
      (Activity.writeArtifact (unit root "pkg.New") [some [78]]).run .standard w
    let packed := start [(["lib"], .directory), (["lib", "pkg"], .directory),
      (["lib", "pkg", "Old.py"], .file [79])] "x/../lib"
    let bare := start [] "lib"
    let letters := String.ofList (List.replicate 256 'a')
    let long := "pkg" ++ "." ++ letters
    (packed.disk.IsFileSystem ∧ Name.IsUnit "pkg.New" ∧ Name.IsUnit "pkg.Old" ∧
      (write "x/../lib" packed).1.toOption.isSome ∧
      (∃ path, FileAccess.standard.read packed (unit "x/../lib" "pkg.Old") =
        .error (.disk (.missing path))) ∧
      FileAccess.standard.read (write "x/../lib" packed).2 (unit "x/../lib" "pkg.Old") =
        .ok [79]) ∧
    (bare.disk.IsFileSystem ∧ Name.IsUnit long ∧ (write "lib" bare).1.toOption.isSome ∧
      (∃ path, FileAccess.standard.read bare (unit "lib" long) = .error (.disk (.missing path))) ∧
      (∃ path, FileAccess.standard.read (write "lib" bare).2 (unit "lib" long) =
        .error (.disk (.nameTooLong path))) ∧
      FileAccess.standard.list (write "lib" bare).2 .classPath "pkg" [.source] false =
        .error (.disk .nullByte)) := by
  intro start unit write packed bare letters long
  have risen : FileAccess.standard.read packed (unit "x/../lib" "pkg.Old") =
      .error (.disk (.missing "x/../lib/pkg/Old.py")) := by decide +kernel
  refine ⟨⟨by decide +kernel, by decide +kernel, by decide +kernel, by decide +kernel, ⟨_, risen⟩,
    by decide +kernel⟩, by decide +kernel, ?_⟩
  have size : letters.utf8ByteSize = 256 := by decide +kernel
  have only : ∀ c ∈ letters.toList, c = 'a' := by
    have chars : letters.toList = List.replicate 256 'a' := String.toList_ofList
    intro c inside
    rw [chars] at inside
    exact List.eq_of_mem_replicate inside
  clear_value letters
  have proper : Name.IsUnit long := isUnit_long size only
  have absent : bare.disk.lookup (.ofString "lib") = .ok none := by decide +kernel
  have made : (write "lib" bare).2.disk.lookup (.ofString "lib") = .ok (some .directory) := by
    decide +kernel
  have before : FileAccess.standard.read bare (unit "lib" long) =
      .error (.disk (.missing (longPath letters).toString)) := by
    refine read_error_of_outside (.inl absent) ?_
    rw [target_long only]
    refine Disk.read_of_nothing (quiet_long only) (short_long size) ?_
    have here : bare.disk.node? [] = some .directory := by decide +kernel
    have nothing : bare.disk.node? ["lib"] = none := by decide +kernel
    change bare.disk.landed [] ["lib", "pkg", letters ++ ".py"] = _
    rw [Disk.landed_cons (by decide) here, if_neg (by decide +kernel)]
    exact Disk.landed_of_none nothing
  have after : FileAccess.standard.read (write "lib" bare).2 (unit "lib" long) =
      .error (.disk (.nameTooLong (longPath letters).toString)) := by
    let d := (write "lib" bare).2.disk
    have walked : d.walk d.start ["lib", "pkg"] = .ok ["lib", "pkg"] := by decide +kernel
    have here : d.node? ["lib", "pkg"] = some .directory := by decide +kernel
    have stopped := landed_long size only walked here
    refine read_error_of_outside (.inr made) ?_
    rw [target_long only]
    exact Disk.read_of_obstacle (quiet_long only) (short_long size) stopped
  exact ⟨proper, by decide +kernel, ⟨_, before⟩, ⟨_, after⟩, by decide +kernel⟩

end FileAccess

end PagePress
