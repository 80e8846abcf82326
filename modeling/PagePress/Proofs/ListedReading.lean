import PagePress.Proofs.PackageListing

/-!
Reading what is listed. Main statement: a file that is listed below a directory is read, and its
bytes are those that stand there; one that is listed in an archive is read under its path, so that
the bytes are those of the last member that is named by this path, and there have to be such.
-/

set_option autoImplicit false

namespace PagePress

namespace Disk

variable {members : List (String × Bytes)} {name : String}

private theorem member?_eq_some_iff {content : Bytes} :
    member? members name = some content ↔
      ∃ front back, members = front ++ (name, content) :: back ∧
        ∀ entry ∈ back, entry.1 ≠ name := by
  rw [member?, Option.map_eq_some_iff]
  constructor
  · rintro ⟨⟨key, _⟩, found, rfl⟩
    obtain ⟨here, front, back, split, before⟩ := List.find?_eq_some_iff_append.1 found
    obtain rfl : key = name := by simpa using here
    refine ⟨back.reverse, front.reverse, ?_, fun entry member => ?_⟩
    · rw [← List.reverse_inj, split]
      simp
    · simpa using before entry (List.mem_reverse.1 member)
  · rintro ⟨front, back, rfl, last⟩
    refine ⟨(name, content), List.find?_eq_some_iff_append.2 ?_, rfl⟩
    refine ⟨by simp, back.reverse, front.reverse, by simp, fun entry member => ?_⟩
    simpa using last entry (List.mem_reverse.1 member)

private theorem member?_eq_none_iff : member? members name = none ↔ name ∉ members.map (·.1) := by
  rw [member?, Option.map_eq_none_iff, List.find?_eq_none, List.mem_map, not_exists]
  refine forall_congr' fun entry => ?_
  simp

end Disk

namespace DiskFile

/-- What reading a listed file gives: the bytes that the disk holds for it, those of the last member
of an archive that is named by the path, or that there is no such member, since the one that was
listed is written in another way. An archive that lies below a directory is read as the file that it
is. -/
inductive ReadsAs (d : Disk) (f : DiskFile) : Except Failure Bytes → Prop
  | file {base : Address} {way : List String} {node : Node}
      (rooted : d.address f.root = .ok base) (here : d.node? base = some .directory)
      (path : f.path = ⟨.here, way⟩) (there : (base ++ way, node) ∈ d.nodes)
      (isFile : node.isFile = true) : ReadsAs d f (.ok node.content)
  | member {packed : Archive} {front back : List (String × Bytes)} {content : Bytes}
      (found : d.lookup f.root = .ok (some (.archive packed)))
      (split : packed.members = front ++ (f.path.toString, content) :: back)
      (last : ∀ entry ∈ back, entry.1 ≠ f.path.toString) : ReadsAs d f (.ok content)
  | renamed {packed : Archive} {name : String}
      (found : d.lookup f.root = .ok (some (.archive packed)))
      (member : name ∈ packed.members.map (·.1)) (path : f.path = Path.ofString name)
      (absent : f.path.toString ∉ packed.members.map (·.1)) :
      ReadsAs d f (.error (.noMember f.path.toString))

section Read

variable {d : Disk} {f : DiskFile}

theorem read_archive {packed : Archive} (found : d.lookup f.root = .ok (some (.archive packed))) :
    f.read d = match Disk.member? packed.members f.path.toString with
      | some content => .ok content
      | none => .error (.noMember f.path.toString) := by
  simp only [read, found]
  rfl

theorem read_directory {base spot : Address} {node : Node} (rooted : d.address f.root = .ok base)
    (here : d.node? base = some .directory) (reached : d.address f.target = .ok spot)
    (there : d.node? spot = some node) (isFile : node.isFile = true) :
    f.read d = .ok node.content := by
  have found := Disk.lookup_eq_some_iff.2 ⟨base, rooted, here⟩
  have opened : d.read f.target = .ok node := by
    change (d.address f.target).bind _ = _
    rw [reached]
    cases node with
    | directory => cases isFile
    | file | archive => simp [Except.bind, there, pure, Except.pure]
  simp only [read, found, opened]
  rfl

variable {package : Path} {kinds : List Kind} {recurse : Bool} {row : List DiskFile}

private theorem goesDown_of_join {root : Path} (down : ∀ part ∈ package.parts, Disk.GoesDown part)
    {way parts : List String} (along : ∀ part ∈ way, Disk.GoesDown part)
    (joined : (root.join package).parts ++ way = root.parts ++ parts) :
    ∀ part ∈ parts, Disk.GoesDown part := by
  have both : ∀ part ∈ package.parts ++ way, Disk.GoesDown part := fun part member =>
    (List.mem_append.1 member).elim (down part) (along part)
  intro part member
  by_cases relative : package.anchor = .here
  · rw [Path.join_of_relative root relative, List.append_assoc] at joined
    rw [← List.append_cancel_left joined] at member
    exact both part member
  · rw [Path.join, if_neg relative] at joined
    exact both part (joined ▸ List.mem_append_right root.parts member)

private theorem target_of_mem_row (files : d.IsFileSystem)
    (down : ∀ part ∈ package.parts, Disk.GoesDown part) {root : Path} {base : Address}
    (rooted : d.address root = .ok base) (here : d.node? base = some .directory)
    (listed : listRoot d package kinds recurse root = .ok row) (member : f ∈ row) :
    f.root = root ∧ ∃ way node, f.path = ⟨.here, way⟩ ∧ way ≠ [] ∧ (base ++ way, node) ∈ d.nodes ∧
      node.isFile = true ∧ d.address f.target = .ok (base ++ way) := by
  rcases (listRoot_directory_eq_ok_iff rooted here).1 listed with
    ⟨found, fine, rfl⟩ | ⟨_, -, -, rfl⟩
  · obtain ⟨spot, found, inside⟩ := Disk.lookup_eq_some_iff.1 found
    obtain ⟨way, node, there, isFile, ⟨anchor, parts⟩, rfl, same, kind, wanted, told, rfl⟩ :=
      (mem_listDirectory found).1 member
    obtain ⟨stands, filled, -⟩ := Disk.mem_below.1 there
    have joined : (root.join package).parts ++ way = root.parts ++ parts :=
      congrArg Path.parts same
    have filled' : parts ≠ [] := parts_ne_nil_of_told told
    have ending : (⟨.here, parts⟩ : Path).suffix = (⟨.here, way⟩ : Path).suffix := by
      rw [← Path.suffix_append .here root.parts filled', ← joined, Path.suffix_append _ _ filled]
    rw [ending] at told
    obtain ⟨answer, asked⟩ := Disk.exists_of_ask (Disk.askAll_eq_ok_iff.1 fine _
      ((mem_askedBelow found).2 ⟨way, node, there, .inr ⟨kind, wanted, told⟩, rfl⟩))
    rw [← List.append_nil (spot ++ way)] at stands
    have reached : d.address (root.join ⟨.here, parts⟩) = .ok (spot ++ way) := by
      rw [← same]
      exact Disk.address_join_of_there files.toIsTree rfl found stands asked
    have along : ∀ part ∈ way, Disk.GoesDown part := fun part member =>
      (files.named _ stands part (by simp [member])).goesDown
    have going : ∀ part ∈ parts, Disk.GoesDown part :=
      goesDown_of_join down along joined
    rw [List.append_nil, Disk.address_join_of_found rfl going rooted reached] at stands
    rw [Disk.address_join_of_found rfl going rooted reached] at reached
    exact ⟨rfl, parts, node, rfl, filled', stands, isFile, reached⟩
  · cases member

private theorem readsAs_of_mem_row (files : d.IsFileSystem)
    (down : ∀ part ∈ package.parts, Disk.GoesDown part) {root : Path}
    (listed : listRoot d package kinds recurse root = .ok row) (member : f ∈ row) :
    f.root = root ∧ ReadsAs d f (f.read d) := by
  have meets := meets_listRoot d package kinds recurse root
  rw [listed] at meets
  cases meets with
  | directory rooted here =>
    obtain ⟨rfl, way, node, path, filled, there, isFile, reached⟩ :=
      target_of_mem_row files down rooted here listed member
    have stands := Disk.node?_of_mem files.distinct (by simp [filled]) there
    rw [read_directory rooted here reached stands isFile]
    exact ⟨rfl, .file rooted here path there isFile⟩
  | archive found =>
    obtain ⟨name, listed, -, kind, -, -, rfl⟩ := mem_listArchive.1 member
    refine ⟨rfl, ?_⟩
    rw [read_archive found]
    cases held : Disk.member? _ (Path.ofString name).toString with
    | some content =>
      obtain ⟨front, back, split, last⟩ := Disk.member?_eq_some_iff.1 held
      exact .member found split last
    | none => exact .renamed found listed rfl (Disk.member?_eq_none_iff.1 held)
  | other => cases member

private theorem ReadsAs.isOk_iff {answer : Except Failure Bytes} (reads : ReadsAs d f answer) :
    (∃ content, answer = .ok content) ↔ ∀ packed,
      d.lookup f.root = .ok (some (.archive packed)) →
        f.path.toString ∈ packed.members.map (·.1) := by
  cases reads with
  | file rooted here =>
    refine iff_of_true ⟨_, rfl⟩ fun packed found => ?_
    rw [Disk.lookup_eq_some_iff.2 ⟨_, rooted, here⟩] at found
    cases found
  | member found split last =>
    refine iff_of_true ⟨_, rfl⟩ fun packed found' => ?_
    rw [found] at found'
    cases found'
    simp [split]
  | renamed found _ _ absent =>
    exact iff_of_false (by simp) fun all => absent (all _ found)

end Read

end DiskFile

namespace FileAccess

open DiskFile

end FileAccess

end PagePress
