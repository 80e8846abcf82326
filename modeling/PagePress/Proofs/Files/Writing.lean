import Mathlib.Data.List.Nodup
import PagePress.Proofs.Activity.Sequencing
import PagePress.Proofs.Delegation
import PagePress.Proofs.Files.Listing

/-!
What a write does to the disk. Directories that are made stand where nothing stood, at addresses
that prefixes of the path lead to; the file stands where its path leads; all else stays. A way that
could be walked before leads to the same address afterwards.
-/

set_option autoImplicit false

namespace PagePress

namespace Disk

section Put

variable {d : Disk} {spot : Address}

private theorem find?_replace {nodes : List (Address × Node)} (taken : spot ∈ nodes.map (·.1))
    (node : Node) (other : Address) :
    ((nodes.map fun (address, old) =>
        if address = spot then (address, node) else (address, old)).find?
          fun entry => entry.1 == other).map (·.2) =
      if other = spot then some node
      else (nodes.find? fun entry => entry.1 == other).map (·.2) := by
  let replace : Address × Node → Address × Node := fun (address, old) =>
    if address = spot then (address, node) else (address, old)
  have address (entry : Address × Node) : (replace entry).1 = entry.1 := by
    simp only [replace]
    split <;> rfl
  change ((nodes.map replace).find? fun entry => entry.1 == other).map (·.2) = _
  have asked : ((fun entry : Address × Node => entry.1 == other) ∘ replace) =
      fun entry => entry.1 == other := by
    funext entry
    rw [Function.comp_apply, address]
  rw [List.find?_map, asked, Option.map_map]
  cases found : nodes.find? fun entry => entry.1 == other with
  | none =>
    have apart : other ≠ spot := by
      rintro rfl
      obtain ⟨entry, member, same⟩ := List.mem_map.1 taken
      exact List.find?_eq_none.1 found entry member (by simp [same])
    simp [apart]
  | some entry =>
    have same : entry.1 = other := by simpa using List.find?_some found
    by_cases here : other = spot
    · simp [replace, same, here]
    · simp [replace, same, here]

private theorem node?_put (inner : spot ≠ []) (node : Node) (other : Address) :
    (d.put spot node).node? other = if other = spot then some node else d.node? other := by
  by_cases top : other = []
  · simp [node?, top, inner.symm]
  · simp only [node?, if_neg top]
    unfold put
    split
    · rename_i taken
      obtain ⟨entry, inside, same⟩ := List.any_eq_true.1 taken
      exact find?_replace (List.mem_map.2 ⟨entry, inside, by simpa using same⟩) node other
    · rename_i free
      have absent : ∀ entry ∈ d.nodes, entry.1 ≠ spot := by
        intro entry member same
        exact free (List.any_eq_true.2 ⟨entry, member, by simpa using same⟩)
      rw [List.find?_append]
      by_cases same : other = spot
      · have none : (d.nodes.find? fun entry => entry.1 == other) = none := by
          rw [List.find?_eq_none]
          intro entry member
          simpa [same] using absent entry member
        rw [none, if_pos same]
        simp [same]
      · have differ : (spot == other) = false := by simpa using fun equal => same equal.symm
        simp [differ, same]

private theorem start_put (node : Node) : (d.put spot node).start = d.start := by
  unfold put
  split <;> rfl

private theorem distinct_put (node : Node) (distinct : (d.nodes.map (·.1)).Nodup) :
    ((d.put spot node).nodes.map (·.1)).Nodup := by
  unfold put
  split
  · have same : ((d.nodes.map fun (address, old) =>
        if address = spot then (address, node) else (address, old)).map (·.1)) =
        d.nodes.map (·.1) := by
      rw [List.map_map]
      refine List.map_congr_left fun entry _ => ?_
      simp only [Function.comp_apply]
      split <;> rfl
    rw [same]
    exact distinct
  · rename_i free
    have absent : spot ∉ d.nodes.map (·.1) := by
      intro member
      obtain ⟨entry, inside, same⟩ := List.mem_map.1 member
      exact free (List.any_eq_true.2 ⟨entry, inside, by simpa using same⟩)
    rw [List.map_append, List.map_singleton]
    exact List.nodup_append.2 ⟨distinct, List.nodup_singleton spot, by
      intro a member b single same
      obtain rfl := List.mem_singleton.1 single
      exact absent (same ▸ member)⟩

end Put

section Walk

variable {d d' : Disk} {spot reached : Address}

/-- Where directories stay directories, a way that can be walked leads to the same address. -/
theorem walk_mono (kept : ∀ spot, d.node? spot = some .directory → d'.node? spot = some .directory)
    {parts : List String} (walked : d.walk spot parts = .ok reached) :
    d'.walk spot parts = .ok reached := by
  induction parts generalizing spot with
  | nil => exact walked
  | cons part rest ih =>
    have here := directory_of_walk walked
    rw [walk] at walked ⊢
    rw [here] at walked
    rw [kept spot here]
    simp only at walked ⊢
    split_ifs at walked ⊢
    · exact ih walked
    · exact ih walked
    · exact ih walked

/-- What is passed on the way, and a directory at its end, is a directory. -/
theorem walk_split {front rest : List String} (walked : d.walk spot (front ++ rest) = .ok reached)
    (onward : rest ≠ [] ∨ d.node? reached = some .directory) :
    ∃ middle, d.walk spot front = .ok middle ∧ d.walk middle rest = .ok reached ∧
      d.node? middle = some .directory := by
  rw [walk_append] at walked
  cases half : d.walk spot front with
  | error obstacle =>
    rw [half] at walked
    cases walked
  | ok middle =>
    rw [half] at walked
    refine ⟨middle, rfl, walked, ?_⟩
    cases rest with
    | nil =>
      cases walked
      exact onward.resolve_left (fun more => more rfl)
    | cons part rest => exact directory_of_walk walked

theorem origin_congr (start : d'.start = d.start) (anchor : Anchor) :
    d'.origin anchor = d.origin anchor := by
  rw [origin, origin, start]

theorem address_mono
    (kept : ∀ spot, d.node? spot = some .directory → d'.node? spot = some .directory)
    (start : d'.start = d.start) {p : Path} (found : d.address p = .ok reached) :
    d'.address p = .ok reached := by
  obtain ⟨speakable, short, walked⟩ := address_eq_ok_iff.1 found
  refine address_eq_ok_iff.2 ⟨speakable, short, ?_⟩
  rw [origin_congr start]
  exact walk_mono kept walked

end Walk

section Free

variable {d d₀ : Disk} {spot other : Address}

private theorem inner_of_free (free : d.node? spot ≠ some .directory) : spot ≠ [] := by
  rintro rfl
  exact free rfl

private theorem kept_put (free : d.node? spot ≠ some .directory) (node : Node)
    (here : d.node? other = some .directory) :
    (d.put spot node).node? other = some .directory := by
  have apart : other ≠ spot := fun same => free (same ▸ here)
  rw [node?_put (inner_of_free free), if_neg apart, here]

private theorem made_put (free : d.node? spot ≠ some .directory) (node : Node)
    (apart : other ≠ spot) {anchor : Anchor} {parts : List String}
    (before : d.node? other = d₀.node? other ∨
      (d₀.node? other = none ∧ d.node? other = some .directory ∧
        ∃ front rest, parts = front ++ rest ∧ d.walk (d.origin anchor) front = .ok other)) :
    (d.put spot node).node? other = d₀.node? other ∨
      (d₀.node? other = none ∧ (d.put spot node).node? other = some .directory ∧
        ∃ front rest, parts = front ++ rest ∧
          (d.put spot node).walk ((d.put spot node).origin anchor) front = .ok other) := by
  rw [node?_put (inner_of_free free), if_neg apart]
  refine before.imp_right ?_
  rintro ⟨absent, made, front, rest, split, led⟩
  refine ⟨absent, made, front, rest, split, ?_⟩
  rw [origin_congr (start_put node)]
  exact walk_mono (fun _ => kept_put free node) led

end Free

/-- A disk with more directories: what is new are directories where nothing stood, at addresses that
a path leads past. -/
structure Grown (d d' : Disk) (anchor : Anchor) (parts : List String) : Prop where
  start : d'.start = d.start
  distinct : (d.nodes.map (·.1)).Nodup → (d'.nodes.map (·.1)).Nodup
  node : ∀ spot, d'.node? spot = d.node? spot ∨
    (d.node? spot = none ∧ d'.node? spot = some .directory ∧
      ∃ front rest, parts = front ++ rest ∧ d'.walk (d'.origin anchor) front = .ok spot)

section Directories

variable {d d' d'' : Disk} {anchor : Anchor}

private theorem Grown.refl (d : Disk) (anchor : Anchor) (parts : List String) :
    Grown d d anchor parts :=
  ⟨rfl, id, fun _ => .inl rfl⟩

private theorem Grown.kept {parts : List String} (grown : Grown d d' anchor parts) {spot : Address}
    (here : d.node? spot = some .directory) : d'.node? spot = some .directory := by
  rcases grown.node spot with same | ⟨-, made, -⟩
  · rw [same, here]
  · exact made

private theorem Grown.trans {front back : List String} (first : Grown d d' anchor front)
    (second : Grown d' d'' anchor (front ++ back)) : Grown d d'' anchor (front ++ back) := by
  refine ⟨second.start.trans first.start, fun distinct => second.distinct (first.distinct distinct),
    fun spot => ?_⟩
  rcases first.node spot with same | ⟨free, made, upper, lower, split, led⟩
  · rw [← same]
    exact second.node spot
  · refine .inr ⟨free, second.kept made, upper, lower ++ back, ?_, ?_⟩
    · rw [split, List.append_assoc]
    · rw [origin_congr second.start]
      exact walk_mono (fun _ => second.kept) led

private theorem makeDirectory_ok {p : Path} (made : d.makeDirectory p = .ok d') :
    ∃ spot, d.address p = .ok spot ∧ ((d.node? spot = none ∧ d' = d.put spot .directory) ∨
      (d.node? spot = some .directory ∧ d' = d)) := by
  cases found : d.address p with
  | error e =>
    simp only [makeDirectory, found, bind, Except.bind] at made
    cases made
  | ok spot =>
    refine ⟨spot, rfl, ?_⟩
    simp only [makeDirectory, found, bind, Except.bind] at made
    split at made
    · cases made
      exact .inl ⟨by assumption, rfl⟩
    · cases made
      exact .inr ⟨by assumption, rfl⟩
    · cases made

private theorem grown_makeDirectory {p : Path} (made : d.makeDirectory p = .ok d') :
    Grown d d' p.anchor p.parts ∧ ∃ spot, d'.address p = .ok spot ∧ d'.node? spot = some .directory := by
  obtain ⟨spot, found, ⟨free, rfl⟩ | ⟨here, rfl⟩⟩ := makeDirectory_ok made
  · have untaken : d.node? spot ≠ some .directory := by
      rw [free]
      exact Option.some_ne_none _ ∘ Eq.symm
    have inner := inner_of_free untaken
    have found' := address_mono (fun _ => kept_put untaken .directory) (start_put .directory) found
    have stands : (d.put spot .directory).node? spot = some .directory := by
      rw [node?_put inner, if_pos rfl]
    refine ⟨⟨start_put .directory, distinct_put .directory, fun other => ?_⟩, spot, found', stands⟩
    by_cases same : other = spot
    · obtain ⟨-, -, walked⟩ := address_eq_ok_iff.1 found'
      exact .inr ⟨same ▸ free, same ▸ stands, p.parts, [], (List.append_nil _).symm, same ▸ walked⟩
    · rw [node?_put inner, if_neg same]
      exact .inl rfl
  · exact ⟨.refl _ p.anchor p.parts, spot, found, here⟩

private theorem grown_makeDirectoriesAt {backwards : List String}
    (made : makeDirectoriesAt anchor backwards d = (.ok (), d')) :
    Grown d d' anchor backwards.reverse ∧ ∃ spot, d'.address ⟨anchor, backwards.reverse⟩ = .ok spot ∧
      d'.node? spot = some .directory := by
  induction backwards generalizing d d' with
  | nil =>
    rw [makeDirectoriesAt] at made
    split at made <;> cases made
    rename_i once
    exact grown_makeDirectory once
  | cons last above ih =>
    rw [makeDirectoriesAt] at made
    split at made
    · rename_i once
      cases made
      exact grown_makeDirectory once
    · -- What is above was missing, so it is made first.
      split at made
      · cases made
      · rename_i upper
        split at made
        · rename_i once
          cases made
          obtain ⟨first, -⟩ := ih upper
          obtain ⟨second, there⟩ := grown_makeDirectory once
          rw [List.reverse_cons] at second there ⊢
          exact ⟨first.trans second, there⟩
        · cases made
    · cases made

end Directories

/-- A disk on which a path was written: the file stands where the path leads, and the directories
above it are there. -/
structure Written (d d' : Disk) (p : Path) (spot : Address) (content : Bytes) : Prop where
  start : d'.start = d.start
  distinct : (d.nodes.map (·.1)).Nodup → (d'.nodes.map (·.1)).Nodup
  reached : d'.address p = .ok spot
  holds : d'.node? spot = some (.file content)
  free : d.node? spot ≠ some .directory
  node : ∀ other, other ≠ spot → d'.node? other = d.node? other ∨
    (d.node? other = none ∧ d'.node? other = some .directory ∧
      ∃ front rest, p.parent.parts = front ++ rest ∧
        d'.walk (d'.origin p.anchor) front = .ok other)

section Write

variable {d d' d'' : Disk} {p : Path} {spot : Address} {content : Bytes}

theorem Written.kept (written : Written d d' p spot content) {other : Address}
    (here : d.node? other = some .directory) : d'.node? other = some .directory := by
  have apart : other ≠ spot := fun same => written.free (same ▸ here)
  rcases written.node other apart with same | ⟨-, made, -⟩
  · rw [same, here]
  · exact made

private theorem write_ok (wrote : d.write p content = .ok d') :
    ∃ spot, d.address p = .ok spot ∧ d.node? spot ≠ some .directory ∧
      d' = d.put spot (.file content) := by
  cases found : d.address p with
  | error e =>
    simp only [write, found, bind, Except.bind] at wrote
    cases wrote
  | ok spot =>
    refine ⟨spot, rfl, ?_⟩
    simp only [write, found, bind, Except.bind] at wrote
    split at wrote
    · cases wrote
    · rename_i free
      cases wrote
      exact ⟨free, rfl⟩

theorem written_of_writeBelow (wrote : d.writeBelow p content = (.ok (), d')) :
    ∃ spot, Written d d' p spot content := by
  rw [writeBelow] at wrote
  split at wrote
  · cases wrote
  · rename_i middle made
    split at wrote
    · rename_i once
      cases wrote
      obtain ⟨grown, -⟩ := grown_makeDirectoriesAt made
      rw [List.reverse_reverse] at grown
      obtain ⟨spot, found, free, rfl⟩ := write_ok once
      refine ⟨spot, (start_put _).trans grown.start, fun distinct => distinct_put _
        (grown.distinct distinct), address_mono (fun _ => kept_put free _) (start_put _) found,
        ?_, fun here => free (grown.kept here),
        fun other apart => made_put free _ apart (grown.node other)⟩
      rw [node?_put (inner_of_free free), if_pos rfl]
    · cases wrote

private theorem Written.append (written : Written d d' p spot content) {more : Bytes}
    (wrote : d'.write p ((d'.content? p).getD [] ++ more) = .ok d'') :
    Written d d'' p spot (content ++ more) := by
  have found : d'.lookup p = .ok (some (.file content)) :=
    lookup_eq_some_iff.2 ⟨spot, written.reached, written.holds⟩
  have old : (d'.content? p).getD [] = content := by
    rw [content?_of_found found]
    rfl
  rw [old] at wrote
  obtain ⟨spot', found', free, rfl⟩ := write_ok wrote
  obtain rfl : spot = spot' := Except.ok.inj (written.reached.symm.trans found')
  refine ⟨(start_put _).trans written.start, fun distinct => distinct_put _
    (written.distinct distinct), address_mono (fun _ => kept_put free _) (start_put _) found',
    ?_, written.free, fun other apart => made_put free _ apart (written.node other apart)⟩
  rw [node?_put (inner_of_free free), if_pos rfl]

end Write

end Disk

namespace Activity

open Disk

variable {m : FileAccess} {w v : Workspace}

private theorem run_writeAll {d : Disk} {path : Path} {spot : Address} {content : Bytes}
    (written : Written d w.disk path spot content) {chunks : List Bytes}
    (wrote : (writeAll (.file path) (chunks.map some)).run m w = (.ok (), v)) :
    v = { w with disk := v.disk } ∧ Written d v.disk path spot (content ++ chunks.flatten) := by
  induction chunks generalizing w content with
  | nil =>
    obtain ⟨-, rfl⟩ := Prod.mk.inj wrote
    rw [List.flatten_nil, List.append_nil]
    exact ⟨rfl, written⟩
  | cons chunk chunks ih =>
    rw [List.map_cons] at wrote
    obtain ⟨count, u, once, others⟩ := run_writeAll_cons_ok wrote
    simp only [FileAccess.writeStream] at once
    split at once
    · cases once
    · rename_i disk wider
      cases once
      obtain ⟨same, all⟩ := ih (w := { w with disk }) (written.append wider) others
      rw [List.flatten_cons, ← List.append_assoc]
      exact ⟨same, all⟩

/-- A write to a file of the disk that returns: it was no member of an archive, and its bytes are the
chunks, one after the other. -/
theorem run_writeArtifact_disk {f : DiskFile} {chunks : List Bytes} {object : FileObject}
    (wrote : (writeArtifact (.disk f) (chunks.map some)).run m w = (.ok object, v)) :
    object = .disk f ∧ f.isMember w.disk = .ok false ∧ v = { w with disk := v.disk } ∧
      ∃ spot, Written w.disk v.disk f.target spot chunks.flatten := by
  obtain ⟨rfl, stream, u, x, opened, all, ended⟩ := run_writeArtifact_ok wrote
  rw [FileAccess.openStream_disk] at opened
  simp only [FileAccess.openStream] at opened
  split at opened
  · cases opened
  · cases opened
  · rename_i outside
    unfold FileAccess.openFile at opened
    split at opened
    · cases opened
    · rename_i disk begun
      cases opened
      obtain ⟨spot, empty⟩ := written_of_writeBelow begun
      obtain ⟨same, written⟩ := run_writeAll (w := { w with disk }) empty all
      cases ended
      exact ⟨rfl, outside, same, spot, written⟩

end Activity

end PagePress
