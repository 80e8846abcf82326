import Mathlib.Data.List.Nodup
import Mathlib.Tactic.SplitIfs
import PagePress.Proofs.Files.Paths

/-!
The disk as a tree, and ways down in it. Whatever stands on a disk stands below directories and has
a proper name. A way that goes down leads to the address that it names, or fails: at a node that is
missing or is no directory, or at a name that is too long.
-/

set_option autoImplicit false

namespace PagePress.Disk

/-- All that stands on a disk stands below directories, and every part of an address is a name. -/
structure IsTree (d : Disk) : Prop where
  above : ∀ entry ∈ d.nodes, ∀ n < entry.1.length, d.node? (entry.1.take n) = some .directory
  named : ∀ entry ∈ d.nodes, ∀ part ∈ entry.1, IsName part

instance (d : Disk) : Decidable d.IsTree :=
  decidable_of_iff ((∀ entry ∈ d.nodes, ∀ n < entry.1.length,
      d.node? (entry.1.take n) = some .directory) ∧
    ∀ entry ∈ d.nodes, ∀ part ∈ entry.1, IsName part)
    ⟨fun ⟨above, named⟩ => ⟨above, named⟩, fun ⟨above, named⟩ => ⟨above, named⟩⟩

/-- A disk as it is found: a tree in which no address is taken twice, with a directory where
relative paths start. -/
structure IsFileSystem (d : Disk) : Prop extends IsTree d where
  distinct : (d.nodes.map (·.1)).Nodup
  started : d.node? d.start = some .directory

instance (d : Disk) : Decidable d.IsFileSystem :=
  decidable_of_iff (d.IsTree ∧ (d.nodes.map (·.1)).Nodup ∧ d.node? d.start = some .directory)
    ⟨fun ⟨tree, distinct, started⟩ => ⟨tree, distinct, started⟩,
      fun ⟨tree, distinct, started⟩ => ⟨tree, distinct, started⟩⟩

section Nodes

variable {d : Disk} {spot : Address} {node : Node}

theorem mem_of_node? (inner : spot ≠ []) (here : d.node? spot = some node) :
    (spot, node) ∈ d.nodes := by
  rw [node?, if_neg inner, Option.map_eq_some_iff] at here
  obtain ⟨⟨address, other⟩, found, rfl⟩ := here
  have same : address = spot := by simpa using List.find?_some found
  rw [← same]
  exact List.mem_of_find?_eq_some found

theorem node?_of_mem (distinct : (d.nodes.map (·.1)).Nodup) (inner : spot ≠ [])
    (there : (spot, node) ∈ d.nodes) : d.node? spot = some node := by
  have taken : (d.nodes.find? fun entry => entry.1 == spot).isSome = true := by
    rw [List.find?_isSome]
    exact ⟨(spot, node), there, by simp⟩
  obtain ⟨⟨address, other⟩, found⟩ := Option.isSome_iff_exists.1 taken
  have same : address = spot := by simpa using List.find?_some found
  have entry : (address, other) = (spot, node) :=
    List.inj_on_of_nodup_map distinct (List.mem_of_find?_eq_some found) there same
  rw [node?, if_neg inner, found, entry]
  rfl

end Nodes

section Walk

variable {d : Disk}

/-- Every address above something that stands on the disk is that of a directory. -/
theorem IsTree.directory (tree : d.IsTree) {front rest : Address} {node : Node}
    (there : (front ++ rest, node) ∈ d.nodes) (below : rest ≠ []) :
    d.node? front = some .directory := by
  have shorter : front.length < (front ++ rest).length := by
    have positive := List.length_pos_iff.2 below
    rw [List.length_append]
    omega
  have held := tree.above _ there front.length shorter
  rwa [List.take_left] at held

theorem walk_append (spot : Address) (front rest : List String) :
    d.walk spot (front ++ rest) = (d.walk spot front).bind fun reached => d.walk reached rest := by
  induction front generalizing spot with
  | nil => rfl
  | cons part front ih =>
    simp only [List.cons_append, walk]
    split
    · rfl
    · split_ifs
      · exact ih spot
      · exact ih spot.dropLast
      · rfl
      · exact ih (spot ++ [part])
    · rfl

theorem walk_cons_of_goesDown {part : String} (down : GoesDown part) {spot : Address}
    (here : d.node? spot = some .directory) (rest : List String) :
    d.walk spot (part :: rest) =
      if nameLimit < part.utf8ByteSize then .error .nameTooLong
      else d.walk (spot ++ [part]) rest := by
  obtain ⟨filled, notHere, notAbove⟩ := down
  simp [walk, here, filled, notHere, notAbove]

theorem directory_of_walk {spot reached : Address} {part : String} {rest : List String}
    (walked : d.walk spot (part :: rest) = .ok reached) : d.node? spot = some .directory := by
  rw [walk] at walked
  split at walked
  · cases walked
  · assumption
  · cases walked

/-- A way that goes down and can be walked leads to the address that it names. -/
theorem eq_of_walk {parts : List String} (down : ∀ part ∈ parts, GoesDown part)
    {spot reached : Address} (walked : d.walk spot parts = .ok reached) :
    reached = spot ++ parts := by
  induction parts generalizing spot with
  | nil =>
    cases walked
    rw [List.append_nil]
  | cons part rest ih =>
    obtain ⟨first, others⟩ := List.forall_mem_cons.1 down
    rw [walk_cons_of_goesDown first (directory_of_walk walked)] at walked
    split at walked
    · cases walked
    · rw [ih others walked, List.append_assoc]
      rfl

theorem short_of_walk {parts : List String} (down : ∀ part ∈ parts, GoesDown part)
    {spot reached : Address} (walked : d.walk spot parts = .ok reached) :
    ∀ part ∈ parts, part.utf8ByteSize ≤ nameLimit := by
  induction parts generalizing spot with
  | nil => nofun
  | cons part rest ih =>
    obtain ⟨first, others⟩ := List.forall_mem_cons.1 down
    rw [walk_cons_of_goesDown first (directory_of_walk walked)] at walked
    split at walked
    · cases walked
    · rename_i short
      exact List.forall_mem_cons.2 ⟨Nat.not_lt.1 short, ih others walked⟩

theorem walk_of_directories {parts : List String} (named : ∀ part ∈ parts, IsName part)
    {spot : Address} (directories : ∀ front rest, parts = front ++ rest → rest ≠ [] →
      d.node? (spot ++ front) = some .directory) :
    d.walk spot parts = .ok (spot ++ parts) := by
  induction parts generalizing spot with
  | nil => simp [walk]
  | cons part rest ih =>
    obtain ⟨first, others⟩ := List.forall_mem_cons.1 named
    have here : d.node? spot = some .directory := by
      have start := directories [] (part :: rest) rfl (List.cons_ne_nil part rest)
      rwa [List.append_nil] at start
    have later : ∀ front tail, rest = front ++ tail → tail ≠ [] →
        d.node? (spot ++ [part] ++ front) = some .directory := by
      intro front tail split below
      have held := directories (part :: front) tail (by simp [split]) below
      rwa [List.append_assoc]
    rw [walk_cons_of_goesDown first.goesDown here, if_neg (Nat.not_lt.2 first.short),
      ih others later, List.append_assoc]
    rfl

theorem mem_below {spot : Address} {recurse : Bool} {way : List String} {node : Node} :
    (way, node) ∈ d.below spot recurse ↔
      (spot ++ way, node) ∈ d.nodes ∧ way ≠ [] ∧ (recurse = true ∨ way.length = 1) := by
  simp only [below, List.mem_map, List.mem_filter, Prod.exists, Prod.mk.injEq, reaches,
    Bool.and_eq_true, Bool.or_eq_true, List.isPrefixOf_iff_prefix, decide_eq_true_eq, beq_iff_eq]
  constructor
  · rintro ⟨_, _, ⟨there, ⟨⟨rest, rfl⟩, longer⟩, deep⟩, rfl, rfl⟩
    rw [List.drop_left]
    refine ⟨there, ?_, ?_⟩
    · rintro rfl
      simp at longer
    · simpa using deep
  · rintro ⟨there, some, deep⟩
    refine ⟨spot ++ way, node, ⟨there, ⟨⟨way, rfl⟩, ?_⟩, ?_⟩, List.drop_left, rfl⟩
    · simpa using List.length_pos_iff.2 some
    · simpa using deep

end Walk

end PagePress.Disk
