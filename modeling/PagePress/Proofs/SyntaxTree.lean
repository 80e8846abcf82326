import Mathlib.Data.List.Basic
import PagePress.Service.SyntaxTree

/-!
Walks of syntax trees. A place in a tree says which child to take at every step down. Taking trees
from the front of a queue and putting their children at its end is a walk level by level: every
place is met once, a shorter one before a longer one, and places of one depth from left to right.
-/

set_option autoImplicit false

namespace PagePress.SyntaxTree

/-- The nodes that are met when trees are taken from the front of a queue and their children are put
at its end. -/
def queueWalk : List SyntaxTree → List SyntaxTree
  | [] => []
  | tree :: queue => tree :: queueWalk (queue ++ tree.children)
termination_by queue => sizeAll queue
decreasing_by simp only [sizeAll_append, sizeAll, size_eq]; omega

/-- A row at the front of a queue is met first; the level below it then stands at the end. -/
private theorem queueWalk_append (row queue : List SyntaxTree) :
    queueWalk (row ++ queue) = row ++ queueWalk (queue ++ descend row) := by
  induction row generalizing queue with
  | nil => simp [descend]
  | cons tree row ih =>
    rw [List.cons_append, queueWalk, List.append_assoc, ih, List.append_assoc]
    rfl

theorem queueWalk_eq_levels (row : List SyntaxTree) : queueWalk row = levels row := by
  by_cases empty : row = []
  · rw [empty, queueWalk, levels_nil]
  · have fewer := sizeAll_descend row
    have positive : 0 < row.length := List.length_pos_iff.2 empty
    have front := queueWalk_append row []
    rw [List.append_nil, List.nil_append] at front
    rw [front, levels_eq, queueWalk_eq_levels (descend row)]
termination_by sizeAll row
decreasing_by omega

def atDepth : Nat → SyntaxTree → List SyntaxTree
  | 0, tree => [tree]
  | n + 1, tree => tree.children.flatMap (atDepth n)

def at? (tree : SyntaxTree) : List Nat → Option SyntaxTree
  | [] => some tree
  | i :: place => (tree.children[i]?).bind fun child => child.at? place

def places : Nat → SyntaxTree → List (List Nat)
  | 0, _ => [[]]
  | n + 1, tree => tree.children.zipIdx.flatMap fun (child, i) => (places n child).map (i :: ·)

def allPlaces (tree : SyntaxTree) : List (List Nat) :=
  (List.range tree.size).flatMap fun n => places n tree

/-- A place comes before another in level order: it is higher up, or of the same depth and further
left. -/
def Precedes (place other : List Nat) : Prop :=
  place.length < other.length ∨ place.length = other.length ∧ place < other

private theorem levels_eq_flatMap (row : List SyntaxTree) {n : Nat} (deep : sizeAll row ≤ n) :
    levels row = (List.range n).flatMap fun depth => row.flatMap (atDepth depth) := by
  induction n generalizing row with
  | zero =>
    have fewer := sizeAll_descend row
    obtain rfl : row = [] := List.eq_nil_of_length_eq_zero (by omega)
    rw [levels_nil]
    rfl
  | succ n ih =>
    by_cases empty : row = []
    · simp [empty, levels_nil]
    · have fewer := sizeAll_descend row
      have positive : 0 < row.length := List.length_pos_iff.2 empty
      have below := ih (descend row) (by omega)
      have top : row.flatMap (atDepth 0) = row := by simp [atDepth]
      have deeper (depth : Nat) :
          row.flatMap (atDepth (depth + 1)) = (descend row).flatMap (atDepth depth) := by
        simp [atDepth, descend, List.flatMap_assoc]
      rw [levels_eq, below, List.range_succ_eq_map, List.flatMap_cons, top, List.flatMap_map]
      simp only [deeper]

private theorem walk_eq (tree : SyntaxTree) :
    tree.walk = (List.range tree.size).flatMap fun n => atDepth n tree := by
  have deep : sizeAll [tree] ≤ tree.size := by simp [sizeAll]
  rw [walk, levels_eq_flatMap [tree] deep]
  simp

private theorem map_at?_places (n : Nat) (tree : SyntaxTree) :
    (places n tree).map tree.at? = (atDepth n tree).map some := by
  induction n generalizing tree with
  | zero => rfl
  | succ n ih =>
    have child {c : SyntaxTree} {i : Nat} (here : (c, i) ∈ tree.children.zipIdx) :
        ((places n c).map (i :: ·)).map tree.at? = (atDepth n c).map some := by
      have found : tree.children[i]? = some c := List.mk_mem_zipIdx_iff_getElem?.1 here
      rw [← ih, List.map_map]
      exact List.map_congr_left fun place _ => by simp [at?, found]
    have inner : (tree.children.zipIdx.flatMap fun pair =>
          ((places n pair.1).map (pair.2 :: ·)).map tree.at?) =
        tree.children.zipIdx.flatMap fun pair => (atDepth n pair.1).map some :=
      List.flatMap_congr fun _ here => child here
    simp only [places, atDepth, List.map_flatMap, inner]
    rw [← List.zipIdx_map_fst 0 tree.children, List.flatMap_map]
    simp

private theorem mem_places {n : Nat} {tree : SyntaxTree} {place : List Nat} :
    place ∈ places n tree ↔ place.length = n ∧ (tree.at? place).isSome = true := by
  induction n generalizing tree place with
  | zero =>
    cases place with
    | nil => simp [places, at?]
    | cons i place => simp [places]
  | succ n ih =>
    cases place with
    | nil => simp [places]
    | cons i place =>
      simp only [places, List.mem_flatMap, Prod.exists, List.mem_map, List.cons.injEq,
        List.mk_mem_zipIdx_iff_getElem?, at?, List.length_cons, Nat.add_right_cancel_iff]
      constructor
      · rintro ⟨child, _, found, _, below, rfl, rfl⟩
        rw [found]
        exact ih.1 below
      · rintro ⟨length, there⟩
        obtain ⟨sub, reached⟩ := Option.isSome_iff_exists.1 there
        obtain ⟨child, found, within⟩ := Option.bind_eq_some_iff.1 reached
        have below : place ∈ places n child := ih.2 ⟨length, by simp [within]⟩
        exact ⟨child, i, found, place, below, rfl, rfl⟩

private theorem pairwise_places (n : Nat) (tree : SyntaxTree) : (places n tree).Pairwise
    (· < ·) := by
  induction n generalizing tree with
  | zero => exact List.pairwise_singleton _ _
  | succ n ih =>
    rw [places, List.pairwise_flatMap]
    constructor
    · rintro ⟨child, i⟩ -
      rw [List.pairwise_map]
      exact (ih child).imp fun before => List.cons_lt_cons_iff.2 (.inr ⟨rfl, before⟩)
    · -- A child further left comes before the others, whatever is below.
      have positions : tree.children.zipIdx.Pairwise fun pair other => pair.2 < other.2 := by
        rw [← List.pairwise_map, List.zipIdx_map_snd]
        exact List.pairwise_lt_range'
      refine positions.imp fun left place here other there => ?_
      obtain ⟨_, -, rfl⟩ := List.mem_map.1 here
      obtain ⟨_, -, rfl⟩ := List.mem_map.1 there
      exact List.cons_lt_cons_iff.2 (.inl left)

private theorem size_le_sizeAll {tree : SyntaxTree} {row : List SyntaxTree} (member : tree ∈ row) :
    tree.size ≤ sizeAll row := by
  induction row with
  | nil => cases member
  | cons first row ih =>
    rcases List.mem_cons.1 member with rfl | later
    · simp [sizeAll]
    · have bound := ih later
      simp only [sizeAll]
      omega

private theorem length_lt_size {tree : SyntaxTree} {place : List Nat}
    (there : (tree.at? place).isSome = true) : place.length < tree.size := by
  induction place generalizing tree with
  | nil =>
    rw [size_eq]
    exact Nat.succ_pos _
  | cons i place ih =>
    obtain ⟨sub, reached⟩ := Option.isSome_iff_exists.1 there
    obtain ⟨child, found, within⟩ := Option.bind_eq_some_iff.1 reached
    have deeper : place.length < child.size := ih (by simp [within])
    have smaller := size_le_sizeAll (List.mem_of_getElem? found)
    rw [size_eq tree, List.length_cons]
    omega

theorem mem_allPlaces {tree : SyntaxTree} {place : List Nat} :
    place ∈ tree.allPlaces ↔ (tree.at? place).isSome = true := by
  simp only [allPlaces, List.mem_flatMap, List.mem_range, mem_places]
  constructor
  · rintro ⟨_, -, -, there⟩
    exact there
  · intro there
    exact ⟨place.length, length_lt_size there, rfl, there⟩

theorem pairwise_allPlaces (tree : SyntaxTree) : tree.allPlaces.Pairwise Precedes := by
  rw [allPlaces, List.pairwise_flatMap]
  constructor
  · intro n _
    have ordered := pairwise_places n tree
    refine ordered.imp_of_mem fun here there before => ?_
    have length := (mem_places.1 here).1
    have length' := (mem_places.1 there).1
    exact .inr ⟨length.trans length'.symm, before⟩
  · refine List.pairwise_lt_range.imp fun deeper place here other there => .inl ?_
    rw [(mem_places.1 here).1, (mem_places.1 there).1]
    exact deeper

theorem map_at?_allPlaces (tree : SyntaxTree) :
    tree.allPlaces.map tree.at? = tree.walk.map some := by
  simp only [allPlaces, walk_eq, List.map_flatMap, map_at?_places]

end PagePress.SyntaxTree
