import PagePress.Proofs.Files.Writing

/-!
What a path leads to on a disk, and on one with more directories. Reading a path depends on nothing
but what its parts lead to. Where new directories stand in the way of what led to nothing, it leads
to nothing still, or to a name that is too long.
-/

set_option autoImplicit false

namespace PagePress.Disk

/-- What a way leads to: a node, nothing, or what cannot be passed. -/
def landed (d : Disk) (spot : Address) (way : List String) : Except Obstacle (Option Node) :=
  match d.walk spot way with
  | .ok reached => .ok (d.node? reached)
  | .error .missing => .ok none
  | .error obstacle => .error obstacle

section Landed

variable {d d' : Disk} {spot : Address} {way : List String}

theorem landed_append {front rest : List String} {middle : Address}
    (walked : d.walk spot front = .ok middle) :
    d.landed spot (front ++ rest) = d.landed middle rest := by
  rw [landed, walk_append, walked]
  rfl

theorem landed_of_none (absent : d.node? spot = none) : d.landed spot way = .ok none := by
  cases way with
  | nil => simp [landed, walk, absent]
  | cons part rest => simp [landed, walk, absent]

theorem landed_cons {part : String} {rest : List String} (down : GoesDown part)
    (here : d.node? spot = some .directory) :
    d.landed spot (part :: rest) =
      if nameLimit < part.utf8ByteSize then .error .nameTooLong
      else d.landed (spot ++ [part]) rest := by
  rw [landed, walk_cons_of_goesDown down here]
  split_ifs
  · rfl
  · rfl

private theorem landed_cons_of_file {part : String} {rest : List String} {node : Node}
    (here : d.node? spot = some node) (isFile : node.isFile = true) :
    d.landed spot (part :: rest) = .error .noDirectory := by
  cases node with
  | directory => cases isFile
  | file | archive => simp [landed, walk, here]

private theorem IsTree.node?_below (tree : d.IsTree) (absent : d.node? spot = none)
    (part : String) :
    d.node? (spot ++ [part]) = none := by
  cases here : d.node? (spot ++ [part]) with
  | none => rfl
  | some node =>
    have there := mem_of_node? (by simp) here
    rw [tree.directory there (List.cons_ne_nil part [])] at absent
    cases absent

/-- A way that passes new directories leads to what it led to, unless it comes to a name that is too
long, where it led to nothing before. -/
theorem landed_grown (tree : d.IsTree) (down : ∀ part ∈ way, GoesDown part)
    (grown : ∀ front rest, way = front ++ rest → rest ≠ [] →
      d'.node? (spot ++ front) = d.node? (spot ++ front) ∨
        (d.node? (spot ++ front) = none ∧ d'.node? (spot ++ front) = some .directory))
    (last : d'.node? (spot ++ way) = d.node? (spot ++ way)) :
    d'.landed spot way = d.landed spot way ∨
      (d.landed spot way = .ok none ∧ d'.landed spot way = .error .nameTooLong ∧
        ∃ part ∈ way, nameLimit < part.utf8ByteSize) := by
  induction way generalizing spot with
  | nil =>
    rw [List.append_nil] at last
    exact .inl (by simp [landed, walk, last])
  | cons part rest ih =>
    obtain ⟨first, others⟩ := List.forall_mem_cons.1 down
    have later := @ih (spot ++ [part]) others
      (fun front tail split below => by
        have held := grown (part :: front) tail (by simp [split]) below
        rwa [List.append_cons] at held)
      (by rwa [List.append_cons] at last)
    have here := grown [] (part :: rest) rfl (List.cons_ne_nil part rest)
    rw [List.append_nil] at here
    rcases here with same | ⟨absent, made⟩
    · cases old : d.node? spot with
      | none => exact .inl (by rw [landed_of_none old, landed_of_none (same.trans old)])
      | some node =>
        by_cases isFile : node.isFile = true
        · left
          rw [landed_cons_of_file old isFile, landed_cons_of_file (same.trans old) isFile]
        · obtain rfl : node = .directory := by cases node <;> first | rfl | exact absurd rfl isFile
          rw [landed_cons first old, landed_cons first (same.trans old)]
          split_ifs
          · exact .inl rfl
          · refine later.imp_right ?_
            rintro ⟨nothing, long, part', member, size⟩
            exact ⟨nothing, long, part', List.mem_cons_of_mem part member, size⟩
    · -- Nothing stood here, so nothing stood further on.
      have below : d.landed (spot ++ [part]) rest = .ok none :=
        landed_of_none (tree.node?_below absent part)
      rw [landed_of_none absent, landed_cons first made]
      split_ifs with long
      · exact .inr ⟨rfl, rfl, part, List.mem_cons_self, long⟩
      · rw [below] at later
        refine later.imp_right ?_
        rintro ⟨nothing, long, part', member, size⟩
        exact ⟨nothing, long, part', List.mem_cons_of_mem part member, size⟩

theorem read_eq (d : Disk) (p : Path) :
    d.read p =
      if hasNull p.parts then .error .nullByte
      else if pathLimit < p.toString.utf8ByteSize then .error (.nameTooLong p.toString)
      else
        match d.landed (d.origin p.anchor) p.parts with
        | .ok none => .error (.missing p.toString)
        | .ok (some .directory) => .error (.directory p.toString)
        | .ok (some node) => .ok node
        | .error obstacle => .error (obstacle.error p.toString) := by
  simp only [read, readAt, locate, landed]
  split_ifs
  · rfl
  · rfl
  · cases d.walk (d.origin p.anchor) p.parts with
    | error obstacle => cases obstacle <;> rfl
    | ok reached =>
      simp only [Except.mapError, bind, Except.bind]
      cases d.node? reached with
      | none => rfl
      | some node => cases node <;> rfl

theorem exists_read_error {p : Path}
    (nothing : ∀ node, d.landed (d.origin p.anchor) p.parts ≠ .ok (some node)) :
    ∃ e, d.read p = .error e := by
  rw [read_eq]
  split_ifs
  · exact ⟨_, rfl⟩
  · exact ⟨_, rfl⟩
  · cases answer : d.landed (d.origin p.anchor) p.parts with
    | error obstacle => exact ⟨_, rfl⟩
    | ok node =>
      cases node with
      | none => exact ⟨_, rfl⟩
      | some node => exact absurd answer (nothing node)

section Reading

variable {p : Path} (speakable : hasNull p.parts = false)
  (short : p.toString.utf8ByteSize ≤ pathLimit)

include speakable short

theorem read_of_nothing (nothing : d.landed (d.origin p.anchor) p.parts = .ok none) :
    d.read p = .error (.missing p.toString) := by
  rw [read_eq, if_neg (by simp [speakable]), if_neg (Nat.not_lt.2 short), nothing]

theorem read_of_obstacle {obstacle : Obstacle}
    (stopped : d.landed (d.origin p.anchor) p.parts = .error obstacle) :
    d.read p = .error (obstacle.error p.toString) := by
  rw [read_eq, if_neg (by simp [speakable]), if_neg (Nat.not_lt.2 short), stopped]

end Reading

theorem read_eq_ok_iff {p : Path} {node : Node} :
    d.read p = .ok node ↔
      ∃ reached, d.address p = .ok reached ∧ d.node? reached = some node ∧ node.isFile = true := by
  change (d.address p).bind _ = _ ↔ _
  cases d.address p with
  | error e => simp [Except.bind]
  | ok reached =>
    simp only [Except.bind, Except.ok.injEq, exists_eq_left']
    rcases d.node? reached with _ | _ | _ | _
    · simp
    · simp only [reduceCtorEq, Option.some.injEq, false_iff, not_and]
      rintro rfl isFile
      cases isFile
    · simp only [pure, Except.pure, Except.ok.injEq, Option.some.injEq, iff_self_and]
      rintro rfl
      rfl
    · simp only [pure, Except.pure, Except.ok.injEq, Option.some.injEq, iff_self_and]
      rintro rfl
      rfl

end Landed

/-- A path goes up only from directories that are there: behind a directory that its first parts lead
to, all its parts go down. -/
def RisesInside (d : Disk) (p : Path) : Prop :=
  ∃ front rest base, p.parts = front ++ rest ∧ d.walk (d.origin p.anchor) front = .ok base ∧
    d.node? base = some .directory ∧ ∀ part ∈ rest, GoesDown part

end PagePress.Disk
