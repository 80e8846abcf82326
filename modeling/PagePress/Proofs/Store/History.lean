import Mathlib.Data.List.Induction
import PagePress.Proofs.Store.Consistency

/-!
Stores and what happened to them. A store that was only ever edited reads as one row of entries, each
under its own name, in the order of the moments since which the names have been stored. Its packages
stand in the order of the moments since which something has been stored in them, which the entries
alone do not tell.
-/

set_option autoImplicit false

namespace PagePress.Store

/-- What changes a store. An edit may be refused. -/
inductive Edit
  | put (name : String) (payload : Payload)
  | putMany (items : List (String × Payload))
  | remove (name : String)
  | clear

inductive Change
  | stored (name : String) (content : Bytes)
  | refused
  | removed (name : String)
  | cleared

def Edit.apply (s : Store) : Edit → Store
  | .put name payload => (s.put name payload).2
  | .putMany items => (s.putMany items).2
  | .remove name => (s.remove name).2
  | .clear => s.clear

/-- The store after a change. A content that is refused has been dated all the same. -/
def Change.apply (s : Store) : Change → Store
  | .stored name content => (s.insert name content).2
  | .refused => { s with clock := s.clock.tick }
  | .removed name => (s.remove name).2
  | .cleared => s.clear

/-- The changes that an edit is made of: a batch stores its contents one by one, or none of them. -/
def Edit.changes : Edit → List Change
  | .put name (some content) => [.stored name content]
  | .put _ none => [.refused]
  | .putMany items => ((contents? items).getD []).map fun item => .stored item.1 item.2
  | .remove name => [.removed name]
  | .clear => [.cleared]

def changesOf (edits : List Edit) : List Change := edits.flatMap Edit.changes

def edited (clock : Clock) (edits : List Edit) : Store := edits.foldl Edit.apply (empty clock)

def after (clock : Clock) (past : List Change) : Store := past.foldl Change.apply (empty clock)

theorem Edit.apply_eq (s : Store) (edit : Edit) :
    edit.apply s = edit.changes.foldl Change.apply s := by
  cases edit with
  | put name payload =>
    cases payload with
    | none => rfl
    | some content => simp [Edit.apply, Edit.changes, Change.apply, put_some]
  | putMany items =>
    simp only [Edit.apply, Edit.changes, Store.putMany]
    cases contents? items with
    | none => rfl
    | some contents =>
      simp only [Option.getD_some, List.foldl_map, insertAll_snd]
      rfl
  | remove name => rfl
  | clear => rfl

theorem edited_eq_after (clock : Clock) (edits : List Edit) :
    edited clock edits = after clock (changesOf edits) := by
  unfold edited after
  generalize empty clock = s
  induction edits generalizing s with
  | nil => rfl
  | cons edit rest ih =>
    have parts : changesOf (edit :: rest) = edit.changes ++ changesOf rest := List.flatMap_cons
    rw [List.foldl_cons, ih, Edit.apply_eq, parts, List.foldl_append]

def Change.leave (name : String) (before : Option Bytes) : Change → Option Bytes
  | .stored other content => if name = other then some content else before
  | .refused => before
  | .removed other => if name = other then none else before
  | .cleared => none

/-- What the past left under a name: the content stored last, unless it was taken away. -/
def left (name : String) (past : List Change) : Option Bytes := past.foldl (Change.leave name) none

def Stored (name : String) (past : List Change) : Prop := left name past ≠ none

/-- By the end of the past something is stored in a package. -/
def Filled (package : String) (past : List Change) : Prop :=
  ∃ name, Stored name past ∧ Name.packageOf name = package

theorem after_snoc (clock : Clock) (past : List Change) (change : Change) :
    after clock (past ++ [change]) = change.apply (after clock past) := by
  simp [after]

private theorem left_snoc (name : String) (past : List Change) (change : Change) :
    left name (past ++ [change]) = change.leave name (left name past) := by
  simp [left]

theorem consistent_after (clock : Clock) (past : List Change) : (after clock past).Consistent := by
  induction past using List.reverseRecOn with
  | nil => exact consistent_empty clock
  | append_singleton past change ih =>
    rw [after_snoc]
    cases change with
    | stored name content => exact ih.insert name content
    | refused => exact ⟨ih.names_nodup, ih.packages_nodup, ih.direct_eq, ih.direct_ne_nil⟩
    | removed name => exact ih.remove name
    | cleared => exact consistent_empty _

theorem Change.get?_apply (s : Store) (change : Change) (name : String) :
    (change.apply s).get? name = change.leave name (s.get? name) := by
  cases change with
  | stored other content => exact get?_insert s other name content
  | refused => rfl
  | removed other => exact get?_remove s other name
  | cleared => rfl

private theorem get?_after (clock : Clock) (past : List Change) (name : String) :
    (after clock past).get? name = left name past := by
  induction past using List.reverseRecOn with
  | nil => rfl
  | append_singleton past change ih =>
    rw [after_snoc, left_snoc, Change.get?_apply, ih]

theorem contains_after (clock : Clock) (past : List Change) (name : String) :
    (after clock past).contains name = true ↔ Stored name past := by
  rw [contains_eq_isSome_get?, get?_after, Option.isSome_iff_ne_none, Stored]

/-- Something has held since a moment: not yet of what came before the moment, but of all that the
past became from then on. -/
def Since (holds : List Change → Prop) (past : List Change) (moment : Nat) : Prop :=
  moment < past.length ∧ ¬ holds (past.take moment) ∧
    ∀ later, moment < later → later ≤ past.length → holds (past.take later)

/-- The keys that are there now, each once, in the order of the moments since which they are. -/
structure InOrder {κ : Type} (there : κ → List Change → Prop) (past : List Change)
    (keys : List κ) : Prop where
  mem_iff : ∀ key, key ∈ keys ↔ there key past
  nodup : keys.Nodup
  ordered : keys.Pairwise fun a b =>
    ∃ i j, Since (there a) past i ∧ Since (there b) past j ∧ i < j

section Order

variable {holds : List Change → Prop} {past : List Change} {change : Change}

private theorem Since.snoc {moment : Nat} (since : Since holds past moment)
    (still : holds (past ++ [change])) : Since holds (past ++ [change]) moment := by
  obtain ⟨within, not_yet, from_then⟩ := since
  refine ⟨?_, ?_, fun later behind bound => ?_⟩
  · rw [List.length_append]
    omega
  · rw [List.take_append_of_le_length (Nat.le_of_lt within)]
    exact not_yet
  · by_cases old : later ≤ past.length
    · rw [List.take_append_of_le_length old]
      exact from_then later behind old
    · rw [List.length_append, List.length_singleton] at bound
      rw [List.take_of_length_le]
      · exact still
      · rw [List.length_append, List.length_singleton]
        omega

private theorem since_now (not_yet : ¬ holds past) (now : holds (past ++ [change])) :
    Since holds (past ++ [change]) past.length := by
  refine ⟨by simp, by simpa using not_yet, fun later behind bound => ?_⟩
  rw [List.take_of_length_le]
  · exact now
  · rw [List.length_append, List.length_singleton]
    omega

theorem exists_since (never : ¬ holds []) (now : holds past) :
    ∃ moment, Since holds past moment := by
  induction past using List.reverseRecOn with
  | nil => exact absurd now never
  | append_singleton past change ih =>
    by_cases before : holds past
    · obtain ⟨moment, since⟩ := ih before
      exact ⟨moment, since.snoc now⟩
    · exact ⟨past.length, since_now before now⟩

/-- Keys that are only ever lost, or gained one by one at the end, stand in the order of the moments
since which they have been there. -/
private theorem inOrder {κ : Type} {there : κ → List Change → Prop} {keys : List Change → List κ}
    (never : ∀ key, ¬ there key []) (mem_iff : ∀ past key, key ∈ keys past ↔ there key past)
    (nodup : ∀ past, (keys past).Nodup)
    (moves : ∀ past change, (keys (past ++ [change])).Sublist (keys past) ∨
      ∃ key, keys (past ++ [change]) = keys past ++ [key]) (past : List Change) :
    InOrder there past (keys past) := by
  refine ⟨mem_iff past, nodup past, ?_⟩
  induction past using List.reverseRecOn with
  | nil =>
    have none : keys [] = [] := by
      rw [List.eq_nil_iff_forall_not_mem]
      exact fun key member => never key ((mem_iff [] key).1 member)
    rw [none]
    exact .nil
  | append_singleton past change ih =>
    have still (key : κ) (member : key ∈ keys (past ++ [change])) :
        there key (past ++ [change]) := (mem_iff _ key).1 member
    rcases moves past change with fewer | ⟨fresh, more⟩
    · refine (ih.sublist fewer).imp_of_mem ?_
      rintro a b first second ⟨i, j, sinceA, sinceB, before⟩
      exact ⟨i, j, sinceA.snoc (still a first), sinceB.snoc (still b second), before⟩
    · have distinct := nodup (past ++ [change])
      rw [more] at still distinct ⊢
      have absent : ¬ there fresh past := fun here => by
        have apart := List.disjoint_of_nodup_append distinct
        exact apart ((mem_iff past fresh).2 here) List.mem_cons_self
      refine List.pairwise_append.2 ⟨?_, List.pairwise_singleton _ _, ?_⟩
      · refine ih.imp_of_mem ?_
        rintro a b first second ⟨i, j, sinceA, sinceB, before⟩
        exact ⟨i, j, sinceA.snoc (still a (List.mem_append_left _ first)),
          sinceB.snoc (still b (List.mem_append_left _ second)), before⟩
      · rintro a old b new
        obtain rfl := List.mem_singleton.1 new
        obtain ⟨i, since⟩ := exists_since (never a) ((mem_iff past a).1 old)
        exact ⟨i, past.length, since.snoc (still a (List.mem_append_left _ old)),
          since_now absent (still b (List.mem_append_right _ new)), since.1⟩

end Order

theorem never_stored (name : String) : ¬ Stored name [] := fun stored => stored rfl

private theorem names_inOrder (clock : Clock) (past : List Change) :
    InOrder Stored past (after clock past).names := by
  have nodup (past : List Change) : (after clock past).names.Nodup :=
    (consistent_after clock past).names_nodup
  refine inOrder never_stored (fun past name => ?_) nodup (fun past change => ?_) past
  · rw [mem_names, contains_after]
  · rw [after_snoc]
    cases change with
    | stored name content =>
      rw [Change.apply, names_insert]
      split
      · exact .inl (.refl _)
      · exact .inr ⟨name, rfl⟩
    | refused => exact .inl (.refl _)
    | removed name =>
      rw [Change.apply, names_remove]
      exact .inl List.filter_sublist
    | cleared => exact .inl (List.nil_sublist _)

/-- The packages stand in the order of the moments since which something has been stored in them. -/
theorem packages_inOrder (clock : Clock) (past : List Change) :
    InOrder Filled past (after clock past).packages := by
  refine inOrder (fun package filled => ?_) (fun past package => ?_)
    (fun past => (consistent_after clock past).packages_nodup) (fun past change => ?_) past
  · obtain ⟨name, stored, -⟩ := filled
    exact never_stored name stored
  · simp only [(consistent_after clock past).mem_packages, contains_after, Filled]
  · rw [after_snoc]
    cases change with
    | stored name content =>
      rw [Change.apply, packages_insert]
      split
      · exact .inl (.refl _)
      · exact .inr ⟨Name.packageOf name, rfl⟩
    | refused => exact .inl (.refl _)
    | removed name => exact .inl (packages_remove_sublist _ name)
    | cleared => exact .inl (List.nil_sublist _)

/-- A store reads as a row of entries: every observer answers from the row, and whatever is in the
row can be taken out of the store. -/
structure ReadsAs (s : Store) (entries : List Entry) : Prop where
  entry : ∀ name, s.entry? name = entries.find? fun e => e.name == name
  content : ∀ name, s.get? name = (entries.find? fun e => e.name == name).map Entry.content
  contained : ∀ name, s.contains name = entries.any fun e => e.name == name
  size : s.size = entries.length
  listed : ∀ package, s.list package false =
    (entries.filter fun e => Name.packageOf e.name == package).map Entry.name
  listed_once : ∀ name package, (s.list package false).count name =
    if (entries.any fun e => e.name == name) = true ∧ Name.packageOf name = package then 1 else 0
  removable : ∀ name, (s.remove name).1 = .ok (entries.any fun e => e.name == name)

private theorem Consistent.readsAs {s : Store} (h : s.Consistent) : s.ReadsAs s.entries := by
  have contained (name : String) : s.contains name = s.entries.any fun e => e.name == name := by
    rw [Bool.eq_iff_iff, contains_iff]
    simp
  refine ⟨fun _ => rfl, fun _ => rfl, contained, rfl, fun package => ?_, fun name package => ?_,
    fun name => ?_⟩
  · rw [list_false, h.direct_eq]
    rfl
  · rw [list_false, ← contained, (h.nodup_direct package).count]
    simp only [h.mem_direct]
  · rw [h.fst_remove, contained]

/-- A store is an ordered map. Whatever edits were made, refused ones among them, it reads as one row
of entries, which hold what was stored last under their names. The names stand in the order in which
they came to be stored, and the packages in the order in which they came to be filled. -/
theorem edited_reads_as_ordered_map (clock : Clock) (edits : List Edit) :
    ∃ entries, (edited clock edits).ReadsAs entries ∧
      (∀ name, (edited clock edits).get? name = left name (changesOf edits)) ∧
      InOrder Stored (changesOf edits) (entries.map Entry.name) ∧
      InOrder Filled (changesOf edits) (edited clock edits).packages := by
  rw [edited_eq_after]
  exact ⟨_, (consistent_after clock _).readsAs, get?_after clock _, names_inOrder clock _,
    packages_inOrder clock _⟩

-- A package keeps its place when its first name goes, so it can stand in front of one whose names
-- are older.
example :
    let s := edited ⟨0, []⟩ [.put "a.x" (some [0]), .put "b.y" (some [0]), .put "a.z" (some [0]),
      .remove "a.x"]
    s.names = ["b.y", "a.z"] ∧ s.packages = ["a", "b"] := by
  decide +kernel

end PagePress.Store
