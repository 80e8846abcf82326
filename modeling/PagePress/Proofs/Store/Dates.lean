import Mathlib.Order.Bounds.Basic
import PagePress.Proofs.Store.History

/-!
The dates of stored names. Every content that is offered for storing takes one reading of the clock,
also a content that is refused; the clock may go back. A name that is stored has the greatest of the
readings taken for it since it has been stored, so its date never falls while it stays.
-/

set_option autoImplicit false

namespace PagePress

private theorem Clock.advance_succ (n : Nat) (c : Clock) : advance (n + 1) c =
    (advance n c).tick := by
  induction n generalizing c with
  | zero => rfl
  | succ n ih => exact ih c.tick

namespace Store

def Change.readings : Change → Nat
  | .stored _ _ | .refused => 1
  | .removed _ | .cleared => 0

def taken (past : List Change) : Nat := past.foldl (fun count change => count + change.readings) 0

private theorem taken_snoc (past : List Change) (change : Change) :
    taken (past ++ [change]) = taken past + change.readings := List.foldl_concat _ _ _ _

def reading (clock : Clock) (past : List Change) (moment : Nat) : Int :=
  (clock.advance (taken (past.take moment))).now

/-- The readings that were taken from a moment on for contents stored under a name. -/
def readingsFor (clock : Clock) (name : String) (past : List Change) (since : Nat) : Set Int :=
  {date | ∃ moment content, since ≤ moment ∧ past[moment]? = some (.stored name content) ∧
    reading clock past moment = date}

private theorem Change.clock_apply (s : Store) (change : Change) :
    (change.apply s).clock = s.clock.advance change.readings := by
  cases change with
  | stored name content =>
    simp only [Change.apply, Store.insert]
    split <;> rfl
  | refused => rfl
  | removed name => exact clock_remove s name
  | cleared => rfl

private theorem clock_after (clock : Clock) (past : List Change) :
    (after clock past).clock = clock.advance (taken past) := by
  induction past using List.reverseRecOn with
  | nil => rfl
  | append_singleton past change ih =>
    rw [after_snoc, Change.clock_apply, ih, taken_snoc]
    cases change with
    | stored | refused => exact (Clock.advance_succ _ clock).symm
    | removed | cleared => rfl

private theorem reading_of_le {clock : Clock} {past : List Change} {moment : Nat}
    (within : moment ≤ past.length) (more : List Change) :
    reading clock (past ++ more) moment = reading clock past moment := by
  rw [reading, reading, List.take_append_of_le_length within]

private theorem reading_length (clock : Clock) (past : List Change) :
    reading clock past past.length = (after clock past).clock.now := by
  rw [reading, List.take_length, clock_after]

section Snoc

variable {clock : Clock} {name : String} {past : List Change} {change : Change} {since : Nat}

private theorem mem_readingsFor_snoc {date : Int} :
    date ∈ readingsFor clock name (past ++ [change]) since ↔
      date ∈ readingsFor clock name past since ∨
        (since ≤ past.length ∧ ∃ content, change = .stored name content) ∧
          (after clock past).clock.now = date := by
  constructor
  · rintro ⟨moment, content, behind, happened, rfl⟩
    rcases Nat.lt_trichotomy moment past.length with old | rfl | beyond
    · rw [List.getElem?_append_left old] at happened
      rw [reading_of_le (Nat.le_of_lt old)]
      exact .inl ⟨moment, content, behind, happened, rfl⟩
    · rw [List.getElem?_concat_length, Option.some.injEq] at happened
      rw [reading_of_le (Nat.le_refl _), reading_length]
      exact .inr ⟨⟨behind, content, happened⟩, rfl⟩
    · rw [List.getElem?_eq_none (by simpa using Nat.succ_le_of_lt beyond)] at happened
      cases happened
  · rintro (⟨moment, content, behind, happened, rfl⟩ | ⟨⟨behind, content, rfl⟩, rfl⟩)
    · have old : moment < past.length := (List.getElem?_eq_some_iff.1 happened).1
      refine ⟨moment, content, behind, ?_, reading_of_le (Nat.le_of_lt old) _⟩
      rw [List.getElem?_append_left old, happened]
    · refine ⟨past.length, content, behind, List.getElem?_concat_length, ?_⟩
      rw [reading_of_le (Nat.le_refl _), reading_length]

private theorem readingsFor_of_stored {content : Bytes} (behind : since ≤ past.length) :
    readingsFor clock name (past ++ [.stored name content]) since =
      Insert.insert (after clock past).clock.now (readingsFor clock name past since) := by
  ext date
  rw [mem_readingsFor_snoc, Set.mem_insert_iff]
  constructor
  · rintro (old | ⟨-, rfl⟩)
    · exact .inr old
    · exact .inl rfl
  · rintro (rfl | old)
    · exact .inr ⟨⟨behind, content, rfl⟩, rfl⟩
    · exact .inl old

private theorem readingsFor_of_other (other : ∀ content, change ≠ .stored name content) :
    readingsFor clock name (past ++ [change]) since = readingsFor clock name past since := by
  ext date
  rw [mem_readingsFor_snoc]
  constructor
  · rintro (old | ⟨⟨-, content, same⟩, -⟩)
    · exact old
    · exact absurd same (other content)
  · exact .inl

private theorem readingsFor_length : readingsFor clock name past past.length = ∅ := by
  refine Set.eq_empty_of_forall_notMem ?_
  rintro date ⟨moment, content, behind, happened, -⟩
  exact absurd (List.getElem?_eq_some_iff.1 happened).1 (Nat.not_lt.2 behind)

end Snoc

private theorem Since.of_snoc {holds : List Change → Prop} {past : List Change} {change : Change}
    {moment : Nat} (since : Since holds (past ++ [change]) moment) :
    Since holds past moment ∨ moment = past.length ∧ ¬ holds past := by
  obtain ⟨within, not_yet, from_then⟩ := since
  rw [List.length_append, List.length_singleton] at within from_then
  rcases Nat.lt_or_eq_of_le (Nat.le_of_lt_succ within) with old | rfl
  · rw [List.take_append_of_le_length (Nat.le_of_lt old)] at not_yet
    refine .inl ⟨old, not_yet, fun later behind bound => ?_⟩
    have held := from_then later behind (Nat.le_succ_of_le bound)
    rwa [List.take_append_of_le_length bound] at held
  · rw [List.take_left] at not_yet
    exact .inr ⟨rfl, not_yet⟩

private theorem Since.holds {holds : List Change → Prop} {past : List Change} {moment : Nat}
    (since : Since holds past moment) : holds past := by
  have now := since.2.2 past.length since.1 (Nat.le_refl _)
  rwa [List.take_length] at now

private theorem storedAt?_insert (s : Store) (name other : String) (content : Bytes) :
    (s.insert name content).2.storedAt? other =
      if other = name then some (s.dated name content).storedAt else s.storedAt? other := by
  rw [storedAt?, entry?_insert]
  split <;> rfl

private theorem storedAt?_remove (s : Store) (name other : String) :
    (s.remove name).2.storedAt? other = if other = name then none else s.storedAt? other := by
  rw [storedAt?, entry?_remove]
  split <;> rfl

private theorem storedAt_dated (s : Store) (name : String) (content : Bytes) :
    (s.dated name content).storedAt =
      (s.storedAt? name).elim s.clock.now fun date => max date s.clock.now := by
  unfold dated storedAt?
  cases s.entry? name <;> rfl

private theorem isSome_storedAt? (s : Store) (name : String) :
    (s.storedAt? name).isSome = s.contains name := by
  rw [storedAt?, contains, Option.isSome_map]

private theorem isSome_storedAt?_after (clock : Clock) (past : List Change) (name : String) :
    ((after clock past).storedAt? name).isSome = true ↔ Stored name past := by
  rw [isSome_storedAt?, contains_after]

def Change.Takes (name : String) : Change → Prop
  | .removed other => other = name
  | .cleared => True
  | .stored _ _ | .refused => False

private theorem Change.storedAt?_apply {s : Store} {change : Change} {name : String}
    (other : ∀ content, change ≠ .stored name content) (spares : ¬ change.Takes name) :
    (change.apply s).storedAt? name = s.storedAt? name := by
  cases change with
  | stored name' content =>
    have apart : name ≠ name' := fun same => other content (same ▸ rfl)
    rw [Change.apply, storedAt?_insert, if_neg apart]
  | refused => rfl
  | removed name' =>
    have apart : name ≠ name' := fun same => spares same.symm
    rw [Change.apply, storedAt?_remove, if_neg apart]
  | cleared => exact absurd trivial spares

private theorem Change.storedAt?_apply_of_takes {s : Store} {change : Change} {name : String}
    (takes : change.Takes name) : (change.apply s).storedAt? name = none := by
  cases change with
  | stored | refused => exact takes.elim
  | removed other =>
    obtain rfl : other = name := takes
    rw [Change.apply, storedAt?_remove, if_pos rfl]
  | cleared => rfl

private theorem isGreatest_date (clock : Clock) {name : String} {past : List Change} {since : Nat}
    (held : Since (Stored name) past since) :
    ∃ date, (after clock past).storedAt? name = some date ∧
      IsGreatest (readingsFor clock name past since) date := by
  induction past using List.reverseRecOn with
  | nil => exact absurd held.1 (Nat.not_lt_zero since)
  | append_singleton past change ih =>
    have dated := (isSome_storedAt?_after clock _ name).2 held.holds
    rw [after_snoc] at dated ⊢
    by_cases stores : ∃ content, change = .stored name content
    · obtain ⟨content, rfl⟩ := stores
      rw [Change.apply, storedAt?_insert, if_pos rfl, storedAt_dated]
      refine ⟨_, rfl, ?_⟩
      rcases held.of_snoc with earlier | ⟨rfl, fresh⟩
      · obtain ⟨date, known, greatest⟩ := ih earlier
        rw [known, Option.elim_some, max_comm, readingsFor_of_stored (Nat.le_of_lt earlier.1)]
        exact greatest.insert _
      · -- The name comes to be stored, so its first reading is all there is.
        rw [← isSome_storedAt?_after clock, Bool.not_eq_true, Option.isSome_eq_false_iff,
          Option.isNone_iff_eq_none] at fresh
        rw [fresh, Option.elim_none, readingsFor_of_stored (Nat.le_refl _), readingsFor_length,
          insert_empty_eq]
        exact isGreatest_singleton
    · have other : ∀ content, change ≠ .stored name content :=
        fun content same => stores ⟨content, same⟩
      by_cases takes : change.Takes name
      · rw [Change.storedAt?_apply_of_takes takes] at dated
        cases dated
      · rw [Change.storedAt?_apply other takes] at dated ⊢
        rw [readingsFor_of_other other]
        rcases held.of_snoc with earlier | ⟨-, fresh⟩
        · exact ih earlier
        · exact absurd ((isSome_storedAt?_after clock past name).1 dated) fresh

private theorem Change.le_date {s : Store} {change : Change} {name : String}
    (spares : ¬ change.Takes name) {date : Int} (dated : s.storedAt? name = some date) :
    ∃ later, (change.apply s).storedAt? name = some later ∧ date ≤ later := by
  by_cases stores : ∃ content, change = .stored name content
  · obtain ⟨content, rfl⟩ := stores
    refine ⟨max date s.clock.now, ?_, le_max_left _ _⟩
    rw [Change.apply, storedAt?_insert, if_pos rfl, storedAt_dated, dated, Option.elim_some]
  · have other : ∀ content, change ≠ .stored name content :=
      fun content same => stores ⟨content, same⟩
    exact ⟨date, by rw [Change.storedAt?_apply other spares, dated], le_refl date⟩

private theorem le_date_of_spared {name : String} {changes : List Change}
    (spared : ∀ change ∈ changes, ¬ change.Takes name) {s : Store} {date : Int}
    (dated : s.storedAt? name = some date) :
    ∃ later, (changes.foldl Change.apply s).storedAt? name = some later ∧ date ≤ later := by
  induction changes generalizing s date with
  | nil => exact ⟨date, dated, le_refl date⟩
  | cons change rest ih =>
    obtain ⟨first, others⟩ := List.forall_mem_cons.1 spared
    obtain ⟨next, dated', step⟩ := change.le_date first dated
    obtain ⟨later, known, run⟩ := ih others dated'
    exact ⟨later, known, step.trans run⟩

/-- Whatever the clock reads and whatever is done to a store, a name has a date exactly while it is
stored, namely the greatest of the readings that were taken for it since then. From any moment to a
later one its date does not fall, unless the name is taken away in between. -/
theorem date_is_greatest_reading (clock : Clock) (edits : List Edit) (name : String) :
    let past := changesOf edits
    (∀ date, (edited clock edits).storedAt? name = some date ↔
      ∃ since, Since (Stored name) past since ∧
        IsGreatest (readingsFor clock name past since) date) ∧
    ∀ i j, i ≤ j → (∀ change ∈ (past.take j).drop i, ¬ change.Takes name) →
      ∀ date, (after clock (past.take i)).storedAt? name = some date →
        ∃ later, (after clock (past.take j)).storedAt? name = some later ∧ date ≤ later := by
  intro past
  refine ⟨fun date => ?_, fun i j order spared date dated => ?_⟩
  · rw [edited_eq_after]
    constructor
    · intro dated
      have stored := (isSome_storedAt?_after clock _ name).1 (by rw [dated, Option.isSome_some])
      obtain ⟨since, held⟩ := exists_since (never_stored name) stored
      obtain ⟨date', known, greatest⟩ := isGreatest_date clock held
      obtain rfl : date = date' := Option.some.inj (dated.symm.trans known)
      exact ⟨since, held, greatest⟩
    · rintro ⟨since, held, greatest⟩
      obtain ⟨date', known, greatest'⟩ := isGreatest_date clock held
      rw [known, greatest.unique greatest']
  · have front : (past.take j).take i = past.take i := by
      rw [List.take_take, Nat.min_eq_left order]
    have split : past.take j = past.take i ++ (past.take j).drop i := by
      rw [← front, List.take_append_drop]
    rw [split, after, List.foldl_append]
    exact le_date_of_spared spared dated

-- The refused content takes the reading 9, so the batch is dated from 4 on; `a` keeps its 7, and `b`
-- is dated anew after it was taken away.
example :
    let s := edited ⟨7, [8, 9, 4, 5, 2]⟩ [.put "a" (some [0]), .put "b" (some [0]), .put "a" none,
      .remove "b", .putMany [("a", some [1]), ("b", some [1]), ("b", some [2])]]
    s.storedAt? "a" = some 7 ∧ s.storedAt? "b" = some 5 := by
  decide +kernel

end Store

end PagePress
