import PagePress.Proofs.Store.Insertion

/-!
Batches against the puts that they could be split into. A batch whose contents are all there leaves
and answers what putting them one after the other does, names that occur more than once among them;
a batch that lacks a content anywhere leaves everything as it was, while the puts would have gone on.
-/

set_option autoImplicit false

namespace PagePress.Store

/-- Puts what is offered under names one after the other, and goes on behind a put that fails. -/
def putInTurn (s : Store) : List (String × Payload) → List (Except Failure Entry) × Store
  | [] => ([], s)
  | (name, payload) :: rest =>
    let (answer, s) := s.put name payload
    let (answers, s) := putInTurn s rest
    (answer :: answers, s)

private theorem eq_of_contents? {items : List (String × Payload)} {contents : List (String × Bytes)}
    (held : contents? items = some contents) :
    items = contents.map fun item => (item.1, some item.2) := by
  induction items generalizing contents with
  | nil =>
    obtain rfl := Option.some.inj held
    rfl
  | cons item rest ih =>
    obtain ⟨name, payload⟩ := item
    cases payload with
    | none => cases held
    | some content =>
      cases later : contents? rest with
      | none => simp [contents?, later] at held
      | some others =>
        simp only [contents?, later] at held
        obtain rfl := Option.some.inj held
        rw [List.map_cons, ih later]

private theorem contents?_eq_none_iff {items : List (String × Payload)} :
    contents? items = none ↔ ∃ item ∈ items, item.2 = none := by
  induction items with
  | nil => simp [contents?]
  | cons item rest ih =>
    obtain ⟨name, payload⟩ := item
    cases payload with
    | none => simp [contents?]
    | some content =>
      cases held : contents? rest <;> simp [contents?, held, ← ih]

private theorem putInTurn_contents (s : Store) (contents : List (String × Bytes)) :
    s.putInTurn (contents.map fun item => (item.1, some item.2)) =
      ((s.insertAll contents).1.map .ok, (s.insertAll contents).2) := by
  induction contents generalizing s with
  | nil => rfl
  | cons item rest ih =>
    rw [List.map_cons, putInTurn, put_some, ← insert_fst]
    simp only
    rw [ih]
    rfl

private theorem put_eq_error {s : Store} {name : String} {payload : Payload} {failure : Failure}
    (failed : (s.put name payload).1 = .error failure) :
    payload = none ∧ (s.put name payload).2 = { s with clock := s.clock.tick } := by
  cases payload with
  | none => exact ⟨rfl, rfl⟩
  | some content =>
    rw [put_some] at failed
    cases failed

/-- A batch is its puts one after the other if it offers all its contents, and nothing at all if it
does not. A put that fails leaves the entries and the packages as they were. -/
theorem batch_is_puts_in_turn_or_nothing (s : Store) (items : List (String × Payload)) :
    ((∀ item ∈ items, item.2 ≠ none) →
      ∃ entries, s.putMany items = (.ok entries, (s.putInTurn items).2) ∧
        (s.putInTurn items).1 = entries.map .ok) ∧
    ((∃ item ∈ items, item.2 = none) → s.putMany items = (.error .noContent, s)) ∧
    ∀ name payload failure, (s.put name payload).1 = .error failure →
      (s.put name payload).2.entries = s.entries ∧ (s.put name payload).2.members = s.members := by
  refine ⟨fun offered => ?_, fun lacking => ?_, fun name payload failure failed => ?_⟩
  · cases held : contents? items with
    | none =>
      obtain ⟨item, member, missing⟩ := contents?_eq_none_iff.1 held
      exact absurd missing (offered item member)
    | some contents =>
      have turns := putInTurn_contents s contents
      rw [← eq_of_contents? held] at turns
      exact ⟨(s.insertAll contents).1, by simp only [putMany, held, turns], by rw [turns]⟩
  · simp only [putMany, contents?_eq_none_iff.2 lacking]
  · rw [(put_eq_error failed).2]
    exact ⟨rfl, rfl⟩

/-- A name that a batch holds twice keeps the later content and the greater date; with a gap behind
them both nothing is stored, though the puts would have stored them. -/
theorem batch_with_a_name_twice :
    let s := empty ⟨7, [3, 5]⟩
    let twice : List (String × Payload) := [("pages.Home", some [1]), ("pages.Home", some [2])]
    let gap : List (String × Payload) := twice ++ [("pages.Menu", none)]
    (∃ entries, s.putMany twice = (.ok entries, (s.putInTurn twice).2) ∧
        (s.putInTurn twice).1 = entries.map .ok) ∧
      (s.putInTurn twice).2 = ⟨[⟨"pages.Home", [2], 7⟩], [("pages", ["pages.Home"])], ⟨5, []⟩⟩ ∧
      s.putMany gap = (.error .noContent, s) ∧ (s.putInTurn gap).2.size = 1 := by
  intro s twice gap
  exact ⟨(batch_is_puts_in_turn_or_nothing s twice).1 (by decide +kernel), by decide +kernel,
    (batch_is_puts_in_turn_or_nothing s gap).2.1 (by decide +kernel), by decide +kernel⟩

end PagePress.Store
