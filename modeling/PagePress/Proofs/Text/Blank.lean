import PagePress.Text.Blank

/-!
The words of a text. A text has none just when all of it is blank, and no word is empty. What the
words of a text are is stated on its own; there is one way to cut a text into words, and it is found.
A text without blanks has none around it either.
-/

set_option autoImplicit false

namespace PagePress.Text.Blank

private theorem words_cons (c : Char) (rest : List Char) :
    words (c :: rest) =
      if isBlank c then words rest
      else
        match rest.head?, words rest with
        | some d, word :: more => if isBlank d then [c] :: word :: more else (c :: word) :: more
        | _, _ => [c] :: words rest := by
  rfl

theorem words_eq_nil_iff (cs : List Char) : words cs = [] ↔ ∀ c ∈ cs, isBlank c = true := by
  induction cs with
  | nil => simp [words]
  | cons c rest ih =>
    rw [words_cons, List.forall_mem_cons]
    split
    · rename_i blank
      rw [ih, and_iff_right blank]
    · rename_i solid
      refine iff_of_false ?_ fun all => solid all.1
      split
      · split <;> exact List.cons_ne_nil _ _
      · exact List.cons_ne_nil _ _

theorem ne_nil_of_mem_words {cs word : List Char} (member : word ∈ words cs) : word ≠ [] := by
  induction cs generalizing word with
  | nil => cases member
  | cons c rest ih =>
    rw [words_cons] at member
    split at member
    · exact ih member
    · split at member
      · rename_i d first more ahead split
        have later {other : List Char} (inside : other ∈ more) : other ≠ [] :=
          ih (split ▸ List.mem_cons_of_mem first inside)
        split at member
        · rcases List.mem_cons.1 member with rfl | member
          · exact List.cons_ne_nil _ _
          · exact ih (split ▸ member)
        · rcases List.mem_cons.1 member with rfl | member
          · exact List.cons_ne_nil _ _
          · exact later member
      · rcases List.mem_cons.1 member with rfl | member
        · exact List.cons_ne_nil _ _
        · exact ih member

/-- What the words of a text are: runs of characters that are not blank, with blanks around them, and
one at least between neighbours. -/
inductive AreWords : List Char → List (List Char) → Prop
  | none {margin : List Char} (blanks : ∀ c ∈ margin, isBlank c = true) : AreWords margin []
  | word {margin word rest : List Char} {more : List (List Char)}
      (blanks : ∀ c ∈ margin, isBlank c = true) (filled : word ≠ [])
      (solid : ∀ c ∈ word, isBlank c = false) (apart : ∀ c ∈ rest.head?, isBlank c = true)
      (others : AreWords rest more) : AreWords (margin ++ (word ++ rest)) (word :: more)

private theorem words_append_of_blank {margin : List Char} (blanks : ∀ c ∈ margin, isBlank c = true)
    (cs : List Char) : words (margin ++ cs) = words cs := by
  induction margin with
  | nil => rfl
  | cons c margin ih =>
    obtain ⟨blank, others⟩ := List.forall_mem_cons.1 blanks
    rw [List.cons_append, words_cons, if_pos blank, ih others]

private theorem words_append_of_solid {word rest : List Char} (filled : word ≠ [])
    (solid : ∀ c ∈ word, isBlank c = false) (apart : ∀ c ∈ rest.head?, isBlank c = true) :
    words (word ++ rest) = word :: words rest := by
  induction word with
  | nil => exact absurd rfl filled
  | cons c word ih =>
    obtain ⟨first, others⟩ := List.forall_mem_cons.1 solid
    rw [List.cons_append, words_cons, if_neg (by simp [first])]
    cases word with
    | nil =>
      cases rest with
      | nil => rfl
      | cons d rest =>
        have blank : isBlank d = true := apart d rfl
        cases split : words (d :: rest) with
        | nil => simp [split]
        | cons next more => simp [split, blank]
    | cons d word =>
      have next : isBlank d = false := others d List.mem_cons_self
      have behind : words (d :: (word ++ rest)) = (d :: word) :: words rest :=
        ih (List.cons_ne_nil d word) others
      simp [behind, next]

private theorem AreWords.cons_blank {c : Char} {cs : List Char} {ws : List (List Char)}
    (cut : AreWords cs ws) (blank : isBlank c = true) : AreWords (c :: cs) ws := by
  cases cut with
  | none blanks => exact .none (List.forall_mem_cons.2 ⟨blank, blanks⟩)
  | @word margin word rest more blanks filled solid apart others =>
    have all : ∀ d ∈ c :: margin, isBlank d = true := List.forall_mem_cons.2 ⟨blank, blanks⟩
    exact .word all filled solid apart others

private theorem AreWords.cons_solid {c d : Char} {rest : List Char} {ws : List (List Char)}
    (cut : AreWords (d :: rest) ws) (solid : isBlank c = false) (next : isBlank d = false) :
    ∃ word more, ws = word :: more ∧ AreWords (c :: d :: rest) ((c :: word) :: more) := by
  generalize behind : d :: rest = cs at cut
  cases cut with
  | none blanks =>
    subst behind
    rw [blanks d List.mem_cons_self] at next
    cases next
  | @word margin word tail more blanks filled solids apart others =>
    cases margin with
    | nil =>
      have all : ∀ e ∈ c :: word, isBlank e = false := List.forall_mem_cons.2 ⟨solid, solids⟩
      refine ⟨word, more, rfl, ?_⟩
      rw [List.nil_append]
      exact .word blanks (List.cons_ne_nil c word) all apart others
    | cons e margin =>
      obtain ⟨rfl, -⟩ := List.cons.inj behind
      rw [blanks d List.mem_cons_self] at next
      cases next

private theorem areWords_words (cs : List Char) : AreWords cs (words cs) := by
  induction cs with
  | nil => exact .none nofun
  | cons c rest ih =>
    cases blank : isBlank c with
    | true =>
      rw [words_cons, if_pos blank]
      exact ih.cons_blank blank
    | false =>
      -- The character starts a word of its own, unless the next one is not blank either.
      have alone (apart : ∀ d ∈ rest.head?, isBlank d = true) :
          AreWords (c :: rest) (words (c :: rest)) := by
        have margin : ∀ d ∈ ([] : List Char), isBlank d = true := nofun
        have solid : ∀ d ∈ [c], isBlank d = false := by simpa using blank
        have split := words_append_of_solid (List.cons_ne_nil c []) solid apart
        rw [List.singleton_append] at split
        rw [split]
        exact .word margin (List.cons_ne_nil c []) solid apart ih
      cases rest with
      | nil => exact alone nofun
      | cons d rest =>
        cases next : isBlank d with
        | true => exact alone (by simpa using next)
        | false =>
          obtain ⟨word, more, split, cut⟩ := ih.cons_solid blank next
          rw [words_cons, if_neg (by simp [blank]), split]
          simpa [next] using cut

theorem areWords_iff {cs : List Char} {ws : List (List Char)} : AreWords cs ws ↔ words cs = ws := by
  constructor
  · intro cut
    induction cut with
    | none blanks => exact (words_eq_nil_iff _).2 blanks
    | word blanks filled solid apart others ih =>
      rw [words_append_of_blank blanks, words_append_of_solid filled solid apart, ih]
  · rintro rfl
    exact areWords_words cs

theorem trim_of_solid {cs : List Char} (solid : ∀ c ∈ cs, isBlank c = false) : trim cs = cs := by
  have whole {row : List Char} (solid : ∀ c ∈ row, isBlank c = false) :
      row.dropWhile isBlank = row := by
    cases row with
    | nil => rfl
    | cons c rest => exact List.dropWhile_cons_of_neg (by simp [solid c List.mem_cons_self])
  have turned : ∀ c ∈ cs.reverse, isBlank c = false := fun c member =>
    solid c (List.mem_reverse.1 member)
  rw [trim, whole solid, trimEnd, whole turned, List.reverse_reverse]

end PagePress.Text.Blank
