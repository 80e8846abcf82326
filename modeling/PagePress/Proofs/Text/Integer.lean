import Mathlib.Data.List.TakeWhile
import PagePress.Text.Integer

/-!
Texts that are made of digits, read as integers. Not every digit counts there: a text of digits is
read exactly when all of them are decimal ones and it is no longer than the limit.
-/

set_option autoImplicit false

namespace PagePress.Text

namespace Digit

private theorem rows_apart :
    (∀ z ∈ zeros, ∀ r ∈ Blank.runs, z + 9 < r.1 ∨ r.2 < z) ∧
      ∀ o ∈ ornamentRuns, ∀ r ∈ Blank.runs, o.2 < r.1 ∨ r.2 < o.1 := by
  decide +kernel

theorem isBlank_of_isDigit {c : Char} (digit : isDigit c = true) : Blank.isBlank c = false := by
  obtain ⟨decimals, ornaments⟩ := rows_apart
  rw [Bool.eq_false_iff]
  intro blank
  obtain ⟨run, member, within⟩ := List.any_eq_true.1 blank
  simp only [Bool.and_eq_true, decide_eq_true_eq] at within
  rcases Bool.or_eq_true_iff.1 digit with decimal | ornament
  · obtain ⟨n, value⟩ := Option.isSome_iff_exists.1 decimal
    obtain ⟨z, found, -⟩ := Option.map_eq_some_iff.1 value
    have bounds := List.find?_some found
    simp only [Bool.and_eq_true, decide_eq_true_eq] at bounds
    have apart := decimals z (List.mem_of_find?_eq_some found) run member
    omega
  · obtain ⟨row, listed, inside⟩ := List.any_eq_true.1 ornament
    simp only [Bool.and_eq_true, decide_eq_true_eq] at inside
    have apart := ornaments row listed run member
    omega

theorem ne_of_isDigit {c d : Char} (digit : isDigit c = true) (other : isDigit d = false) :
    c ≠ d := by
  rintro rfl
  rw [other] at digit
  cases digit

end Digit

namespace Integer

/-- Whether a text of digits is a number: all of them are decimal, and there are not too many. -/
def isReadable (text : String) : Bool :=
  text.toList.all Digit.isDecimal && decide (text.toList.length ≤ digitLimit)

def digitFault (text : String) : Fault :=
  let run := text.toList.takeWhile Digit.isDecimal
  if digitLimit < run.length then .tooLong run.length else .malformed text

private theorem wellSeparated_of_ne_separator {run : List Char} (filled : run ≠ [])
    (digits : ∀ c ∈ run, c ≠ '_') : wellSeparated run = true := by
  induction run with
  | nil => exact absurd rfl filled
  | cons c rest ih =>
    cases rest with
    | nil => simpa [wellSeparated] using digits c (by simp)
    | cons d rest =>
      have first : c ≠ '_' := digits c (by simp)
      have others := ih (by simp) fun e member => digits e (List.mem_cons_of_mem c member)
      simp [wellSeparated, first, others]

private theorem inRun_of_isDigit {c : Char} (digit : Digit.isDigit c = true) :
    inRun c = Digit.isDecimal c := by
  have other : c ≠ '_' := Digit.ne_of_isDigit digit (by decide +kernel)
  simp [inRun, other]

private theorem isMargin_of_isDigit {c : Char} (digit : Digit.isDigit c = true) :
    isMargin c = false := by
  simp [isMargin, Digit.isBlank_of_isDigit digit]

private theorem spans_eq {cs : List Char} (digits : ∀ c ∈ cs, Digit.isDigit c = true) :
    cs.takeWhile inRun = cs.takeWhile Digit.isDecimal ∧
      cs.dropWhile inRun = cs.dropWhile Digit.isDecimal := by
  induction cs with
  | nil => exact ⟨rfl, rfl⟩
  | cons c rest ih =>
    have same := inRun_of_isDigit (digits c (by simp))
    obtain ⟨taken, dropped⟩ := ih fun d member => digits d (List.mem_cons_of_mem c member)
    simp only [List.takeWhile_cons, List.dropWhile_cons, same, taken, dropped]
    exact ⟨trivial, trivial⟩

private theorem takeSign_of_digits {cs : List Char} (digits : ∀ c ∈ cs, Digit.isDigit c = true) :
    takeSign (cs.dropWhile isMargin) = (false, cs) := by
  cases cs with
  | nil => rfl
  | cons c rest =>
    have digit := digits c (by simp)
    have plus : c ≠ '+' := Digit.ne_of_isDigit digit (by decide +kernel)
    have minus : c ≠ '-' := Digit.ne_of_isDigit digit (by decide +kernel)
    rw [List.dropWhile_cons_of_neg (by simp [isMargin_of_isDigit digit])]
    simp [takeSign, plus, minus]

private theorem filter_separator {run : List Char} (digits : ∀ c ∈ run, c ≠ '_') :
    run.filter (· != '_') = run := List.filter_eq_self.2 fun c member => by simpa using digits c member

theorem read_of_digits {text : String} (filled : text.toList ≠ [])
    (digits : ∀ c ∈ text.toList, Digit.isDigit c = true) :
    read text =
      if isReadable text then .ok (valueOf text.toList : Int) else .error (digitFault text) := by
  obtain ⟨taken, dropped⟩ := spans_eq digits
  have members (c : Char) (member : c ∈ text.toList.takeWhile Digit.isDecimal) : c ≠ '_' :=
    Digit.ne_of_isDigit (digits c ((List.takeWhile_sublist _).subset member)) (by decide +kernel)
  simp only [read, takeSign_of_digits digits, taken, dropped, filter_separator members]
  by_cases bare : text.toList.takeWhile Digit.isDecimal = []
  · -- The first digit is no decimal one.
    have unreadable : isReadable text = false := by
      rw [isReadable, Bool.and_eq_false_iff]
      left
      rw [← Bool.not_eq_true, List.all_eq_true]
      intro decimals
      rw [List.takeWhile_eq_self_iff.2 decimals] at bare
      exact filled bare
    simp [bare, wellSeparated, unreadable, digitFault]
  · have separated := wellSeparated_of_ne_separator bare members
    have front : ((text.toList.takeWhile Digit.isDecimal).head? == some '_') = false := by
      rw [beq_eq_false_iff_ne]
      intro first
      exact members '_' (List.mem_of_mem_head? first) rfl
    simp only [front, separated, Bool.not_true, Bool.or_false, Bool.false_eq_true, if_false]
    by_cases long : digitLimit < (text.toList.takeWhile Digit.isDecimal).length
    · have shorter := (List.takeWhile_sublist (p := Digit.isDecimal) (l := text.toList)).length_le
      have unreadable : isReadable text = false := by
        rw [isReadable, Bool.and_eq_false_iff]
        right
        rw [decide_eq_false_iff_not]
        omega
      simp [long, unreadable, digitFault]
    · rw [if_neg long]
      by_cases decimals : ∀ c ∈ text.toList, Digit.isDecimal c = true
      · have whole := List.takeWhile_eq_self_iff.2 decimals
        have none : text.toList.dropWhile Digit.isDecimal = [] := List.dropWhile_eq_nil_iff.2 decimals
        have readable : isReadable text = true := by
          rw [whole] at long
          rw [isReadable, Bool.and_eq_true, List.all_eq_true, decide_eq_true_eq]
          exact ⟨decimals, Nat.le_of_not_lt long⟩
        rw [none, whole, readable]
        rfl
      · have unreadable : isReadable text = false := by
          rw [isReadable, Bool.and_eq_false_iff, ← Bool.not_eq_true, List.all_eq_true]
          exact .inl decimals
        -- What follows the decimal digits begins with a digit, so it is no margin.
        have margin : (text.toList.dropWhile Digit.isDecimal).all isMargin = false := by
          rw [← Bool.not_eq_true, List.all_eq_true]
          intro blank
          refine decimals (List.dropWhile_eq_nil_iff.1 (List.eq_nil_iff_forall_not_mem.2 ?_))
          intro c member
          have digit := digits c ((List.dropWhile_sublist _).subset member)
          exact absurd (blank c member) (by simp [isMargin_of_isDigit digit])
        simp [margin, unreadable, digitFault, long]

end Integer

end PagePress.Text
