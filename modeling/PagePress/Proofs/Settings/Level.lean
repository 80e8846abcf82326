import PagePress.Proofs.Options.Groups
import PagePress.Proofs.Settings.Namespace
import PagePress.Proofs.Text.Blank
import PagePress.Proofs.Validation

/-!
Language levels in text. What the settings let pass as a level is stated on its own: two decimal
numbers, of digits of any script, with a point between them. Such a text has no blanks, may be an
argument of a flag, and is read as two numbers unless one of them is too long for any number.
-/

set_option autoImplicit false

namespace PagePress

open Text.Integer (digitLimit valueOf)

/-- A decimal number in text: decimal digits of any script, at least one. -/
structure IsNumeral (cs : List Char) : Prop where
  filled : cs ≠ []
  digits : ∀ c ∈ cs, Text.Digit.isDecimal c = true

/-- A language level in text, and the numbers on both sides of its point. -/
structure IsLevelText (s : String) (major minor : List Char) : Prop where
  first : IsNumeral major
  second : IsNumeral minor
  pointed : s.toList = major ++ '.' :: minor

private theorem isDecimalNumber_iff (cs : List Char) :
    Settings.isDecimalNumber cs = true ↔ IsNumeral cs := by
  simp only [Settings.isDecimalNumber, Bool.and_eq_true, Bool.not_eq_true',
    List.isEmpty_eq_false_iff, List.all_eq_true]
  exact ⟨fun ⟨filled, digits⟩ => ⟨filled, digits⟩, fun ⟨filled, digits⟩ => ⟨filled, digits⟩⟩

private theorem IsNumeral.wide {cs : List Char} (numeral : IsNumeral cs) :
    ∀ c ∈ cs, Text.Digit.isDigit c = true :=
  fun c member => Text.Digit.isDigit_of_isDecimal (numeral.digits c member)

private theorem IsNumeral.pointless {cs : List Char} (numeral : IsNumeral cs) : '.' ∉ cs :=
  fun member => Text.Digit.ne_of_isDigit (numeral.wide '.' member) (by decide +kernel) rfl

namespace IsLevelText

variable {s : String} {major minor : List Char}

theorem parts (level : IsLevelText s major minor) :
    Text.Split.parts '.' s.toList = [major, minor] := by
  rw [level.pointed, Text.Split.parts_append level.first.pointless,
    Text.Split.parts_of_notMem level.second.pointless]

theorem exists_iff (s : String) :
    (∃ major minor, IsLevelText s major minor) ↔ Settings.isLevel s = true := by
  unfold Settings.isLevel
  constructor
  · rintro ⟨major, minor, level⟩
    rw [level.parts]
    simp [isDecimalNumber_iff, level.first, level.second]
  · intro passes
    split at passes
    · rename_i major minor parted
      rw [Bool.and_eq_true, isDecimalNumber_iff, isDecimalNumber_iff] at passes
      have joined := Text.Split.join_parts '.' s.toList
      rw [parted] at joined
      exact ⟨major, minor, passes.1, passes.2, joined.symm⟩
    · cases passes

private theorem solid (level : IsLevelText s major minor) :
    ∀ c ∈ s.toList, Text.Blank.isBlank c = false := by
  have apart {cs : List Char} (numeral : IsNumeral cs) : ∀ c ∈ cs, Text.Blank.isBlank c = false :=
    fun c member => Text.Digit.isBlank_of_isDigit (numeral.wide c member)
  rw [level.pointed]
  exact List.forall_mem_append.2
    ⟨apart level.first, List.forall_mem_cons.2 ⟨by decide, apart level.second⟩⟩

theorem trimText_eq (level : IsLevelText s major minor) : Text.Blank.trimText s = s := by
  rw [Text.Blank.trimText, Text.Blank.trim_of_solid level.solid, String.ofList_toList]

theorem isFitting (level : IsLevelText s major minor) : OptionGroup.IsFitting s := by
  obtain ⟨⟨filled, digits⟩, -, pointed⟩ := level
  cases major with
  | nil => exact absurd rfl filled
  | cons c rest =>
    have digit := Text.Digit.isDigit_of_isDecimal (digits c List.mem_cons_self)
    exact ⟨c, rest ++ '.' :: minor, pointed, Text.Digit.ne_of_isDigit digit (by decide +kernel)⟩

theorem ne_empty (level : IsLevelText s major minor) : s ≠ "" := by
  rintro rfl
  obtain ⟨c, rest, split, -⟩ := level.isFitting
  cases split

end IsLevelText

private theorem IsNumeral.isNumber {cs : List Char} (numeral : IsNumeral cs) :
    LanguageLevel.isNumber (String.ofList cs) = true := by
  rw [LanguageLevel.isNumber, Bool.and_eq_true, List.all_eq_true, String.toList_ofList]
  exact ⟨by simpa using numeral.filled, numeral.wide⟩

private theorem IsNumeral.isReadable {cs : List Char} (numeral : IsNumeral cs) :
    Text.Integer.isReadable (String.ofList cs) = decide (cs.length ≤ digitLimit) := by
  rw [Text.Integer.isReadable, String.toList_ofList, List.all_eq_true.2 numeral.digits,
    Bool.true_and]

private theorem IsNumeral.digitFault {cs : List Char} (numeral : IsNumeral cs)
    (long : ¬ cs.length ≤ digitLimit) :
    Text.Integer.digitFault (String.ofList cs) = .tooLong cs.length := by
  rw [Text.Integer.digitFault, String.toList_ofList,
    List.takeWhile_eq_self_iff.2 numeral.digits, if_pos (Nat.lt_of_not_le long)]

/-- Reading a level: a number that is too long breaks it, the first if both are. -/
theorem IsLevelText.parse_eq {s : String} {major minor : List Char}
    (level : IsLevelText s major minor) (flag : String) :
    LanguageLevel.parse s flag =
      if major.length ≤ digitLimit then
        if minor.length ≤ digitLimit then .ok ⟨valueOf major, valueOf minor⟩
        else .error (.notAnInteger (.badText (.tooLong minor.length)))
      else .error (.notAnInteger (.badText (.tooLong major.length))) := by
  have parted : Text.Split.partsText '.' s = [String.ofList major, String.ofList minor] := by
    rw [Text.Split.partsText, level.parts]
    rfl
  rw [LanguageLevel.parse_of_isNumber parted level.first.isNumber level.second.isNumber]
  simp only [List.find?_cons, level.first.isReadable, level.second.isReadable, List.find?_nil]
  by_cases first : major.length ≤ digitLimit
  · by_cases second : minor.length ≤ digitLimit
    · simp [first, second]
    · simp [first, second, level.second.digitFault second]
  · simp [first, level.first.digitFault first]

namespace Settings

theorem isLevelText_of_checkField [FieldRules] {d : Datum} {field stored : String}
    (sound : checkField d field none checkLevel = .sound (some stored)) :
    ∃ major minor, IsLevelText stored major minor := by
  unfold checkField at sound
  split at sound
  · unfold checkLevel at sound
    split at sound
    · cases sound
    · dsimp only at sound
      split at sound
      · rename_i accepted
        rw [checkOptionalText_text] at sound
        cases sound
        exact (IsLevelText.exists_iff _).2 accepted
      · cases sound
    · cases sound
  · cases sound

end Settings

end PagePress
