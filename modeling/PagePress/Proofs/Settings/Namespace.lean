import PagePress.Proofs.Settings.Defects
import PagePress.Settings.Lax

/-!
Which texts a namespace can be. The grammar of package names is stated on its own; the check of the
settings lets just these pass, and each of them with one line break behind it.
-/

set_option autoImplicit false

namespace PagePress

def BeginsPart (c : Char) : Prop := 'a' ≤ c ∧ c ≤ 'z' ∨ 'A' ≤ c ∧ c ≤ 'Z' ∨ c = '_'

/-- What may follow on the first character of a part: a basic digit too. -/
def ContinuesPart (c : Char) : Prop := BeginsPart c ∨ '0' ≤ c ∧ c ≤ '9'

inductive IsPackagePart : List Char → Prop
  | mk {c : Char} {rest : List Char} (first : BeginsPart c) (others : ∀ d ∈ rest, ContinuesPart d) :
    IsPackagePart (c :: rest)

/-- Package names: parts, at least one, with a dot between neighbours. -/
inductive IsPackageName : List Char → Prop
  | part {part : List Char} (whole : IsPackagePart part) : IsPackageName part
  | dotted {part rest : List Char} (first : IsPackagePart part) (others : IsPackageName rest) :
    IsPackageName (part ++ '.' :: rest)

/-! The character classes of the check are those of the grammar. -/

private theorem isAlpha_iff (c : Char) :
    c.isAlpha = true ↔ 'a' ≤ c ∧ c ≤ 'z' ∨ 'A' ≤ c ∧ c ≤ 'Z' := by
  have upper : c.isUpper = true ↔ 'A' ≤ c ∧ c ≤ 'Z' := decide_eq_true_iff
  have lower : c.isLower = true ↔ 'a' ≤ c ∧ c ≤ 'z' :=
    Bool.and_eq_true_iff.trans (and_congr decide_eq_true_iff decide_eq_true_iff)
  rw [← upper, ← lower, or_comm]
  exact Bool.or_eq_true_iff

private theorem isDigit_iff (c : Char) : c.isDigit = true ↔ '0' ≤ c ∧ c ≤ '9' := by
  simp only [Char.isDigit, Bool.and_eq_true, decide_eq_true_eq, Char.le_def]

private theorem startsPart_iff (c : Char) : Settings.startsPart c = true ↔ BeginsPart c := by
  simp only [Settings.startsPart, Bool.or_eq_true, isAlpha_iff, beq_iff_eq, BeginsPart, or_assoc]

private theorem continuesPart_iff (c : Char) :
    (c.isAlphanum || c == '_') = true ↔ ContinuesPart c := by
  simp only [Char.isAlphanum, Bool.or_eq_true, isAlpha_iff, isDigit_iff, beq_iff_eq, ContinuesPart,
    BeginsPart]
  constructor
  · rintro ((letter | digit) | rfl)
    · exact .inl (letter.elim .inl fun upper => .inr (.inl upper))
    · exact .inr digit
    · exact .inl (.inr (.inr rfl))
  · rintro ((lower | upper | rfl) | digit)
    · exact .inl (.inl (.inl lower))
    · exact .inl (.inl (.inr upper))
    · exact .inr rfl
    · exact .inl (.inr digit)

private theorem isNamePart_iff (part : List Char) :
    Settings.isNamePart part = true ↔ IsPackagePart part := by
  cases part with
  | nil => exact iff_of_false Bool.false_ne_true nofun
  | cons c rest =>
    simp only [Settings.isNamePart, Bool.and_eq_true, List.all_eq_true, startsPart_iff,
      continuesPart_iff]
    constructor
    · rintro ⟨first, others⟩
      exact .mk first others
    · rintro ⟨first, others⟩
      exact ⟨first, others⟩

private theorem ContinuesPart.ne {c d : Char} (continues : ContinuesPart c)
    (other : (d.isAlphanum || d == '_') = false) : c ≠ d := by
  rintro rfl
  rw [(continuesPart_iff c).2 continues] at other
  cases other

private theorem IsPackagePart.continues {part : List Char} (whole : IsPackagePart part) :
    ∀ c ∈ part, ContinuesPart c := by
  obtain ⟨first, others⟩ := whole
  exact List.forall_mem_cons.2 ⟨.inl first, others⟩

private theorem IsPackagePart.dotless {part : List Char} (whole : IsPackagePart part) :
    '.' ∉ part :=
  fun member => (whole.continues '.' member).ne (by decide) rfl

private theorem IsPackageName.unbroken {name : List Char} (packageName : IsPackageName name) :
    '\n' ∉ name := by
  have apart {part : List Char} (whole : IsPackagePart part) : '\n' ∉ part :=
    fun member => (whole.continues '\n' member).ne (by decide) rfl
  induction packageName with
  | part whole => exact apart whole
  | dotted first others ih => simp [apart first, ih]

/-! The check cuts at the dots. -/

theorem Text.Split.parts_of_notMem {separator : Char} {part : List Char}
    (whole : separator ∉ part) : parts separator part = [part] := by
  induction part with
  | nil => rfl
  | cons c rest ih =>
    obtain ⟨apart, later⟩ := not_or.1 (mt List.mem_cons.2 whole)
    rw [parts, if_neg (Ne.symm apart), ih later, attach]

theorem Text.Split.parts_append {separator : Char} {part : List Char} (whole : separator ∉ part)
    (rest : List Char) :
    parts separator (part ++ separator :: rest) = part :: parts separator rest := by
  induction part with
  | nil => rw [List.nil_append, parts, if_pos rfl]
  | cons c front ih =>
    obtain ⟨apart, later⟩ := not_or.1 (mt List.mem_cons.2 whole)
    rw [List.cons_append, parts, if_neg (Ne.symm apart), ih later, attach]

private theorem isPackageName_join {parts : List (List Char)} (some : parts ≠ [])
    (whole : ∀ part ∈ parts, IsPackagePart part) :
    IsPackageName (Text.Split.join '.' parts) := by
  induction parts with
  | nil => exact absurd rfl some
  | cons part rest ih =>
    obtain ⟨first, others⟩ := List.forall_mem_cons.1 whole
    cases rest with
    | nil => exact .part first
    | cons next rest => exact .dotted first (ih (List.cons_ne_nil next rest) others)

private theorem all_isNamePart_iff (cs : List Char) :
    (Text.Split.parts '.' cs).all Settings.isNamePart = true ↔ IsPackageName cs := by
  simp only [List.all_eq_true, isNamePart_iff]
  constructor
  · intro whole
    have joined := isPackageName_join (Text.Split.parts_ne_nil '.' cs) whole
    rwa [Text.Split.join_parts] at joined
  · intro packageName
    induction packageName with
    | part whole => simpa [Text.Split.parts_of_notMem whole.dotless] using whole
    | dotted first others ih =>
      rw [Text.Split.parts_append first.dotless]
      exact List.forall_mem_cons.2 ⟨first, ih⟩

private theorem isNamespace_iff (s : String) :
    Settings.isNamespace s = true ↔
      IsPackageName s.toList ∨ ∃ front, s.toList = front ++ ['\n'] ∧ IsPackageName front := by
  rw [Settings.isNamespace, all_isNamePart_iff, Settings.withoutLastBreak]
  by_cases broken : s.toList.getLast? = some '\n'
  · obtain ⟨front, cut⟩ := List.getLast?_eq_some_iff.1 broken
    rw [if_pos broken, cut, List.dropLast_concat]
    constructor
    · exact fun packageName => .inr ⟨front, rfl, packageName⟩
    · rintro (packageName | ⟨other, same, packageName⟩)
      · exact absurd (by simp) packageName.unbroken
      · rwa [List.append_cancel_right same]
  · rw [if_neg broken]
    refine ⟨.inl, ?_⟩
    rintro (packageName | ⟨front, cut, -⟩)
    · exact packageName
    · exact absurd (by simp [cut]) broken

theorem Settings.reserved_ne_empty_of_check [FieldRules] {d : Datum} {s : Settings}
    (sound : Settings.check d = .sound s) : s.reserved ≠ "" := by
  obtain ⟨-, -, -, -, -, named, -, -⟩ := check_eq_sound_iff.1 sound
  have apart : isNamespace "" = false := by decide
  unfold checkField at named
  split at named
  · unfold checkNamespace at named
    split at named
    · split at named <;> cases named
      rename_i accepted
      intro empty
      rw [empty, apart] at accepted
      cases accepted
    · cases named
  · rw [← Checked.sound.inj named]
    decide

theorem Environment.get?_overlay_of_ne {field other : String} (apart : other ≠ field)
    (value : Option Datum) (fields : List (String × Datum)) :
    NameTable.get? (overlay field value fields) other = NameTable.get? fields other := by
  cases value with
  | none => rfl
  | some value => exact NameTable.get?_set_of_ne fields value apart

namespace Settings

/-- The text that is given as the namespace: what the variable says, unless it is unset or empty, and
then what the field says. -/
inductive GivesNamespace (e : Environment) (fields : List (String × Datum)) : String → Prop
  | outside {s : String} (set : e.value? Environment.reservedName = some s) (filled : s ≠ "") :
    GivesNamespace e fields s
  | inside {s : String}
    (unset : ∀ value, e.value? Environment.reservedName = some value → value = "")
    (field : NameTable.get? fields "reserved_namespace" = some (.text s)) :
    GivesNamespace e fields s

private theorem GivesNamespace.field {e : Environment} {fields : List (String × Datum)} {s : String}
    (given : GivesNamespace e fields s) :
    NameTable.get? (e.override fields) "reserved_namespace" = some (.text s) := by
  unfold Environment.override
  cases given with
  | outside set filled =>
    have set : e.reserved? = some s := by simp [Environment.reserved?, Environment.filled?, set, filled]
    simp [set, Environment.overlay, NameTable.get?_set_self]
  | inside unset field =>
    have unset : e.reserved? = none := by
      cases value : e.value? Environment.reservedName with
      | none => simp [Environment.reserved?, Environment.filled?, value]
      | some value' => simp [Environment.reserved?, Environment.filled?, value, unset value' value]
    rw [unset, Option.map_none, Environment.overlay, Environment.get?_overlay_of_ne (by decide),
      Environment.get?_overlay_of_ne (by decide), field]

def namespaceDefect (s : String) : Defect :=
  ⟨"reserved_namespace", none, "value_error",
    "Value error, " ++ ("'" ++ s ++ "' is not a dotted package name")⟩

private theorem GivesNamespace.checked [FieldRules] {e : Environment}
    {fields : List (String × Datum)} {s : String} (given : GivesNamespace e fields s) :
    checkField (.record (e.override fields)) "reserved_namespace" usual.reserved checkNamespace =
      if isNamespace s then .sound s else .defective [namespaceDefect s] := by
  unfold checkField
  rw [show (Datum.record (e.override fields)).field? "reserved_namespace" = _ from given.field]
  dsimp only [checkNamespace]
  rw [FieldRules.text_text]
  rfl

/-- Settings with a text that is given as the namespace, in the file or by the environment: it is
complained of, once, unless it is a package name, or one with a line break behind it. When nothing is
complained of, settings come out, and this text is their namespace. -/
theorem namespace_accepted_iff [FieldRules] {e : Environment} {fields : List (String × Datum)}
    {s : String} (given : GivesNamespace e fields s) :
    (complaints "reserved_namespace" (ofFields e fields) = [] ↔
      IsPackageName s.toList ∨ ∃ front, s.toList = front ++ ['\n'] ∧ IsPackageName front) ∧
    (complaints "reserved_namespace" (ofFields e fields) = [] ∨
      complaints "reserved_namespace" (ofFields e fields) = [namespaceDefect s]) ∧
    ((∃ settings, ofFields e fields = .ok settings) ↔
      ∀ field, complaints field (ofFields e fields) = []) ∧
    (∀ settings, ofFields e fields = .ok settings → settings.reserved = s) := by
  have row : ("reserved_namespace", (checkField (.record (e.override fields)) "reserved_namespace"
      usual.reserved checkNamespace).defects) ∈ fieldDefects (.record (e.override fields)) := by
    simp [fieldDefects]
  have told := complaints_ofFields e fields row
  rw [given.checked] at told
  refine ⟨?_, ?_, ofFields_ok_iff, ?_⟩
  · rw [told, ← isNamespace_iff]
    cases isNamespace s <;> simp
  · rw [told]
    cases isNamespace s <;> simp
  · intro settings answer
    unfold ofFields at answer
    split at answer
    next found checked =>
      cases answer
      have sound := (check_eq_sound_iff.1 checked).2.2.2.2.2.1
      rw [given.checked] at sound
      split at sound <;> cases sound
      rfl
    next => cases answer

/-- A namespace that the environment gives takes the place of the one in the file. -/
theorem outer_namespace_accepted :
    GivesNamespace ⟨[(Environment.reservedName, "_x1.Y_2")], []⟩
      [("reserved_namespace", .text "a..b")] "_x1.Y_2" ∧
    ∃ settings, ofFields ⟨[(Environment.reservedName, "_x1.Y_2")], []⟩
      [("reserved_namespace", .text "a..b")] = .ok settings ∧ settings.reserved = "_x1.Y_2" := by
  have given : GivesNamespace ⟨[(Environment.reservedName, "_x1.Y_2")], []⟩
      [("reserved_namespace", .text "a..b")] "_x1.Y_2" := .outside (by decide) (by decide)
  obtain ⟨-, -, -, named⟩ := namespace_accepted_iff given
  exact ⟨given, _, rfl, named _ rfl⟩

/-- A package name with a line break behind it is let pass, and is no package name. -/
theorem broken_namespace_accepted :
    GivesNamespace .empty [("reserved_namespace", .text "pages\n")] "pages\n" ∧
    ¬ IsPackageName "pages\n".toList ∧
    ofFields .empty [("reserved_namespace", .text "pages\n")] =
      .ok { usual with reserved := "pages\n" } := by
  refine ⟨.inside nofun rfl, ?_, rfl⟩
  exact fun packageName => packageName.unbroken (by decide)

end Settings

end PagePress
