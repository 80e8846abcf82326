import PagePress.CommandLine.Run
import PagePress.Proofs.Settings.Compiler

/-!
The compiler of a run of the command line: the settings that it reads, and what they describe. Most of
what can be wrong with them is reported by the run; the failures that are not are told here.
-/

set_option autoImplicit false

namespace PagePress.CommandLine

/-- An argument that names a path: an empty one counts as none. -/
def Names (given : Option String) (path : String) : Prop := given = some path ∧ path ≠ ""

theorem filter_eq_some_iff {given : Option String} {path : String} :
    (given.filter fun path => path != "") = some path ↔ Names given path := by
  simp [Names, Option.filter_eq_some_iff]

theorem filter_eq_none_iff {given : Option String} :
    (given.filter fun path => path != "") = none ↔ ∀ path, ¬ Names given path := by
  simp only [Option.eq_none_iff_forall_ne_some, ne_eq, filter_eq_some_iff]

theorem Names.exists_iff {given : Option String} {path : String} (named : Names given path)
    {P : String → Prop} : (∃ other, Names given other ∧ P other) ↔ P path := by
  constructor
  · rintro ⟨other, again, holds⟩
    obtain rfl := Option.some.inj (named.1.symm.trans again.1)
    exact holds
  · exact fun holds => ⟨path, named, holds⟩

/-! The settings. -/

/-- The failures of a configuration file that are not reported: its reader breaks, or the names of
the fields in the section are not all texts. -/
inductive SettingsBreak (x : Surroundings) (d : Disk) (path : String) : Failure → Prop
  | reader {file : Node} {failure : Failure} (read : d.readWritten path = .ok file)
    (broken : x.reader file.content = .broken failure) (unreported : isReported failure = false) :
    SettingsBreak x d path failure
  | names {file : Node} {document : Datum} {fields : List (String × Datum)}
    (read : d.readWritten path = .ok file)
    (found : x.reader file.content = .document document false)
    (section_ : Settings.compilerFields? document = some fields) :
    SettingsBreak x d path .fieldNames

private theorem load_unreported_iff [FieldRules] {x : Surroundings} {d : Disk} {path : String}
    {failure : Failure} :
    (Settings.load d x.environment x.reader path = .error failure ∧ isReported failure = false) ↔
      SettingsBreak x d path failure := by
  constructor
  · rintro ⟨fails, unreported⟩
    unfold Settings.load at fails
    split at fails
    · cases fails
      cases unreported
    · cases fails
      cases unreported
    · rename_i file read
      split at fails
      · cases fails
        cases unreported
      · rename_i broken
        cases fails
        exact .reader read broken unreported
      · rename_i document texts found
        split at fails
        · cases fails
          cases unreported
        · rename_i fields section_
          cases texts with
          | false =>
            cases fails
            exact .names read found section_
          | true =>
            obtain ⟨defects, rfl, -⟩ := Settings.ofFields_eq_error fails
            cases unreported
  · rintro (⟨read, broken, unreported⟩ | ⟨read, found, section_⟩)
    · exact ⟨by simp [Settings.load, read, broken], unreported⟩
    · exact ⟨by simp [Settings.load, read, found, section_], rfl⟩

theorem readSettings_unreported_iff [FieldRules] {x : Surroundings} {d : Disk}
    {given : Option String} {failure : Failure} :
    (readSettings x d given = .error failure ∧ isReported failure = false) ↔
      ∃ path, Names given path ∧ SettingsBreak x d path failure := by
  unfold readSettings
  split
  · rename_i none
    refine iff_of_false (fun told => nomatch told.1) ?_
    rintro ⟨path, named, -⟩
    exact filter_eq_none_iff.1 none path named
  · rename_i path some
    rw [load_unreported_iff, (filter_eq_some_iff.1 some).exists_iff]

theorem reserved_ne_empty [FieldRules] {x : Surroundings} {d : Disk} {given : Option String}
    {s : Settings} (read : readSettings x d given = .ok s) : s.reserved ≠ "" := by
  have checked {fields : List (String × Datum)}
      (made : Settings.ofFields x.environment fields = .ok s) : s.reserved ≠ "" := by
    unfold Settings.ofFields at made
    split at made
    · rename_i found sound
      cases made
      exact Settings.reserved_ne_empty_of_check sound
    · cases made
  unfold readSettings at read
  split at read
  · cases read
    decide
  · unfold Settings.load at read
    split at read
    · cases read
    · cases read
    · split at read
      · cases read
      · cases read
      · split at read
        · cases read
        · split at read
          · exact checked read
          · cases read

/-! The compiler. -/

def IsBlankText (s : String) : Prop := ∀ c ∈ s.toList, Text.Blank.isBlank c = true

private theorem wordsText_eq_nil_iff {s : String} : Text.Blank.wordsText s =
    [] ↔ IsBlankText s := by
  rw [Text.Blank.wordsText, List.map_eq_nil_iff, Text.Blank.words_eq_nil_iff]
  rfl

def IsTexts (words : List Datum) : Prop := ∃ texts : List String, words = texts.map .text

/-- Settings describe a compiler without sinks, whose options are texts, unless an extra option is
blank. -/
theorem ofSettings_cases {s : Settings} (named : s.reserved ≠ "") :
    (∃ c, PageCompiler.ofSettings s = .ok c ∧ c.sinks = [] ∧ IsTexts c.options.words) ∧
      (∀ option ∈ s.extraOptions, ¬ IsBlankText option) ∨
    PageCompiler.ofSettings s = .error .missingFlag ∧
      ∃ option ∈ s.extraOptions, IsBlankText option := by
  have bare : [] ∈ s.extraOptions.map Text.Blank.wordsText ↔
      ∃ option ∈ s.extraOptions, IsBlankText option := by
    simp only [List.mem_map, wordsText_eq_nil_iff]
  have made := PageCompiler.ofSettings_eq named (forall₂_wordsText s.extraOptions)
  by_cases blank : ∃ option ∈ s.extraOptions, IsBlankText option
  · exact .inr ⟨made.trans (if_pos (bare.2 blank)), blank⟩
  · refine .inl ⟨⟨_, made.trans (if_neg (mt bare.1 blank)), rfl, _, rfl⟩, fun option member empty => ?_⟩
    exact blank ⟨option, member, empty⟩

theorem ofSettings_unreported_iff {s : Settings} (named : s.reserved ≠ "") {failure : Failure} :
    (PageCompiler.ofSettings s = .error failure ∧ isReported failure = false) ↔
      (∃ option ∈ s.extraOptions, IsBlankText option) ∧ failure = .missingFlag := by
  rcases ofSettings_cases named with ⟨⟨c, made, -⟩, solid⟩ | ⟨fails, blank⟩
  · rw [made]
    refine iff_of_false nofun ?_
    rintro ⟨⟨option, member, blank⟩, -⟩
    exact solid option member blank
  · rw [fails]
    constructor
    · rintro ⟨⟨⟩, -⟩
      exact ⟨blank, rfl⟩
    · rintro ⟨-, rfl⟩
      exact ⟨rfl, rfl⟩

end PagePress.CommandLine
