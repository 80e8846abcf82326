import Mathlib.Data.List.Forall2
import PagePress.Proofs.Settings.Level
import PagePress.Settings.Compiler
import PagePress.Settings.Lax

/-!
The compiler that settings describe, option by option. What is set at once becomes groups of a flag
and its argument, in a fixed order; behind them come the words of the extra options. Settings that
passed their check describe a compiler, unless an extra option has no words: then the flag that it
should begin with is missing.
-/

set_option autoImplicit false

namespace PagePress

def AreOptionWords (option : String) (words : List String) : Prop :=
  Text.Blank.AreWords option.toList (words.map String.toList)

theorem areOptionWords_iff {option : String} {words : List String} :
    AreOptionWords option words ↔ Text.Blank.wordsText option = words := by
  rw [AreOptionWords, Text.Blank.areWords_iff, Text.Blank.wordsText]
  constructor
  · intro cut
    rw [cut, List.map_map]
    simp [Function.comp_def]
  · rintro rfl
    rw [List.map_map]
    simp [Function.comp_def]

theorem forall₂_wordsText (options : List String) :
    List.Forall₂ AreOptionWords options (options.map Text.Blank.wordsText) := by
  induction options with
  | nil => exact .nil
  | cons option rest ih => exact .cons (areOptionWords_iff.2 rfl) ih

private theorem AreOptionWords.filled {option : String} {words : List String}
    (cut : AreOptionWords option words) : "" ∉ words := by
  intro member
  rw [AreOptionWords, Text.Blank.areWords_iff] at cut
  have inside : "".toList ∈ Text.Blank.words option.toList := by
    rw [cut]
    exact List.mem_map_of_mem member
  exact Text.Blank.ne_nil_of_mem_words inside rfl

/-- The group of a flag for a text, unless there is none or it is empty. -/
def OptionGroup.given (flag : String) (value : Option String) : List OptionGroup :=
  (value.filter (· != "")).toList.map fun value => ⟨flag, [value]⟩

def OptionGroup.wanted (flag : String) (isWanted : Bool) : List OptionGroup :=
  if isWanted then [⟨flag, []⟩] else []

/-- The groups of what settings set: directories of extensions, levels and debugging. -/
def Settings.groups (s : Settings) : List OptionGroup :=
  OptionGroup.given Flag.extensions s.extensions ++ OptionGroup.given Flag.source s.sourceLevel ++
    OptionGroup.given Flag.target s.targetLevel ++ OptionGroup.wanted Flag.debug s.debug

def CompilerOptions.addGroups (o : CompilerOptions) (groups : List OptionGroup) : CompilerOptions :=
  ⟨o.words ++ (OptionGroup.flatten groups).map .text⟩

private theorem CompilerOptions.addGroups_addGroups (o : CompilerOptions)
    (front rest : List OptionGroup) :
    (o.addGroups front).addGroups rest = o.addGroups (front ++ rest) := by
  simp [addGroups]

namespace PageCompiler

private theorem addOption_texts (c : PageCompiler) {flag : String} (filled : flag ≠ "")
    (args : List String) :
    c.addOption ((flag :: args).map .text) =
      .ok { c with options := ⟨c.options.words ++ (flag :: args).map .text⟩ } := by
  have truthy : (Datum.text flag).isTruthy = true := by simpa [Datum.isTruthy] using filled
  have same : (args.map Datum.text).map Datum.plainText = args := by
    simp [Datum.plainText, Function.comp_def]
  rw [List.map_cons, addOption, CompilerOptions.add, if_pos truthy, same]
  rfl

private theorem addWritten_eq (c : PageCompiler) {options : List String}
    {words : List (List String)} (cut : List.Forall₂ AreOptionWords options words) :
    c.addWritten options =
      if [] ∈ words then .error .missingFlag
      else .ok { c with options := ⟨c.options.words ++ words.flatten.map .text⟩ } := by
  induction cut generalizing c with
  | nil => simp [addWritten]
  | @cons option first options words split others ih =>
    rw [addWritten, areOptionWords_iff.1 split]
    cases first with
    | nil =>
      rw [if_pos List.mem_cons_self]
      rfl
    | cons flag args =>
      have filled : flag ≠ "" := by
        rintro rfl
        exact split.filled List.mem_cons_self
      have present : ([] ∈ (flag :: args) :: words) = ([] ∈ words) := by simp
      rw [addOption_texts c filled]
      simp only [present]
      refine (ih _).trans ?_
      simp

/-! What is set at once. An empty text counts as none. -/

private theorem addGroups_given (o : CompilerOptions) (flag : String) (value : Option String) :
    o.addGroups (OptionGroup.given flag value) =
      match value with
      | some value => if value = "" then o else o.append flag [value]
      | none => o := by
  cases value with
  | none => simp [OptionGroup.given, CompilerOptions.addGroups]
  | some value =>
    by_cases empty : value = "" <;>
      simp [OptionGroup.given, Option.filter, empty, CompilerOptions.addGroups,
        CompilerOptions.append]

private theorem addGroups_extensions (o : CompilerOptions) (value : Option String) :
    o.addGroups (OptionGroup.given Flag.extensions value) =
      match value.map PathArgument.text with
      | some paths => if paths.isEmpty then o else o.addExtensions paths
      | none => o := by
  rw [addGroups_given]
  cases value with
  | none => rfl
  | some value => simp [PathArgument.isEmpty, CompilerOptions.addExtensions, PathArgument.joined]

private theorem addGroups_debug (o : CompilerOptions) (wanted : Bool) :
    o.addGroups (OptionGroup.wanted Flag.debug wanted) = o.addDebug wanted := by
  cases wanted <;>
    simp [OptionGroup.wanted, CompilerOptions.addDebug, CompilerOptions.append,
      CompilerOptions.addGroups]

private theorem configure_eq (c : PageCompiler) (s : Settings) :
    c.configure ⟨some s.classpath, s.sourceLevel, s.targetLevel, s.debug,
        s.extensions.map .text⟩ =
      { c with
        classpath := s.classpath.map Path.ofString
        options := c.options.addGroups s.groups } := by
  rw [Settings.groups, ← CompilerOptions.addGroups_addGroups,
    ← CompilerOptions.addGroups_addGroups, ← CompilerOptions.addGroups_addGroups, addGroups_debug,
    addGroups_given _ Flag.target, addGroups_given _ Flag.source, addGroups_extensions]
  rfl

def described (s : Settings) (words : List (List String)) : PageCompiler where
  reserved := s.reserved
  includeNotes := s.includeNotes
  classpath := s.classpath.map Path.ofString
  options := .ofTexts (OptionGroup.flatten s.groups ++ words.flatten)
  sinks := []

/-- Settings that name a namespace describe a compiler, unless an extra option has no words. -/
theorem ofSettings_eq {s : Settings} (named : s.reserved ≠ "") {words : List (List String)}
    (cut : List.Forall₂ AreOptionWords s.extraOptions words) :
    ofSettings s = if [] ∈ words then .error .missingFlag else .ok (described s words) := by
  have made : ofSettings s =
      ((⟨s.reserved, s.includeNotes, [], .empty, []⟩ : PageCompiler).configure
        ⟨some s.classpath, s.sourceLevel, s.targetLevel, s.debug,
          s.extensions.map .text⟩).addWritten s.extraOptions := by
    simp only [ofSettings, make, if_neg named]
    rfl
  rw [made, configure_eq, addWritten_eq _ cut]
  simp [described, CompilerOptions.addGroups, CompilerOptions.ofTexts, CompilerOptions.empty]

end PageCompiler

namespace Settings

/-- Settings that passed their check describe a compiler with just the options that are set: the
groups of what is set, where an empty text for the directories counts as none, and then the words of
the extra options. No compiler comes out exactly if an extra option has no words, and then the
failure is that its flag is missing. -/
theorem settings_describe_compiler [FieldRules] {d : Datum} {s : Settings}
    (sound : check d = .sound s) :
    (∃ words, List.Forall₂ AreOptionWords s.extraOptions words) ∧
    (∀ words, List.Forall₂ AreOptionWords s.extraOptions words →
      ([] ∉ words → PageCompiler.ofSettings s = .ok (PageCompiler.described s words)) ∧
      ([] ∈ words → PageCompiler.ofSettings s = .error .missingFlag)) ∧
    (∀ level, s.sourceLevel = some level ∨ s.targetLevel = some level → level ≠ "") := by
  have named := reserved_ne_empty_of_check sound
  refine ⟨⟨_, forall₂_wordsText s.extraOptions⟩, fun words cut => ⟨fun filled => ?_, fun bare => ?_⟩,
    ?_⟩
  · rw [PageCompiler.ofSettings_eq named cut, if_neg filled]
  · rw [PageCompiler.ofSettings_eq named cut, if_pos bare]
  · obtain ⟨-, source, target, -⟩ := check_eq_sound_iff.1 sound
    rintro level (set | set)
    · rw [set] at source
      obtain ⟨_, _, text⟩ := isLevelText_of_checkField source
      exact text.ne_empty
    · rw [set] at target
      obtain ⟨_, _, text⟩ := isLevelText_of_checkField target
      exact text.ne_empty

/-- Settings with something of everything: the level is trimmed and the extra options are cut. -/
theorem full_settings_describe_compiler :
    let d : Datum := .record [("classpath", .list [.text "lib//"]), ("source_level", .text " 3.8\n"),
      ("debug", .text "Yes"), ("ext_dirs", .text "ext"),
      ("extra_options", .list [.text "-nowarn", .text " -x  a\tb "])]
    let s : Settings := ⟨["lib//"], some "3.8", none, true, some "ext", "generated", false,
      ["-nowarn", " -x  a\tb "]⟩
    check d = .sound s ∧
      PageCompiler.ofSettings s = .ok ⟨"generated", false, [Path.ofString "lib"],
        .ofTexts ["-extdirs", "ext", "-source", "3.8", "-g", "-nowarn", "-x", "a", "b"], []⟩ := by
  intro d s
  have sound : check d = .sound s := by rfl
  obtain ⟨-, described, -⟩ := settings_describe_compiler sound
  have cut : List.Forall₂ AreOptionWords s.extraOptions [["-nowarn"], ["-x", "a", "b"]] :=
    .cons (areOptionWords_iff.2 (by decide +kernel))
      (.cons (areOptionWords_iff.2 (by decide +kernel)) .nil)
  refine ⟨sound, ((described _ cut).1 (by decide)).trans ?_⟩
  decide +kernel

/-- An extra option of blanks only passes the check, and then the flag of an option is missing, which
is told as no fault of the configuration. -/
theorem blank_option_lacks_flag :
    let s : Settings := { usual with extraOptions := ["  "] }
    check (.record [("extra_options", .list [.text "  "])]) = .sound s ∧
      PageCompiler.ofSettings s = .error .missingFlag ∧
      ∀ error, Failure.missingFlag ≠ .configuration error := by
  intro s
  exact ⟨by rfl, by rfl, nofun⟩

end Settings

end PagePress
