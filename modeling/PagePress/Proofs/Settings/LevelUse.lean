import PagePress.Proofs.Settings.Compiler
import PagePress.Settings.Lax

/-!
Levels on their way from the settings to the service. A level that the settings let pass stands in
the options of the compiler that they describe, as the single argument of its flag; it is read as two
numbers, so that only its range can be found fault with, and the settings let it pass again as it is.
-/

set_option autoImplicit false

namespace PagePress

open Text.Integer (digitLimit valueOf)

inductive LevelUse
  | source
  | target

namespace LevelUse

def field : LevelUse → String
  | .source => "source_level"
  | .target => "target_level"

def flag : LevelUse → String
  | .source => Flag.source
  | .target => Flag.target

def level (s : Settings) : LevelUse → Option String
  | .source => s.sourceLevel
  | .target => s.targetLevel

/-- What is told of a level that was read and is out of range. -/
def outOfRange (value : String) : LevelUse → ConfigurationError
  | .source => .sourceLevel value
  | .target => .targetLevel value

private theorem arity_flag (use : LevelUse) : PageTask.arity use.flag = 1 := by
  cases use <;> decide

private theorem checkField_of_check [FieldRules] {d : Datum} {s : Settings}
    (sound : Settings.check d = .sound s) (use : LevelUse) :
    Settings.checkField d use.field none Settings.checkLevel = .sound (use.level s) := by
  obtain ⟨-, source, target, -⟩ := Settings.check_eq_sound_iff.1 sound
  cases use with
  | source => exact source
  | target => exact target

private theorem row [FieldRules] (use : LevelUse) (d : Datum) :
    (use.field, (Settings.checkField d use.field none Settings.checkLevel).defects) ∈
      Settings.fieldDefects d := by
  cases use <;> simp [Settings.fieldDefects, field, Settings.usual]

end LevelUse

namespace OptionGroup

private theorem mem_given {g : OptionGroup} {flag : String} {value : Option String} :
    g ∈ given flag value ↔ ∃ text, value = some text ∧ text ≠ "" ∧ g = ⟨flag, [text]⟩ := by
  simp only [given, List.mem_map, Option.mem_toList, Option.filter_eq_some_iff, bne_iff_ne, and_assoc,
    eq_comm (b := g)]

private theorem given_some {flag text : String} (filled : text ≠ "") :
    given flag (some text) = [⟨flag, [text]⟩] := by
  simp [given, Option.filter, filled]

private theorem given_apart {flag other : String} (apart : flag ≠ other) (value : Option String) :
    ∀ g ∈ given flag value, g.flag ≠ other := by
  intro g member
  obtain ⟨text, -, -, rfl⟩ := mem_given.1 member
  exact apart

private theorem wanted_apart {flag other : String} (apart : flag ≠ other) (isWanted : Bool) :
    ∀ g ∈ wanted flag isWanted, g.flag ≠ other := by
  cases isWanted with
  | false => nofun
  | true => simpa [wanted] using apart

private theorem isCut_given {flag : String} (takesOne : PageTask.arity flag = 1)
    {value : Option String} (fits : ∀ text, value = some text → text ≠ "" → IsFitting text) :
    IsCut PageTask.arity (flatten (given flag value)) (given flag value) := by
  refine ⟨rfl, fun g member => ?_, fun g member arg inside => ?_⟩
  · obtain ⟨text, -, -, rfl⟩ := mem_given.1 member
    exact takesOne
  · obtain ⟨text, set, filled, rfl⟩ := mem_given.1 member
    obtain rfl := List.mem_singleton.1 inside
    exact fits arg set filled

private theorem isCut_wanted {flag : String} (takesNone : PageTask.arity flag = 0)
    (isWanted : Bool) :
    IsCut PageTask.arity (flatten (wanted flag isWanted)) (wanted flag isWanted) := by
  cases isWanted with
  | false => exact isCut_nil
  | true => exact isCut_cons_iff.2 ⟨⟨takesNone, nofun⟩, [], rfl, isCut_nil⟩

end OptionGroup

namespace Settings

open OptionGroup

private theorem exists_groups_eq (use : LevelUse) {s : Settings} {stored : String}
    (set : use.level s = some stored) (filled : stored ≠ "") :
    ∃ front behind, s.groups = front ++ ⟨use.flag, [stored]⟩ :: behind ∧
      ∀ g ∈ front ++ behind, g.flag ≠ use.flag := by
  unfold groups
  cases use with
  | source =>
    obtain set : s.sourceLevel = some stored := set
    refine ⟨given Flag.extensions s.extensions,
      given Flag.target s.targetLevel ++ wanted Flag.debug s.debug, ?_, ?_⟩
    · rw [set, given_some filled]
      simp [LevelUse.flag]
    · simp only [List.forall_mem_append]
      exact ⟨given_apart (by decide) _, given_apart (by decide) _, wanted_apart (by decide) _⟩
  | target =>
    obtain set : s.targetLevel = some stored := set
    refine ⟨given Flag.extensions s.extensions ++ given Flag.source s.sourceLevel,
      wanted Flag.debug s.debug, ?_, ?_⟩
    · rw [set, given_some filled]
      simp [LevelUse.flag]
    · simp only [List.forall_mem_append]
      exact ⟨⟨given_apart (by decide) _, given_apart (by decide) _⟩, wanted_apart (by decide) _⟩

/-- Whether the directories of extensions can be an argument, if there are any. -/
def ExtensionsFit (s : Settings) : Prop :=
  ∀ paths, s.extensions = some paths → paths ≠ "" → IsFitting paths

private theorem isCut_groups [FieldRules] {d : Datum} {s : Settings} (sound : check d = .sound s)
    (fits : s.ExtensionsFit) : IsCut PageTask.arity (flatten s.groups) s.groups := by
  have levels (use : LevelUse) :
      IsCut PageTask.arity (flatten (given use.flag (use.level s))) (given use.flag (use.level s)) := by
    refine isCut_given use.arity_flag fun stored set filled => ?_
    have kept := use.checkField_of_check sound
    rw [set] at kept
    obtain ⟨_, _, text⟩ := isLevelText_of_checkField kept
    exact text.isFitting
  have takesOne : PageTask.arity Flag.extensions = 1 := by decide
  have takesNone : PageTask.arity Flag.debug = 0 := by decide
  have joined := (((isCut_given takesOne fits).append (levels .source)).append
    (levels .target)).append (isCut_wanted takesNone s.debug)
  rw [← flatten_append, ← flatten_append, ← flatten_append] at joined
  exact joined

/-- The options of the compiler that settings describe: they are cut into the groups of what is set
and those of the extra options, unless the directories of extensions look like a flag. -/
private theorem splitWords_described [FieldRules] {d : Datum} {s : Settings}
    (sound : check d = .sound s) (words : List (List String)) :
    (s.ExtensionsFit → splitWords PageTask.arity (PageCompiler.described s words).options.words =
      ((split PageTask.arity words.flatten).map (s.groups ++ ·)).mapError .configuration) ∧
    (¬ s.ExtensionsFit → splitWords PageTask.arity (PageCompiler.described s words).options.words =
      .error (.configuration (.argumentCount Flag.extensions 1))) := by
  have texts : (PageCompiler.described s words).options.words =
      (flatten s.groups ++ words.flatten).map .text := rfl
  rw [texts, splitWords_texts]
  constructor
  · intro fits
    rw [(isCut_groups sound fits).split_append]
  · intro unfit
    obtain ⟨paths, set, filled, dashed⟩ : ∃ paths, s.extensions = some paths ∧ paths ≠ "" ∧
        ¬ IsFitting paths := by
      simpa only [ExtensionsFit, not_forall, exists_prop] using unfit
    obtain ⟨rest, options⟩ : ∃ rest, flatten s.groups ++ words.flatten =
        Flag.extensions :: paths :: rest := by
      rw [groups, set, given_some filled]
      exact ⟨_, rfl⟩
    have fault : Fault PageTask.arity Flag.extensions (paths :: rest)
        (.argumentCount Flag.extensions 1) := by
      have takes : PageTask.arity Flag.extensions = ((1 : Nat) : Int) := by decide
      refine .lacking takes fun args behind cut one => ?_
      obtain ⟨arg, rfl⟩ := List.length_eq_one_iff.1 one
      obtain ⟨rfl, -⟩ := List.cons.inj cut
      exact ⟨_, List.mem_cons_self, dashed⟩
    rw [options, split_cons_of_fault fault]
    rfl

private theorem check_level (use : LevelUse) {value : String} {level : LanguageLevel}
    (read : LanguageLevel.parse value use.flag = .ok level) (disk : Disk) :
    PageTask.check disk ⟨use.flag, [value]⟩ = .ok () ∨
      PageTask.check disk ⟨use.flag, [value]⟩ = .error (.configuration (use.outOfRange value)) := by
  cases use with
  | source =>
    have checked : PageTask.check disk ⟨Flag.source, [value]⟩ =
        (LanguageLevel.parse value Flag.source).bind fun level =>
          if level.isBefore .lowest || LanguageLevel.current.isBefore level then
            .error (.configuration (.sourceLevel value))
          else .ok () := rfl
    rw [show LevelUse.source.flag = Flag.source from rfl] at read ⊢
    rw [checked, read, Except.bind]
    split
    · exact .inr rfl
    · exact .inl rfl
  | target =>
    have checked : PageTask.check disk ⟨Flag.target, [value]⟩ =
        (LanguageLevel.parse value Flag.target).bind fun level =>
          if level ≠ .current then .error (.configuration (.targetLevel value)) else .ok () := rfl
    rw [show LevelUse.target.flag = Flag.target from rfl] at read ⊢
    rw [checked, read, Except.bind]
    split
    · exact .inr rfl
    · exact .inl rfl

/-- How a level that was given in a record fares: what the settings keep of it, and what becomes of
that behind them. -/
structure LevelFares [FieldRules] (use : LevelUse) (s : Settings) (given stored : String)
    (major minor : List Char) : Prop where
  /-- It is kept without the blanks around it. -/
  kept : use.level s = some stored ∧ stored = Text.Blank.trimText given
  shape : IsLevelText stored major minor
  /-- Wherever what is kept is given as this level, it is not complained of and kept as it is. -/
  again : ∀ record : Datum, record.field? use.field = some (.text stored) →
    (check record).defects.filter (fun defect => defect.field = use.field) = [] ∧
    ∀ others, check record = .sound others → use.level others = some stored
  /-- Behind whole groups it is cut off as the single argument of its flag. -/
  argument : ∀ options groups rest, IsCut PageTask.arity options groups →
    split PageTask.arity (options ++ use.flag :: stored :: rest) =
      (split PageTask.arity rest).map fun more => groups ++ ⟨use.flag, [stored]⟩ :: more
  /-- Among the groups of the settings it stands in the only one of its flag. -/
  single : ∃ front behind, s.groups = front ++ ⟨use.flag, [stored]⟩ :: behind ∧
    ∀ g ∈ front ++ behind, g.flag ≠ use.flag
  /-- The options of the compiler that the settings describe are cut into the groups of the settings
  and those of the extra options. Only directories that look like a flag are in the way of that. -/
  cut : ∀ words, List.Forall₂ AreOptionWords s.extraOptions words →
    ∀ c, PageCompiler.ofSettings s = .ok c →
      c.options = .ofTexts (flatten s.groups ++ words.flatten) ∧
      (s.ExtensionsFit → splitWords PageTask.arity c.options.words =
        ((split PageTask.arity words.flatten).map (s.groups ++ ·)).mapError .configuration) ∧
      (¬ s.ExtensionsFit → splitWords PageTask.arity c.options.words =
        .error (.configuration (.argumentCount Flag.extensions 1)))
  /-- It is read as its two numbers, if these are not too long for numbers. -/
  read : major.length ≤ digitLimit → minor.length ≤ digitLimit →
    LanguageLevel.parse stored use.flag = .ok ⟨valueOf major, valueOf minor⟩
  /-- What was read is refused for its range, if at all. -/
  ranged : major.length ≤ digitLimit → minor.length ≤ digitLimit → ∀ disk,
    PageTask.check disk ⟨use.flag, [stored]⟩ = .ok () ∨
    PageTask.check disk ⟨use.flag, [stored]⟩ = .error (.configuration (use.outOfRange stored))

/-- A text that the settings let pass as a level is never malformed behind them: it is kept without
the blanks around it, given to its flag as the single argument and read as two numbers; and as it is
kept, it is let pass again. -/
theorem accepted_level_fares_well [FieldRules] (use : LevelUse) {d : Datum} {s : Settings}
    {given : String} (sound : check d = .sound s)
    (written : d.field? use.field = some (.text given)) :
    ∃ stored major minor, LevelFares use s given stored major minor := by
  have found := use.checkField_of_check sound
  have trimmed : use.level s = some (Text.Blank.trimText given) := by
    unfold checkField at found
    rw [written] at found
    unfold checkLevel at found
    dsimp only at found
    split at found
    · exact (Checked.sound.inj ((checkOptionalText_text _ _).symm.trans found)).symm
    · cases found
  rw [trimmed] at found
  obtain ⟨major, minor, shape⟩ := isLevelText_of_checkField found
  have accepted := (IsLevelText.exists_iff _).1 ⟨major, minor, shape⟩
  have parsed (first : major.length ≤ digitLimit) (second : minor.length ≤ digitLimit) :
      LanguageLevel.parse (Text.Blank.trimText given) use.flag =
        .ok ⟨valueOf major, valueOf minor⟩ := by
    rw [shape.parse_eq, if_pos first, if_pos second]
  refine ⟨Text.Blank.trimText given, major, minor, {
    kept := ⟨trimmed, rfl⟩
    shape
    again := ?_
    argument := ?_
    single := exists_groups_eq use trimmed shape.ne_empty
    cut := ?_
    read := parsed
    ranged := fun first second disk => check_level use (parsed first second) disk }⟩
  · intro record field
    have passes : checkField record use.field none checkLevel =
        .sound (some (Text.Blank.trimText given)) := by
      unfold checkField
      rw [field]
      unfold checkLevel
      dsimp only
      rw [shape.trimText_eq, if_pos accepted, checkOptionalText_text]
    constructor
    · rw [filter_defects_check (use.row record), passes]
      rfl
    · intro others sound'
      exact Checked.sound.inj ((use.checkField_of_check sound').symm.trans passes)
  · intro options groups rest cut
    have whole : (⟨use.flag, [Text.Blank.trimText given]⟩ : OptionGroup).IsWellFormed
        PageTask.arity :=
      ⟨use.arity_flag, by simpa using (isArgument_iff _).2 shape.isFitting⟩
    rw [cut.split_append]
    refine (congrArg _ (split_cons whole rest)).trans ?_
    cases split PageTask.arity rest <;> rfl
  · intro words cut c made
    rw [PageCompiler.ofSettings_eq (reserved_ne_empty_of_check sound) cut] at made
    split at made
    · cases made
    · cases made
      exact ⟨rfl, splitWords_described sound words⟩

/-- A level in digits of another script, with blanks around it. -/
theorem arabic_level_fares_well :
    let s : Settings := { usual with sourceLevel := some "٣.١١", extraOptions := ["-Werror"] }
    check (.record [("source_level", .text " ٣.١١\n"), ("extra_options", .list [.text "-Werror"])]) =
      .sound s ∧
    ∃ c, PageCompiler.ofSettings s = .ok c ∧
      splitWords PageTask.arity c.options.words =
        .ok [⟨Flag.source, ["٣.١١"]⟩, ⟨Flag.strict, []⟩] ∧
      LanguageLevel.parse "٣.١١" Flag.source = .ok ⟨3, 11⟩ := by
  intro s
  have sound : check (.record [("source_level", .text " ٣.١١\n"),
      ("extra_options", .list [.text "-Werror"])]) = .sound s := by
    rfl
  obtain ⟨stored, major, minor, fares⟩ := accepted_level_fares_well .source sound rfl
  obtain rfl : "٣.١١" = stored := Option.some.inj fares.kept.1
  have parts : Text.Split.parts '.' "٣.١١".toList = [['٣'], ['١', '١']] := by decide +kernel
  rw [fares.shape.parts] at parts
  obtain ⟨rfl, rfl⟩ : major = ['٣'] ∧ minor = ['١', '١'] := by simpa using parts
  have words : List.Forall₂ AreOptionWords s.extraOptions [["-Werror"]] :=
    .cons (areOptionWords_iff.2 (by decide +kernel)) .nil
  have made : PageCompiler.ofSettings s = .ok (PageCompiler.described s [["-Werror"]]) := by rfl
  have cut := (fares.cut _ words _ made).2.1 nofun
  refine ⟨sound, _, made, cut.trans (by decide +kernel), ?_⟩
  exact (fares.read (by decide) (by decide)).trans (by decide +kernel)

end Settings

end PagePress
