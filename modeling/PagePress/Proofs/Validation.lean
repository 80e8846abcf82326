import PagePress.Proofs.Text.Integer
import PagePress.Service.PageTask
import PagePress.PageCompiler

/-!
The checks in front of a compilation, and what they do not foresee. A row of paths, words or groups
is checked up to the first item that fails. Most failures tell what was configured wrongly; the
others come from asking a question that has no answer: about a path that is too long, about a word
that is no text, and for the number of a text whose digits are not all decimal, or too many.
-/

set_option autoImplicit false

namespace PagePress

def Failure.isConfiguration : Failure → Bool
  | .configuration _ => true
  | _ => false

/-- What is unforeseen in two steps: something in the first, or something in the second, which the
first lets begin. -/
theorem bind_unforeseen_iff {α β : Type} {answer : Except Failure α} {next : α → Except Failure β}
    {failure : Failure} :
    (answer.bind next = .error failure ∧ failure.isConfiguration = false) ↔
      (answer = .error failure ∧ failure.isConfiguration = false) ∨
        ∃ a, answer = .ok a ∧ next a = .error failure ∧ failure.isConfiguration = false := by
  cases answer <;> simp [Except.bind]

/-- A check of rows goes through the items one by one, up to the first that fails. -/
structure ChecksInOrder {α : Type} (all : List α → Except Failure Unit) : Prop where
  nil : all [] = .ok ()
  cons : ∀ x rest, all (x :: rest) = (all [x]).bind fun _ => all rest

namespace ChecksInOrder

variable {α : Type} {all : List α → Except Failure Unit} (h : ChecksInOrder all)

include h

private theorem append (front rest : List α) :
    all (front ++ rest) = (all front).bind fun _ => all rest := by
  induction front with
  | nil =>
    rw [h.nil]
    rfl
  | cons x front ih =>
    rw [List.cons_append, h.cons, h.cons x front, ih]
    cases all [x] <;> rfl

private theorem eq_error_iff (row : List α) (failure : Failure) :
    all row = .error failure ↔
      ∃ front x rest, row = front ++ x :: rest ∧ all front = .ok () ∧ all [x] = .error failure := by
  constructor
  · intro fails
    induction row with
    | nil =>
      rw [h.nil] at fails
      cases fails
    | cons x rest ih =>
      rw [h.cons] at fails
      cases first : all [x] with
      | error e =>
        rw [first] at fails
        cases fails
        exact ⟨[], x, rest, rfl, h.nil, first⟩
      | ok done =>
        rw [first] at fails
        obtain ⟨front, y, behind, rfl, fine, wrong⟩ := ih fails
        refine ⟨x :: front, y, behind, rfl, ?_, wrong⟩
        rw [h.cons, first]
        exact fine
  · rintro ⟨front, x, rest, rfl, fine, wrong⟩
    rw [h.append, fine]
    change all (x :: rest) = _
    rw [h.cons, wrong]
    rfl

theorem eq_ok_iff (row : List α) : all row = .ok () ↔ ∀ x ∈ row, all [x] = .ok () := by
  induction row with
  | nil => simp [h.nil]
  | cons x rest ih =>
    rw [List.forall_mem_cons, ← ih, h.cons]
    cases all [x] <;> simp [Except.bind]

end ChecksInOrder

private theorem checksInOrder_classpath (d : Disk) : ChecksInOrder
    (PageCompiler.checkClasspath d) where
  nil := rfl
  cons x rest := by
    simp only [PageCompiler.checkClasspath]
    rcases d.lookup x with error | ⟨_ | _ | _ | _⟩ <;> rfl

/-- An entry of a classpath that can be searched: a directory or an archive. -/
def PageCompiler.IsEntry (d : Disk) (entry : Path) : Prop :=
  d.lookup entry = .ok (some .directory) ∨ ∃ packed, d.lookup entry = .ok (some (.archive packed))

/-- What is told of an entry of a classpath that cannot be searched. -/
inductive PageCompiler.EntryFault (d : Disk) (entry : Path) : Failure → Prop
  | unaskable {e : DiskError} (asked : d.lookup entry = .error e) : EntryFault d entry (.disk e)
  | unfit {node : Option Node} (found : d.lookup entry = .ok node)
      (noDirectory : node ≠ some .directory) (noArchive : ∀ packed, node ≠ some (.archive packed)) :
      EntryFault d entry (.configuration (.classpathEntry entry))

section Classpath

open PageCompiler

variable {d : Disk}

private theorem checkClasspath_single (entry : Path) :
    (checkClasspath d [entry] = .ok () ↔ IsEntry d entry) ∧
      ∀ failure, checkClasspath d [entry] = .error failure ↔ EntryFault d entry failure := by
  have refused {failure : Failure} (complains : checkClasspath d [entry] = .error failure) :
      checkClasspath d [entry] ≠ .ok () := by simp [complains]
  cases asked : d.lookup entry with
  | error e =>
    have complains : checkClasspath d [entry] = .error (.disk e) := by
      simp only [checkClasspath, asked]
    refine ⟨iff_of_false (refused complains) (by simp [IsEntry, asked]), fun failure => ?_⟩
    rw [complains]
    constructor
    · rintro ⟨⟩
      exact .unaskable asked
    · intro fault
      cases fault with
      | unaskable asked' => rw [Except.error.inj (asked.symm.trans asked')]
      | unfit found => cases asked.symm.trans found
  | ok node =>
    by_cases searched : IsEntry d entry
    · have passes : checkClasspath d [entry] = .ok () := by
        rcases searched with found | ⟨packed, found⟩ <;> simp only [checkClasspath, found]
      refine ⟨iff_of_true passes searched, fun failure => ?_⟩
      rw [passes]
      refine iff_of_false nofun fun fault => ?_
      cases fault with
      | unaskable asked' => cases asked.symm.trans asked'
      | unfit found noDirectory noArchive =>
        rcases searched with found' | ⟨packed, found'⟩
        · exact noDirectory (Except.ok.inj (found.symm.trans found'))
        · exact noArchive packed (Except.ok.inj (found.symm.trans found'))
    · have noDirectory : node ≠ some .directory := fun here => searched (.inl (here ▸ asked))
      have noArchive (packed : Archive) : node ≠ some (.archive packed) :=
        fun here => searched (.inr ⟨packed, here ▸ asked⟩)
      have complains : checkClasspath d [entry] = .error (.configuration (.classpathEntry entry)) := by
        rcases node with _ | _ | content | packed
        · simp only [checkClasspath, asked]
        · exact absurd rfl noDirectory
        · simp only [checkClasspath, asked]
        · exact absurd rfl (noArchive packed)
      refine ⟨iff_of_false (refused complains) searched, fun failure => ?_⟩
      rw [complains]
      constructor
      · rintro ⟨⟩
        exact .unfit asked noDirectory noArchive
      · intro fault
        cases fault with
        | unaskable asked' => cases asked.symm.trans asked'
        | unfit => rfl

theorem checkClasspath_eq_ok_iff {classpath : List Path} :
    checkClasspath d classpath = .ok () ↔ ∀ entry ∈ classpath, IsEntry d entry := by
  rw [(checksInOrder_classpath d).eq_ok_iff]
  exact forall₂_congr fun entry _ => (checkClasspath_single entry).1

/-- A classpath that does not pass fails at the first of its entries that cannot be searched. -/
theorem checkClasspath_eq_error_iff {classpath : List Path} {failure : Failure} :
    checkClasspath d classpath = .error failure ↔ ∃ front entry rest,
      classpath = front ++ entry :: rest ∧ (∀ path ∈ front, IsEntry d path) ∧
        EntryFault d entry failure := by
  rw [(checksInOrder_classpath d).eq_error_iff]
  simp only [checkClasspath_eq_ok_iff, (checkClasspath_single _).2]

end Classpath

private theorem checksInOrder_extensions (d : Disk) : ChecksInOrder
    (PageTask.checkExtensions d) where
  nil := rfl
  cons x rest := by
    simp only [PageTask.checkExtensions]
    rcases d.lookup x with error | ⟨_ | _ | _ | _⟩ <;> rfl

theorem checksInOrder_groups (s : Service) (d : Disk) : ChecksInOrder (s.checkAll d) where
  nil := rfl
  cons g rest := by
    simp only [Service.checkAll]
    cases s.check d g <;> rfl

/-- The only paths that a disk cannot be asked about are those that are too long. -/
theorem Disk.lookup_eq_error_iff (d : Disk) (path : Path) (error : DiskError) :
    d.lookup path = .error error ↔
      d.address path = .error (.nameTooLong path.toString) ∧
        error = .nameTooLong path.toString := by
  have told (shown : String) (wrong : d.address path = .error (.nameTooLong shown)) :
      shown = path.toString := by
    simp only [address, locate] at wrong
    split at wrong
    · cases wrong
    · split at wrong
      · cases wrong
        rfl
      · cases walked : d.walk (d.origin path.anchor) path.parts with
        | ok spot =>
          rw [walked] at wrong
          cases wrong
        | error obstacle =>
          rw [walked] at wrong
          cases obstacle <;> cases wrong
          rfl
  unfold lookup
  cases found : d.address path with
  | ok spot => simp
  | error e =>
    cases e with
    | nameTooLong shown =>
      obtain rfl := told shown found
      simp [eq_comm]
    | _ => simp

/-- In a row of paths, the first that fails is one that is too long to be asked about. -/
def MeetsTooLong (d : Disk) (all : List Path → Except Failure Unit) (paths : List Path)
    (failure : Failure) : Prop :=
  ∃ front path rest, paths = front ++ path :: rest ∧ all front = .ok () ∧
    d.address path = .error (.nameTooLong path.toString) ∧
    failure = .disk (.nameTooLong path.toString)

private theorem meetsTooLong_iff {d : Disk} {all : List Path → Except Failure Unit}
    (h : ChecksInOrder all)
    (asks : ∀ path error, d.lookup path = .error error → all [path] = .error (.disk error))
    (judges : ∀ path node failure, d.lookup path = .ok node → all [path] = .error failure →
      failure.isConfiguration = true)
    (paths : List Path) (failure : Failure) :
    (all paths = .error failure ∧ failure.isConfiguration = false) ↔
      MeetsTooLong d all paths failure := by
  rw [h.eq_error_iff]
  constructor
  · rintro ⟨⟨front, path, rest, row, fine, wrong⟩, other⟩
    cases answer : d.lookup path with
    | error error =>
      obtain ⟨tooLong, rfl⟩ := (d.lookup_eq_error_iff path error).1 answer
      obtain rfl := Except.error.inj (wrong.symm.trans (asks path _ answer))
      exact ⟨front, path, rest, row, fine, tooLong, rfl⟩
    | ok node =>
      rw [judges path node failure answer wrong] at other
      cases other
  · rintro ⟨front, path, rest, row, fine, tooLong, rfl⟩
    have answer := (d.lookup_eq_error_iff path _).2 ⟨tooLong, rfl⟩
    exact ⟨⟨front, path, rest, row, fine, asks path _ answer⟩, rfl⟩

theorem classpath_unforeseen_iff (d : Disk) (paths : List Path) (failure : Failure) :
    (PageCompiler.checkClasspath d paths = .error failure ∧ failure.isConfiguration = false) ↔
      MeetsTooLong d (PageCompiler.checkClasspath d) paths failure := by
  refine meetsTooLong_iff (checksInOrder_classpath d) ?_ ?_ paths failure
  · intro path error answer
    simp only [PageCompiler.checkClasspath, answer]
  · intro path node failure answer wrong
    simp only [PageCompiler.checkClasspath, answer] at wrong
    rcases node with _ | _ | _ | _ <;> cases wrong <;> rfl

private theorem extensions_unforeseen_iff (d : Disk) (paths : List Path) (failure : Failure) :
    (PageTask.checkExtensions d paths = .error failure ∧ failure.isConfiguration = false) ↔
      MeetsTooLong d (PageTask.checkExtensions d) paths failure := by
  refine meetsTooLong_iff (checksInOrder_extensions d) ?_ ?_ paths failure
  · intro path error answer
    simp only [PageTask.checkExtensions, answer]
  · intro path node failure answer wrong
    simp only [PageTask.checkExtensions, answer] at wrong
    rcases node with _ | _ | _ | _ <;> cases wrong <;> rfl

/-- A level of two rows of digits, of which one is no number: the first such row is told. -/
def MeetsUnreadable (value : String) (failure : Failure) : Prop :=
  ∃ major minor part, Text.Split.partsText '.' value = [major, minor] ∧
    LanguageLevel.isNumber major = true ∧ LanguageLevel.isNumber minor = true ∧
    [major, minor].find? (fun part => !Text.Integer.isReadable part) = some part ∧
    failure = .notAnInteger (.badText (Text.Integer.digitFault part))

private theorem number_eq {part : String} (digits : LanguageLevel.isNumber part = true) :
    LanguageLevel.number part =
      if Text.Integer.isReadable part then .ok (Text.Integer.valueOf part.toList : Int)
      else .error (.notAnInteger (.badText (Text.Integer.digitFault part))) := by
  simp only [LanguageLevel.isNumber, Bool.and_eq_true, Bool.not_eq_true', List.isEmpty_eq_false_iff,
    List.all_eq_true] at digits
  rw [LanguageLevel.number, Text.Integer.read_of_digits digits.1 digits.2]
  split <;> rfl

/-- Two rows of digits are read one after the other, and the first that is no number breaks it. -/
theorem LanguageLevel.parse_of_isNumber {value flag major minor : String}
    (parted : Text.Split.partsText '.' value = [major, minor])
    (first : LanguageLevel.isNumber major = true) (second : LanguageLevel.isNumber minor = true) :
    LanguageLevel.parse value flag =
      match [major, minor].find? (fun part => !Text.Integer.isReadable part) with
      | some part => .error (.notAnInteger (.badText (Text.Integer.digitFault part)))
      | none => .ok ⟨Text.Integer.valueOf major.toList, Text.Integer.valueOf minor.toList⟩ := by
  simp only [LanguageLevel.parse, parted, first, second, Bool.and_self, if_true, number_eq]
  cases left : Text.Integer.isReadable major with
  | false => simp [left, bind, Except.bind]
  | true =>
    cases right : Text.Integer.isReadable minor with
    | false => simp [left, right, bind, Except.bind]
    | true =>
      simp only [List.find?_cons, left, right, Bool.not_true, List.find?_nil]
      rfl

theorem level_unforeseen_iff (value flag : String) (failure : Failure) :
    (LanguageLevel.parse value flag = .error failure ∧ failure.isConfiguration = false) ↔
      MeetsUnreadable value failure := by
  constructor
  · rintro ⟨told, other⟩
    -- All that is malformed is told as a configuration, so the parts are two rows of digits.
    obtain ⟨major, minor, parted, first, second⟩ : ∃ major minor,
        Text.Split.partsText '.' value = [major, minor] ∧
          LanguageLevel.isNumber major = true ∧ LanguageLevel.isNumber minor = true := by
      unfold LanguageLevel.parse at told
      split at told
      · rename_i major minor parted
        split at told
        · rename_i digits
          exact ⟨major, minor, parted, Bool.and_eq_true_iff.1 digits⟩
        · cases told
          cases other
      · cases told
        cases other
    rw [LanguageLevel.parse_of_isNumber parted first second] at told
    refine ⟨major, minor, ?_⟩
    cases found : [major, minor].find? (fun part => !Text.Integer.isReadable part) with
    | none =>
      rw [found] at told
      cases told
    | some part =>
      rw [found] at told
      cases told
      exact ⟨part, parted, first, second, rfl, rfl⟩
  · rintro ⟨major, minor, part, parted, first, second, found, rfl⟩
    rw [LanguageLevel.parse_of_isNumber parted first second, found]
    exact ⟨rfl, rfl⟩

/-- What the check of a group meets and does not foresee. -/
inductive PageTask.GroupMeets (d : Disk) (g : OptionGroup) : Failure → Prop
  | level {failure : Failure} (flag : g.flag = Flag.source ∨ g.flag = Flag.target)
      (unreadable : MeetsUnreadable (argument g) failure) : GroupMeets d g failure
  | extensions {failure : Failure} (flag : g.flag = Flag.extensions)
      (tooLong : MeetsTooLong d (checkExtensions d) (pathsOf (argument g)) failure) :
      GroupMeets d g failure

private theorem demanded_unforeseen_iff (value flag : String) (demand : LanguageLevel → Bool)
    (complaint : ConfigurationError) (failure : Failure) :
    ((LanguageLevel.parse value flag).bind (fun level =>
        if demand level then .error (.configuration complaint) else .ok ()) = .error failure ∧
      failure.isConfiguration = false) ↔ MeetsUnreadable value failure := by
  rw [← level_unforeseen_iff value flag failure]
  cases LanguageLevel.parse value flag with
  | error e => simp [Except.bind]
  | ok level =>
    constructor
    · rintro ⟨told, other⟩
      cases demanded : demand level with
      | true =>
        simp only [Except.bind, demanded, if_true, Except.error.injEq] at told
        rw [← told] at other
        cases other
      | false => simp [Except.bind, demanded] at told
    · rintro ⟨⟨⟩, -⟩

theorem group_unforeseen_iff (d : Disk) (g : OptionGroup) (failure : Failure) :
    (PageTask.check d g = .error failure ∧ failure.isConfiguration = false) ↔
      PageTask.GroupMeets d g failure := by
  by_cases source : g.flag = Flag.source
  · have check_eq : PageTask.check d g =
        (LanguageLevel.parse (PageTask.argument g) g.flag).bind fun level =>
          if level.isBefore .lowest || LanguageLevel.current.isBefore level then
            .error (.configuration (.sourceLevel (PageTask.argument g)))
          else .ok () := by
      rw [PageTask.check, if_pos source]
      rfl
    rw [check_eq, demanded_unforeseen_iff]
    refine ⟨.level (.inl source), ?_⟩
    rintro (⟨-, unreadable⟩ | ⟨flag, -⟩)
    · exact unreadable
    · exact absurd (source.symm.trans flag) (by decide)
  · by_cases target : g.flag = Flag.target
    · have check_eq : PageTask.check d g =
          (LanguageLevel.parse (PageTask.argument g) g.flag).bind fun level =>
            if decide (level ≠ .current) then
              .error (.configuration (.targetLevel (PageTask.argument g)))
            else .ok () := by
        rw [PageTask.check, if_neg source, if_pos target]
        simp only [decide_eq_true_eq]
        rfl
      rw [check_eq, demanded_unforeseen_iff]
      refine ⟨.level (.inr target), ?_⟩
      rintro (⟨-, unreadable⟩ | ⟨flag, -⟩)
      · exact unreadable
      · exact absurd (target.symm.trans flag) (by decide)
    · by_cases extensions : g.flag = Flag.extensions
      · rw [PageTask.check, if_neg source, if_neg target, if_pos extensions,
          extensions_unforeseen_iff]
        refine ⟨.extensions extensions, ?_⟩
        rintro (⟨source' | target', -⟩ | ⟨-, tooLong⟩)
        · exact absurd source' source
        · exact absurd target' target
        · exact tooLong
      · rw [PageTask.check, if_neg source, if_neg target, if_neg extensions]
        refine ⟨nofun, ?_⟩
        rintro (⟨source' | target', -⟩ | ⟨extensions', -⟩)
        · exact absurd source' source
        · exact absurd target' target
        · exact absurd extensions' extensions

/-- A row of words, in front of which whole groups may stand, goes on with a word that cannot be
asked about because it is no text. -/
inductive PageTask.MeetsNoText : List Datum → Failure → Prop
  | list (items : List Datum) (rest : List Datum) :
      MeetsNoText (.list items :: rest) (.notHashable "list")
  | record (fields : List (String × Datum)) (rest : List Datum) :
      MeetsNoText (.record fields :: rest) (.notHashable "dict")
  | argument {flag : String} (takesOne : arity flag = 1) {word : Datum}
      (noText : ∀ text, word ≠ .text text) (rest : List Datum) :
      MeetsNoText (.text flag :: word :: rest) (.noAttribute word.kindName "startswith")
  | behindFlag {flag : String} (takesNone : arity flag = 0) {rest : List Datum} {failure : Failure}
      (behind : MeetsNoText rest failure) : MeetsNoText (.text flag :: rest) failure
  | behindGroup {flag argument : String} (takesOne : arity flag = 1)
      (fits : OptionGroup.isArgument argument = true) {rest : List Datum} {failure : Failure}
      (behind : MeetsNoText rest failure) :
      MeetsNoText (.text flag :: .text argument :: rest) failure

private theorem splitWords_flag {flag : String} (takesNone : PageTask.arity flag = 0)
    (rest : List Datum) :
    OptionGroup.splitWords PageTask.arity (.text flag :: rest) =
      (OptionGroup.splitWords PageTask.arity rest).map fun groups => ⟨flag, []⟩ :: groups := by
  rw [OptionGroup.splitWords]
  simp only [takesNone, Int.lt_irrefl, if_false, Int.toNat_zero, List.take_zero, List.length_nil,
    List.drop_zero, OptionGroup.argumentTexts]
  cases OptionGroup.splitWords PageTask.arity rest <;> rfl

private theorem splitWords_group {flag : String} (takesOne : PageTask.arity flag = 1) (word : Datum)
    (rest : List Datum) :
    OptionGroup.splitWords PageTask.arity (.text flag :: word :: rest) =
      (OptionGroup.argumentTexts flag 1 [word]).bind fun args =>
        (OptionGroup.splitWords PageTask.arity rest).map fun groups => ⟨flag, args⟩ :: groups := by
  rw [OptionGroup.splitWords]
  have known : ¬ (1 : Int) < 0 := by decide
  simp only [takesOne, known, if_false, Int.toNat_one, List.take_succ_cons, List.take_zero,
    List.length_cons, List.length_nil, List.drop_succ_cons, List.drop_zero]
  cases OptionGroup.argumentTexts flag 1 [word] with
  | error e => rfl
  | ok args => cases OptionGroup.splitWords PageTask.arity rest <;> rfl

private theorem arity_cases (flag : String) :
    PageTask.arity flag = 1 ∨ PageTask.arity flag = 0 ∨ PageTask.arity flag = -1 := by
  unfold PageTask.arity
  split
  · exact .inl rfl
  · split
    · exact .inr (.inl rfl)
    · exact .inr (.inr rfl)

private theorem splitWords_of_meetsNoText {words : List Datum} {failure : Failure}
    (h : PageTask.MeetsNoText words failure) :
    OptionGroup.splitWords PageTask.arity words = .error failure ∧
      failure.isConfiguration = false := by
  induction h with
  | list items rest => exact ⟨by rw [OptionGroup.splitWords], rfl⟩
  | record fields rest => exact ⟨by rw [OptionGroup.splitWords], rfl⟩
  | @argument flag takesOne word noText rest =>
    refine ⟨?_, rfl⟩
    rw [splitWords_group takesOne]
    cases word <;> first | rfl | exact absurd rfl (noText _)
  | behindFlag takesNone behind ih =>
    rw [splitWords_flag takesNone, ih.1]
    exact ⟨rfl, ih.2⟩
  | behindGroup takesOne fits behind ih =>
    rw [splitWords_group takesOne, ih.1]
    simp only [OptionGroup.argumentTexts, fits, if_true]
    exact ⟨rfl, ih.2⟩

private theorem error_of_bind_ok {α β : Type} {answer : Except Failure α} {f : α → β}
    {failure : Failure} (fails : (do let a ← answer; pure (f a)) = Except.error failure) :
    answer = .error failure := by
  cases answer with
  | error e =>
    cases fails
    rfl
  | ok a => cases fails

private theorem meetsNoText_of_splitWords {words : List Datum} {failure : Failure}
    (fails : OptionGroup.splitWords PageTask.arity words = .error failure)
    (other : failure.isConfiguration = false) : PageTask.MeetsNoText words failure := by
  fun_induction OptionGroup.splitWords PageTask.arity words with
  | case1 => cases fails
  | case2 =>
    cases fails
    cases other
  | case3 =>
    cases fails
    cases other
  | case5 items rest =>
    cases fails
    exact .list items rest
  | case6 fields rest =>
    cases fails
    exact .record fields rest
  | case7 =>
    cases fails
    cases other
  | case4 flag rest known count enough ih =>
    -- A known flag takes one argument or none; the rest behind them is what breaks, or the argument.
    rcases arity_cases flag with takesOne | takesNone | unknown
    · have one : count = 1 := by simp [count, takesOne]
      rw [one] at fails enough ih
      cases rest with
      | nil => simp at enough
      | cons word rest =>
        by_cases worded : ∃ argument, word = .text argument
        · obtain ⟨argument, rfl⟩ := worded
          cases fits : OptionGroup.isArgument argument with
          | true =>
            have taken : OptionGroup.argumentTexts flag 1 ((.text argument :: rest).take 1) =
                .ok [argument] := by
              simp [OptionGroup.argumentTexts, fits, Except.map]
            rw [taken] at fails
            exact .behindGroup takesOne fits (ih (error_of_bind_ok fails))
          | false =>
            have taken : OptionGroup.argumentTexts flag 1 ((.text argument :: rest).take 1) =
                .error (.configuration (.argumentCount flag 1)) := by
              simp [OptionGroup.argumentTexts, fits]
            rw [taken] at fails
            cases fails
            cases other
        · have noText : ∀ text, word ≠ .text text := fun text same => worded ⟨text, same⟩
          have taken : OptionGroup.argumentTexts flag 1 ((word :: rest).take 1) =
              .error (.noAttribute word.kindName "startswith") := by
            cases word <;> first | rfl | exact absurd rfl (noText _)
          rw [taken] at fails
          cases fails
          exact .argument takesOne noText rest
    · have none : count = 0 := by simp [count, takesNone]
      rw [none] at fails ih
      exact .behindFlag takesNone (ih (error_of_bind_ok fails))
    · exact absurd known (by simp [unknown])

/-- What the check of an option list meets and does not foresee: a word that is no text, or, in a
list that could be cut into groups, something about the first group that does not pass. -/
inductive PageTask.OptionsMeet [Text.Encodings] (fe : FrontEnd) (d : Disk) (words : List Datum) :
    Failure → Prop
  | word {failure : Failure} (noText : MeetsNoText words failure) : OptionsMeet fe d words failure
  | group {front rest : List OptionGroup} {g : OptionGroup} {failure : Failure}
      (cut : OptionGroup.splitWords arity words = .ok (front ++ g :: rest))
      (fine : (service fe).checkAll d front = .ok ()) (meets : GroupMeets d g failure) :
      OptionsMeet fe d words failure

theorem options_unforeseen_iff [Text.Encodings] (fe : FrontEnd) (d : Disk) (words : List Datum)
    (failure : Failure) :
    ((PageTask.service fe).validate d words = .error failure ∧ failure.isConfiguration = false) ↔
      PageTask.OptionsMeet fe d words failure := by
  have inOrder := checksInOrder_groups (PageTask.service fe) d
  have single (g : OptionGroup) :
      (PageTask.service fe).checkAll d [g] = .error failure ↔ PageTask.check d g = .error failure := by
    change ((PageTask.check d g).bind fun _ => .ok ()) = _ ↔ _
    cases PageTask.check d g <;> simp [Except.bind]
  have validate_eq : (PageTask.service fe).validate d words =
      (OptionGroup.splitWords PageTask.arity words).bind fun groups =>
        ((PageTask.service fe).checkAll d groups).bind fun _ => .ok (OptionGroup.flatten groups) := rfl
  rw [validate_eq, bind_unforeseen_iff]
  constructor
  · rintro (⟨cut, other⟩ | ⟨groups, cut, fails, other⟩)
    · exact .word (meetsNoText_of_splitWords cut other)
    · have wrong : (PageTask.service fe).checkAll d groups = .error failure :=
        error_of_bind_ok fails
      obtain ⟨front, g, rest, rfl, fine, broken⟩ := (inOrder.eq_error_iff groups failure).1 wrong
      exact .group cut fine ((group_unforeseen_iff d g failure).1 ⟨(single g).1 broken, other⟩)
  · intro h
    cases h with
    | word noText => exact .inl (splitWords_of_meetsNoText noText)
    | @group front rest g _ cut fine meets =>
      obtain ⟨wrong, other⟩ := (group_unforeseen_iff d g failure).2 meets
      have broken : (PageTask.service fe).checkAll d (front ++ g :: rest) = .error failure :=
        (inOrder.eq_error_iff _ failure).2 ⟨front, g, rest, rfl, fine, (single g).2 wrong⟩
      refine .inr ⟨front ++ g :: rest, cut, ?_, other⟩
      rw [broken]
      rfl

end PagePress
