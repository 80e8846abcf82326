import Mathlib.Data.List.Induction
import PagePress.Proofs.Activity.Framing
import PagePress.Proofs.Preparation
import PagePress.Text.Encoding.Standard

/-!
Options that pile up. Each group adds to what the groups in front of it ask for: a level takes the
place of an earlier one, a switch stays set, directories of extensions come behind those that are
there. Apart from the levels the groups may therefore come in any order, and all of them any number
of times: only the directories of extensions are others then, and no compilation looks there.
-/

set_option autoImplicit false

namespace PagePress

namespace PageTask

def extensionsOf (g : OptionGroup) : List Path :=
  if g.flag = Flag.extensions then pathsOf (argument g) else []

def leveling (groups : List OptionGroup) : List OptionGroup :=
  groups.filter fun g => g.flag = Flag.source

structure Asks (groups : List OptionGroup) (s : Demands) : Prop where
  level : s.level.map .ok =
    (leveling groups).getLast?.map fun g => LanguageLevel.parse (argument g) Flag.source
  debug : s.debug = true ↔ ∃ g ∈ groups, g.flag = Flag.debug
  strict : s.strict = true ↔ ∃ g ∈ groups, g.flag = Flag.strict
  quiet : s.quiet = true ↔ ∃ g ∈ groups, g.flag = Flag.quiet
  extensions : s.extensions = groups.flatMap extensionsOf

/-- What a group adds to what is asked for. -/
structure Adds (s : Demands) (g : OptionGroup) (t : Demands) : Prop where
  level : t.level.map .ok = if g.flag = Flag.source then
    some (LanguageLevel.parse (argument g) Flag.source) else s.level.map .ok
  debug : t.debug = (s.debug || g.flag == Flag.debug)
  strict : t.strict = (s.strict || g.flag == Flag.strict)
  quiet : t.quiet = (s.quiet || g.flag == Flag.quiet)
  extensions : t.extensions = s.extensions ++ extensionsOf g

private theorem flags_nodup :
    [Flag.source, Flag.debug, Flag.extensions, Flag.strict, Flag.quiet].Nodup := by decide

private theorem adds_of_apply {s t : Demands} {g : OptionGroup} (applied : apply s g = .ok t) :
    Adds s g t := by
  have apart := flags_nodup
  simp only [List.nodup_cons, List.mem_cons, List.not_mem_nil, or_false, not_or] at apart
  unfold apply at applied
  split at applied
  · rename_i source
    cases level : LanguageLevel.parse (argument g) g.flag with
    | error e =>
      rw [level] at applied
      cases applied
    | ok level =>
      rw [level] at applied
      cases applied
      constructor <;> grind [extensionsOf]
  · split_ifs at applied <;> cases applied <;> constructor <;> grind [extensionsOf]

private theorem leveling_append (front rest : List OptionGroup) :
    leveling (front ++ rest) = leveling front ++ leveling rest := List.filter_append ..

private theorem asks_nil : Asks [] ⟨none, false, [], false, false⟩ := by
  constructor <;> simp [leveling]

private theorem Asks.snoc {groups : List OptionGroup} {g : OptionGroup} {s t : Demands}
    (asks : Asks groups s) (adds : Adds s g t) : Asks (groups ++ [g]) t where
  level := by
    rw [adds.level, leveling_append, List.getLast?_append]
    by_cases source : g.flag = Flag.source
    · simp [leveling, source]
    · simp [source, asks.level, leveling]
  debug := by
    rw [adds.debug, Bool.or_eq_true, asks.debug]
    simp [or_and_right, exists_or]
  strict := by
    rw [adds.strict, Bool.or_eq_true, asks.strict]
    simp [or_and_right, exists_or]
  quiet := by
    rw [adds.quiet, Bool.or_eq_true, asks.quiet]
    simp [or_and_right, exists_or]
  extensions := by
    rw [adds.extensions, asks.extensions, List.flatMap_append]
    simp

private theorem asks_of_demandsFrom {d : Disk} {groups : List OptionGroup} {t : Demands}
    (demanded : demandsFrom d ⟨none, false, [], false, false⟩ groups = .ok t) : Asks groups t := by
  induction groups using List.reverseRecOn generalizing t with
  | nil =>
    cases demanded
    exact asks_nil
  | append_singleton groups g ih =>
    obtain ⟨r, first, last⟩ := demandsFrom_append_ok.1 demanded
    obtain ⟨-, q, applied, done⟩ := demandsFrom_cons_ok.1 last
    cases done
    exact (ih first).snoc (adds_of_apply applied)

/-- Groups say what others say, but for directories of extensions, if they are the same apart from
their order and number and the last level is the same. -/
private theorem Asks.eq_with_extensions {groups others : List OptionGroup} {s t : Demands}
    (asks : Asks groups s) (again : Asks others t) (same : ∀ g, g ∈ others ↔ g ∈ groups)
    (leveled : (leveling others).getLast? = (leveling groups).getLast?) :
    t = { s with extensions := t.extensions } := by
  have level : t.level = s.level := by
    have both := again.level.trans (leveled ▸ asks.level.symm)
    exact Option.map_injective (fun _ _ => Except.ok.inj) both
  have debug : t.debug = s.debug :=
    Bool.eq_iff_iff.2 (by rw [again.debug, asks.debug]; simp only [same])
  have strict : t.strict = s.strict :=
    Bool.eq_iff_iff.2 (by rw [again.strict, asks.strict]; simp only [same])
  have quiet : t.quiet = s.quiet :=
    Bool.eq_iff_iff.2 (by rw [again.quiet, asks.quiet]; simp only [same])
  cases t
  cases level
  cases debug
  cases strict
  cases quiet
  rfl

/-! Repetition. -/

private theorem mem_repeated {groups : List OptionGroup} (n : Nat) (g : OptionGroup) :
    g ∈ (List.replicate (n + 1) groups).flatten ↔ g ∈ groups := by
  simp [List.mem_flatten, List.mem_replicate]

private theorem getLast?_leveling_repeated (groups : List OptionGroup) (n : Nat) :
    (leveling (List.replicate (n + 1) groups).flatten).getLast? = (leveling groups).getLast? := by
  rw [List.replicate_succ', List.flatten_append, List.flatten_singleton, leveling_append,
    List.getLast?_append]
  cases last : (leveling groups).getLast? with
  | some g => rfl
  | none =>
    -- Without a level in the list there is none in its repetitions.
    have none : ∀ g ∈ groups, ¬ g.flag = Flag.source := by
      rw [List.getLast?_eq_none_iff] at last
      simpa [leveling, List.filter_eq_nil_iff] using last
    rw [Option.none_or, List.getLast?_eq_none_iff]
    simp only [leveling, List.filter_eq_nil_iff, List.mem_flatten, List.mem_replicate,
      decide_eq_true_eq]
    rintro g ⟨_, ⟨-, rfl⟩, member⟩
    exact none g member

/-! What a task looks at. -/

section Avoiding

variable {location : Location}

private theorem avoids_isVisible (apart : Location.classPath ≠ location) (known : Listings)
    (module : String) : (isVisible known module).Avoids location := by
  have listed (package : String) : (listing known package).Avoids location := by
    unfold listing
    split
    · trivial
    · exact ⟨apart, fun answer => (Activity.avoids_ofAnswer answer).andThen fun objects =>
        (Activity.avoids_binaryNames objects).andThen fun names => trivial⟩
  unfold isVisible
  dsimp only
  split
  · trivial
  · exact (listed _).andThen fun answer => trivial

private theorem avoids_checkImports (apart : Location.classPath ≠ location) (u : SourceUnit)
    (known : Listings) (requests : List ImportRequest) :
    (checkImports u known requests).Avoids location := by
  induction requests generalizing known with
  | nil => trivial
  | cons r rest ih =>
    refine (avoids_isVisible apart known r.module).andThen fun answer => ?_
    refine Activity.Avoids.andThen ?_ fun _ => (ih _).andThen fun _ => trivial
    split <;> trivial

private theorem avoids_reportWarnings (u : SourceUnit) (s : Demands) (warnings : List Notice) :
    (reportWarnings u s warnings).Avoids location := by
  induction warnings with
  | nil => trivial
  | cons n rest ih =>
    refine Activity.Avoids.andThen ?_ fun _ => ih
    split <;> trivial

private theorem avoids_emit [Text.Encodings] (apart : Location.classOutput ≠ location)
    (u : SourceUnit) :
    (emit u).Avoids location :=
  (Activity.avoids_ofAnswer u.encoded).andThen fun _ => ⟨apart, fun answer =>
    (Activity.avoids_ofAnswer answer).andThen fun object =>
      fun _ => (Activity.avoids_writeArtifact object _).andThen fun _ => trivial⟩

private theorem avoids_compileTree [Text.Encodings] (searched : Location.classPath ≠ location)
    (written : Location.classOutput ≠ location) (fe : FrontEnd) (s : Demands) (u : SourceUnit)
    (warned : Bool) (tree : SyntaxTree) (known : Listings) :
    (compileTree fe s u warned tree known).Avoids location := by
  refine (avoids_checkImports searched u known _).andThen fun ⟨resolved, known⟩ => ?_
  dsimp only
  split
  · trivial
  · refine (avoids_reportWarnings u s _).andThen fun _ => ?_
    split
    · trivial
    · split
      · trivial
      · split
        · trivial
        · exact (avoids_emit written u).andThen fun _ => trivial

private theorem avoids_compileUnit [Text.Encodings] (searched : Location.classPath ≠ location)
    (written : Location.classOutput ≠ location) (fe : FrontEnd) (s : Demands) (u : SourceUnit)
    (known : Listings) : (compileUnit fe s u known).Avoids location := by
  unfold compileUnit
  dsimp only
  split
  · trivial
  · exact (avoids_reportWarnings u s _).andThen fun _ => trivial
  · exact (avoids_reportWarnings u s _).andThen fun _ =>
      avoids_compileTree searched written fe s u _ _ known

private theorem avoids_compileUnits [Text.Encodings] (searched : Location.classPath ≠ location)
    (written : Location.classOutput ≠ location) (fe : FrontEnd) (s : Demands)
    (units : List SourceUnit) (known : Listings) :
    (compileUnits fe s units known).Avoids location := by
  induction units generalizing known with
  | nil => trivial
  | cons u rest ih =>
    exact (avoids_compileUnit searched written fe s u known).andThen fun answer =>
      (ih _).andThen fun _ => trivial

end Avoiding

private theorem avoids_extensionPath [Text.Encodings] (fe : FrontEnd) (s : Demands)
    (units : List SourceUnit) :
    (compileUnits fe s units []).Avoids .extensionPath :=
  avoids_compileUnits (by decide) (by decide) fe s units []

private theorem reportWarnings_with_extensions (u : SourceUnit) (s : Demands)
    (extensions : List Path) (warnings : List Notice) :
    reportWarnings u { s with extensions } warnings = reportWarnings u s warnings := by
  induction warnings with
  | nil => rfl
  | cons n rest ih => rw [reportWarnings, ih, reportWarnings]

private theorem compileUnits_with_extensions [Text.Encodings] (fe : FrontEnd) (s : Demands)
    (extensions : List Path) (units : List SourceUnit) (known : Listings) :
    compileUnits fe { s with extensions } units known = compileUnits fe s units known := by
  have unit (u : SourceUnit) (known : Listings) :
      compileUnit fe { s with extensions } u known = compileUnit fe s u known := by
    simp only [compileUnit, compileTree, reportWarnings_with_extensions]
    rfl
  induction units generalizing known with
  | nil => rfl
  | cons u rest ih => simp only [compileUnits, unit, ih]

private theorem activity_congr [Text.Encodings] {fe other : FrontEnd} {s : Demands}
    (same : ∀ text, other.parse text s.level = fe.parse text s.level ∧
      other.generate text s.level s.optimization = fe.generate text s.level s.optimization)
    (units : List SourceUnit) : activity other s units = activity fe s units := by
  have all (known : Listings) : compileUnits other s units known = compileUnits fe s units known := by
    induction units generalizing known with
    | nil => rfl
    | cons u rest ih =>
      simp only [compileUnits, compileUnit, compileTree, (same u.source).1, (same u.source).2, ih]
  simp only [activity, compileAll, all]

section Running

variable [Text.Encodings] (fe : FrontEnd) (s : Demands) (units : List SourceUnit) (m : FileAccess)
  (w : Workspace)

private theorem exists_run_activity (paths : List Path) : ∃ others,
    (activity fe s units).run m (FileAccess.setLocation w .extensionPath paths) =
      FileAccess.located .extensionPath others ((compileUnits fe s units []).run m w) := by
  have frame := Activity.run_setLocation (avoids_extensionPath fe s units) m w
  rw [run_activity_eq]
  unfold located
  split
  · exact ⟨paths, frame paths⟩
  · refine ⟨s.extensions, ?_⟩
    rw [FileAccess.setLocation_setLocation, frame]

private theorem run_activity_sameBut (extensions paths : List Path) :
    FileAccess.SameBut .extensionPath ((activity fe s units).run m w)
      ((activity fe { s with extensions } units).run m
        (FileAccess.setLocation w .extensionPath paths)) := by
  obtain ⟨p, ran⟩ := exists_run_activity fe s units m w (w.locations.get .extensionPath)
  obtain ⟨q, ran'⟩ := exists_run_activity fe { s with extensions } units m w paths
  rw [FileAccess.setLocation_get] at ran
  rw [ran, ran', compileUnits_with_extensions fe s extensions]
  exact FileAccess.sameBut_located _ _ _ _

private theorem getLocation_run_activity :
    m.getLocation ((activity fe s units).run m w).2 .extensionPath =
      if s.extensions = [] then m.getLocation w .extensionPath else s.extensions := by
  have avoids := avoids_extensionPath fe s units
  rw [run_activity_eq]
  simp only [FileAccess.getLocation_eq, located, List.isEmpty_iff]
  split
  · exact Activity.get_locations_run avoids m w
  · exact (Activity.get_locations_run avoids m _).trans
      (LocationTable.get_set_self w.locations .extensionPath s.extensions)

end Running

end PageTask

namespace PageCompiler

open FileAccess (located SameBut setLocation)

private theorem commit_setLocation (name : String) (w : Workspace) (location : Location)
    (paths : List Path) :
    commit name (setLocation w location paths) = located location paths (commit name w) := by
  unfold commit
  rw [show (setLocation w location paths).index = w.index from rfl,
    show (setLocation w location paths).store = w.store from rfl]
  dsimp only
  split
  · rfl
  · split
    · rfl
    · rcases w.store.putMany _ with ⟨_ | _, store⟩ <;> rfl

private theorem conclude_setLocation (c : PageCompiler) (u : SourceUnit) (guide : Option LineGuide)
    (succeeded : Bool) (w : Workspace) (location : Location) (paths : List Path) :
    c.conclude u guide succeeded (setLocation w location paths) =
      located location paths (c.conclude u guide succeeded w) := by
  cases succeeded with
  | false => rfl
  | true =>
    simp only [conclude, if_true, commit_setLocation, located]
    rcases commit u.name w with ⟨_ | _, v⟩ <;> rfl

/-- A compilation under other options comes to the same, but for the paths of a location, if the
options are accepted too and their task runs so. -/
private theorem compile_sameBut [Text.Encodings] {c : PageCompiler} {s : Service} {name : String}
    {guide : Option LineGuide} {w : Workspace} {options options' : List String}
    {others : CompilerOptions} {location : Location} (apart : Location.classPath ≠ location)
    (paths : List Path) (accepted : s.validate w.disk c.options.words = .ok options)
    (accepted' : s.validate w.disk others.words = .ok options')
    (alike : ∀ u, ∃ a b, s.task w.disk options [u] = .ok a ∧ s.task w.disk options' [u] = .ok b ∧
      ∀ m v given, SameBut location (a.run m v) (b.run m (setLocation v location given))) :
    SameBut location (c.compile s name guide w)
      (compile { c with options := others } s name guide (setLocation w location paths)) := by
  rcases c.inOrder_or_refusal s w.disk name with ⟨sink, u, checked, inOrder⟩ | ⟨failure, refusal⟩
  · obtain rfl : checked = options := Except.ok.inj (inOrder.validated.symm.trans accepted)
    have inOrder' : ({ c with options := others } : PageCompiler).InOrder s
        (setLocation w location paths).disk name sink u options' :=
      ⟨inOrder.opened, inOrder.named, inOrder.accepted, inOrder.searched, accepted'⟩
    obtain ⟨a, b, asked, asked', runs⟩ := alike u
    rw [compile_of_inOrder inOrder, compile_of_inOrder inOrder', execute, execute]
    have session : setLocation (setLocation w location paths).renew .classPath c.classpath =
        setLocation (setLocation w.renew .classPath c.classpath) location paths :=
      FileAccess.setLocation_comm w.renew location paths apart c.classpath
    obtain ⟨given, ran⟩ := runs (.virtual .standard c.reserved)
      (setLocation w.renew .classPath c.classpath) paths
    simp only [session, show (setLocation (setLocation w.renew .classPath c.classpath) location
      paths).disk = w.disk from rfl, show (setLocation w.renew .classPath c.classpath).disk =
      w.disk from rfl, asked, asked', ran]
    rcases a.run (.virtual .standard c.reserved) (setLocation w.renew .classPath c.classpath) with
      ⟨_ | succeeded, v⟩
    · exact ⟨given, rfl⟩
    · exact ⟨given, conclude_setLocation c u guide succeeded v location given⟩
  · have refusal' : ({ c with options := others } : PageCompiler).Refusal s
        (setLocation w location paths).disk name failure := by
      cases refusal with
      | noSink none => exact .noSink none
      | name opened unfit => exact .name opened unfit
      | text opened named refused => exact .text opened named refused
      | classpath opened named accepted split searched fault =>
        exact .classpath opened named accepted split searched fault
      | options opened named made searched refused => cases accepted.symm.trans refused
    rw [compile_of_refusal refusal, compile_of_refusal refusal']
    exact ⟨paths, rfl⟩

end PageCompiler

namespace PageTask

/-- A task under options works with what their groups ask for: the front end is used at its level
alone, code is generated without optimization exactly when debugging is asked for, and the
directories of extensions are set if there are any, and else left as they were. -/
structure WorksBy [Text.Encodings] (fe : FrontEnd) (d : Disk) (options : List String)
    (groups : List OptionGroup) (s : Demands) : Prop where
  cut : OptionGroup.IsCut arity options groups
  asks : Asks groups s
  task : ∀ units, (service fe).task d options units = .ok (activity fe s units)
  frontEnd : ∀ other : FrontEnd, (∀ text, other.parse text s.level = fe.parse text s.level ∧
      other.generate text s.level s.optimization = fe.generate text s.level s.optimization) →
    ∀ units, (service other).task d options units = (service fe).task d options units
  extensionPath : ∀ units (m : FileAccess) w,
    m.getLocation ((activity fe s units).run m w).2 .extensionPath =
      if s.extensions = [] then m.getLocation w .extensionPath else s.extensions

/-- Other groups in place of a list of words: they are accepted, and every task and every compilation
answers and leaves the same as under the words, but for the directories of extensions. -/
structure WorksAlike [Text.Encodings] (fe : FrontEnd) (d : Disk) (words : List Datum) (s : Demands)
    (others : List OptionGroup) (t : Demands) : Prop where
  accepted : (service fe).validate d ((OptionGroup.flatten others).map .text) =
    .ok (OptionGroup.flatten others)
  asks : Asks others t
  task : ∀ units, (service fe).task d (OptionGroup.flatten others) units =
    .ok (activity fe t units)
  runs : ∀ units m w, FileAccess.SameBut .extensionPath ((activity fe s units).run m w)
    ((activity fe t units).run m w)
  compilations : ∀ (c : PageCompiler) name guide w paths, c.options = ⟨words⟩ → w.disk = d →
    FileAccess.SameBut .extensionPath (c.compile (service fe) name guide w)
      (PageCompiler.compile { c with options := .ofTexts (OptionGroup.flatten others) }
        (service fe) name guide (FileAccess.setLocation w .extensionPath paths))

section Accumulating

variable {fe : FrontEnd} {d : Disk} {options : List String} {groups others : List OptionGroup}
  {s : Demands}

private theorem worksBy_of_demandsFrom [Text.Encodings]
    (cut : OptionGroup.IsCut arity options groups)
    (demanded : demandsFrom d ⟨none, false, [], false, false⟩ groups = .ok s) :
    WorksBy fe d options groups s := by
  have demands := demandsOf_eq_ok_iff.2 ⟨groups, cut, demanded⟩
  refine ⟨cut, asks_of_demandsFrom demanded, task_of_demandsOf demands, fun other same units => ?_,
    getLocation_run_activity fe s⟩
  rw [task_of_demandsOf demands, task_of_demandsOf demands, activity_congr same]

/-- Groups work alike if they are the same, apart from their order and number, and the last level is
the same. -/
private theorem WorksBy.exists_worksAlike [Text.Encodings] (works : WorksBy fe d options groups s)
    (passes : ∀ g ∈ groups, check d g = .ok ()) (same : ∀ g, g ∈ others ↔ g ∈ groups)
    (leveled : (leveling others).getLast? = (leveling groups).getLast?) :
    ∃ t, WorksAlike fe d (options.map .text) s others t := by
  have cut : OptionGroup.IsCut arity (OptionGroup.flatten others) others :=
    ⟨rfl, fun g member => works.cut.counted g ((same g).1 member),
      fun g member => works.cut.fitting g ((same g).1 member)⟩
  have passes' : ∀ g ∈ others, check d g = .ok () := fun g member => passes g ((same g).1 member)
  have accepted : (service fe).validate d (options.map .text) = .ok options :=
    validate_eq_ok_iff.2 ⟨groups, rfl, works.cut, passes⟩
  have accepted' : (service fe).validate d ((OptionGroup.flatten others).map .text) =
      .ok (OptionGroup.flatten others) := validate_eq_ok_iff.2 ⟨others, rfl, cut, passes'⟩
  obtain ⟨t, demanded⟩ := exists_demandsFrom passes' ⟨none, false, [], false, false⟩
  have asks := asks_of_demandsFrom demanded
  have asked (units : List SourceUnit) : (service fe).task d (OptionGroup.flatten others) units =
      .ok (activity fe t units) :=
    task_of_demandsOf (demandsOf_eq_ok_iff.2 ⟨others, cut, demanded⟩) units
  obtain ⟨extensions, rfl⟩ : ∃ extensions, t = { s with extensions } :=
    ⟨_, works.asks.eq_with_extensions asks same leveled⟩
  refine ⟨_, accepted', asks, asked, fun units m w => ?_, fun c name guide w paths given here => ?_⟩
  · have alike := run_activity_sameBut fe s units m w extensions (w.locations.get .extensionPath)
    rwa [FileAccess.setLocation_get] at alike
  · subst here
    have apart : Location.classPath ≠ .extensionPath := nofun
    rw [← show c.options.words = options.map .text from congrArg CompilerOptions.words given]
      at accepted
    exact PageCompiler.compile_sameBut apart paths accepted accepted' fun u =>
      ⟨_, _, works.task [u], asked [u], fun m v => run_activity_sameBut fe s [u] m v extensions⟩

end Accumulating

end PageTask

end PagePress
