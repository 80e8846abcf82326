import PagePress.Proofs.Modules.Finder
import PagePress.Proofs.Modules.Growth

/-!
Importing a stored module from the top of its name down. What is imported already decides: the
nearest module above the name that is in the table has to be a package in which others can be
loaded. Below it every module is found by the finder, as a package, since something is stored below
it; so the way down ends only where a program fails.
-/

set_option autoImplicit false

namespace PagePress

namespace Interpreter

/-- A module has a specification in which others can be noted, or nothing in its place. -/
def TakesNotes (i : Interpreter) (position : Nat) : Prop :=
  ∀ value, (i.modules.contents position).get? Variables.specKey = some value →
    (∃ spec, value = .spec spec) ∨ value.isTruthy = false

structure AdmitsAt (i : Interpreter) (position : Nat) : Prop where
  isPackage : i.IsPackage position
  takesNotes : i.TakesNotes position

def Admits (i : Interpreter) (name : String) : Prop :=
  ∃ position, i.modules.position? name = some position ∧ i.AdmitsAt position

def IsReadyFor (i : Interpreter) (name : String) : Prop :=
  Name.packageOf name = "" ∨ i.Admits (Name.packageOf name)

def AsksFirst (i : Interpreter) (k : PageContext) : Prop :=
  (i.finders.map ActiveFinder.owner).head? = some k

variable {stores : Stores} {i j : Interpreter} {k : PageContext} {name : String}

theorem Grows.asksFirst (h : i.Grows stores j) (first : i.AsksFirst k) : j.AsksFirst k := by
  rwa [AsksFirst, h.owners]

private theorem IsPackage.searchPath? {position : Nat} (h : i.IsPackage position) :
    ∃ search, (i.modules.contents position).searchPath? = some search := by
  obtain ⟨value, there⟩ := Option.isSome_iff_exists.1 h
  exact ⟨value.asSearchPath, by simp [Variables.searchPath?, there]⟩

private theorem noteBelow_eq_ok_iff {position : Nat} (named : Name.packageOf name ≠ "")
    (above : i.modules.position? (Name.packageOf name) = some position) :
    i.noteBelow name = .ok () ↔ i.TakesNotes position := by
  have found : i.packagePosition? name = some position := by simp [packagePosition?, named, above]
  unfold noteBelow TakesNotes
  rw [found, Option.bind_some]
  cases there : (i.modules.contents position).get? Variables.specKey with
  | none => simp
  | some value =>
    cases value with
    | spec spec => simp
    | _ => simp

private theorem IsReadyFor.searchPath (h : i.IsReadyFor name) :
    ∃ search, i.searchPath name = .ok search := by
  rcases h with top | ⟨position, above, admits⟩
  · exact ⟨.top, by simp [Interpreter.searchPath, top]⟩
  · by_cases top : Name.packageOf name = ""
    · exact ⟨.top, by simp [Interpreter.searchPath, top]⟩
    · obtain ⟨search, there⟩ := admits.isPackage.searchPath?
      exact ⟨search, by simp [Interpreter.searchPath, top, above, there]⟩

private theorem IsReadyFor.noteBelow (h : i.IsReadyFor name) : i.noteBelow name = .ok () := by
  by_cases top : Name.packageOf name = ""
  · simp [Interpreter.noteBelow, packagePosition?, top]
  · rcases h with none | ⟨position, above, admits⟩
    · exact absurd none top
    · exact (noteBelow_eq_ok_iff top above).2 admits.takesNotes

private theorem isReadyFor_of_held {search : SearchPath} (searched : i.searchPath name = .ok search)
    (noted : i.noteBelow name = .ok ()) : i.IsReadyFor name := by
  by_cases top : Name.packageOf name = ""
  · exact .inl top
  · cases above : i.modules.position? (Name.packageOf name) with
    | none => simp [Interpreter.searchPath, top, above] at searched
    | some position =>
      refine .inr ⟨position, above, ?_, (noteBelow_eq_ok_iff top above).1 noted⟩
      cases there : (i.modules.contents position).get? Variables.pathKey with
      | none => simp [Interpreter.searchPath, top, above, Variables.searchPath?, there] at searched
      | some value => simp [IsPackage, there]

private theorem findIn_first (first : i.AsksFirst k) (within : Name.isWithin name k.reserved = true)
    {finding : Finding} (found : Finder.find (stores k.store) k.reserved name false = some finding)
    (provided : Except Failure Bool) :
    ∃ f, findIn stores name provided i.finders = .ok (some (.found f finding)) := by
  unfold AsksFirst at first
  cases order : i.finders with
  | nil => simp [order] at first
  | cons f rest =>
    obtain rfl : f.owner = k := by simpa [order] using first
    have settled : Finder.asks f.reserved name = false := by
      simp [Finder.asks, show Name.isWithin name f.reserved = true from within]
    have answer : Finder.find (stores f.store) f.reserved name false = some finding := found
    exact ⟨f, by simp [findIn, settled, answer]⟩

private theorem locate_first (first : i.AsksFirst k) (within : Name.isWithin name k.reserved = true)
    {finding : Finding} (found : Finder.find (stores k.store) k.reserved name false = some finding)
    (search : SearchPath) :
    ∃ f, i.locate stores search name = .ok (some (.found f finding)) := by
  obtain ⟨f, answer⟩ := findIn_first first within found (i.installed.provides search name)
  exact ⟨f, by simp [locate, answer]⟩

/-- Where the first finder is asked, a module is found as none that is a package only while nothing
is stored below it. -/
theorem FindsPlain.holdsBelow_eq_false (plain : i.FindsPlain stores name) (first : i.AsksFirst k)
    (within : Name.isWithin name k.reserved = true) :
    Finder.holdsBelow (stores k.store) name = false := by
  rw [Bool.eq_false_iff]
  intro below
  obtain ⟨provided, f, other, answer, flat⟩ := plain
  obtain ⟨finding, found, package⟩ := Finder.find_of_holdsBelow within below false
  obtain ⟨g, again⟩ := findIn_first first within found provided
  rw [answer] at again
  cases again
  rw [flat] at package
  cases package

/-- If a module is loaded now, its program runs to its end. -/
def RunsNow (stores : Stores) (load : Loader) (name : String) (i : Interpreter) : Prop :=
  ∀ search source, i.searchPath name = .ok search →
    i.locate stores search name = .ok (some source) →
    (runBegun stores load source name i).1 = .ok ()

variable {load : Loader}

theorem runsNow_of_located {search : SearchPath} {source : ModuleSource}
    (searched : i.searchPath name = .ok search)
    (located : i.locate stores search name = .ok (some source))
    (ran : (runBegun stores load source name i).1 = .ok ()) : i.RunsNow stores load name := by
  intro other found again there
  obtain rfl : search = other := Except.ok.inj (searched.symm.trans again)
  obtain rfl : source = found := Option.some.inj (Except.ok.inj (located.symm.trans there))
  exact ran

private theorem loadFrom_ok (careful : Careful stores load) {source : ModuleSource}
    (ran : (runBegun stores load source name i).1 = .ok ()) :
    ∃ j, loadFrom stores load source name i = (.ok (), j) ∧ j.modules.holds name = true := by
  have grown := grows_runBegun careful source name i
  rw [loadFrom_eq]
  generalize runBegun stores load source name i = o at ran grown
  obtain ⟨answer, l⟩ := o
  obtain rfl : answer = .ok () := ran
  refine ⟨_, rfl, ?_⟩
  have begins : (begun source name i).modules.holds name = true :=
    ModuleTable.holds_iff.2 ⟨i.modules.next, by simp [position?_begun]⟩
  exact ((grown.trans (grows_finish stores _ l)).trans (grows_attach stores _ _ _)).holds begins

private theorem ensure_ok (careful : Careful stores load) (ready : i.IsReadyFor name)
    (first : i.AsksFirst k) (within : Name.isWithin name k.reserved = true) {finding : Finding}
    (found : Finder.find (stores k.store) k.reserved name false = some finding)
    (runs : i.modules.holds name = false → i.RunsNow stores load name) :
    ∃ j, ensure (loadWith stores load) name i = (.ok (), j) ∧ j.modules.holds name = true := by
  unfold ensure
  cases held : i.modules.holds name with
  | true => exact ⟨i, rfl, held⟩
  | false =>
    obtain ⟨search, searched⟩ := ready.searchPath
    obtain ⟨f, located⟩ := locate_first first within found search
    obtain ⟨j, loaded, there⟩ := loadFrom_ok careful (runs held search _ searched located)
    exact ⟨j, by simpa [loadWith_of_located searched located ready.noteBelow] using loaded, there⟩

private theorem loadWith_of_not_ready (stores : Stores) (load : Loader)
    (blocked : ¬ i.IsReadyFor name) :
    ∃ failure, loadWith stores load name i = (.error failure, i) := by
  rcases loadWith_cases stores load name i with failed | ⟨search, source, searched, -, noted, -⟩
  · exact failed
  · exact absurd (isReadyFor_of_held searched noted) blocked

def idle : Pause := fun i => (.ok (), i)

private theorem grows_idle (stores : Stores) (i : Interpreter) : i.Grows stores (idle i).2 :=
  .refl stores i

private theorem andThen_idle (o : Outcome Unit) : (andThen o fun _ i => idle i) = o := by
  obtain ⟨answer, i⟩ := o
  cases answer <;> rfl

private theorem bring_of_missing (load : Loader) {above : List String}
    (missing : i.modules.holds name = false) :
    bring load idle (name :: above) i =
      andThen (bring load idle above i) fun _ j => ensure load name j := by
  simp only [bring, missing, andThen_idle]
  rfl

/-- The programs that an import runs in a namespace, on its way down the given names, run to their
end, and leave specifications in which modules can be noted. -/
inductive RunsAlong (stores : Stores) (load : Loader) (reserved : String) (i : Interpreter) :
    List String → Prop
  | nil : RunsAlong stores load reserved i []
  | held {name : String} {above : List String} (held : i.modules.holds name = true) :
      RunsAlong stores load reserved i (name :: above)
  | outside {name : String} {above : List String}
      (outside : Name.isWithin name reserved = false) :
      RunsAlong stores load reserved i (name :: above)
  | loaded {name : String} {above : List String} (higher : RunsAlong stores load reserved i above)
      (runs : ∀ j, bring (loadWith stores load) idle above i = (.ok (), j) →
        j.modules.holds name = false → j.RunsNow stores load name)
      (notes : ∀ j l position, bring (loadWith stores load) idle above i = (.ok (), j) →
        ensure (loadWith stores load) name j = (.ok (), l) →
        l.modules.position? name = some position → l.TakesNotes position) :
      RunsAlong stores load reserved i (name :: above)

/-- The nearest of the names that is imported, if it is in the namespace, is a package in which
others can be loaded. -/
def OpensAt (reserved : String) (names : List String) (i : Interpreter) : Prop :=
  ∀ name, (names.find? fun name => i.modules.holds name) = some name →
    Name.isWithin name reserved = true → i.Admits name

private theorem bring_admits_of_ready (careful : Careful stores load) (first : i.AsksFirst k)
    (within : Name.isWithin name k.reserved = true)
    (below : Finder.holdsBelow (stores k.store) name = true)
    (missing : i.modules.holds name = false) {above : List String}
    (came : bring (loadWith stores load) idle above i = (.ok (), j)) (ready : j.IsReadyFor name)
    (runs : j.modules.holds name = false → j.RunsNow stores load name)
    (notes : ∀ l position, ensure (loadWith stores load) name j = (.ok (), l) →
      l.modules.position? name = some position → l.TakesNotes position) :
    ∃ l, bring (loadWith stores load) idle (name :: above) i = (.ok (), l) ∧ l.Admits name := by
  have careful' := careful_loadWith careful
  have grown : i.Grows stores j := by
    have grown := grows_bring careful' (grows_idle stores) above i
    rwa [came] at grown
  obtain ⟨finding, found, -⟩ := Finder.find_of_holdsBelow within below false
  obtain ⟨l, brought, there⟩ := ensure_ok careful ready (grown.asksFirst first) within found runs
  have further : i.Grows stores l := by
    have further := grows_ensure careful' name j
    rw [brought] at further
    exact grown.trans further
  obtain ⟨position, there⟩ := ModuleTable.holds_iff.1 there
  refine ⟨l, ?_, position, there, ?_, notes l position brought there⟩
  · rw [bring_of_missing _ missing, came]
    exact brought
  · -- the module is new, and was found as what it is when something was stored below it
    rcases further.added name position there with before | package | plain
    · cases before.symm.trans (ModuleTable.holds_eq_false_iff.1 missing)
    · exact package
    · rw [plain.holdsBelow_eq_false first within] at below
      cases below

/-- From the top of a name down, all that stands above it is brought in, as long as the nearest
module that is imported is open and the programs run. -/
private theorem bring_ready (careful : Careful stores load) (first : i.AsksFirst k)
    (named : k.reserved ≠ "")
    (parents : Name.packageOf k.reserved ≠ "" → ∃ j, bring (loadWith stores load) idle
      (Name.above k.reserved) i = (.ok (), j) ∧ j.Admits (Name.packageOf k.reserved))
    (within : Name.isWithin name k.reserved = true)
    (below : Name.packageOf name ≠ "" →
      Finder.holdsBelow (stores k.store) (Name.packageOf name) = true)
    (runs : RunsAlong stores load k.reserved i (Name.above name))
    (opens : OpensAt k.reserved (Name.above name) i) :
    ∃ j, bring (loadWith stores load) idle (Name.above name) i = (.ok (), j) ∧
      j.IsReadyFor name := by
  -- on the length of the name: its package is shorter, and is in the namespace unless the name is
  -- the namespace itself, where the parents take over
  induction size : name.toList.length using Nat.strongRecOn generalizing name with
  | ind size ih =>
    subst size
    by_cases top : Name.packageOf name = ""
    · exact ⟨i, by simp [Name.above_of_packageOf_eq_empty top, bring], .inl top⟩
    · rcases (Name.isWithin_iff name k.reserved).1 within with rfl | inside
      · obtain ⟨j, came, admits⟩ := parents top
        exact ⟨j, came, .inr admits⟩
      · have within' := (Name.isBelow_iff_isWithin_packageOf named).1 inside
        rw [Name.above_of_packageOf_ne_empty top] at runs opens ⊢
        cases held : i.modules.holds (Name.packageOf name) with
        | true =>
          exact ⟨i, by simp [bring, held], .inr (opens _ (by simp [held]) within')⟩
        | false =>
          have opensAbove : OpensAt k.reserved (Name.above (Name.packageOf name)) i := by
            intro other nearest
            exact opens other (by simpa [held] using nearest)
          have higher : Name.packageOf (Name.packageOf name) ≠ "" → Finder.holdsBelow (stores k.store)
              (Name.packageOf (Name.packageOf name)) = true :=
            fun named => Finder.holdsBelow_packageOf named (below top)
          cases runs with
          | held now => simp [held] at now
          | outside outside => simp [within'] at outside
          | loaded runsAbove runs notes =>
            obtain ⟨j, came, ready⟩ := ih _ (Name.length_packageOf_lt top) within' higher runsAbove
              opensAbove rfl
            obtain ⟨l, brought, admits⟩ := bring_admits_of_ready careful first within' (below top)
              held came ready (runs j came) fun l position => notes j l position came
            exact ⟨l, brought, .inr admits⟩

private theorem ensure_of_missing (load : Loader) (missing : i.modules.holds name = false) :
    ensure load name i = load name i := by
  simp [ensure, missing]

/-- If the nearest module above a name that is imported is not open, the import fails before
anything is loaded. -/
private theorem bring_of_closed (stores : Stores) (load : Loader)
    (missing : i.modules.holds name = false) {closed : String}
    (nearest : ((Name.above name).find? fun name => i.modules.holds name) = some closed)
    (shut : ¬ i.Admits closed) :
    ∃ failure, bring (loadWith stores load) idle (name :: Name.above name) i =
      (.error failure, i) := by
  induction size : name.toList.length using Nat.strongRecOn generalizing name with
  | ind size ih =>
    subst size
    have top : Name.packageOf name ≠ "" := by
      intro top
      simp [Name.above_of_packageOf_eq_empty top] at nearest
    have above := Name.above_of_packageOf_ne_empty top
    rw [bring_of_missing _ missing]
    cases held : i.modules.holds (Name.packageOf name) with
    | true =>
      obtain rfl : Name.packageOf name = closed := by simpa [above, held] using nearest
      have unready : ¬ i.IsReadyFor name := fun ready => ready.elim top shut
      obtain ⟨failure, failed⟩ := loadWith_of_not_ready stores load unready
      refine ⟨failure, ?_⟩
      have came : bring (loadWith stores load) idle (Name.above name) i = (.ok (), i) := by
        simp [above, bring, held]
      rw [came]
      simpa [andThen, ensure_of_missing _ missing] using failed
    | false =>
      obtain ⟨failure, failed⟩ := ih _ (Name.length_packageOf_lt top) held
        (by simpa [above, held] using nearest) rfl
      exact ⟨failure, by rw [above, failed]; rfl⟩

def innerLoader (stores : Stores) (i : Interpreter) : Loader :=
  loadNested stores (i.depthBound stores - 1)

private theorem loadNested_depthBound (stores : Stores) (i : Interpreter) :
    loadNested stores (i.depthBound stores) = loadWith stores (i.innerLoader stores) := by
  have positive : 0 < i.depthBound stores := by
    unfold depthBound
    cases i.finders with
    | nil => simp
    | cons f rest => simp only [List.foldr_cons]; omega
  obtain ⟨depth, same⟩ := Nat.exists_eq_succ_of_ne_zero (Nat.ne_of_gt positive)
  funext name j
  simp [innerLoader, same, loadNested]

private theorem importModule_eq (plain : Text.Split.startsWith name "." = false)
    (named : name ≠ "") :
    importModule stores name i = importName (loadWith stores (i.innerLoader stores)) name i := by
  simp [importModule, plain, named, loadNested_depthBound]

private theorem importName_of_missing (load : Loader) (missing : i.modules.holds name = false) :
    importName load name i =
      andThen (bring load idle (name :: Name.above name) i) fun _ j =>
        match j.modules.position? name with
        | some position => (.ok position, j)
        | none => j.failed (.noModule name) := by
  rw [bring_of_missing load missing]
  simp only [importName, importPaused, missing, Bool.false_eq_true, if_false]
  rw [show (fun i => (.ok (), i)) = idle from rfl]
  generalize bring load idle (Name.above name) i = o
  obtain ⟨answer, j⟩ := o
  cases answer <;> rfl

private theorem importName_of_held (load : Loader) {position : Nat}
    (there : i.modules.position? name = some position) :
    importName load name i = (.ok position, i) := by
  have held : i.modules.holds name = true := ModuleTable.holds_iff.2 ⟨position, there⟩
  simp [importName, importPaused, held, bring, andThen, ensure, there]

private theorem bring_of_importName (load : Loader) {position : Nat}
    (imported : importName load name i = (.ok position, j)) :
    bring load idle (name :: Name.above name) i = (.ok (), j) := by
  cases held : i.modules.holds name with
  | true =>
    obtain ⟨other, there⟩ := ModuleTable.holds_iff.1 held
    rw [importName_of_held load there] at imported
    cases imported
    simp [bring, held]
  | false =>
    rw [importName_of_missing load held] at imported
    generalize bring load idle (name :: Name.above name) i = o at imported
    obtain ⟨answer, l⟩ := o
    cases answer with
    | error failure => cases imported
    | ok _ =>
      simp only [andThen] at imported
      split at imported
      · cases imported
        rfl
      · cases imported

def ParentsImport (stores : Stores) (reserved : String) (i : Interpreter) : Prop :=
  Name.packageOf reserved ≠ "" → ∃ position j,
    importModule stores (Name.packageOf reserved) i = (.ok position, j) ∧
      j.Admits (Name.packageOf reserved)

/-- The programs that the import of a name runs in a namespace run to their end: those of the
modules above it, which leave specifications in which modules can be noted, and its own. -/
def CodeRuns (stores : Stores) (reserved name : String) (i : Interpreter) : Prop :=
  RunsAlong stores (i.innerLoader stores) reserved i (Name.above name) ∧
    ∀ j, bring (loadWith stores (i.innerLoader stores)) idle (Name.above name) i = (.ok (), j) →
      j.modules.holds name = false → j.RunsNow stores (i.innerLoader stores) name

private theorem careful_innerLoader (stores : Stores) (i : Interpreter) :
    Careful stores (i.innerLoader stores) :=
  careful_loadNested stores _

private theorem ParentsImport.bring {reserved : String} (h : i.ParentsImport stores reserved)
    (top : Name.packageOf reserved ≠ "") :
    ∃ j, bring (loadWith stores (i.innerLoader stores)) idle (Name.above reserved) i =
      (.ok (), j) ∧ j.Admits (Name.packageOf reserved) := by
  obtain ⟨position, j, imported, admits⟩ := h top
  refine ⟨j, ?_, admits⟩
  rw [Name.above_of_packageOf_ne_empty top]
  cases plain : Text.Split.startsWith (Name.packageOf reserved) "." with
  | true =>
    simp only [importModule, plain, if_true] at imported
    cases imported
  | false =>
    rw [importModule_eq plain top] at imported
    exact bring_of_importName _ imported

private theorem importModule_of_held (stores : Stores)
    (plain : Text.Split.startsWith name "." = false) (named : name ≠ "") {position : Nat}
    (there : i.modules.position? name = some position) :
    importModule stores name i = (.ok position, i) := by
  rw [importModule_eq plain named]
  exact importName_of_held _ there

private theorem importModule_ok (first : i.AsksFirst k) (namespaced : k.reserved ≠ "")
    (consistent : (stores k.store).Consistent) (parents : i.ParentsImport stores k.reserved)
    (within : Name.isWithin name k.reserved = true) (stored : (stores k.store).contains name = true)
    (plain : Text.Split.startsWith name "." = false) (named : name ≠ "")
    (runs : i.CodeRuns stores k.reserved name) (opens : OpensAt k.reserved (Name.above name) i) :
    ∃ position j, importModule stores name i = (.ok position, j) := by
  cases held : i.modules.holds name with
  | true =>
    obtain ⟨position, there⟩ := ModuleTable.holds_iff.1 held
    exact ⟨position, i, importModule_of_held stores plain named there⟩
  | false =>
    have careful := careful_innerLoader stores i
    obtain ⟨j, came, ready⟩ := bring_ready careful first namespaced (fun top => parents.bring top)
      within (fun _ => Finder.holdsBelow_packageOf_of_contains consistent stored) runs.1 opens
    have grown := grows_bring (careful_loadWith careful) (grows_idle stores) (Name.above name) i
    rw [came] at grown
    obtain ⟨finding, found⟩ := Finder.find_of_contains within stored false
    obtain ⟨l, brought, there⟩ :=
      ensure_ok careful ready (grown.asksFirst first) within found (runs.2 j came)
    obtain ⟨position, there⟩ := ModuleTable.holds_iff.1 there
    refine ⟨position, l, ?_⟩
    rw [importModule_eq plain named, importName_of_missing _ held, bring_of_missing _ held, came]
    simp [andThen, brought, there]

private theorem importModule_of_closed (stores : Stores)
    (plain : Text.Split.startsWith name "." = false) (named : name ≠ "")
    (missing : i.modules.holds name = false) {closed : String}
    (nearest : ((Name.above name).find? fun name => i.modules.holds name) = some closed)
    (shut : ¬ i.Admits closed) : ∃ failure, importModule stores name i = (.error failure, i) := by
  rw [importModule_eq plain named, importName_of_missing _ missing]
  obtain ⟨failure, failed⟩ :=
    bring_of_closed stores (i.innerLoader stores) missing nearest shut
  exact ⟨failure, by rw [failed]; rfl⟩

/-- A stored module is imported exactly when it was before, or the nearest module above it that is
imported is open. -/
theorem importModule_ok_iff (first : i.AsksFirst k) (namespaced : k.reserved ≠ "")
    (consistent : (stores k.store).Consistent) (parents : i.ParentsImport stores k.reserved)
    (within : Name.isWithin name k.reserved = true) (stored : (stores k.store).contains name = true)
    (plain : Text.Split.startsWith name "." = false) (named : name ≠ "")
    (runs : i.CodeRuns stores k.reserved name) :
    (∃ position, (importModule stores name i).1 = .ok position) ↔
      i.modules.holds name = true ∨ OpensAt k.reserved (Name.above name) i := by
  constructor
  · rintro ⟨position, given⟩
    by_contra neither
    obtain ⟨missing, unopened⟩ := not_or.1 neither
    apply unopened
    intro closed nearest inside
    by_contra shut
    obtain ⟨failure, failed⟩ :=
      importModule_of_closed stores plain named (by simpa using missing) nearest shut
    rw [failed] at given
    cases given
  · rintro (held | opens)
    · obtain ⟨position, there⟩ := ModuleTable.holds_iff.1 held
      exact ⟨position, by rw [importModule_of_held stores plain named there]⟩
    · obtain ⟨position, j, given⟩ := importModule_ok first namespaced consistent parents within
        stored plain named runs opens
      exact ⟨position, by rw [given]⟩

end Interpreter

end PagePress
