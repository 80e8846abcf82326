import PagePress.Proofs.Modules.Lasting

/-!
What imports and running programs keep. A module that is imported stays where it is, and none of its
variables goes away, whether or not the import succeeds: a load takes out of the table only what it
put there itself. A module that comes into the table is a package, or was found when it was none.
-/

set_option autoImplicit false

namespace PagePress

private theorem NameTable.isSome_get?_set {α : Type} {t : NameTable α} {key : String}
    (there : (t.get? key).isSome = true) (name : String) (value : α) :
    ((t.set name value).get? key).isSome = true := by
  by_cases same : key = name
  · subst same
    simp [get?_set_self]
  · rwa [get?_set_of_ne t value same]

private theorem NameTable.get?_erase {α : Type} (t : NameTable α) (name key : String) :
    (t.erase name).get? key = if key = name then none else t.get? key := by
  induction t with
  | nil => simp [erase, get?]
  | cons entry rest ih =>
    unfold erase at ih ⊢
    by_cases erased : entry.1 = name
    · have dropped : (entry.1 != name) = false := by simp [erased]
      rw [List.filter_cons_of_neg (by simp [dropped]), ih]
      by_cases asked : key = name
      · simp [asked]
      · have missed : entry.1 ≠ key := fun h => asked (h.symm.trans erased)
        simp [asked, get?, missed]
    · have kept : (entry.1 != name) = true := by simpa using erased
      rw [List.filter_cons_of_pos (by simp [kept]), get?, ih]
      by_cases found : entry.1 = key
      · have asked : key ≠ name := fun h => erased (found.trans h)
        simp [found, asked, get?]
      · simp [found, get?]

private theorem NameTable.get?_append_single {α : Type} {t : NameTable α} {name : String}
    (absent : t.get? name = none) (value : α) (key : String) :
    (t ++ [(name, value)]).get? key = if key = name then some value else t.get? key := by
  induction t with
  | nil =>
    by_cases asked : key = name
    · simp [get?, asked]
    · have missed : name ≠ key := fun h => asked h.symm
      simp [get?, asked, missed]
  | cons entry rest ih =>
    simp only [get?] at absent
    split at absent
    · cases absent
    · rename_i other
      rw [List.cons_append, get?, ih absent, get?]
      by_cases found : entry.1 = key
      · have asked : key ≠ name := fun h => other (found.trans h)
        simp [found, asked]
      · simp [found]

namespace ModuleTable

theorem holds_iff {t : ModuleTable} {name : String} :
    t.holds name = true ↔ ∃ position, t.position? name = some position :=
  Option.isSome_iff_exists

theorem holds_eq_false_iff {t : ModuleTable} {name : String} :
    t.holds name = false ↔ t.position? name = none := by
  simp [holds]

private theorem position?_register (t : ModuleTable) (name other : String) (position : Nat) :
    (t.register name position).position? other =
      if other = name then some position else t.position? other := by
  have absent : (t.imported.erase name).get? name = none := by simp [NameTable.get?_erase]
  simp only [register, forget, position?, NameTable.get?_append_single absent,
    NameTable.get?_erase]
  split <;> rfl

theorem position?_forget (t : ModuleTable) (name other : String) :
    (t.forget name).position? other = if other = name then none else t.position? other :=
  NameTable.get?_erase t.imported name other

private theorem contents_modify (t : ModuleTable) (position other : Nat)
    (f : MadeModule → MadeModule) :
    (t.modify position f).contents other =
      if position = other then ((t.made[other]?).map fun m => (f m).contents).getD []
      else t.contents other := by
  simp only [modify, contents, List.getElem?_modify]
  split <;> simp [Function.comp_def]

private theorem contents_finish (t : ModuleTable) (position other : Nat) :
    (t.finish position).contents other = t.contents other := by
  rw [finish, contents_modify]
  split <;> rfl

private theorem isSome_get?_contents_set {t : ModuleTable} {position : Nat} {key : String}
    (there : ((t.contents position).get? key).isSome = true) (other : Nat) (name : String)
    (value : Value) : (((t.set other name value).contents position).get? key).isSome = true := by
  rw [set, contents_modify]
  split
  · cases made : t.made[position]? with
    | none => simp [contents, made, NameTable.get?] at there
    | some m =>
      have there : ((m.contents).get? key).isSome = true := by simpa [contents, made] using there
      simpa [made] using NameTable.isSome_get?_set there name value
  · exact there

private theorem contents_make (t : ModuleTable) (m : MadeModule) (position : Nat) :
    (t.make m).contents position = if position = t.next then m.contents else t.contents position := by
  by_cases new : position = t.next
  · rw [if_pos new, new]
    simp [make, contents, next]
  · have same : (t.made ++ [m])[position]? = t.made[position]? := by
      have differs : position ≠ t.made.length := new
      rcases Nat.lt_or_gt_of_ne differs with before | behind
      · exact List.getElem?_append_left before
      · rw [List.getElem?_eq_none (by simp; omega), List.getElem?_eq_none (by omega)]
    rw [if_neg new]
    simp only [make, contents, same]

end ModuleTable

namespace ActiveFinder

def owner (f : ActiveFinder) : PageContext := ⟨f.context, f.store, f.reserved⟩

@[simp] theorem owner_note (f : ActiveFinder) (context : Nat) (name : String) :
    (f.note context name).owner = f.owner := by
  unfold note
  split <;> rfl

@[simp] theorem context_note (f : ActiveFinder) (context : Nat) (name : String) :
    (f.note context name).context = f.context :=
  congrArg PageContext.number (f.owner_note context name)

end ActiveFinder

namespace Interpreter

private theorem finders_noteLoaded (i : Interpreter) (context : Nat) (name : String) :
    (i.noteLoaded context name).finders = i.finders.map fun f => f.note context name := by
  have each (e : RowEntry) : (i.noteLoaded context name).finderOf? e =
      (i.finderOf? e).map fun f => f.note context name := by
    cases e with
    | outside label => rfl
    | finder asked =>
      simp only [finderOf?, noteLoaded, List.find?_map, Function.comp_def,
        ActiveFinder.context_note]
  rw [finders, finders, List.map_filterMap]
  exact congrArg (fun f => i.row.filterMap f) (funext each)

def IsPackage (i : Interpreter) (position : Nat) : Prop :=
  ((i.modules.contents position).get? Variables.pathKey).isSome = true

/-- The first finder that answers for a name has something for it that is no package. -/
def FindsPlain (stores : Stores) (i : Interpreter) (name : String) : Prop :=
  ∃ provided f finding, findIn stores name provided i.finders = .ok (some (.found f finding)) ∧
    finding.isPackage = false

/-- What imports keep, and what the modules are that they add. -/
structure Grows (stores : Stores) (i j : Interpreter) : Prop where
  installed : j.installed = i.installed
  owners : j.finders.map ActiveFinder.owner = i.finders.map ActiveFinder.owner
  positions : ∀ name position, i.modules.position? name = some position →
    j.modules.position? name = some position
  keeps : ∀ position key, ((i.modules.contents position).get? key).isSome = true →
    ((j.modules.contents position).get? key).isSome = true
  added : ∀ name position, j.modules.position? name = some position →
    i.modules.position? name = some position ∨ j.IsPackage position ∨ i.FindsPlain stores name

private theorem findIn_of_owners {stores : Stores} {name : String} {provided : Except Failure Bool}
    {fs gs : List ActiveFinder} (same : gs.map ActiveFinder.owner = fs.map ActiveFinder.owner)
    {g : ActiveFinder} {finding : Finding}
    (found : findIn stores name provided gs = .ok (some (.found g finding))) :
    ∃ f, findIn stores name provided fs = .ok (some (.found f finding)) := by
  induction fs generalizing gs with
  | nil =>
    obtain rfl : gs = [] := by simpa using same
    cases found
  | cons first rest ih =>
    cases gs with
    | nil => simp at same
    | cons first' rest' =>
      obtain ⟨here, later⟩ := List.cons.inj same
      obtain ⟨-, store, reserved⟩ := PageContext.mk.inj here
      simp only [findIn, store, reserved] at found ⊢
      split at found
      · cases found
      · split at found
        · simp only [Except.ok.injEq, Option.some.injEq, ModuleSource.found.injEq] at found ⊢
          exact ⟨first, rfl, found.2⟩
        · exact ih later found

private theorem FindsPlain.of_owners {stores : Stores} {i j : Interpreter} {name : String}
    (h : j.FindsPlain stores name)
    (same : j.finders.map ActiveFinder.owner = i.finders.map ActiveFinder.owner) :
    i.FindsPlain stores name := by
  obtain ⟨provided, g, finding, found, plain⟩ := h
  obtain ⟨f, again⟩ := findIn_of_owners same found
  exact ⟨provided, f, finding, again, plain⟩

namespace Grows

variable {stores : Stores} {i j k : Interpreter}

theorem refl (stores : Stores) (i : Interpreter) : i.Grows stores i :=
  ⟨rfl, rfl, fun _ _ there => there, fun _ _ there => there, fun _ _ there => .inl there⟩

theorem trans (first : i.Grows stores j) (second : j.Grows stores k) : i.Grows stores k where
  installed := second.installed.trans first.installed
  owners := second.owners.trans first.owners
  positions name position there := second.positions name position (first.positions name position there)
  keeps position key there := second.keeps position key (first.keeps position key there)
  added name position there := by
    rcases second.added name position there with before | package | plain
    · rcases first.added name position before with before | package | plain
      · exact .inl before
      · exact .inr (.inl (second.keeps position _ package))
      · exact .inr (.inr plain)
    · exact .inr (.inl package)
    · exact .inr (.inr (plain.of_owners first.owners))

private theorem set (stores : Stores) (i : Interpreter) (position : Nat) (name : String)
    (value : Value) :
    i.Grows stores (i.set position name value) where
  installed := rfl
  owners := rfl
  positions _ _ there := there
  keeps _ _ there := ModuleTable.isSome_get?_contents_set there position name value
  added _ _ there := .inl there

theorem holds (h : i.Grows stores j) {name : String} (held : i.modules.holds name = true) :
    j.modules.holds name = true := by
  obtain ⟨position, there⟩ := ModuleTable.holds_iff.1 held
  exact ModuleTable.holds_iff.2 ⟨position, h.positions name position there⟩

theorem isPackage (h : i.Grows stores j) {position : Nat} (package : i.IsPackage position) :
    j.IsPackage position :=
  h.keeps position _ package

end Grows

/-- A loader that is only asked for missing modules keeps what is there. -/
def Careful (stores : Stores) (load : Loader) : Prop :=
  ∀ (name : String) (i : Interpreter), i.modules.holds name = false → i.Grows stores (load name i).2

theorem modules_begun (source : ModuleSource) (name : String) (i : Interpreter) :
    (begun source name i).modules =
      (i.modules.make ⟨freshFor source name i.modules.next, source.found?, true⟩).register name
        i.modules.next := by
  cases source <;> rfl

theorem position?_begun (source : ModuleSource) (name other : String) (i : Interpreter) :
    (begun source name i).modules.position? other =
      if other = name then some i.modules.next else i.modules.position? other := by
  rw [modules_begun, ModuleTable.position?_register]
  rfl

private theorem contents_begun (source : ModuleSource) (name : String) (i : Interpreter)
    (position : Nat) :
    (begun source name i).modules.contents position =
      if position = i.modules.next then freshFor source name i.modules.next
      else i.modules.contents position := by
  rw [modules_begun]
  exact ModuleTable.contents_make _ _ _

private theorem owners_begun (source : ModuleSource) (name : String) (i : Interpreter) :
    (begun source name i).finders.map ActiveFinder.owner = i.finders.map ActiveFinder.owner := by
  cases source with
  | installed m => rfl
  | found f finding =>
    have noted : (begun (.found f finding) name i).finders =
        i.finders.map fun g => g.note f.context name := finders_noteLoaded i f.context name
    rw [noted, List.map_map]
    exact List.map_congr_left fun g _ => ActiveFinder.owner_note g f.context name

private theorem contents_next (t : ModuleTable) : t.contents t.next = [] := by
  simp [ModuleTable.contents, ModuleTable.next]

theorem locate_found {stores : Stores} {search : SearchPath} {name : String} {i : Interpreter}
    {f : ActiveFinder} {finding : Finding}
    (located : i.locate stores search name = .ok (some (.found f finding))) :
    findIn stores name (i.installed.provides search name) i.finders =
      .ok (some (.found f finding)) := by
  unfold locate at located
  split at located
  · cases located
  · rename_i source found
    rw [found, located]
  · cases installed : i.installed.locate search name with
    | error failure =>
      rw [installed] at located
      cases located
    | ok answer =>
      rw [installed] at located
      cases answer <;> cases located

private theorem isSome_foldl_set {key : String} (make : String → Value) (names : List String)
    {v : Variables} (there : (v.get? key).isSome = true) :
    ((names.foldl (fun v name => v.set name (make name)) v).get? key).isSome = true := by
  induction names generalizing v with
  | nil => exact there
  | cons name rest ih => exact ih (NameTable.isSome_get?_set there name _)

private theorem package_or_plain {stores : Stores} {search : SearchPath} {name : String}
    {i : Interpreter} {source : ModuleSource}
    (located : i.locate stores search name = .ok (some source)) :
    ((freshFor source name i.modules.next).get? Variables.pathKey).isSome = true ∨
      i.FindsPlain stores name := by
  cases source with
  | installed m =>
    left
    refine isSome_foldl_set _ _ (isSome_foldl_set _ _ (NameTable.isSome_get?_set ?_ _ _))
    simp [NameTable.get?_set_self]
  | found f finding =>
    cases package : finding.isPackage with
    | false => exact .inr ⟨_, f, finding, locate_found located, package⟩
    | true =>
      left
      simp [freshFor, package, NameTable.get?_set_self]

theorem grows_begun {stores : Stores} {search : SearchPath} {name : String} {i : Interpreter}
    {source : ModuleSource} (located : i.locate stores search name = .ok (some source))
    (missing : i.modules.holds name = false) : i.Grows stores (begun source name i) where
  installed := by cases source <;> rfl
  owners := owners_begun source name i
  positions other position there := by
    have differs : other ≠ name := by
      rintro rfl
      cases there.symm.trans (ModuleTable.holds_eq_false_iff.1 missing)
    rw [position?_begun, if_neg differs, there]
  keeps position key there := by
    have differs : position ≠ i.modules.next := by
      rintro rfl
      simp [contents_next, NameTable.get?] at there
    rwa [contents_begun, if_neg differs]
  added other position there := by
    rw [position?_begun] at there
    split at there
    · rename_i same
      obtain rfl := Option.some.inj there
      subst same
      rcases package_or_plain located with package | plain
      · right; left
        rw [IsPackage, contents_begun, if_pos rfl]
        exact package
      · exact .inr (.inr plain)
    · exact .inl there

theorem grows_finish (stores : Stores) (position : Nat) (i : Interpreter) :
    i.Grows stores (i.mapModules fun t => t.finish position) where
  installed := rfl
  owners := rfl
  positions _ _ there := there
  keeps _ _ there := by rwa [mapModules, ModuleTable.contents_finish]
  added _ _ there := .inl there

private theorem Grows.forget {stores : Stores} {i j : Interpreter} {name : String}
    (h : i.Grows stores j) (missing : i.modules.holds name = false) :
    i.Grows stores (j.mapModules fun t => t.forget name) where
  installed := h.installed
  owners := h.owners
  positions other position there := by
    have differs : other ≠ name := by
      rintro rfl
      cases there.symm.trans (ModuleTable.holds_eq_false_iff.1 missing)
    rw [mapModules, ModuleTable.position?_forget, if_neg differs]
    exact h.positions other position there
  keeps := h.keeps
  added other position there := by
    rw [mapModules, ModuleTable.position?_forget] at there
    split at there
    · cases there
    · exact h.added other position there

theorem lastsOverLoads_grows (stores : Stores) : LastsOverLoads stores (Grows stores) where
  refl := .refl stores
  trans := .trans
  set := .set stores
  begun := grows_begun
  finished i position := grows_finish stores position i
  forgotten := .forget

section Loading

variable {stores : Stores} {load : Loader} (careful : Careful stores load)

include careful

theorem grows_ensure (name : String) (i : Interpreter) : i.Grows stores (ensure load name i).2 :=
  (lastsOverLoads_grows stores).ensure careful name i

theorem grows_bring {pause : Pause} (idle : ∀ i : Interpreter, i.Grows stores (pause i).2)
    (above : List String) (i : Interpreter) : i.Grows stores (bring load pause above i).2 :=
  (lastsOverLoads_grows stores).bring careful idle above i

theorem grows_runBegun (source : ModuleSource) (name : String) (i : Interpreter) :
    (begun source name i).Grows stores (runBegun stores load source name i).2 :=
  (lastsOverLoads_grows stores).runBegun careful source name i

theorem careful_loadWith : Careful stores (loadWith stores load) :=
  (lastsOverLoads_grows stores).loadWith careful

end Loading

theorem grows_attach (stores : Stores) (name : String) (position : Nat) (i : Interpreter) :
    i.Grows stores (attach name position i) :=
  (lastsOverLoads_grows stores).attach name position i

theorem careful_loadNested (stores : Stores) (depth : Nat) :
    Careful stores (loadNested stores depth) :=
  (lastsOverLoads_grows stores).loadNested depth

theorem grows_importModule (stores : Stores) (name : String) (i : Interpreter) :
    i.Grows stores (importModule stores name i).2 :=
  (lastsOverLoads_grows stores).importModule name i

end Interpreter

end PagePress
