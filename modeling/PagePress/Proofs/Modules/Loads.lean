import PagePress.Proofs.Modules.Noting

/-!
The loads of an import, one by one. What a finder brings in, and on whose behalf, can be read off the
steps of an import: a load by a finder begins, its program may ask for more, and it comes to its end,
with success or without. A finder notes the name of each load that it begins.
-/

set_option autoImplicit false

namespace PagePress

/-- A load that came to its end: by the finder of which context, of which name, and whether the
module was completed. -/
structure EndedLoad where
  context : Nat
  name : String
  completed : Bool
  deriving DecidableEq, Repr

private theorem ActiveFinder.nodup_note {f : ActiveFinder} (single : f.loaded.Nodup) (context : Nat)
    (name : String) : (f.note context name).loaded.Nodup := by
  unfold note
  split
  · rename_i new
    simp only [Bool.and_eq_true, Bool.not_eq_true', List.contains_eq_mem,
      decide_eq_false_iff_not] at new
    exact List.nodup_append.2 ⟨single, by simp, by grind⟩
  · exact single

namespace Interpreter

/-- From one interpreter to the next, with the loads by finders in the order in which they end. -/
inductive Loads (stores : Stores) : Interpreter → List EndedLoad → Interpreter → Prop
  | none (i : Interpreter) : Loads stores i [] i
  | next {i j k : Interpreter} {log more : List EndedLoad} (first : Loads stores i log j)
    (second : Loads stores j more k) : Loads stores i (log ++ more) k
  | set (i : Interpreter) (position : Nat) (name : String) (value : Value) :
    Loads stores i [] (i.set position name value)
  | made (i : Interpreter) (contents : Variables) :
    Loads stores i [] (i.mapModules fun t => t.make ⟨contents, .none, false⟩)
  | installed {i : Interpreter} {search : SearchPath} {name : String} {m : InstalledModule}
    {depth : Nat} (located : i.locate stores search name = .ok (some (.installed m)))
    (missing : i.modules.holds name = false) :
    Loads stores i [] (loadFrom stores (loadNested stores depth) (.installed m) name i).2
  | found {i : Interpreter} {search : SearchPath} {name : String} {f : ActiveFinder}
    {finding : Finding} {depth : Nat} {log : List EndedLoad}
    (located : i.locate stores search name = .ok (some (.found f finding)))
    (missing : i.modules.holds name = false)
    (inner : Loads stores (begun (.found f finding) name i) log
      (runBegun stores (loadNested stores depth) (.found f finding) name i).2) :
    Loads stores i
      (log ++ [⟨f.context, name,
        (loadFrom stores (loadNested stores depth) (.found f finding) name i).1.isOk⟩])
      (loadFrom stores (loadNested stores depth) (.found f finding) name i).2

variable {stores : Stores}

private theorem isLasting_loads (stores : Stores) :
    IsLasting fun i j => ∃ log, Loads stores i log j where
  refl i := ⟨[], .none i⟩
  trans := by
    rintro i j k ⟨log, first⟩ ⟨more, second⟩
    exact ⟨log ++ more, first.next second⟩
  set i position name value := ⟨[], .set i position name value⟩

private theorem loadNested_loads (stores : Stores) (depth : Nat) :
    LoadsBy (fun i j => ∃ log, Loads stores i log j) (loadNested stores depth) := by
  induction depth with
  | zero => exact fun name i _ => ⟨[], .none i⟩
  | succ depth ih =>
    intro name i missing
    unfold loadNested
    rcases loadWith_cases stores (loadNested stores depth) name i with
      ⟨failure, ran⟩ | ⟨search, source, -, located, -, ran⟩
    · rw [ran]
      exact ⟨[], .none i⟩
    · rw [ran]
      cases source with
      | installed m => exact ⟨[], .installed located missing⟩
      | found f finding =>
        obtain ⟨log, inner⟩ := (isLasting_loads stores).runStored ih stores f name i.modules.next
          (begun (.found f finding) name i)
        exact ⟨_, .found located missing inner⟩

theorem importModule_loads (stores : Stores) (name : String) (i : Interpreter) :
    ∃ log, Loads stores i log (i.importModule stores name).2 :=
  (isLasting_loads stores).importModule (loadNested_loads stores) name i

theorem loadModule_loads (c : PageContext) (stores : Stores) (name : String) (i : Interpreter) :
    ∃ log, Loads stores i log (c.loadModule stores name i).2 :=
  (isLasting_loads stores).loadAlone (loadNested_loads stores)
    (fun i contents => ⟨[], .made i contents⟩) c.store name i

/-! What a finder has noted. -/

private theorem held_attach (name : String) (position : Nat) (i : Interpreter) :
    (attach name position i).held = i.held := by
  unfold attach
  split <;> rfl

private theorem held_loadFrom (stores : Stores) (load : Loader) (source : ModuleSource)
    (name : String) (i : Interpreter) :
    (loadFrom stores load source name i).2.held = (runBegun stores load source name i).2.held := by
  rw [loadFrom_eq]
  split
  · rename_i ran
    rw [ran]
    rfl
  · rename_i ran
    rw [ran]
    exact held_attach name _ _

/-- The finder of a context notes the loads of a log that it did, and nothing else. -/
def NotesLoads (c : PageContext) (i : Interpreter) (log : List EndedLoad) (j : Interpreter) :
    Prop :=
  ∀ f, c.finder? i = some f → ∃ g, c.finder? j = some g ∧ (f.loaded.Nodup → g.loaded.Nodup) ∧
    ∀ name, name ∈ g.loaded ↔
      name ∈ f.loaded ∨ ∃ completed, ⟨c.number, name, completed⟩ ∈ log

namespace NotesLoads

variable {c : PageContext} {i j k : Interpreter} {log more : List EndedLoad}

theorem of_same (held : c.finder? j = c.finder? i) : NotesLoads c i [] j :=
  fun f here => ⟨f, held.trans here, id, by simp⟩

theorem next (first : NotesLoads c i log j) (second : NotesLoads c j more k) :
    NotesLoads c i (log ++ more) k := by
  intro f here
  obtain ⟨g, there, single, noted⟩ := first f here
  obtain ⟨h, further, single', noted'⟩ := second g there
  refine ⟨h, further, single' ∘ single, fun name => ?_⟩
  rw [noted', noted, or_assoc]
  simp only [List.mem_append, exists_or]

private theorem perm (notes : NotesLoads c i log j) (same : log.Perm more) :
    NotesLoads c i more j := by
  intro f here
  obtain ⟨g, there, single, noted⟩ := notes f here
  exact ⟨g, there, single, fun name => by simp only [noted, same.mem_iff]⟩

end NotesLoads

private theorem notesLoads_begun (c : PageContext) (f : ActiveFinder) (finding : Finding)
    (name : String) (i : Interpreter) (completed : Bool) :
    NotesLoads c i [⟨f.context, name, completed⟩] (begun (.found f finding) name i) := by
  intro g here
  have noted : c.finder? (begun (.found f finding) name i) =
      (c.finder? i).map fun g => g.note f.context name := finder?_noteLoaded c i f.context name
  refine ⟨g.note f.context name, by rw [noted, here]; rfl,
    fun single => ActiveFinder.nodup_note single _ _, fun other => ?_⟩
  rw [ActiveFinder.mem_loaded_note, context_of_finder? here]
  simp

theorem Loads.notes {i j : Interpreter} {log : List EndedLoad} (loads : Loads stores i log j)
    (c : PageContext) : NotesLoads c i log j := by
  induction loads with
  | none i | set i | made i => exact .of_same rfl
  | next first second ihFirst ihSecond => exact ihFirst.next ihSecond
  | @installed i search name m depth located missing =>
    have held := held_loadFrom stores (loadNested stores depth) (.installed m) name i
    exact .of_same (by rw [PageContext.finder?, held]; rfl)
  | @found i search name f finding depth log located missing inner ih =>
    -- the name is noted when the load begins, and its program runs before the load ends
    have held := held_loadFrom stores (loadNested stores depth) (.found f finding) name i
    have done : NotesLoads c (runBegun stores (loadNested stores depth) (.found f finding) name i).2 []
        (loadFrom stores (loadNested stores depth) (.found f finding) name i).2 :=
      .of_same (by rw [PageContext.finder?, held, PageContext.finder?])
    have begins := notesLoads_begun c f finding name i
      (loadFrom stores (loadNested stores depth) (.found f finding) name i).1.isOk
    have whole := (begins.next ih).next done
    rw [List.append_nil] at whole
    exact whole.perm List.perm_append_comm

/-! What becomes of the table. -/

private theorem Loads.holds {i j : Interpreter} {log : List EndedLoad}
    (loads : Loads stores i log j) {name : String}
    (held : i.modules.holds name = true) : j.modules.holds name = true := by
  induction loads with
  | none i | set i | made i => exact held
  | next first second ihFirst ihSecond => exact ihSecond (ihFirst held)
  | installed located missing | found located missing =>
    exact ((lastsOverLoads_grows stores).loadFrom (careful_loadNested stores _) located missing).holds
      held

private theorem Loads.missing {i j : Interpreter} {log : List EndedLoad}
    (loads : Loads stores i log j) :
    ∀ load ∈ log, i.modules.holds load.name = false := by
  have carried {i j : Interpreter} {log : List EndedLoad} (loads : Loads stores i log j)
      {name : String} (absent : j.modules.holds name = false) : i.modules.holds name = false :=
    Bool.eq_false_iff.2 fun held => by
      rw [loads.holds held] at absent
      cases absent
  induction loads with
  | none | set | made | installed => nofun
  | next first second ihFirst ihSecond =>
    exact List.forall_mem_append.2 ⟨ihFirst, fun load member => carried first (ihSecond load member)⟩
  | found located missing inner ih =>
    refine List.forall_mem_append.2 ⟨fun load member => ?_, List.forall_mem_singleton.2 missing⟩
    have absent := ih load member
    refine Bool.eq_false_iff.2 fun held => ?_
    rw [(grows_begun located missing).holds held] at absent
    cases absent

theorem Loads.completed {i j : Interpreter} {log : List EndedLoad} (loads : Loads stores i log j) :
    ∀ load ∈ log, load.completed = true → j.modules.holds load.name = true := by
  induction loads with
  | none | set | made | installed => nofun
  | next first second ihFirst ihSecond =>
    refine List.forall_mem_append.2 ⟨fun load member done => ?_, ihSecond⟩
    exact second.holds (ihFirst load member done)
  | @found i search name f finding depth log located missing inner ih =>
    have begins : (begun (.found f finding) name i).modules.holds name = true :=
      ModuleTable.holds_iff.2 ⟨i.modules.next, by simp [position?_begun]⟩
    rw [loadFrom_eq]
    generalize runBegun stores (loadNested stores depth) (.found f finding) name i = o at inner ih
    obtain ⟨answer, l⟩ := o
    cases answer with
    | error failure =>
      -- what the program of a module completes is not this module, which is in the table meanwhile
      refine List.forall_mem_append.2 ⟨fun load member done => ?_, List.forall_mem_singleton.2 nofun⟩
      have apart : load.name ≠ name := fun same => by
        have absent := inner.missing load member
        rw [same, begins] at absent
        cases absent
      obtain ⟨position, there⟩ := ModuleTable.holds_iff.1 (ih load member done)
      refine ModuleTable.holds_iff.2 ⟨position, ?_⟩
      exact (ModuleTable.position?_forget _ _ _).trans ((if_neg apart).trans there)
    | ok done =>
      have kept := (grows_finish stores i.modules.next l).trans (grows_attach stores name i.modules.next _)
      refine List.forall_mem_append.2 ⟨fun load member done => kept.holds (ih load member done), ?_⟩
      exact List.forall_mem_singleton.2 fun _ => kept.holds (inner.holds begins)

end Interpreter

end PagePress
