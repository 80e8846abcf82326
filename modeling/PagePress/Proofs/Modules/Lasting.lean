import PagePress.Modules.Context

/-!
What imports keep, for any relation between interpreters. A relation that goes on from one
interpreter to the next and is kept when a variable is set is kept by a running program, as long as
it is by the loads that this asks for. A load in turn keeps it if its own steps do: the module is
made, and taken out of the table again if its program fails. So for every such relation there are a
few steps to look at, however deep imports are nested.
-/

set_option autoImplicit false

namespace PagePress

namespace Interpreter

/-- A relation that goes on from interpreter to interpreter and is kept when a variable is set. -/
structure IsLasting (R : Interpreter → Interpreter → Prop) : Prop where
  refl : ∀ i, R i i
  trans : ∀ {i j k}, R i j → R j k → R i k
  set : ∀ (i : Interpreter) position name value, R i (i.set position name value)

/-- A loader keeps a relation as long as it is only asked for missing modules. -/
def LoadsBy (R : Interpreter → Interpreter → Prop) (load : Loader) : Prop :=
  ∀ (name : String) (i : Interpreter), i.modules.holds name = false → R i (load name i).2

namespace IsLasting

variable {R : Interpreter → Interpreter → Prop} (lasting : IsLasting R) {load : Loader}

include lasting

private theorem andThen {α β : Type} {i : Interpreter} {o : Outcome α}
    {next : α → Interpreter → Outcome β} (first : R i o.2)
    (second : ∀ (answer : α) (j : Interpreter), R j (next answer j).2) :
    R i (andThen o next).2 := by
  obtain ⟨answer, j⟩ := o
  cases answer with
  | error failure => exact first
  | ok answer => exact lasting.trans first (second answer j)

theorem ensure (loads : LoadsBy R load) (name : String) (i : Interpreter) :
    R i (ensure load name i).2 := by
  unfold Interpreter.ensure
  split
  · exact lasting.refl i
  · rename_i missing
    exact loads name i (by simpa using missing)

theorem bring (loads : LoadsBy R load) {pause : Pause} (idle : ∀ i : Interpreter, R i (pause i).2)
    (above : List String) (i : Interpreter) : R i (bring load pause above i).2 := by
  induction above with
  | nil => exact lasting.refl i
  | cons name above ih =>
    unfold Interpreter.bring
    split
    · exact lasting.refl i
    · exact lasting.andThen ih fun _ j => lasting.andThen (lasting.ensure loads name j) fun _ => idle

private theorem importPaused (loads : LoadsBy R load) {pause : Pause}
    (idle : ∀ i : Interpreter, R i (pause i).2) (name : String) (i : Interpreter) :
    R i (importPaused load pause name i).2 := by
  refine lasting.andThen (lasting.bring loads idle _ i) fun _ j => ?_
  refine lasting.andThen (lasting.ensure loads name j) fun _ k => ?_
  split <;> exact lasting.refl k

private theorem importName (loads : LoadsBy R load) (name : String) (i : Interpreter) :
    R i (importName load name i).2 :=
  lasting.importPaused loads (fun i => lasting.refl i) name i

private theorem importNamed (loads : LoadsBy R load) (name : String) (i : Interpreter) :
    R i (importNamed load name i).2 :=
  lasting.importPaused loads (lasting.ensure loads _) name i

private theorem importFromTop (loads : LoadsBy R load) (name : String) (i : Interpreter) :
    R i (importFromTop load name i).2 :=
  lasting.andThen (lasting.importNamed loads name i) fun _ => lasting.importName loads _

private theorem member (value : Value) (name : String) (i : Interpreter) : R i
    (member value name i).2 := by
  have same : (Interpreter.member value name i).2 = i := by
    unfold Interpreter.member
    split
    · rfl
    · split
      · split <;> rfl
      · rfl
  rw [same]
  exact lasting.refl i

private theorem memberAlong (value : Value) (names : List String) (i : Interpreter) :
    R i (memberAlong value names i).2 := by
  induction names generalizing value i with
  | nil => exact lasting.refl i
  | cons name rest ih => exact lasting.andThen (lasting.member value name i) ih

private theorem importBelow (loads : LoadsBy R load) (position : Nat) (name : String)
    (i : Interpreter) :
    R i (importBelow load position name i).2 := by
  unfold Interpreter.importBelow
  dsimp only
  split
  · exact lasting.refl i
  · have kept := lasting.importFromTop loads
      (Name.below (i.modules.contents position).moduleName name) i
    split
    · rename_i ran
      rwa [ran] at kept
    · rename_i ran
      rw [ran] at kept
      split <;> exact kept

private theorem importAllBelow (loads : LoadsBy R load) (position : Nat) (names : List String)
    (i : Interpreter) : R i (importAllBelow load position names i).2 := by
  induction names generalizing i with
  | nil => exact lasting.refl i
  | cons name rest ih =>
    exact lasting.andThen (lasting.importBelow loads position name i) fun _ => ih

private theorem bindMembers (position : Nat) (value : Value) (members : List (String × String))
    (i : Interpreter) : R i (bindMembers position value members i).2 := by
  induction members generalizing i with
  | nil => exact lasting.refl i
  | cons pair rest ih =>
    obtain ⟨wanted, name⟩ := pair
    exact lasting.andThen (lasting.member value wanted i) fun found j =>
      lasting.trans (lasting.set j position name found) (ih _)

private theorem foldl_set (position : Nat) (value : Value) (names : List String) (i : Interpreter) :
    R i (names.foldl (fun i name => i.set position name value) i) := by
  induction names generalizing i with
  | nil => exact lasting.refl i
  | cons name rest ih => exact lasting.trans (lasting.set i position name value) (ih _)

private theorem runStatement (loads : LoadsBy R load) (position : Nat) (s : Statement)
    (i : Interpreter) :
    R i (runStatement load position s i).2 := by
  cases s with
  | assign names value =>
    simp only [Interpreter.runStatement]
    split
    · exact lasting.foldl_set position _ names i
    · exact lasting.refl i
  | define name | declare name => exact lasting.set i position name _
  | importTop module =>
    exact lasting.andThen (lasting.importFromTop loads module i) fun top j => lasting.set j _ _ _
  | importAs module name =>
    exact lasting.andThen (lasting.importFromTop loads module i) fun top j =>
      lasting.andThen (lasting.memberAlong _ _ j) fun value k => lasting.set k _ _ _
  | importMembers module members =>
    exact lasting.andThen (lasting.importNamed loads module i) fun found j =>
      lasting.andThen (lasting.importAllBelow loads found _ j) fun _ k =>
        lasting.bindMembers position _ members k

private theorem runProgram (loads : LoadsBy R load) (position : Nat) (program : Program)
    (i : Interpreter) : R i (runProgram load position program i).2 := by
  induction program generalizing i with
  | nil => exact lasting.refl i
  | cons s rest ih => exact lasting.andThen (lasting.runStatement loads position s i) fun _ => ih

private theorem execute (loads : LoadsBy R load) (position : Nat) (program : Program)
    (i : Interpreter) :
    R i (execute load position program i).2 :=
  lasting.trans (lasting.set i position _ _) (lasting.runProgram loads position program _)

theorem runStored (loads : LoadsBy R load) (stores : Stores) (f : ActiveFinder) (name : String)
    (position : Nat) (i : Interpreter) : R i (runStored stores load f name position i).2 := by
  unfold Interpreter.runStored
  split
  · exact lasting.refl i
  · split
    · exact lasting.refl i
    · exact lasting.execute loads position _ i

theorem attach (name : String) (position : Nat) (i : Interpreter) :
    R i (attach name position i) := by
  unfold Interpreter.attach
  split
  · exact lasting.set i _ _ _
  · exact lasting.refl i

theorem importModule {stores : Stores} (loads : ∀ depth, LoadsBy R (loadNested stores depth))
    (name : String) (i : Interpreter) : R i (importModule stores name i).2 := by
  unfold Interpreter.importModule
  split
  · exact lasting.refl i
  · split
    · exact lasting.refl i
    · exact lasting.importName (loads _) name i

theorem loadAlone {stores : Stores} (loads : ∀ depth, LoadsBy R (loadNested stores depth))
    (made : ∀ (i : Interpreter) contents, R i (i.mapModules fun t => t.make ⟨contents, none, false⟩))
    (store : Nat) (name : String) (i : Interpreter) : R i (loadAlone stores store name i).2 := by
  unfold Interpreter.loadAlone
  split
  · exact lasting.refl i
  · split
    · exact lasting.refl i
    · refine lasting.andThen ?_ fun _ j => lasting.refl j
      exact lasting.trans (made i _) (lasting.execute (loads _) _ _ _)

end IsLasting

/-- The interpreter in which the program of a module that was located begins. -/
def begun (source : ModuleSource) (name : String) (i : Interpreter) : Interpreter :=
  let i := i.mapModules fun t =>
    (t.make ⟨freshFor source name t.next, source.found?, true⟩).register name t.next
  match source with
  | .installed _ => i
  | .found f _ => i.noteLoaded f.context name

/-- The run of the program of a module that was located, if it has one. -/
def runBegun (stores : Stores) (load : Loader) (source : ModuleSource) (name : String)
    (i : Interpreter) : Outcome Unit :=
  match source with
  | .installed _ => (.ok (), begun source name i)
  | .found f _ => runStored stores load f name i.modules.next (begun source name i)

theorem loadFrom_eq (stores : Stores) (load : Loader) (source : ModuleSource) (name : String)
    (i : Interpreter) :
    loadFrom stores load source name i =
      match runBegun stores load source name i with
      | (.error failure, j) =>
        (.error failure, j.mapModules fun t => (t.forget name).finish i.modules.next)
      | (.ok (), j) =>
        (.ok (), attach name i.modules.next (j.mapModules fun t => t.finish i.modules.next)) := by
  cases source <;> rfl

theorem loadWith_of_located {stores : Stores} {load : Loader} {search : SearchPath} {name : String}
    {i : Interpreter} {source : ModuleSource} (searched : i.searchPath name = .ok search)
    (located : i.locate stores search name = .ok (some source))
    (noted : i.noteBelow name = .ok ()) :
    loadWith stores load name i = loadFrom stores load source name i := by
  simp [loadWith, searched, located, noted, bind, Except.bind, pure, Except.pure]

theorem loadWith_cases (stores : Stores) (load : Loader) (name : String) (i : Interpreter) :
    (∃ failure, loadWith stores load name i = (.error failure, i)) ∨
      ∃ search source, i.searchPath name = .ok search ∧
        i.locate stores search name = .ok (some source) ∧ i.noteBelow name = .ok () ∧
        loadWith stores load name i = loadFrom stores load source name i := by
  cases searched : i.searchPath name with
  | error failure => exact .inl ⟨failure, by simp [loadWith, searched, bind, Except.bind]⟩
  | ok search =>
    cases located : i.locate stores search name with
    | error failure =>
      exact .inl ⟨failure, by simp [loadWith, searched, located, bind, Except.bind]⟩
    | ok found =>
      cases found with
      | none =>
        exact .inl ⟨_, by simp [loadWith, searched, located, bind, Except.bind]; rfl⟩
      | some source =>
        cases noted : i.noteBelow name with
        | error failure =>
          exact .inl ⟨failure, by simp [loadWith, searched, located, noted, bind, Except.bind]⟩
        | ok _ =>
          exact .inr ⟨search, source, rfl, located, rfl, loadWith_of_located searched located noted⟩

/-- A relation that lasts while modules are loaded from stores: it is kept when a module begins, when
it is done, and when it has failed and is taken out of the table. -/
structure LastsOverLoads (stores : Stores) (R : Interpreter → Interpreter → Prop) : Prop
    extends IsLasting R where
  begun : ∀ {search name i source}, i.locate stores search name = .ok (some source) →
    i.modules.holds name = false → R i (begun source name i)
  finished : ∀ (i : Interpreter) position, R i (i.mapModules fun t => t.finish position)
  forgotten : ∀ {i j : Interpreter} {name}, R i j → i.modules.holds name = false →
    R i (j.mapModules fun t => t.forget name)

namespace LastsOverLoads

variable {stores : Stores} {R : Interpreter → Interpreter → Prop}
  (lasting : LastsOverLoads stores R) {load : Loader}

include lasting

theorem runBegun (loads : LoadsBy R load) (source : ModuleSource) (name : String)
    (i : Interpreter) :
    R (Interpreter.begun source name i) (runBegun stores load source name i).2 := by
  cases source with
  | installed m => exact lasting.refl _
  | found f finding => exact lasting.runStored loads stores f name _ _

theorem loadFrom (loads : LoadsBy R load) {search : SearchPath} {name : String} {i : Interpreter}
    {source : ModuleSource} (located : i.locate stores search name = .ok (some source))
    (missing : i.modules.holds name = false) : R i (loadFrom stores load source name i).2 := by
  have kept := lasting.trans (lasting.begun located missing) (lasting.runBegun loads source name i)
  rw [loadFrom_eq]
  split
  · rename_i ran
    rw [ran] at kept
    exact lasting.trans (lasting.forgotten kept missing) (lasting.finished _ i.modules.next)
  · rename_i ran
    rw [ran] at kept
    exact lasting.trans kept (lasting.trans (lasting.finished _ _) (lasting.attach name _ _))

theorem loadWith (loads : LoadsBy R load) : LoadsBy R (loadWith stores load) := by
  intro name i missing
  rcases loadWith_cases stores load name i with ⟨failure, ran⟩ | ⟨search, source, -, located, -, ran⟩
  · rw [ran]
    exact lasting.refl i
  · rw [ran]
    exact lasting.loadFrom loads located missing

theorem loadNested (depth : Nat) : LoadsBy R (loadNested stores depth) := by
  induction depth with
  | zero => exact fun name i _ => lasting.refl i
  | succ depth ih => exact lasting.loadWith ih

theorem importModule (name : String) (i : Interpreter) : R i (importModule stores name i).2 :=
  lasting.toIsLasting.importModule lasting.loadNested name i

theorem loadAlone
    (made : ∀ (i : Interpreter) contents, R i (i.mapModules fun t => t.make ⟨contents, none, false⟩))
    (store : Nat) (name : String) (i : Interpreter) : R i (loadAlone stores store name i).2 :=
  lasting.toIsLasting.loadAlone lasting.loadNested made store name i

end LastsOverLoads

end Interpreter

end PagePress
