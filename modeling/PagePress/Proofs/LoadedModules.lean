import PagePress.Proofs.Files.Rows
import PagePress.Proofs.Lifecycle
import PagePress.Proofs.Modules.Loads

/-!
Which names a context has loaded. Over any row of calls, each context that is started lists the names
of the loads that its finder has begun since it was started, once each and sorted. A load that came to
no good end is among them, so the list is that of the completed modules just when every name that
failed has been completed too.
-/

set_option autoImplicit false

namespace PagePress

open Interpreter

/-- The loads of a call are those of the import that it makes, if it makes one. -/
def ContextCall.Tells (i : Interpreter) (log : List EndedLoad) : ContextCall → Prop
  | .module (.imported stores name) => Loads stores i log (i.importModule stores name).2
  | .module (.loaded c stores name) => Loads stores i log (c.loadModule stores name i).2
  | .module (.made _ _) | .start _ | .shutDown _ => log = []

/-- The loads of the calls of a row, in the order in which they end. -/
inductive Interpreter.LoadsOver : Interpreter → List ContextCall → List EndedLoad → Prop
  | none (i : Interpreter) : LoadsOver i [] []
  | call {i : Interpreter} {call : ContextCall} {calls : List ContextCall}
    {log more : List EndedLoad} (here : call.Tells i log)
    (later : LoadsOver (call.apply i) calls more) : LoadsOver i (call :: calls) (log ++ more)

namespace Interpreter

private theorem exists_tells (i : Interpreter) (call : ContextCall) : ∃ log, call.Tells i log := by
  match call with
  | .module (.imported stores name) => exact importModule_loads stores name i
  | .module (.loaded c stores name) => exact loadModule_loads c stores name i
  | .module (.made _ _) | .start _ | .shutDown _ => exact ⟨[], rfl⟩

private theorem exists_loadsOver (i : Interpreter) (calls : List ContextCall) :
    ∃ log, i.LoadsOver calls log := by
  induction calls generalizing i with
  | nil => exact ⟨[], .none i⟩
  | cons call rest ih =>
    obtain ⟨log, here⟩ := exists_tells i call
    obtain ⟨more, later⟩ := ih (call.apply i)
    exact ⟨log ++ more, .call here later⟩

variable {c : PageContext} {i : Interpreter} {log : List EndedLoad}

private theorem NotesLoads.apply {call : ContextCall} (unbroken : ¬ call.ShutsDown c.number)
    (told : call.Tells i log) : NotesLoads c i log (call.apply i) := by
  match call with
  | .module (.imported stores name) => exact told.notes c
  | .module (.loaded d stores name) => exact told.notes c
  | .module (.made store reserved) =>
    cases told
    refine .of_same ?_
    simp only [ContextCall.apply, ModuleCall.apply, PageContext.make]
    split <;> rfl
  | .start d =>
    cases told
    intro f here
    refine NotesLoads.of_same ?_ f here
    cases started : d.isStarted i with
    | true => rw [ContextCall.apply, PageContext.start_of_isStarted started]
    | false =>
      have apart : d.number ≠ c.number := fun same => by
        rw [PageContext.isStarted_congr same, PageContext.isStarted, here] at started
        cases started
      exact (PageContext.finder?_start_of_not_isStarted started).trans (if_neg apart)
  | .shutDown d =>
    cases told
    exact .of_same (PageContext.finder?_shutDown.trans (if_neg fun same => unbroken same.symm))

private theorem LoadsOver.notes {calls : List ContextCall} (done : i.LoadsOver calls log)
    (unbroken : ∀ call ∈ calls, ¬ call.ShutsDown c.number) :
    NotesLoads c i log (i.after calls) := by
  induction done with
  | none i => exact .of_same rfl
  | call here later ih =>
    obtain ⟨now, afterwards⟩ := List.forall_mem_cons.1 unbroken
    exact (NotesLoads.apply now here).next (ih afterwards)

end Interpreter

namespace PageContext

variable {c : PageContext} {i : Interpreter}

private theorem mem_loaded_iff {f : ActiveFinder} (held : c.finder? i = some f) (name : String) :
    name ∈ c.loaded i ↔ name ∈ f.loaded := by
  rw [loaded, held]
  exact List.mem_mergeSort

private theorem loaded_pairwise {f : ActiveFinder} (held : c.finder? i = some f)
    (single : f.loaded.Nodup) :
    (c.loaded i).Pairwise (· < ·) := by
  rw [loaded, held]
  have distinct : (f.loaded.mergeSort fun a b => decide (a ≤ b)).Nodup :=
    (List.mergeSort_perm _ _).nodup_iff.2 single
  exact (DiskFile.sortedNames_pairwise f.loaded).imp₂ (fun _ _ => lt_of_le_of_ne) distinct

/-- Whatever is done with contexts, stores and modules: a context that is started lists, sorted and
each once, the names of the loads that its finder has begun since the start, whether they were
completed or failed. So the list is that of the completed ones just when each name that failed was
completed as well. -/
theorem loaded_are_begun (installed : Installation) (outside : List String)
    (calls : List ContextCall) (c : PageContext)
    (started : c.isStarted ((Interpreter.startWith installed outside).after calls) = true) :
    let first := Interpreter.startWith installed outside
    let names := c.loaded (first.after calls)
    ∃ before d during, calls = before ++ .start d :: during ∧ d.number = c.number ∧
      c.isStarted (first.after before) = false ∧ (∀ call ∈ during, ¬ call.ShutsDown c.number) ∧
      (∃ log, (d.start (first.after before)).LoadsOver during log) ∧
      ∀ log, (d.start (first.after before)).LoadsOver during log →
        names.Pairwise (· < ·) ∧
        (∀ name, name ∈ names ↔ ⟨c.number, name, true⟩ ∈ log ∨ ⟨c.number, name, false⟩ ∈ log) ∧
        ((∀ name, name ∈ names ↔ ⟨c.number, name, true⟩ ∈ log) ↔
          ∀ name, ⟨c.number, name, false⟩ ∈ log → ⟨c.number, name, true⟩ ∈ log) := by
  intro first names
  obtain ⟨before, d, during, rfl, same, stopped, unbroken⟩ := exists_start rfl calls started
  refine ⟨before, d, during, rfl, same, stopped, unbroken, exists_loadsOver _ during, ?_⟩
  intro log done
  have fresh : c.finder? (d.start (first.after before)) = some ⟨d.number, d.store, d.reserved, []⟩ :=
    (finder?_start_of_not_isStarted ((isStarted_congr same).trans stopped)).trans (if_pos same)
  obtain ⟨f, held, single, noted⟩ := done.notes unbroken _ fresh
  have whole : (d.start (first.after before)).after during =
      first.after (before ++ .start d :: during) := by
    simp [Interpreter.after, ContextCall.apply]
  rw [whole] at held
  have listed (name : String) :
      name ∈ names ↔ ⟨c.number, name, true⟩ ∈ log ∨ ⟨c.number, name, false⟩ ∈ log := by
    rw [mem_loaded_iff held, noted]
    simp [or_comm]
  refine ⟨loaded_pairwise held (single List.nodup_nil), listed, ?_⟩
  constructor
  · exact fun exact name failed => (exact name).1 ((listed name).2 (.inr failed))
  · intro completed name
    rw [listed]
    exact ⟨fun told => told.elim id (completed name), .inl⟩

/-- The load of a page that cannot be read was begun. -/
theorem broken_load_is_begun :
    let stores : Stores := fun _ => ((Store.empty ⟨0, []⟩).put "generated.A" (some [0])).2
    let calls : List ContextCall :=
      [.start ⟨0, 0, "generated"⟩, .module (.imported stores "generated.A")]
    let c : PageContext := ⟨0, 0, "generated"⟩
    let first := Interpreter.startWith [] ["installed"]
    c.isStarted (first.after calls) = true ∧
    ∃ before d during log, calls = before ++ .start d :: during ∧
      (d.start (first.after before)).LoadsOver during log ∧
      (⟨0, "generated.A", true⟩ ∈ log ∨ ⟨0, "generated.A", false⟩ ∈ log) := by
  intro stores calls c first
  have started : c.isStarted (first.after calls) = true := by decide +kernel
  have held : ((c.finder? (first.after calls)).map ActiveFinder.loaded) =
      some ["generated", "generated.A"] := by decide +kernel
  obtain ⟨f, found, names⟩ := Option.map_eq_some_iff.1 held
  obtain ⟨before, d, during, split, -, -, -, ⟨log, done⟩, law⟩ :=
    loaded_are_begun [] ["installed"] calls c started
  obtain ⟨-, listed, -⟩ := law log done
  refine ⟨started, before, d, during, log, split, done, (listed "generated.A").1 ?_⟩
  rw [mem_loaded_iff found, names]
  decide

/-- A page that cannot be read is listed, though its only load failed. -/
theorem broken_page_is_listed :
    let stores : Stores := fun _ => ((Store.empty ⟨0, []⟩).put "generated.A" (some [0])).2
    let c : PageContext := ⟨0, 0, "generated"⟩
    let i := c.start (Interpreter.startWith [] ["installed"])
    let j := (i.importModule stores "generated.A").2
    (i.importModule stores "generated.A").1.isOk = false ∧
    c.loaded j = ["generated", "generated.A"] ∧
    ∀ log, i.LoadsOver [.module (.imported stores "generated.A")] log →
      ⟨0, "generated.A", true⟩ ∉ log := by
  intro stores c i j
  have held : (c.finder? j).map ActiveFinder.loaded = some ["generated", "generated.A"] := by
    decide +kernel
  obtain ⟨f, found, names⟩ := Option.map_eq_some_iff.1 held
  refine ⟨by decide +kernel, ?_, ?_⟩
  · rw [loaded, found]
    dsimp only
    rw [names]
    exact List.mergeSort_of_pairwise (by decide +kernel)
  · intro log done member
    cases done with
    | call here later =>
      cases later
      have inside := here.completed _ (by simpa using member) rfl
      have absent : j.modules.holds "generated.A" = false := by decide +kernel
      cases inside.symm.trans absent

end PageContext

end PagePress
