import PagePress.Modules.Context
import PagePress.Program.FrontEnd
import PagePress.Proofs.PageTask.Compilation
import PagePress.Proofs.Store.History
import PagePress.Text.Encoding.Standard

/-!
Stores that compilers of pages share, and what a context loads from them. The source that stands for
a name is that of its last compilation that succeeded, until the store is edited there: compilations
that fail, and those of other names, leave it. What is stored then is the code of that source, so
loading the module runs it.
-/

set_option autoImplicit false

namespace PagePress

namespace Store

def Change.touches (name : String) : Change → Bool
  | .stored other _ | .removed other => name == other
  | .refused => false
  | .cleared => true

/-- Whether an edit stores or takes away a name; one that is refused does nothing. -/
def Edit.touches (name : String) (edit : Edit) : Bool := edit.changes.any (Change.touches name)

private theorem Change.get?_of_not_touches {change : Change} {name : String}
    (apart : change.touches name = false) (s : Store) :
    (change.apply s).get? name = s.get? name := by
  rw [Change.get?_apply]
  cases change with
  | stored other content | removed other =>
    have differs : name ≠ other := by simpa [touches] using apart
    simp [leave, differs]
  | refused => rfl
  | cleared => cases apart

private theorem Edit.get?_of_not_touches {edit : Edit} {name : String}
    (apart : edit.touches name = false) (s : Store) : (edit.apply s).get? name = s.get? name := by
  unfold touches at apart
  rw [Edit.apply_eq]
  generalize edit.changes = changes at apart
  induction changes generalizing s with
  | nil => rfl
  | cons change rest ih =>
    obtain ⟨here, later⟩ := Bool.or_eq_false_iff.1 (List.any_cons ▸ apart)
    rw [List.foldl_cons, ih _ later, change.get?_of_not_touches here]

end Store

/-- What happens to a store: a compilation of a page, by any compiler and on any workspace with that
store, or an edit. -/
inductive StoreEvent
  | compiled (compiler : PageCompiler) (frontEnd : FrontEnd) (name : String)
      (guide : Option LineGuide) (w : Workspace)
  | edited (edit : Store.Edit)

namespace StoreEvent

def apply [Text.Encodings] (s : Store) : StoreEvent → Store
  | .compiled c fe name guide w =>
    (c.compile (PageTask.service fe) name guide { w with store := s }).2.store
  | .edited edit => edit.apply s

/-- The source that stands for a name after an event, by the one that stood before. -/
def standing [Text.Encodings] (name : String) (s : Store) (before : Option String) :
    StoreEvent → Option String
  | .compiled c fe unit guide w =>
    if unit = name ∧ PageCompiler.succeeded
        (c.compile (PageTask.service fe) unit guide { w with store := s }).1 = true then
      c.sinks.getLast?.map Sink.text
    else before
  | .edited edit => if edit.touches name then none else before

def storeAfter [Text.Encodings] (s : Store) (history : List StoreEvent) :
    Store := history.foldl apply s

/-- The source that stands for a name after a history: the one that was compiled last with success,
unless the name was stored or taken away by an edit since. -/
def standingAfter [Text.Encodings] (name : String) :
    Store → Option String → List StoreEvent → Option String
  | _, before, [] => before
  | s, before, e :: rest => standingAfter name (e.apply s) (e.standing name s before) rest

end StoreEvent

/-- The code of a page: its source, under the address of its name. -/
def pageCode (name source : String) : Code :=
  ⟨source, SourceUnit.uri ⟨name, source, "utf-8"⟩⟩

namespace PageCompiler

private theorem source_of_commission [Text.Encodings] {c : PageCompiler} {fe : FrontEnd} {d : Disk}
    {name : String} {u : SourceUnit} {demands : Demands}
    (h : c.commission fe d name = .ok (u, demands)) :
    ∃ sink, c.sinks.getLast? = some sink ∧ u = ⟨name, sink.text, sink.encoding⟩ := by
  unfold commission at h
  cases prepared : c.prepare (PageTask.service fe) d name with
  | error failure =>
    rw [prepared] at h
    cases h
  | ok pair =>
    obtain ⟨unit, options⟩ := pair
    obtain ⟨sink, last, -, made, -, -⟩ := prepare_ok prepared
    cases demanded : PageTask.demandsOf d options with
    | error failure =>
      simp only [prepared, demanded] at h
      cases h
    | ok found =>
      simp only [prepared, demanded] at h
      cases h
      exact ⟨sink, last, (make_ok made).1⟩

/-- A compilation that succeeds stores the code of the last sink under its name, and one that does
not stores nothing. -/
private theorem store_compile [Text.Encodings] (c : PageCompiler) (fe : FrontEnd) (name : String)
    (guide : Option LineGuide) (w : Workspace) :
    let ran := c.compile (PageTask.service fe) name guide w
    (succeeded ran.1 = true ∧ ∃ sink size, c.sinks.getLast? = some sink ∧ ran.2.store =
        (w.store.insert name (CodeFile.write (CodeFile.moment w.clock.now) size
          (pageCode name sink.text))).2) ∨
      (succeeded ran.1 = false ∧ ran.2.store = w.store) := by
  intro ran
  cases commissioned : c.commission fe w.disk name with
  | error failure =>
    obtain ⟨answer, kept⟩ := compile_refused c fe guide w commissioned
    exact .inr ⟨by rw [answer]; rfl, kept⟩
  | ok pair =>
    obtain ⟨u, demands⟩ := pair
    obtain ⟨sink, last, rfl⟩ := source_of_commission commissioned
    obtain ⟨size, settled⟩ := compile_settled c fe guide w commissioned
    cases ending : (PageTask.outcome fe demands ⟨name, sink.text, sink.encoding⟩
      (c.catalog w)).ending with
    | error failure =>
      obtain ⟨answer, kept⟩ := settled.broken failure ending
      exact .inr ⟨by rw [answer]; rfl, kept⟩
    | ok good =>
      cases good with
      | false =>
        obtain ⟨kept, answer⟩ := settled.failed ending
        exact .inr ⟨by rw [answer]; rfl, kept⟩
      | true =>
        obtain ⟨answer, stored⟩ := settled.published ending
        exact .inl ⟨by rw [answer]; rfl, sink, size, last, stored⟩

end PageCompiler

namespace StoreEvent

variable {name source : String} {before : Option String}

def Keeps (s : Store) (name source : String) : Prop :=
  ∃ time size, s.get? name = some (CodeFile.write time size (pageCode name source))

/-- If the source that stood for a name was stored there, so is the one that stands for it after an
event. -/
private theorem keeps_apply [Text.Encodings] {s : Store}
    (kept : ∀ source, before = some source → Keeps s name source) (e : StoreEvent)
    (stands : e.standing name s before = some source) :
    Keeps (e.apply s) name source := by
  cases e with
  | edited edit =>
    simp only [standing] at stands
    split at stands
    · cases stands
    · rename_i apart
      obtain ⟨time, size, stored⟩ := kept source stands
      exact ⟨time, size, (edit.get?_of_not_touches (by simpa using apart) s).trans stored⟩
  | compiled c fe unit guide w =>
    rcases c.store_compile fe unit guide { w with store := s } with
      ⟨good, sink, size, last, stored⟩ | ⟨bad, unchanged⟩
    · by_cases same : unit = name
      · subst same
        obtain rfl : sink.text = source := by simpa [standing, good, last] using stands
        exact ⟨CodeFile.moment w.clock.now, size, by simp [apply, stored, Store.get?_insert]⟩
      · obtain ⟨time, size, was⟩ := kept source (by simpa [standing, same] using stands)
        have other : name ≠ unit := fun h => same h.symm
        exact ⟨time, size, by simpa [apply, stored, Store.get?_insert, other] using was⟩
    · obtain ⟨time, size, was⟩ := kept source (by simpa [standing, bad] using stands)
      exact ⟨time, size, by simpa [apply, unchanged] using was⟩

private theorem keeps_storeAfter [Text.Encodings] (history : List StoreEvent) {s : Store}
    (kept : ∀ source, before = some source → Keeps s name source)
    (stands : standingAfter name s before history = some source) :
    Keeps (storeAfter s history) name source := by
  induction history generalizing s before with
  | nil => exact kept source stands
  | cons e rest ih => exact ih (fun _ standing => keeps_apply kept e standing) stands

end StoreEvent

namespace Interpreter

/-- Runs a program under a name in a new module outside the table of modules. -/
def runApart (stores : Stores) (name : String) (program : Program) (i : Interpreter) :
    Outcome Nat :=
  let position := i.modules.next
  let fresh := (Variables.fresh name .nothing .nothing .nothing).set Variables.fileKey
    (.ofText (Finder.moduleUri name))
  andThen (execute (loadNested stores (i.depthBound stores)) position program
    (i.mapModules fun t => t.make ⟨fresh, none, false⟩)) fun _ i => (.ok position, i)

private theorem loadAlone_of_program {stores : Stores} {store : Nat} {name : String}
    {content : Bytes} {program : Program} (stored : (stores store).get? name = some content)
    (readable : programOf name content = .ok program) (i : Interpreter) :
    loadAlone stores store name i = runApart stores name program i := by
  simp only [loadAlone, stored, readable, runApart]

end Interpreter

namespace PageContext

/-- Whatever was compiled, with success or without, and whatever was edited: where a source stands
for a name, the store has its code there, which is not corrupt, and a context that loads the module
runs just that code. -/
theorem loaded_module_is_last_compiled [Text.Encodings] (s : Store) (history : List StoreEvent)
    (name source : String) (k : PageContext) (stores : Stores) (i : Interpreter)
    (stands : StoreEvent.standingAfter name s none history = some source)
    (shared : stores k.store = StoreEvent.storeAfter s history) :
    (∃ content, (stores k.store).get? name = some content ∧
      CodeFile.read content = .ok (pageCode name source) ∧
      Interpreter.programOf name content = .ok (Program.read source)) ∧
    k.loadModule stores name i = Interpreter.runApart stores name (Program.read source) i := by
  have nothing : ∀ source, (none : Option String) = some source →
      StoreEvent.Keeps s name source := by simp
  obtain ⟨time, size, stored⟩ := StoreEvent.keeps_storeAfter history nothing stands
  rw [← shared] at stored
  have accepted := CodeFile.read_write time size (pageCode name source)
  have readable : Interpreter.programOf name
      (CodeFile.write time size (pageCode name source)) = .ok (Program.read source) := by
    simp only [Interpreter.programOf, accepted]
    rfl
  exact ⟨⟨_, stored, accepted, readable⟩, Interpreter.loadAlone_of_program stored readable i⟩

/-- A page is compiled, then another one, then the first one again without success, and something
else is stored: loading the first page runs what was compiled first. -/
theorem first_text_loaded_after_failure :
    let page (text : String) : PageCompiler := ⟨"generated", false, [], .empty, [⟨text, "utf-8"⟩]⟩
    let w := Workspace.start .empty (.empty ⟨0, []⟩)
    let history : List StoreEvent := [
      .compiled (page "X = 1\n") .ofPrograms "generated.A" none w,
      .compiled (page "Y = 2\n") .ofPrograms "generated.B" none w,
      .compiled (page "import generated.Ghost\n") .ofPrograms "generated.A" none w,
      .edited (.put "generated.C" (some [0]))]
    let stores : Stores := fun _ => StoreEvent.storeAfter w.store history
    let loaded := (PageContext.mk 0 0 "generated").loadModule stores "generated.A" (.start [])
    StoreEvent.standingAfter "generated.A" w.store none history = some "X = 1\n" ∧
      loaded = Interpreter.runApart stores "generated.A" (Program.read "X = 1\n") (.start []) ∧
      loaded.1 = .ok 0 ∧ (loaded.2.modules.contents 0).get? "X" = some (.constant (.int 1)) := by
  intro page w history stores loaded
  obtain ⟨stands, answered, bound⟩ :
      StoreEvent.standingAfter "generated.A" w.store none history = some "X = 1\n" ∧
      loaded.1 = .ok 0 ∧
      (loaded.2.modules.contents 0).get? "X" = some (.constant (.int 1)) := by
    decide +kernel
  have ran := (loaded_module_is_last_compiled w.store history "generated.A" "X = 1\n"
    ⟨0, 0, "generated"⟩ stores (.start []) stands rfl).2
  exact ⟨stands, ran, answered, bound⟩

end PageContext

end PagePress
