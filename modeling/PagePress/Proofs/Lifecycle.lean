import Mathlib.Data.List.Induction
import Mathlib.Data.List.Nodup
import PagePress.Proofs.Modules.Noting

/-!
Contexts that are started and shut down in any order, with imports between. The row of those that are
asked for modules is at all times the finders of the contexts that are started, the last started
first, and behind them what was in it from outside. When a context is shut down, the names leave the
table whose loading its finder has begun since it was started.
-/

set_option autoImplicit false

namespace PagePress

/-- What is done with contexts: one is started or shut down, or something else is done between. -/
inductive ContextCall
  | start (c : PageContext)
  | shutDown (c : PageContext)
  | module (call : ModuleCall)

namespace ContextCall

def apply (i : Interpreter) : ContextCall → Interpreter
  | .start c => c.start i
  | .shutDown c => c.shutDown i
  | .module call => call.apply i

def ShutsDown (context : Nat) : ContextCall → Prop
  | .shutDown c => c.number = context
  | _ => False

/-- Whether a call has nothing to do with an entry of the row. -/
def spares : ContextCall → RowEntry → Bool
  | .start c, e | .shutDown c, e => e != .finder c.number
  | .module _, _ => true

end ContextCall

def Interpreter.after (i : Interpreter) (calls : List ContextCall) : Interpreter :=
  calls.foldl ContextCall.apply i

private theorem Interpreter.after_snoc (i : Interpreter) (calls : List ContextCall)
    (call : ContextCall) :
    i.after (calls ++ [call]) = call.apply (i.after calls) := by
  simp [after]

/-! What a start and a shutdown do to the finders and to the table. -/

namespace PageContext

variable {c d : PageContext} {i : Interpreter}

private theorem isStarted_iff :
    c.isStarted i = true ↔ c.number ∈ i.held.map ActiveFinder.context := by
  simp [isStarted, finder?, List.find?_isSome]

theorem isStarted_congr (same : d.number = c.number) : d.isStarted i = c.isStarted i := by
  rw [isStarted, isStarted, finder?, finder?, same]

theorem start_of_isStarted (started : c.isStarted i = true) : c.start i = i := by
  rw [start, if_pos started]

private theorem shutDown_of_not_isStarted (stopped : c.isStarted i = false) : c.shutDown i = i := by
  have none : c.finder? i = none := by simpa [isStarted] using stopped
  rw [shutDown, none]

@[simp] theorem modules_start : (c.start i).modules = i.modules := by
  unfold start
  split <;> rfl

theorem finder?_start_of_not_isStarted (stopped : c.isStarted i = false) :
    d.finder? (c.start i) =
      if c.number = d.number then some ⟨c.number, c.store, c.reserved, []⟩ else d.finder? i := by
  have stopped' : ¬ c.isStarted i = true := by simp [stopped]
  rw [start, if_neg stopped', finder?, List.find?_cons]
  by_cases same : c.number = d.number
  · simp [same]
  · have missed : (c.number == d.number) = false := by simpa using same
    simp [same, missed, finder?]

private theorem isStarted_start : c.isStarted (c.start i) = true := by
  cases started : c.isStarted i with
  | true => rwa [start_of_isStarted started]
  | false => simp [isStarted, finder?_start_of_not_isStarted started]

private theorem isStarted_start_of_ne (apart : c.number ≠ d.number) :
    d.isStarted (c.start i) = d.isStarted i := by
  cases started : c.isStarted i with
  | true => rw [start_of_isStarted started]
  | false => rw [isStarted, finder?_start_of_not_isStarted started, if_neg apart, isStarted]

theorem finder?_shutDown :
    d.finder? (c.shutDown i) = if d.number = c.number then none else d.finder? i := by
  cases held : c.finder? i with
  | none =>
    have stopped : c.isStarted i = false := by simp [isStarted, held]
    rw [shutDown_of_not_isStarted stopped]
    split
    · rename_i same
      simpa [finder?, same] using held
    · rfl
  | some f =>
    have left : (c.shutDown i).held = i.held.filter fun f => f.context != c.number := by
      rw [shutDown, held]
    rw [finder?, left, List.find?_filter]
    by_cases same : d.number = c.number
    · simp [same]
    · rw [if_neg same, finder?]
      congr 1
      funext g
      by_cases here : g.context = d.number <;> simp [here, same]

private theorem isStarted_shutDown : c.isStarted (c.shutDown i) = false := by
  simp [isStarted, finder?_shutDown]

private theorem foldl_forget (names : List String) (t : ModuleTable) :
    (names.foldl ModuleTable.forget t).made = t.made ∧
      ∀ name, (names.foldl ModuleTable.forget t).position? name =
        if name ∈ names then none else t.position? name := by
  induction names generalizing t with
  | nil => simp
  | cons first rest ih =>
    obtain ⟨made, positions⟩ := ih (t.forget first)
    refine ⟨made, fun name => ?_⟩
    rw [List.foldl_cons, positions, ModuleTable.position?_forget]
    by_cases later : name ∈ rest <;> simp [later]

private theorem made_shutDown : (c.shutDown i).modules.made = i.modules.made := by
  unfold shutDown
  split
  · rfl
  · exact (foldl_forget _ _).1

private theorem position?_shutDown {f : ActiveFinder} (held : c.finder? i = some f)
    (name : String) :
    (c.shutDown i).modules.position? name =
      if name ∈ f.loaded then none else i.modules.position? name := by
  simp only [shutDown, held]
  exact (foldl_forget f.loaded i.modules).2 name

end PageContext

/-! The row. -/

namespace Interpreter

/-- The finders of the contexts that are started stand in front of what is from outside. -/
structure Lined (outside : List String) (i : Interpreter) : Prop where
  row : i.row = (i.held.map ActiveFinder.context).map .finder ++ outside.map .outside
  single : (i.held.map ActiveFinder.context).Nodup

variable {outside : List String} {i j : Interpreter}

private theorem lined_startWith (installed : Installation) (outside : List String) :
    (startWith installed outside).Lined outside :=
  ⟨rfl, List.nodup_nil⟩

private theorem Lined.attends (lined : i.Lined outside) (h : i.Attends j) : j.Lined outside := by
  have contexts : j.held.map ActiveFinder.context = i.held.map ActiveFinder.context := by
    have numbers := congrArg (List.map PageContext.number) h.owners
    simpa only [List.map_map, Function.comp_def, ActiveFinder.owner] using numbers
  exact ⟨by rw [h.row, contexts, lined.row], by rw [contexts]; exact lined.single⟩

private theorem Lined.start (lined : i.Lined outside) (c : PageContext) :
    (c.start i).Lined outside := by
  cases started : c.isStarted i with
  | true => rwa [PageContext.start_of_isStarted started]
  | false =>
    have stopped : ¬ c.isStarted i = true := by simp [started]
    rw [PageContext.start, if_neg stopped]
    exact ⟨congrArg (RowEntry.finder c.number :: ·) lined.row,
      List.nodup_cons.2 ⟨mt PageContext.isStarted_iff.2 stopped, lined.single⟩⟩

private theorem Lined.shutDown (lined : i.Lined outside) (c : PageContext) :
    (c.shutDown i).Lined outside := by
  cases held : c.finder? i with
  | none =>
    rwa [PageContext.shutDown_of_not_isStarted (by simp [PageContext.isStarted, held])]
  | some f =>
    have started : c.isStarted i = true := by simp [PageContext.isStarted, held]
    have left : (i.held.filter fun f => f.context != c.number).map ActiveFinder.context =
        (i.held.map ActiveFinder.context).erase c.number := by
      rw [lined.single.erase_eq_filter, List.filter_map]
      rfl
    simp only [PageContext.shutDown, held]
    constructor
    · show i.row.erase (.finder c.number) = _
      rw [lined.row, List.erase_append_left _ (List.mem_map_of_mem (PageContext.isStarted_iff.1 started)),
        left, List.map_erase]
      exact fun _ _ => RowEntry.finder.inj
    · show ((i.held.filter fun f => f.context != c.number).map ActiveFinder.context).Nodup
      rw [left]
      exact lined.single.erase _

private theorem Lined.apply (lined : i.Lined outside) (call : ContextCall) :
    (call.apply i).Lined outside := by
  cases call with
  | start c => exact lined.start c
  | shutDown c => exact lined.shutDown c
  | module call => exact lined.attends (attends_apply call i)

private theorem Lined.after (lined : i.Lined outside) (calls : List ContextCall) :
    (i.after calls).Lined outside := by
  induction calls generalizing i with
  | nil => exact lined
  | cons call rest ih => exact ih (lined.apply call)

private theorem Lined.count_row (lined : i.Lined outside) (c : PageContext) :
    i.row.count (.finder c.number) = if c.isStarted i = true then 1 else 0 := by
  have finders : ((i.held.map ActiveFinder.context).map RowEntry.finder).Nodup :=
    lined.single.map fun _ _ => RowEntry.finder.inj
  have others : (outside.map RowEntry.outside).count (.finder c.number) = 0 :=
    List.count_eq_zero.2 (by simp)
  rw [lined.row, List.count_append, others, Nat.add_zero, finders.count]
  simp only [PageContext.isStarted_iff, List.mem_map_of_injective (fun _ _ => RowEntry.finder.inj)]

private theorem filter_erase {α : Type} [DecidableEq α] {keeps : α → Bool} {a : α}
    (left : keeps a = false) (row : List α) : (row.erase a).filter keeps = row.filter keeps := by
  induction row with
  | nil => rfl
  | cons b rest ih =>
    by_cases here : b = a
    · subst here
      simp [left]
    · rw [List.erase_cons_tail (by simpa using here), List.filter_cons, List.filter_cons, ih]

private theorem filter_row_apply (i : Interpreter) (call : ContextCall) :
    (call.apply i).row.filter call.spares = i.row.filter call.spares := by
  cases call with
  | start c =>
    simp only [ContextCall.apply, PageContext.start]
    split
    · rfl
    · simp [ContextCall.spares]
  | shutDown c =>
    simp only [ContextCall.apply, PageContext.shutDown]
    split
    · rfl
    · exact filter_erase (by simp [ContextCall.spares]) i.row
  | module call => rw [ContextCall.apply, (attends_apply call i).row]

/-! The names that a finder notes. -/

/-- A context holds a finder which has noted what it began to load since some moment. -/
structure Notes (c : PageContext) (since : Nat) (i : Interpreter) : Prop where
  earlier : since ≤ i.modules.next
  noted : ∃ f, c.finder? i = some f ∧ ∀ name, name ∈ f.loaded ↔ i.Began c.number since name

variable {c d : PageContext} {since : Nat}

private theorem began_congr (made : j.modules.made = i.modules.made) (context : Nat)
    (name : String) :
    j.Began context since name ↔ i.Began context since name := by
  simp only [Began, ModuleTable.found?, made]

private theorem notes_start (same : d.number = c.number) (stopped : c.isStarted i = false) :
    Notes c i.modules.next (d.start i) where
  earlier := by simp
  noted := by
    have stopped' : d.isStarted i = false := (PageContext.isStarted_congr same).trans stopped
    refine ⟨_, (PageContext.finder?_start_of_not_isStarted stopped').trans (if_pos same),
      fun name => ?_⟩
    have same : (d.start i).modules.made = i.modules.made := by simp
    rw [began_congr same]
    exact iff_of_false List.not_mem_nil (Attends.not_began_next i c.number name)

private theorem Notes.isStarted (notes : Notes c since i) : c.isStarted i = true := by
  obtain ⟨f, held, -⟩ := notes.noted
  simp [PageContext.isStarted, held]

private theorem Notes.attends (notes : Notes c since i) (h : i.Attends j) : Notes c since j where
  earlier := Nat.le_trans notes.earlier h.grown
  noted := by
    obtain ⟨f, held, noted⟩ := notes.noted
    obtain ⟨g, still, more⟩ := h.noted c f held
    refine ⟨g, still, fun name => ?_⟩
    rw [more, noted, h.began_iff notes.earlier]

private theorem Notes.of_made (notes : Notes c since i) (held : c.finder? j = c.finder? i)
    (made : j.modules.made = i.modules.made) : Notes c since j where
  earlier := by
    rw [ModuleTable.next, made]
    exact notes.earlier
  noted := by
    simp only [held, began_congr made]
    exact notes.noted

private theorem Notes.apply (notes : Notes c since i) {call : ContextCall}
    (unbroken : ¬ call.ShutsDown c.number) : Notes c since (call.apply i) := by
  cases call with
  | start d =>
    cases started : d.isStarted i with
    | true => rwa [ContextCall.apply, PageContext.start_of_isStarted started]
    | false =>
      have apart : d.number ≠ c.number := fun same => by
        rw [PageContext.isStarted_congr same, notes.isStarted] at started
        cases started
      exact notes.of_made ((PageContext.finder?_start_of_not_isStarted started).trans
        (if_neg apart)) (by simp [ContextCall.apply])
  | shutDown d =>
    have apart : c.number ≠ d.number := fun same => unbroken same.symm
    exact notes.of_made (PageContext.finder?_shutDown.trans (if_neg apart))
      PageContext.made_shutDown
  | module call => exact notes.attends (attends_apply call i)

private theorem Notes.after (notes : Notes c since i) {calls : List ContextCall}
    (unbroken : ∀ call ∈ calls, ¬ call.ShutsDown c.number) : Notes c since (i.after calls) := by
  induction calls generalizing i with
  | nil => exact notes
  | cons call rest ih =>
    obtain ⟨here, later⟩ := List.forall_mem_cons.1 unbroken
    exact ih (notes.apply here) later

private theorem isStarted_attends (h : i.Attends j) (c : PageContext) :
    c.isStarted j = c.isStarted i := by
  have numbers := congrArg (List.map PageContext.number) h.owners
  simp only [List.map_map, Function.comp_def, ActiveFinder.owner] at numbers
  rw [Bool.eq_iff_iff, PageContext.isStarted_iff, PageContext.isStarted_iff]
  exact iff_of_eq (congrArg (c.number ∈ ·) numbers)

private theorem eq_start_of_isStarted_apply {call : ContextCall} (stopped : c.isStarted i = false)
    (started : c.isStarted (call.apply i) = true) : ∃ d, call = .start d ∧ d.number = c.number := by
  cases call with
  | start d =>
    refine ⟨d, rfl, ?_⟩
    by_contra apart
    rw [ContextCall.apply, PageContext.isStarted_start_of_ne apart, stopped] at started
    cases started
  | shutDown d =>
    exfalso
    rw [ContextCall.apply, PageContext.isStarted, PageContext.finder?_shutDown] at started
    split at started
    · cases started
    · cases stopped.symm.trans started
  | module call =>
    rw [ContextCall.apply, isStarted_attends (attends_apply call i), stopped] at started
    cases started

private theorem isStarted_apply_of_shutsDown {call : ContextCall} (shut : call.ShutsDown c.number)
    (i : Interpreter) : c.isStarted (call.apply i) = false := by
  cases call with
  | shutDown d =>
    exact (PageContext.isStarted_congr (Eq.symm shut)).trans PageContext.isStarted_shutDown
  | _ => cases shut

/-- A context that is started was started at some moment at which it was not, and not shut down
since. -/
theorem exists_start (stopped : c.isStarted i = false) (calls : List ContextCall)
    (started : c.isStarted (i.after calls) = true) :
    ∃ before d during, calls = before ++ .start d :: during ∧ d.number = c.number ∧
      c.isStarted (i.after before) = false ∧ ∀ call ∈ during, ¬ call.ShutsDown c.number := by
  induction calls using List.reverseRecOn with
  | nil => cases stopped.symm.trans started
  | append_singleton calls call ih =>
    rw [after_snoc] at started
    cases already : c.isStarted (i.after calls) with
    | true =>
      obtain ⟨before, d, during, rfl, same, first, unbroken⟩ := ih already
      have kept : ¬ call.ShutsDown c.number := fun shut => by
        rw [isStarted_apply_of_shutsDown shut] at started
        cases started
      exact ⟨before, d, during ++ [call], by simp, same, first,
        List.forall_mem_append.2 ⟨unbroken, List.forall_mem_singleton.2 kept⟩⟩
    | false =>
      obtain ⟨d, rfl, same⟩ := eq_start_of_isStarted_apply already started
      exact ⟨calls, d, [], rfl, same, already, by simp⟩

/-- What is told of a context that is started: it was started at some moment, is open since, and when
it is shut down just the names leave the table that its finder has begun to load since that moment. -/
structure Opened (start : Interpreter) (calls : List ContextCall) (c : PageContext)
    (before during : List ContextCall) (d : PageContext) : Prop where
  split : calls = before ++ .start d :: during
  same : d.number = c.number
  first : c.isStarted (start.after before) = false
  unbroken : ∀ call ∈ during, ¬ call.ShutsDown c.number
  evicts : ∀ name, (start.after calls).Began c.number (start.after before).modules.next name →
    (c.shutDown (start.after calls)).modules.holds name = false
  spares : ∀ name, ¬ (start.after calls).Began c.number (start.after before).modules.next name →
    (c.shutDown (start.after calls)).modules.position? name =
      (start.after calls).modules.position? name

private theorem exists_opened (stopped : c.isStarted i = false) (calls : List ContextCall)
    (started : c.isStarted (i.after calls) = true) :
    ∃ before during d, Opened i calls c before during d := by
  obtain ⟨before, d, during, rfl, same, first, unbroken⟩ := exists_start stopped calls started
  have notes : Notes c (i.after before).modules.next (i.after (before ++ .start d :: during)) := by
    have whole : i.after (before ++ .start d :: during) = (d.start (i.after before)).after during := by
      simp [Interpreter.after, ContextCall.apply]
    rw [whole]
    exact (notes_start same first).after unbroken
  obtain ⟨f, held, noted⟩ := notes.noted
  refine ⟨before, during, d, rfl, same, first, unbroken, fun name began => ?_, fun name idle => ?_⟩
  · rw [ModuleTable.holds_eq_false_iff, PageContext.position?_shutDown held,
      if_pos ((noted name).2 began)]
  · rw [PageContext.position?_shutDown held, if_neg (mt (noted name).1 idle)]

end Interpreter

/-- Whatever contexts are started and shut down, repeatedly and in any order, and whatever is imported
between, with success or without: the row holds the finder of each context that is started once, and
none of one that is not, in front of what was in it from outside, and each call leaves the others
where they are. Starting a context that is started changes nothing, nor does shutting down one that
is not. And when a context that is started is shut down, those names leave the table, and no others,
of which its finder has begun to load a module since the start. -/
theorem PageContext.contexts_keep_row_and_table (installed : Installation) (outside : List String)
    (calls : List ContextCall) :
    let first := Interpreter.startWith installed outside
    let i := first.after calls
    (i.row = (i.held.map ActiveFinder.context).map .finder ++ outside.map .outside) ∧
    (∀ c : PageContext, i.row.count (.finder c.number) = if c.isStarted i = true then 1 else 0) ∧
    (∀ call : ContextCall,
      (call.apply i).row.filter call.spares = i.row.filter call.spares) ∧
    (∀ c : PageContext, c.isStarted (c.start i) = true ∧ c.isStarted (c.shutDown i) = false ∧
      (c.isStarted i = true → c.start i = i) ∧ (c.isStarted i = false → c.shutDown i = i)) ∧
    ∀ c : PageContext, c.isStarted i = true →
      ∃ before during d, Interpreter.Opened first calls c before during d := by
  intro first i
  have lined : i.Lined outside := (Interpreter.lined_startWith installed outside).after calls
  exact ⟨lined.row, lined.count_row, Interpreter.filter_row_apply i,
    fun c => ⟨isStarted_start, isStarted_shutDown, start_of_isStarted, shutDown_of_not_isStarted⟩,
    fun c started => Interpreter.exists_opened rfl calls started⟩

/-- A page that cannot be read is not imported, but its finder has noted it, and the package above it
is in the table until the context is shut down. -/
example :
    let stores : Stores := fun _ => ((Store.empty ⟨0, []⟩).put "generated.A" (some [])).2
    let c : PageContext := ⟨0, 0, "generated"⟩
    let i := (Interpreter.startWith [] ["installed"]).after
      [.start c, .start ⟨1, 1, "other"⟩, .module (.imported stores "generated.A")]
    (c.finder? i).map ActiveFinder.loaded = some ["generated", "generated.A"] ∧
      i.row = [.finder 1, .finder 0, .outside "installed"] ∧
      i.modules.holds "generated" = true ∧ i.modules.holds "generated.A" = false ∧
      (c.shutDown i).row = [.finder 1, .outside "installed"] ∧
      (c.shutDown i).modules.holds "generated" = false := by
  decide +kernel

end PagePress
