import Mathlib.Tactic.ByContra
import Mathlib.Tactic.SplitIfs
import PagePress.Proofs.Modules.Growth

/-!
What imports do to the row and to the finders. The row stays as it is. Every module tells which
finder it was made by, so what a finder has noted can be compared with what it did: a finder notes
the names of the modules that it begins to load, whether or not they come to an end, and no others.
-/

set_option autoImplicit false

namespace PagePress

namespace ModuleTable

private theorem found?_eq_none {t : ModuleTable} {position : Nat} (beyond : t.next ≤ position) :
    t.found? position = none := by
  simp [found?, List.getElem?_eq_none (show t.made.length ≤ position from beyond)]

private theorem found?_make (t : ModuleTable) (m : MadeModule) (position : Nat) :
    (t.make m).found? position = if position = t.next then m.found else t.found? position := by
  rcases Nat.lt_trichotomy position t.next with before | rfl | behind
  · have within : position < t.made.length := before
    rw [if_neg (by omega)]
    simp [found?, make, List.getElem?_append_left within]
  · simp [found?, make, next]
  · have apart : position ≠ t.next := by omega
    have beyond : (t.make m).next ≤ position := by
      simp only [make, next, List.length_append, List.length_singleton] at behind ⊢
      omega
    rw [if_neg apart, found?_eq_none beyond, found?_eq_none (Nat.le_of_lt behind)]

@[simp] theorem next_make (t : ModuleTable) (m : MadeModule) : (t.make m).next = t.next + 1 := by
  simp [next, make]

private theorem found?_modify (t : ModuleTable) (position other : Nat) {f : MadeModule → MadeModule}
    (keeps : ∀ m, (f m).found = m.found) : (t.modify position f).found? other = t.found? other := by
  simp only [found?, modify, List.getElem?_modify]
  cases t.made[other]? with
  | none => simp
  | some m => by_cases here : position = other <;> simp [here, keeps]

@[simp] theorem next_modify (t : ModuleTable) (position : Nat) (f : MadeModule → MadeModule) :
    (t.modify position f).next = t.next := by
  simp [next, modify]

end ModuleTable

private theorem Finder.name_of_find {s : Store} {reserved name : String} {provided : Bool}
    {finding : Finding} (found : find s reserved name provided = some finding) :
    finding.name = name := by
  unfold find at found
  split_ifs at found <;> cases found <;> rfl

namespace ActiveFinder

theorem mem_loaded_note (f : ActiveFinder) (context : Nat) (noted name : String) :
    name ∈ (f.note context noted).loaded ↔ name ∈ f.loaded ∨ f.context = context ∧ name = noted := by
  unfold note
  split
  · rename_i new
    simp only [Bool.and_eq_true, decide_eq_true_eq] at new
    simp [new.1]
  · rename_i old
    have known : f.context = context → noted ∈ f.loaded := by simpa using old
    constructor
    · exact .inl
    · rintro (there | ⟨here, rfl⟩)
      · exact there
      · exact known here

end ActiveFinder

/-- What is done with an interpreter beside the start and the shutdown of contexts: a context is made, a
module is imported, or a stored one is run outside the table. -/
inductive ModuleCall
  | made (store : Nat) (reserved : String)
  | imported (stores : Stores) (name : String)
  | loaded (c : PageContext) (stores : Stores) (name : String)

def ModuleCall.apply (i : Interpreter) : ModuleCall → Interpreter
  | .made store reserved => (PageContext.make store reserved i).2
  | .imported stores name => (i.importModule stores name).2
  | .loaded c stores name => (c.loadModule stores name i).2

namespace Interpreter

/-- The finder of a context has begun to load a name, in a module made since then. -/
def Began (i : Interpreter) (context since : Nat) (name : String) : Prop :=
  ∃ position finding, since ≤ position ∧ i.modules.found? position = some (context, finding) ∧
    finding.name = name

/-- The row stays, and the finder of each context notes the names that it begins to load. -/
structure Attends (i j : Interpreter) : Prop where
  row : j.row = i.row
  owners : j.held.map ActiveFinder.owner = i.held.map ActiveFinder.owner
  grown : i.modules.next ≤ j.modules.next
  found : ∀ position < i.modules.next, j.modules.found? position = i.modules.found? position
  noted : ∀ (c : PageContext) f, c.finder? i = some f → ∃ g, c.finder? j = some g ∧
    ∀ name, name ∈ g.loaded ↔ name ∈ f.loaded ∨ j.Began c.number i.modules.next name

namespace Attends

variable {i j k : Interpreter}

/-- What was begun since some moment was begun before a later one, or since that. -/
theorem began_iff (h : i.Attends j) {context since : Nat} (earlier : since ≤ i.modules.next)
    (name : String) :
    j.Began context since name ↔
      i.Began context since name ∨ j.Began context i.modules.next name := by
  constructor
  · rintro ⟨position, finding, late, found, named⟩
    by_cases old : position < i.modules.next
    · exact .inl ⟨position, finding, late, (h.found position old).symm.trans found, named⟩
    · exact .inr ⟨position, finding, by omega, found, named⟩
  · rintro (⟨position, finding, late, found, named⟩ | ⟨position, finding, late, found, named⟩)
    · have old : position < i.modules.next := by
        by_contra beyond
        rw [ModuleTable.found?_eq_none (by omega)] at found
        cases found
      exact ⟨position, finding, late, (h.found position old).trans found, named⟩
    · exact ⟨position, finding, by omega, found, named⟩

theorem not_began_next (i : Interpreter) (context : Nat) (name : String) :
    ¬ i.Began context i.modules.next name := by
  rintro ⟨position, finding, late, found, -⟩
  rw [ModuleTable.found?_eq_none late] at found
  cases found

private theorem of_same (row : j.row = i.row) (held : j.held = i.held)
    (grown : i.modules.next ≤ j.modules.next)
    (found : ∀ position < i.modules.next, j.modules.found? position = i.modules.found? position)
    (new : ∀ position, i.modules.next ≤ position → j.modules.found? position = none) :
    i.Attends j where
  row := row
  owners := by rw [held]
  grown := grown
  found := found
  noted c f here := by
    refine ⟨f, by rw [PageContext.finder?, held]; exact here, fun name => ?_⟩
    constructor
    · exact .inl
    · rintro (old | ⟨position, finding, late, found, -⟩)
      · exact old
      · rw [new position late] at found
        cases found

private theorem refl (i : Interpreter) : i.Attends i :=
  of_same rfl rfl (Nat.le_refl _) (fun _ _ => rfl) fun _ late => ModuleTable.found?_eq_none late

private theorem trans (first : i.Attends j) (second : j.Attends k) : i.Attends k where
  row := second.row.trans first.row
  owners := second.owners.trans first.owners
  grown := Nat.le_trans first.grown second.grown
  found position old := (second.found position (by have := first.grown; omega)).trans
    (first.found position old)
  noted c f here := by
    obtain ⟨g, there, notes⟩ := first.noted c f here
    obtain ⟨l, further, more⟩ := second.noted c g there
    refine ⟨l, further, fun name => ?_⟩
    rw [more, notes, second.began_iff first.grown, or_assoc]

private theorem of_modules (t : ModuleTable) (next : t.next = i.modules.next)
    (found : ∀ position, t.found? position = i.modules.found? position) :
    i.Attends { i with modules := t } :=
  of_same rfl rfl (Nat.le_of_eq next.symm) (fun position _ => found position) fun position late =>
    (found position).trans (ModuleTable.found?_eq_none late)

private theorem set (i : Interpreter) (position : Nat) (name : String) (value : Value) :
    i.Attends (i.set position name value) :=
  of_modules _ (ModuleTable.next_modify ..) fun other =>
    ModuleTable.found?_modify _ _ other fun _ => rfl

private theorem forgotten (h : i.Attends j) (name : String) :
    i.Attends (j.mapModules fun t => t.forget name) :=
  h.trans (of_modules _ rfl fun _ => rfl)

private theorem made (i : Interpreter) (contents : Variables) :
    i.Attends (i.mapModules fun t => t.make ⟨contents, none, false⟩) := by
  refine of_same rfl rfl (by simp [mapModules]) (fun position old => ?_) fun position late => ?_
  · rw [mapModules, ModuleTable.found?_make, if_neg (Nat.ne_of_lt old)]
  · rw [mapModules, ModuleTable.found?_make]
    split
    · rfl
    · exact ModuleTable.found?_eq_none late

end Attends

private theorem name_of_findIn {stores : Stores} {name : String} {provided : Except Failure Bool}
    {fs : List ActiveFinder} {f : ActiveFinder} {finding : Finding}
    (found : findIn stores name provided fs = .ok (some (.found f finding))) :
    finding.name = name := by
  induction fs with
  | nil => cases found
  | cons first rest ih =>
    simp only [findIn] at found
    split at found
    · cases found
    · split at found
      · rename_i answer
        cases found
        exact Finder.name_of_find answer
      · exact ih found

private theorem next_begun (source : ModuleSource) (name : String) (i : Interpreter) :
    (begun source name i).modules.next = i.modules.next + 1 := by
  rw [modules_begun]
  exact ModuleTable.next_make _ _

private theorem found?_begun (source : ModuleSource) (name : String) (i : Interpreter)
    (position : Nat) :
    (begun source name i).modules.found? position =
      if position = i.modules.next then source.found? else i.modules.found? position := by
  rw [modules_begun]
  exact ModuleTable.found?_make _ _ _

theorem finder?_noteLoaded (c : PageContext) (i : Interpreter) (context : Nat) (name : String) :
    c.finder? (i.noteLoaded context name) = (c.finder? i).map fun f => f.note context name := by
  simp only [PageContext.finder?, noteLoaded, List.find?_map, Function.comp_def,
    ActiveFinder.context_note]

theorem context_of_finder? {c : PageContext} {i : Interpreter} {f : ActiveFinder}
    (held : c.finder? i = some f) : f.context = c.number := by
  simpa using List.find?_some held

private theorem attends_begun {stores : Stores} {search : SearchPath} {name : String}
    {i : Interpreter} {source : ModuleSource}
    (located : i.locate stores search name = .ok (some source)) :
    i.Attends (begun source name i) := by
  have grown : i.modules.next ≤ (begun source name i).modules.next := by
    rw [next_begun]
    exact Nat.le_succ _
  have old (position : Nat) (before : position < i.modules.next) :
      (begun source name i).modules.found? position = i.modules.found? position := by
    rw [found?_begun, if_neg (Nat.ne_of_lt before)]
  cases source with
  | installed m =>
    refine .of_same rfl rfl grown old fun position late => ?_
    rw [found?_begun]
    split
    · rfl
    · exact ModuleTable.found?_eq_none late
  | found f finding =>
    have named : finding.name = name := name_of_findIn (locate_found located)
    have began (context : Nat) (other : String) :
        (begun (.found f finding) name i).Began context i.modules.next other ↔
          context = f.context ∧ other = name := by
      constructor
      · rintro ⟨position, answer, late, found, rfl⟩
        rw [found?_begun] at found
        split at found
        · cases found
          exact ⟨rfl, named⟩
        · rw [ModuleTable.found?_eq_none late] at found
          cases found
      · rintro ⟨rfl, rfl⟩
        refine ⟨i.modules.next, finding, Nat.le_refl _, ?_, named⟩
        rw [found?_begun, if_pos rfl]
        rfl
    refine ⟨rfl, ?_, grown, old, fun c g here => ⟨g.note f.context name, ?_, fun other => ?_⟩⟩
    · show (i.held.map fun g => g.note f.context name).map ActiveFinder.owner = _
      rw [List.map_map]
      exact List.map_congr_left fun g _ => ActiveFinder.owner_note g f.context name
    · have noted : c.finder? (begun (.found f finding) name i) =
          (c.finder? i).map fun g => g.note f.context name := finder?_noteLoaded c i f.context name
      rw [noted, here]
      rfl
    · rw [ActiveFinder.mem_loaded_note, began, context_of_finder? here]

private theorem lastsOverLoads_attends (stores : Stores) : LastsOverLoads stores Attends where
  refl := .refl
  trans := .trans
  set := .set
  begun located _ := attends_begun located
  finished _ _ := .of_modules _ (ModuleTable.next_modify ..) fun other =>
    ModuleTable.found?_modify _ _ other fun _ => rfl
  forgotten h _ := h.forgotten _

theorem attends_apply (call : ModuleCall) (i : Interpreter) : i.Attends (call.apply i) := by
  cases call with
  | made store reserved =>
    simp only [ModuleCall.apply, PageContext.make]
    split
    · exact .refl i
    · exact .of_same rfl rfl (Nat.le_refl _) (fun _ _ => rfl) fun _ late =>
        ModuleTable.found?_eq_none late
  | imported stores name => exact (lastsOverLoads_attends stores).importModule name i
  | loaded c stores name =>
    exact (lastsOverLoads_attends stores).loadAlone Attends.made c.store name i

end Interpreter

end PagePress
