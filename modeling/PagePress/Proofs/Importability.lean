import Mathlib.Data.List.Induction
import PagePress.Proofs.LastCompiled
import PagePress.Proofs.Modules.Descent

/-!
Importing stored pages while a context is started. A page is imported unless the nearest module
above it that was imported already is closed to others. Whether a module is a package is settled when
it is imported, by what is stored below it in that moment; so a module of the namespace is closed if
it was imported too early, and stays closed whatever is stored below it later.
-/

set_option autoImplicit false

namespace PagePress

/-- What happens to stores and an interpreter: something is stored, or a module is imported. -/
inductive PageEvent
  | put (store : Nat) (name : String) (payload : Payload)
  | putMany (store : Nat) (items : List (String × Payload))
  | imported (name : String)

structure Scene where
  stores : Stores
  interpreter : Interpreter

namespace Scene

open Interpreter (OpensAt)

def edit (s : Scene) (store : Nat) (change : Store → Store) : Scene :=
  { s with stores := fun number =>
      if number = store then change (s.stores number) else s.stores number }

def step (s : Scene) : PageEvent → Scene
  | .put store name payload => s.edit store fun t => (t.put name payload).2
  | .putMany store items => s.edit store fun t => (t.putMany items).2
  | .imported name =>
    { s with interpreter := (Interpreter.importModule s.stores name s.interpreter).2 }

def run (s : Scene) (events : List PageEvent) : Scene := events.foldl step s

def started (s : Scene) (k : PageContext) : Scene :=
  { s with interpreter := k.start s.interpreter }

def Holds (s : Scene) (name : String) : Prop := s.interpreter.modules.holds name = true

/-- A module was imported before the events, or one of them imported it while nothing was stored
below it. -/
def CameEarly (s : Scene) (k : PageContext) (events : List PageEvent) (name : String) : Prop :=
  s.Holds name ∨ ∃ before other rest, events = before ++ .imported other :: rest ∧
    ¬ (s.run before).Holds name ∧ ((s.run before).step (.imported other)).Holds name ∧
    Finder.holdsBelow ((s.run before).stores k.store) name = false

variable {s : Scene} {k : PageContext}

private theorem asksFirst_started (stopped : k.isStarted s.interpreter = false) :
    (s.started k).interpreter.AsksFirst k := by
  simp [started, PageContext.start, stopped, Interpreter.AsksFirst, ActiveFinder.owner,
    Interpreter.finders, Interpreter.finderOf?]

private theorem asksFirst_step (first : s.interpreter.AsksFirst k) (e : PageEvent) :
    (s.step e).interpreter.AsksFirst k := by
  cases e with
  | put store name payload => exact first
  | putMany store items => exact first
  | imported name => exact (Interpreter.grows_importModule s.stores name _).asksFirst first

private theorem asksFirst_run (first : s.interpreter.AsksFirst k) (events : List PageEvent) :
    (s.run events).interpreter.AsksFirst k := by
  induction events generalizing s with
  | nil => exact first
  | cons e rest ih => exact ih (asksFirst_step first e)

private theorem reachable_step {store : Nat} (reachable : (s.stores store).Reachable)
    (e : PageEvent) :
    ((s.step e).stores store).Reachable := by
  cases e with
  | put number name payload =>
    simp only [step, edit]
    split
    · exact .put name payload reachable
    · exact reachable
  | putMany number items =>
    simp only [step, edit]
    split
    · exact .putMany items reachable
    · exact reachable
  | imported name => exact reachable

private theorem reachable_run {store : Nat} (reachable : (s.stores store).Reachable)
    (events : List PageEvent) : ((s.run events).stores store).Reachable := by
  induction events generalizing s with
  | nil => exact reachable
  | cons e rest ih => exact ih (reachable_step reachable e)

private theorem run_append_single (s : Scene) (events : List PageEvent) (e : PageEvent) :
    s.run (events ++ [e]) = (s.run events).step e := by
  simp [run]

private theorem CameEarly.later {events : List PageEvent} {name : String}
    (early : s.CameEarly k events name) (e : PageEvent) : s.CameEarly k (events ++ [e]) name := by
  rcases early with before | ⟨before, other, rest, split, missing, came, empty⟩
  · exact .inl before
  · exact .inr ⟨before, other, rest ++ [e], by simp [split], missing, came, empty⟩

private theorem isPackage_or_cameEarly (first : s.interpreter.AsksFirst k) {name : String}
    (within : Name.isWithin name k.reserved = true) (events : List PageEvent) {position : Nat}
    (there : (s.run events).interpreter.modules.position? name = some position) :
    (s.run events).interpreter.IsPackage position ∨ s.CameEarly k events name := by
  -- only the last event can have brought the module in; else it is what it was before
  induction events using List.reverseRecOn generalizing position with
  | nil =>
    right; left
    exact ModuleTable.holds_iff.2 ⟨position, there⟩
  | append_singleton events e ih =>
    rw [run_append_single] at there ⊢
    cases e with
    | put store other payload | putMany store items =>
      exact (ih there).imp_right fun early => early.later _
    | imported other =>
      have grown := Interpreter.grows_importModule (s.run events).stores other
        (s.run events).interpreter
      cases before : (s.run events).interpreter.modules.position? name with
      | some earlier =>
        obtain rfl : earlier = position :=
          Option.some.inj ((grown.positions name earlier before).symm.trans there)
        exact (ih before).imp (fun package => grown.isPackage package) fun early => early.later _
      | none =>
        rcases grown.added name position there with held | package | plain
        · rw [before] at held
          cases held
        · exact .inl package
        · refine .inr (.inr ⟨events, other, [], rfl, ?_, ?_,
            plain.holdsBelow_eq_false (asksFirst_run first events) within⟩)
          · rw [Holds, ModuleTable.holds_eq_false_iff.2 before]
            exact Bool.false_ne_true
          · exact ModuleTable.holds_iff.2 ⟨position, there⟩

end Scene

end PagePress
