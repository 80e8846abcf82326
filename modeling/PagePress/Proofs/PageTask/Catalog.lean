import PagePress.Proofs.Store.Consistency
import PagePress.Service.PageTask

/-!
What a task sees of the modules that a unit imports. It depends on the disk, the classpath and the
store alone. Inside the namespace it depends on the store: a module can be imported when nothing is
stored in its package, or when the module or something below it is.
-/

set_option autoImplicit false

namespace PagePress

structure Catalog where
  reserved : String
  classpath : List Path
  disk : Disk
  store : Store

namespace Catalog

def ofWorkspace (reserved : String) (w : Workspace) : Catalog :=
  ⟨reserved, w.locations.classPath, w.disk, w.store⟩

def names (k : Catalog) (package : String) : Except Failure (List String) :=
  if Name.isWithin package k.reserved then
    .ok ((k.store.list package true).filter fun name => k.store.contains name && name != "")
  else
    match DiskFile.list k.disk k.classpath package [.source, .compiled] true with
    | .ok files => .ok ((files.map DiskFile.binaryName).filter (· != ""))
    | .error error => .error (.disk error)

def sees (k : Catalog) (module : String) : Except Failure Bool :=
  if Name.packageOf module = "" then .ok true
  else (k.names (Name.packageOf module)).map fun names => PageTask.shows names module

/-- The requests that are not met, up to the first that cannot be looked up, and whether all were
looked up. -/
def check (k : Catalog) : List ImportRequest → List ImportRequest × Except Failure Unit
  | [] => ([], .ok ())
  | r :: rest =>
    match k.sees r.module with
    | .error failure => ([], .error failure)
    | .ok true => k.check rest
    | .ok false => (r :: (k.check rest).1, (k.check rest).2)

/-- The requests that are looked up: those before the first whose package cannot be listed. -/
def lookedUp (k : Catalog) : List ImportRequest → List ImportRequest
  | [] => []
  | r :: rest =>
    match k.sees r.module with
    | .error _ => []
    | .ok _ => r :: k.lookedUp rest

/-- The requests that are not met are those that are looked up and not seen. -/
theorem mem_check (k : Catalog) (requests : List ImportRequest) (r : ImportRequest) :
    r ∈ (k.check requests).1 ↔ r ∈ k.lookedUp requests ∧ k.sees r.module = .ok false := by
  induction requests with
  | nil => simp [check, lookedUp]
  | cons first rest ih =>
    cases seen : k.sees first.module with
    | error failure => simp [check, lookedUp, seen]
    | ok visible =>
      have apart : visible = true → r = first → k.sees r.module ≠ .ok false := by
        rintro rfl rfl
        simp [seen]
      cases visible with
      | true =>
        simp only [check, lookedUp, seen, List.mem_cons, ih]
        constructor
        · rintro ⟨later, unseen⟩
          exact ⟨.inr later, unseen⟩
        · rintro ⟨same | later, unseen⟩
          · exact absurd unseen (apart rfl same)
          · exact ⟨later, unseen⟩
      | false =>
        simp only [check, lookedUp, seen, List.mem_cons, ih]
        constructor
        · rintro (rfl | ⟨later, unseen⟩)
          · exact ⟨.inl rfl, seen⟩
          · exact ⟨.inr later, unseen⟩
        · rintro ⟨same | later, unseen⟩
          · exact .inl same
          · exact .inr ⟨later, unseen⟩

theorem check_ended_iff (k : Catalog) (requests : List ImportRequest) :
    (k.check requests).2 = .ok () ↔ ∀ r ∈ requests, ∃ visible, k.sees r.module = .ok visible := by
  induction requests with
  | nil => simp [check]
  | cons first rest ih =>
    cases seen : k.sees first.module with
    | error failure => simp [check, seen]
    | ok visible => cases visible <;> simp [check, seen, ih]

theorem lookedUp_of_ended {k : Catalog} {requests : List ImportRequest}
    (h : (k.check requests).2 = .ok ()) : k.lookedUp requests = requests := by
  rw [check_ended_iff] at h
  induction requests with
  | nil => rfl
  | cons first rest ih =>
    obtain ⟨visible, seen⟩ := h first List.mem_cons_self
    rw [lookedUp, seen]
    simp only
    rw [ih fun r member => h r (List.mem_cons_of_mem _ member)]

private theorem mem_names {k : Catalog} (consistent : k.store.Consistent) {package : String}
    (named : package ≠ "") (inside : Name.isWithin package k.reserved = true) :
    ∃ names, k.names package = .ok names ∧ ∀ name,
      name ∈ names ↔ k.store.contains name = true ∧ Name.isBelow name package = true := by
  refine ⟨_, by rw [names, if_pos inside], ?_⟩
  intro name
  rw [List.mem_filter, consistent.mem_list named]
  constructor
  · rintro ⟨held, -⟩
    exact held
  · rintro ⟨stored, below⟩
    have filled : name ≠ "" := by
      rintro rfl
      exact absurd (Name.length_lt_of_isBelow below) (by simp)
    exact ⟨⟨stored, below⟩, by simp [stored, filled]⟩

/-- Whether a module of the namespace can be imported: nothing is stored in its package, or the
module or something below it is. -/
theorem sees_inside {k : Catalog} (consistent : k.store.Consistent) {module : String}
    (packaged : Name.packageOf module ≠ "")
    (inside : Name.isWithin (Name.packageOf module) k.reserved = true) :
    ∃ visible, k.sees module = .ok visible ∧ (visible = true ↔
      (∀ stored, k.store.contains stored = true →
        Name.isBelow stored (Name.packageOf module) = false) ∨
      ∃ stored, k.store.contains stored = true ∧ Name.isWithin stored module = true) := by
  obtain ⟨names, listed, held⟩ := mem_names consistent packaged inside
  refine ⟨PageTask.shows names module, by rw [sees, if_neg packaged, listed]; rfl, ?_⟩
  rw [PageTask.shows, Bool.or_eq_true, List.isEmpty_iff, List.any_eq_true]
  apply or_congr
  · rw [List.eq_nil_iff_forall_not_mem]
    constructor
    · intro none stored here
      rw [← Bool.not_eq_true]
      intro below
      exact none stored ((held stored).2 ⟨here, below⟩)
    · intro none name member
      obtain ⟨here, below⟩ := (held name).1 member
      rw [none name here] at below
      cases below
  · constructor
    · rintro ⟨name, member, within⟩
      exact ⟨name, ((held name).1 member).1, within⟩
    · rintro ⟨name, here, within⟩
      have below := Name.isBelow_of_isWithin within (Name.isBelow_package packaged)
      exact ⟨name, (held name).2 ⟨here, below⟩, within⟩

theorem sees_outside (k : Catalog) (store : Store) {module : String}
    (outside : Name.packageOf module = "" ∨
      Name.isWithin (Name.packageOf module) k.reserved = false) :
    ({ k with store } : Catalog).sees module = k.sees module := by
  unfold sees
  rcases outside with top | apart
  · rw [if_pos top, if_pos top]
  · simp only [names, apart, Bool.false_eq_true, if_false]

end Catalog

end PagePress
