import PagePress.PageCompiler
import PagePress.Proofs.Activity.Steps

/-!
How a compilation can go. It is refused before a task is there, or its task breaks, fails or
succeeds; a task that succeeded is published or not. The five ways are the cases of one inversion,
from which everything about single compilations follows.
-/

set_option autoImplicit false

namespace PagePress.PageCompiler

def access (c : PageCompiler) : FileAccess := .virtual .standard c.reserved

def session (c : PageCompiler) (w : Workspace) : Workspace :=
  FileAccess.setLocation w.renew .classPath c.classpath

def task [Text.Encodings] (c : PageCompiler) (s : Service) (d : Disk) (name : String) :
    Except Failure (Activity Bool) :=
  match c.prepare s d name with
  | .error failure => .error failure
  | .ok (unit, options) => s.task d options [unit]

def succeeded : Except Failure CompilationResult → Bool
  | .ok result => result.success
  | .error _ => false

/-- The courses that a compilation can take, each with what it answers and leaves. -/
inductive Course [Text.Encodings] (c : PageCompiler) (s : Service) (name : String)
    (guide : Option LineGuide) (w : Workspace) : Except Failure CompilationResult × Workspace → Prop
  | refused {failure : Failure} {v : Workspace} (asked : c.task s w.disk name = .error failure)
      (kept : v.store = w.store) : Course c s name guide w (.error failure, v)
  | broken {activity : Activity Bool} {failure : Failure} {v : Workspace}
      (asked : c.task s w.disk name = .ok activity)
      (ran : activity.run c.access (c.session w) = (.error failure, v)) :
      Course c s name guide w (.error failure, v)
  | failed {activity : Activity Bool} {v : Workspace} {log : List LogLine}
      (asked : c.task s w.disk name = .ok activity)
      (ran : activity.run c.access (c.session w) = (.ok false, v)) :
      Course c s name guide w
        (.ok ⟨name, false, (Relocation.relocateAll guide c.includeNotes v.diagnostics).1⟩,
          { v with log })
  | withheld {activity : Activity Bool} {failure : Failure} {v u : Workspace}
      (asked : c.task s w.disk name = .ok activity)
      (ran : activity.run c.access (c.session w) = (.ok true, v))
      (committed : commit name v = (.error failure, u)) :
      Course c s name guide w (.error failure, u)
  | published {activity : Activity Bool} {v u : Workspace} {log : List LogLine}
      (asked : c.task s w.disk name = .ok activity)
      (ran : activity.run c.access (c.session w) = (.ok true, v))
      (committed : commit name v = (.ok (), u)) :
      Course c s name guide w (.ok ⟨name, true, []⟩, { u with log })

theorem ok_of_toOption {ε α : Type} {answer : Except ε α} {a : α}
    (h : answer.toOption = some a) : answer = .ok a := by
  cases answer with
  | error failure => cases h
  | ok b => cases h; rfl

theorem make_ok [Text.Encodings] {name source encoding : String} {u : SourceUnit}
    (h : SourceUnit.make name source encoding = .ok u) :
    u = ⟨name, source, encoding⟩ ∧ ∃ bytes, u.encoded = .ok bytes := by
  unfold SourceUnit.make at h
  cases encoded : SourceUnit.encodeAs name encoding source with
  | error e => rw [encoded] at h; cases h
  | ok bytes =>
    rw [encoded] at h
    cases h
    exact ⟨rfl, bytes, encoded⟩

theorem prepare_eq [Text.Encodings] {c : PageCompiler} {d : Disk} {name : String} {sink : Sink}
    (s : Service) (last : c.sinks.getLast? = some sink) :
    c.prepare s d name =
      if isUnitName name then
        (SourceUnit.encodeAs name sink.encoding sink.text).bind fun _ =>
          (checkClasspath d c.classpath).bind fun _ =>
            (s.validate d c.options.words).map fun options =>
              (⟨name, sink.text, sink.encoding⟩, options)
      else .error (.configuration (.unitName name)) := by
  unfold prepare
  rw [last]
  cases named : isUnitName name with
  | false => simp [throw, throwThe, MonadExceptOf.throw, bind, Except.bind]
  | true =>
    simp only [SourceUnit.make]
    cases SourceUnit.encodeAs name sink.encoding sink.text with
    | error e => rfl
    | ok bytes =>
      cases checkClasspath d c.classpath with
      | error e => rfl
      | ok found => cases s.validate d c.options.words <;> rfl

/-- What a compilation that is prepared has passed: what is compiled is the text of the last sink,
under the name that was given, and all the rest is in order. -/
theorem prepare_ok [Text.Encodings] {c : PageCompiler} {s : Service} {d : Disk} {name : String}
    {u : SourceUnit} {options : List String} (h : c.prepare s d name = .ok (u, options)) :
    ∃ sink, c.sinks.getLast? = some sink ∧ isUnitName name = true ∧
      SourceUnit.make name sink.text sink.encoding = .ok u ∧
      checkClasspath d c.classpath = .ok () ∧ s.validate d c.options.words = .ok options := by
  unfold prepare at h
  split at h
  · cases h
  · rename_i sink last
    refine ⟨sink, last, ?_⟩
    split at h
    · cases h
    · rename_i named
      cases made : SourceUnit.make name sink.text sink.encoding with
      | error e => rw [made] at h; cases h
      | ok unit =>
        rw [made] at h
        cases checked : checkClasspath d c.classpath with
        | error e => rw [checked] at h; cases h
        | ok done =>
          rw [checked] at h
          cases validated : s.validate d c.options.words with
          | error e => rw [validated] at h; cases h
          | ok words =>
            rw [validated] at h
            cases h
            exact ⟨by simpa using named, rfl, rfl, rfl⟩

theorem task_of_prepare [Text.Encodings] {c : PageCompiler} {s : Service} {d : Disk} {name : String}
    {u : SourceUnit} {options : List String} (h : c.prepare s d name = .ok (u, options)) :
    c.task s d name = s.task d options [u] := by
  rw [task, h]

theorem compile_course [Text.Encodings] (c : PageCompiler) (s : Service) (name : String)
    (guide : Option LineGuide) (w : Workspace) :
    Course c s name guide w (c.compile s name guide w) := by
  unfold compile
  cases prepared : c.prepare s w.disk name with
  | error failure => exact .refused (by rw [task, prepared]) rfl
  | ok pair =>
    obtain ⟨unit, options⟩ := pair
    obtain ⟨sink, -, -, made, -, -⟩ := prepare_ok prepared
    obtain ⟨rfl, -⟩ := make_ok made
    have asked := task_of_prepare prepared
    simp only [execute]
    rw [show (FileAccess.setLocation w.renew .classPath c.classpath).disk = w.disk from rfl,
      ← asked]
    cases task : c.task s w.disk name with
    | error failure => exact .refused task rfl
    | ok activity =>
      simp only
      rw [show FileAccess.setLocation w.renew .classPath c.classpath = c.session w from rfl,
        show FileAccess.virtual .standard c.reserved = c.access from rfl]
      cases ran : activity.run c.access (c.session w) with
      | mk answer v =>
        cases answer with
        | error failure => exact .broken task ran
        | ok succeeded =>
          cases succeeded with
          | false => exact .failed task ran
          | true =>
            simp only [conclude, if_true]
            cases committed : commit name v with
            | mk done u =>
              cases done with
              | error failure => exact .withheld task ran committed
              | ok done => exact .published task ran committed

theorem store_of_run {c : PageCompiler} {w : Workspace} {activity : Activity Bool}
    {answer : Except Failure Bool} {v : Workspace}
    (ran : activity.run c.access (c.session w) = (answer, v)) : v.store = w.store := by
  have steps := activity.run_steps c.access (c.session w)
  rw [ran] at steps
  exact steps.store_eq

theorem store_of_commit_error {name : String} {v u : Workspace} {failure : Failure}
    (h : commit name v = (.error failure, u)) : u.store = v.store := by
  unfold commit at h
  simp only at h
  split at h
  · cases h; rfl
  · split at h
    · cases h; rfl
    · unfold Store.putMany at h
      cases contents : Store.contents? (v.index.artifacts.map fun a => (a.name, a.content)) with
      | none => rw [contents] at h; cases h; rfl
      | some items => rw [contents] at h; cases h

private theorem contents?_of_sealed (artifacts : List Artifact)
    (all : ∀ a ∈ artifacts, a.isSealed = true) :
    ∃ items, Store.contents? (artifacts.map fun a => (a.name, a.content)) = some items ∧
      artifacts.map (fun a => (a.name, a.content)) =
        items.map fun item => (item.1, some item.2) := by
  induction artifacts with
  | nil => exact ⟨[], rfl, rfl⟩
  | cons a rest ih =>
    obtain ⟨content, readable⟩ := Option.isSome_iff_exists.1 (all a List.mem_cons_self)
    obtain ⟨items, held, same⟩ := ih fun b member => all b (List.mem_cons_of_mem a member)
    refine ⟨(a.name, content) :: items, ?_, ?_⟩
    · simp [Store.contents?, readable, held]
    · simp [readable, same]

/-- A commit that succeeds found all artifacts sealed, one of them named as the unit, and stored
their contents as one batch. -/
theorem commit_ok {name : String} {v u : Workspace} (h : commit name v = (.ok (), u)) :
    (∀ a ∈ v.index.artifacts, a.isSealed = true) ∧ (∃ a ∈ v.index.artifacts, a.name = name) ∧
      ∃ items : List (String × Bytes),
        v.index.artifacts.map (fun a => (a.name, a.content)) =
          items.map (fun item => (item.1, some item.2)) ∧
        u.store = (v.store.insertAll items).2 ∧ u.index = v.index ∧ u.disk = v.disk ∧
        u.diagnostics = v.diagnostics := by
  unfold commit at h
  simp only at h
  split at h
  · cases h
  · rename_i present
    split at h
    · cases h
    · rename_i unsealed
      have all : ∀ a ∈ v.index.artifacts, a.isSealed = true := by
        simpa using unsealed
      obtain ⟨items, held, same⟩ := contents?_of_sealed v.index.artifacts all
      refine ⟨all, by simpa using present, items, same, ?_⟩
      rw [Store.putMany, held] at h
      cases h
      exact ⟨rfl, rfl, rfl, rfl⟩

end PagePress.PageCompiler
