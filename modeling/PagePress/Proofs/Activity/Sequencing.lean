import PagePress.Service.Activity

/-!
How runs are put together. A run of one activity after the other is the run of the second on what
the first left, or ends where the first broke. From this the runs of the small activities that
services are made of are computed once and for all.
-/

set_option autoImplicit false

namespace PagePress.Activity

variable {α β : Type}

/-- Goes on after a run: with its result on what it left, unless it broke. -/
def goOn (next : α → Workspace → Except Failure β × Workspace) :
    Except Failure α × Workspace → Except Failure β × Workspace
  | (.ok result, w) => next result w
  | (.error failure, w) => (.error failure, w)

@[simp] theorem goOn_ok (next : α → Workspace → Except Failure β × Workspace) (result : α)
    (w : Workspace) : goOn next (.ok result, w) = next result w := rfl

@[simp] theorem goOn_error (next : α → Workspace → Except Failure β × Workspace) (failure : Failure)
    (w : Workspace) :
    goOn next (.error failure, w) = (.error failure, w) := rfl

theorem run_andThen (m : FileAccess) (a : Activity α) (f : α → Activity β) (w : Workspace) :
    (a.andThen f).run m w = goOn (fun result => (f result).run m) (a.run m w) := by
  induction a generalizing w with
  | done result => rfl
  | fail failure => rfl
  | setLocation location paths next ih => exact ih _
  | list location package kinds recurse next ih => exact ih _ w
  | binaryName object next ih => exact ih _ w
  | output location name kind next ih => exact ih _ _
  | openStream object next ih => exact ih _ _
  | write stream payload next ih => exact ih _ _
  | finish stream next ih => exact ih _ _
  | read object next ih => exact ih _ w
  | report diagnostic next ih => exact ih _
  | note names next ih => exact ih _
  | tell line next ih => exact ih _
  | time next ih => exact ih _ _
  | flush next ih => exact ih _

@[simp] theorem run_done (m : FileAccess) (result : α) (w : Workspace) :
    (Activity.done result).run m w = (.ok result, w) := rfl

@[simp] theorem run_fail (m : FileAccess) (failure : Failure) (w : Workspace) :
    (Activity.fail failure : Activity α).run m w = (.error failure, w) := rfl

@[simp] theorem run_ofAnswer (m : FileAccess) (answer : Except Failure α) (w : Workspace) :
    (ofAnswer answer).run m w = (answer, w) := by
  cases answer <;> rfl

@[simp] theorem run_flush (m : FileAccess) (next : Activity α) (w : Workspace) :
    (Activity.flush next).run m w = next.run m w := by
  rw [run, FileAccess.flush_eq]

theorem run_binaryNames (m : FileAccess) (objects : List FileObject) (w : Workspace) :
    (binaryNames objects).run m w = (.ok (objects.map (m.binaryName w)), w) := by
  induction objects with
  | nil => rfl
  | cons object rest ih =>
    show ((binaryNames rest).andThen fun names => .done (m.binaryName w object :: names)).run m w =
      _
    rw [run_andThen, ih]
    rfl

section Writing

variable {m : FileAccess} {w v : Workspace}

theorem ok_of_map {γ δ : Type} {f : γ → δ} {answer : Except Failure γ} {result : δ}
    (mapped : answer.map f = .ok result) : ∃ a, answer = .ok a ∧ result = f a := by
  cases answer with
  | error failure => cases mapped
  | ok a => exact ⟨a, rfl, (Except.ok.inj mapped).symm⟩

/-- What is done to an artifact in memory is done to an artifact that is there, and to it alone. -/
theorem onArtifact_eq_ok {γ : Type} {position : Nat}
    {act : Artifact → Except Failure (γ × Artifact)} {answer : γ}
    (done : FileAccess.onArtifact w position act = (.ok answer, v)) :
    ∃ a b, w.index.get? position = some a ∧ act a = .ok (answer, b) ∧
      v = { w with index := w.index.update position b } := by
  rcases FileAccess.onArtifact_cases w position act with
    ⟨failure, broke⟩ | ⟨a, b, answer', found, acted, went⟩
  · rw [broke] at done
    cases done
  · rw [went] at done
    cases done
    exact ⟨a, b, found, acted, rfl⟩

private theorem exists_chunk {stream : Stream} {piece : Payload} {count : Nat}
    (wrote : FileAccess.writeStream w stream piece = (.ok count, v)) :
    ∃ chunk, piece = some chunk := by
  cases piece with
  | some chunk => exact ⟨chunk, rfl⟩
  | none =>
    cases stream with
    | file path => cases wrote
    | artifact position =>
      obtain ⟨a, b, -, written, -⟩ := onArtifact_eq_ok wrote
      simp only [Artifact.write] at written
      split at written <;> cases written

theorem run_writeAll_cons_ok {stream : Stream} {piece : Payload} {rest : List Payload}
    (wrote : (writeAll stream (piece :: rest)).run m w = (.ok (), v)) :
    ∃ count u, FileAccess.writeStream w stream piece = (.ok count, u) ∧
      (writeAll stream rest).run m u = (.ok (), v) := by
  rw [writeAll, run] at wrote
  rcases once : FileAccess.writeStream w stream piece with ⟨_ | count, u⟩
  · simp only [once] at wrote
    rw [run_andThen, run_ofAnswer, goOn_error] at wrote
    cases wrote
  · simp only [once] at wrote
    rw [run_andThen, run_ofAnswer, goOn_ok] at wrote
    exact ⟨count, u, rfl, wrote⟩

theorem exists_chunks {stream : Stream} {payload : List Payload}
    (wrote : (writeAll stream payload).run m w = (.ok (), v)) :
    ∃ chunks : List Bytes, payload = chunks.map some := by
  induction payload generalizing w with
  | nil => exact ⟨[], rfl⟩
  | cons piece rest ih =>
    obtain ⟨count, u, once, others⟩ := run_writeAll_cons_ok wrote
    obtain ⟨chunk, rfl⟩ := exists_chunk once
    obtain ⟨chunks, rfl⟩ := ih others
    exact ⟨chunk :: chunks, rfl⟩

/-- A write that returns has opened a stream, written the payload to it and ended it. -/
theorem run_writeArtifact_ok {object result : FileObject} {payload : List Payload}
    (wrote : (writeArtifact object payload).run m w = (.ok result, v)) :
    result = object ∧ ∃ stream u x, m.openStream w object = (.ok stream, u) ∧
      (writeAll stream payload).run m u = (.ok (), x) ∧
      FileAccess.endStream x stream = (.ok (), v) := by
  rw [writeArtifact, run] at wrote
  rcases opened : m.openStream w object with ⟨_ | stream, u⟩
  · simp only [opened] at wrote
    rw [run_andThen, run_ofAnswer, goOn_error] at wrote
    cases wrote
  · simp only [opened] at wrote
    rw [run_andThen, run_ofAnswer, goOn_ok, run_andThen] at wrote
    rcases all : (writeAll stream payload).run m u with ⟨_ | _, x⟩
    · rw [all, goOn_error] at wrote
      cases wrote
    · rw [all, goOn_ok, run] at wrote
      rcases ended : FileAccess.endStream x stream with ⟨_ | _, y⟩
      · simp only [ended] at wrote
        rw [run_andThen, run_ofAnswer, goOn_error] at wrote
        cases wrote
      · simp only [ended] at wrote
        rw [run_andThen, run_ofAnswer, goOn_ok, run_done] at wrote
        cases wrote
        exact ⟨rfl, stream, u, x, rfl, all, ended⟩

end Writing

private theorem onArtifact_ok {γ : Type} {w : Workspace} {position : Nat} {a b : Artifact}
    {act : Artifact → Except Failure (γ × Artifact)} {answer : γ}
    (found : w.index.get? position = some a) (acted : act a = .ok (answer, b)) :
    FileAccess.onArtifact w position act =
      (.ok answer, { w with index := w.index.update position b }) := by
  simp only [FileAccess.onArtifact, found, acted]

theorem run_writeArtifact (delegate : FileAccess) (reserved : String) (w : Workspace)
    (position : Nat) (name uri : String) (kind : Kind) (content : Bytes) (filled : content ≠ [])
    (found : w.index.get? position = some ⟨name, kind, uri, none, none⟩) :
    (writeArtifact (.produced position) [some content]).run (.virtual delegate reserved) w =
      (.ok (.produced position), { w with
        index := w.index.update position ⟨name, kind, uri, some content, some ⟨[], true⟩⟩ }) := by
  let opened : Artifact := ⟨name, kind, uri, none, some ⟨[], false⟩⟩
  let written : Artifact := ⟨name, kind, uri, none, some ⟨content, false⟩⟩
  let closed : Artifact := ⟨name, kind, uri, some content, some ⟨[], true⟩⟩
  let v : Workspace := { w with index := w.index.update position opened }
  let u : Workspace := { w with index := w.index.update position written }
  have opens : (FileAccess.virtual delegate reserved).openStream w (.produced position) =
      (.ok (.artifact position), v) := onArtifact_ok found rfl
  have writes : FileAccess.writeStream v (.artifact position) (some content) =
      (.ok content.length, u) := by
    have held : v.index.get? position = some opened := PackageIndex.get?_update found _
    have once : (v.index.update position written) = u.index :=
      PackageIndex.update_update _ _ _ _
    have done : opened.write (some content) = .ok (content.length, written) := by
      simp [Artifact.write, Artifact.writerOrNew, opened, written]
    rw [FileAccess.writeStream, onArtifact_ok held done, once]
  have ends : FileAccess.endStream u (.artifact position) =
      (.ok (), { w with index := w.index.update position closed }) := by
    have held : u.index.get? position = some written := PackageIndex.get?_update found _
    have once : (u.index.update position closed) = w.index.update position closed :=
      PackageIndex.update_update _ _ _ _
    have done : (written.close.map fun a => ((), a)) = .ok ((), closed) := by
      simp [Artifact.close, Artifact.writerOrNew, Artifact.commit, Artifact.isSealed, Except.map,
        written, closed, filled]
    rw [FileAccess.endStream, onArtifact_ok held done, once]
  simp only [writeArtifact, run, opens, run_andThen, run_ofAnswer, goOn_ok, writeAll, writes, ends]
  rfl

end PagePress.Activity
