import PagePress.Proofs.Activity.Sequencing

/-!
What an activity can do to a workspace. Every operation is one of a few steps, and a run is a row of
them; so whatever each step keeps, every run keeps. The trace of a run is what the session brings
forth: the artifacts that were asked for and the diagnostics that were reported, in order.
-/

set_option autoImplicit false

namespace PagePress

inductive Event
  | requested (name : String) (kind : Kind)
  | reported (diagnostic : Diagnostic)
  deriving DecidableEq, Repr

namespace Event

/-- The event of a request for output, if an artifact of the session answers it. -/
def ofOutput (name : String) (kind : Kind) : Except Failure FileObject → List Event
  | .ok (.produced _) => [.requested name kind]
  | _ => []

def name? : Event → Option String
  | .requested name _ => some name
  | .reported _ => none

def diagnostic? : Event → Option Diagnostic
  | .requested _ _ => none
  | .reported diagnostic => some diagnostic

def names (events : List Event) : List String := events.filterMap name?

def diagnostics (events : List Event) : List Diagnostic := events.filterMap diagnostic?

end Event

namespace Artifact

inductive Revision (a : Artifact) : Artifact → Prop
  | opened {b : Artifact} : a.openWriter = .ok b → Revision a b
  | written {b : Artifact} {payload : Payload} {count : Nat} :
      a.write payload = .ok (count, b) → Revision a b
  | closed {b : Artifact} : a.close = .ok b → Revision a b

def Sound (a : Artifact) : Prop := a.content ≠ some []

private theorem Revision.name_eq {a b : Artifact} (h : Revision a b) : b.name = a.name := by
  cases h with
  | opened h =>
    unfold openWriter at h
    split at h
    · cases h
    · split at h <;> cases h <;> rfl
  | written h =>
    simp only [write] at h
    split at h
    · cases h
    · split at h <;> cases h
      rfl
  | closed h =>
    simp only [close, commit] at h
    repeat' split at h
    all_goals cases h
    rfl

private theorem Revision.sound {a b : Artifact} (h : Revision a b) (sound : a.Sound) : b.Sound := by
  cases h with
  | opened h =>
    unfold openWriter at h
    split at h
    · cases h
    · split at h <;> cases h <;> exact sound
  | written h =>
    simp only [write] at h
    split at h
    · cases h
    · split at h <;> cases h
      exact sound
  | closed h =>
    simp only [close, commit] at h
    split at h
    · cases h
    · split at h
      · cases h
      · rename_i filled
        split at h <;> cases h
        simpa [Sound] using filled

end Artifact

namespace Activity

/-- What one operation can do to a workspace, with the events that it makes. -/
inductive Step : Workspace → List Event → Workspace → Prop
  | stay (w : Workspace) : Step w [] w
  | locate (w : Workspace) (location : Location) (paths : List Path) :
      Step w [] (FileAccess.setLocation w location paths)
  | touch (w : Workspace) (disk : Disk) : Step w [] { w with disk }
  | request (w : Workspace) (name : String) (kind : Kind) (line : LogLine) (named : name ≠ "") :
      Step w [.requested name kind]
        (({ w with index := w.index.register (.create name kind "") } : Workspace).tell line)
  | revise (w : Workspace) {position : Nat} {a b : Artifact}
      (found : w.index.get? position = some a) (revision : a.Revision b) :
      Step w [] { w with index := w.index.update position b }
  | report (w : Workspace) (diagnostic : Diagnostic) :
      Step w [.reported diagnostic] { w with diagnostics := w.diagnostics ++ [diagnostic] }
  | note (w : Workspace) (names : List (Option String)) :
      Step w [] { w with notes := w.notes ++ [names] }
  | tell (w : Workspace) (line : LogLine) : Step w [] (w.tell line)
  | tick (w : Workspace) : Step w [] w.tick

/-- A row of steps, with their events in order. -/
inductive Steps : Workspace → List Event → Workspace → Prop
  | none (w : Workspace) : Steps w [] w
  | next {u v w : Workspace} {first rest : List Event} :
      Step u first v → Steps v rest w → Steps u (first ++ rest) w

private theorem output_step (m : FileAccess) (w : Workspace) (location : Location) (name : String)
    (kind : Kind) :
    Step w (Event.ofOutput name kind (m.output w location name kind).1)
      (m.output w location name kind).2 := by
  induction m with
  | standard =>
    unfold FileAccess.output
    split
    · exact .stay w
    · cases DiskFile.forOutput _ name kind <;> exact .stay w
  | forwarding delegate ih => exact ih
  | virtual delegate reserved =>
    by_cases named : name = ""
    · simp only [FileAccess.output, named, if_true]
      exact .stay w
    · simp only [FileAccess.output, named, if_false]
      exact .request w name kind _ named

private theorem onArtifact_step {α : Type} (w : Workspace) (position : Nat)
    (act : Artifact → Except Failure (α × Artifact))
    (revises : ∀ {a b : Artifact} {answer : α}, act a = .ok (answer, b) → a.Revision b) :
    Step w [] (FileAccess.onArtifact w position act).2 := by
  rcases FileAccess.onArtifact_cases w position act with
    ⟨failure, broke⟩ | ⟨a, b, answer, found, acted, went⟩
  · rw [broke]
    exact .stay w
  · rw [went]
    exact .revise w found (revises acted)

private theorem openStream_step (m : FileAccess) (w : Workspace) (object : FileObject) :
    Step w [] (m.openStream w object).2 := by
  induction m with
  | standard =>
    unfold FileAccess.openStream
    split
    · split
      · exact .stay w
      · exact .stay w
      · unfold FileAccess.openFile
        split <;> exact .touch w _
    · exact .stay w
  | forwarding delegate ih => exact ih
  | virtual delegate reserved ih =>
    unfold FileAccess.openStream
    split
    · apply onArtifact_step
      intro a b answer acted
      obtain ⟨c, opened, same⟩ := ok_of_map acted
      cases same
      exact .opened opened
    · exact .stay w
    · exact ih

private theorem writeStream_step (w : Workspace) (stream : Stream) (payload : Payload) :
    Step w [] (FileAccess.writeStream w stream payload).2 := by
  cases stream with
  | artifact position => exact onArtifact_step w position _ .written
  | file path =>
    cases payload with
    | none => exact .stay w
    | some bytes =>
      simp only [FileAccess.writeStream]
      split
      · exact .stay w
      · exact .touch w _

private theorem endStream_step (w : Workspace) (stream : Stream) :
    Step w [] (FileAccess.endStream w stream).2 := by
  cases stream with
  | file path => exact .stay w
  | artifact position =>
    apply onArtifact_step
    intro a b answer acted
    obtain ⟨c, closed, same⟩ := ok_of_map acted
    cases same
    exact .closed closed

def trace {α : Type} (m : FileAccess) : Activity α → Workspace → List Event
  | .done _, _ => []
  | .fail _, _ => []
  | .setLocation location paths next, w =>
    next.trace m (FileAccess.setLocation w location paths)
  | .list location package kinds recurse next, w =>
    (next (m.list w location package kinds recurse)).trace m w
  | .binaryName object next, w => (next (m.binaryName w object)).trace m w
  | .output location name kind next, w =>
    let (answer, w) := m.output w location name kind
    Event.ofOutput name kind answer ++ (next answer).trace m w
  | .openStream object next, w =>
    let (answer, w) := m.openStream w object
    (next answer).trace m w
  | .write stream payload next, w =>
    let (answer, w) := FileAccess.writeStream w stream payload
    (next answer).trace m w
  | .finish stream next, w =>
    let (answer, w) := FileAccess.endStream w stream
    (next answer).trace m w
  | .read object next, w => (next (m.read w object)).trace m w
  | .report diagnostic next, w =>
    .reported diagnostic :: next.trace m { w with diagnostics := w.diagnostics ++ [diagnostic] }
  | .note names next, w => next.trace m { w with notes := w.notes ++ [names] }
  | .tell line next, w => next.trace m (w.tell line)
  | .time next, w => (next w.clock.now).trace m w.tick
  | .flush next, w => next.trace m (m.flush w)

theorem run_steps {α : Type} (m : FileAccess) (a : Activity α) (w : Workspace) :
    Steps w (a.trace m w) (a.run m w).2 := by
  -- On the activity: what is asked first is one step, the rest is the hypothesis at what it left.
  induction a generalizing w with
  | done result => exact .none w
  | fail failure => exact .none w
  | setLocation location paths next ih => exact .next (.locate w location paths) (ih _)
  | list location package kinds recurse next ih => exact ih _ w
  | binaryName object next ih => exact ih _ w
  | output location name kind next ih => exact .next (output_step m w location name kind) (ih _ _)
  | openStream object next ih => exact .next (openStream_step m w object) (ih _ _)
  | write stream payload next ih => exact .next (writeStream_step w stream payload) (ih _ _)
  | finish stream next ih => exact .next (endStream_step w stream) (ih _ _)
  | read object next ih => exact ih _ w
  | report diagnostic next ih => exact .next (.report w diagnostic) (ih _)
  | note names next ih => exact .next (.note w names) (ih _)
  | tell line next ih => exact .next (.tell w line) (ih _)
  | time next ih => exact .next (.tick w) (ih _ _)
  | flush next ih =>
    rw [trace, run, FileAccess.flush_eq]
    exact ih w

theorem Steps.store_eq {v w : Workspace} {events : List Event} (h : Steps v events w) :
    w.store = v.store := by
  induction h with
  | none w => rfl
  | next step _ ih => cases step <;> exact ih

theorem Steps.diagnostics_eq {v w : Workspace} {events : List Event} (h : Steps v events w) :
    w.diagnostics = v.diagnostics ++ Event.diagnostics events := by
  induction h with
  | none w => simp [Event.diagnostics]
  | next step _ ih =>
    rw [ih]
    cases step <;>
      simp [Event.diagnostics, Event.diagnostic?, List.filterMap_cons, FileAccess.setLocation,
        Workspace.tell, Workspace.tick]

private theorem names_update {index : PackageIndex} {position : Nat} {a b : Artifact}
    (found : index.get? position = some a) (named : b.name = a.name) :
    (index.update position b).artifacts.map Artifact.name = index.artifacts.map Artifact.name := by
  obtain ⟨bound, here⟩ := List.getElem?_eq_some_iff.1 found
  have within : position < (index.artifacts.map Artifact.name).length := by simpa using bound
  have same : b.name = (index.artifacts.map Artifact.name)[position] := by
    rw [List.getElem_map, here, named]
  simp only [PackageIndex.update, List.map_set]
  rw [same, List.set_getElem_self]

/-- The index holds one artifact for each that was asked for, in that order. -/
theorem Steps.names_eq {v w : Workspace} {events : List Event} (h : Steps v events w) :
    w.index.artifacts.map Artifact.name =
      v.index.artifacts.map Artifact.name ++ Event.names events := by
  induction h with
  | none w => simp [Event.names]
  | next step _ ih =>
    rw [ih]
    cases step with
    | request name kind line named =>
      simp [Event.names, Event.name?, PackageIndex.register, Workspace.tell, Artifact.create]
    | revise found revision =>
      rw [names_update found revision.name_eq]
      simp [Event.names]
    | _ => simp [Event.names, Event.name?, List.filterMap_cons, FileAccess.setLocation,
        Workspace.tell, Workspace.tick]

theorem Steps.sound {v w : Workspace} {events : List Event} (h : Steps v events w)
    (sound : ∀ a ∈ v.index.artifacts, a.Sound) : ∀ a ∈ w.index.artifacts, a.Sound := by
  induction h with
  | none w => exact sound
  | next step _ ih =>
    apply ih
    cases step with
    | request name kind line named =>
      intro a member
      rcases List.mem_append.1 member with old | fresh
      · exact sound a old
      · obtain rfl := List.mem_singleton.1 fresh
        simp [Artifact.Sound, Artifact.create]
    | revise found revision =>
      intro a member
      rcases List.mem_or_eq_of_mem_set member with old | rfl
      · exact sound a old
      · exact revision.sound (sound _ (List.mem_of_getElem? found))
    | _ => exact sound

end Activity

end PagePress
