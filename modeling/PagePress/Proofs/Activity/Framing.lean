import PagePress.Proofs.Activity.Sequencing

/-!
Locations that a run does not touch. An activity avoids a location if it neither sets its paths nor
asks for files there. Whatever paths the location has, such an activity answers the same and leaves
the same, and the location keeps its paths.
-/

set_option autoImplicit false

namespace PagePress

namespace FileAccess

variable (m : FileAccess) (w : Workspace) (location : Location) (paths : List Path)

def located {α : Type} (location : Location) (paths : List Path) (did : α × Workspace) :
    α × Workspace := (did.1, setLocation did.2 location paths)

/-- Two deeds answer the same and leave the same, but for the paths of a location. -/
def SameBut {α : Type} (location : Location) (did again : α × Workspace) : Prop :=
  ∃ paths, again = located location paths did

private theorem list_setLocation {asked : Location} (other : asked ≠ location) (package : String)
    (kinds : List Kind) (recurse : Bool) :
    m.list (setLocation w location paths) asked package kinds recurse =
      m.list w asked package kinds recurse := by
  induction m with
  | standard => simp only [list, setLocation, LocationTable.get_set_of_ne _ paths other]
  | forwarding delegate ih => exact ih
  | virtual delegate reserved ih =>
    rw [list, list, ih]
    rfl

private theorem binaryName_setLocation (object : FileObject) :
    m.binaryName (setLocation w location paths) object = m.binaryName w object := by
  induction m with
  | standard => rfl
  | forwarding delegate ih => exact ih
  | virtual delegate reserved ih =>
    cases object with
    | produced | stored => rfl
    | disk | unknown => exact ih

private theorem output_setLocation {asked : Location} (other : asked ≠ location) (name : String)
    (kind : Kind) :
    m.output (setLocation w location paths) asked name kind =
      located location paths (m.output w asked name kind) := by
  induction m with
  | standard =>
    simp only [output, setLocation, LocationTable.get_set_of_ne _ paths other]
    cases w.locations.get asked <;> rfl
  | forwarding delegate ih => exact ih
  | virtual delegate reserved =>
    simp only [output]
    split <;> rfl

private theorem onArtifact_setLocation {α : Type} (position : Nat)
    (act : Artifact → Except Failure (α × Artifact)) :
    onArtifact (setLocation w location paths) position act =
      located location paths (onArtifact w position act) := by
  rw [onArtifact, onArtifact, show (setLocation w location paths).index = w.index from rfl]
  cases w.index.get? position with
  | none => rfl
  | some artifact =>
    dsimp only
    cases act artifact <;> rfl

private theorem openStream_setLocation (object : FileObject) :
    m.openStream (setLocation w location paths) object =
      located location paths (m.openStream w object) := by
  induction m with
  | standard =>
    cases object with
    | disk file =>
      simp only [openStream, openFile, show (setLocation w location paths).disk = w.disk from rfl]
      cases file.isMember w.disk with
      | error failure => rfl
      | ok member =>
        cases member with
        | true => rfl
        | false =>
          rcases w.disk.writeBelow file.target [] with ⟨_ | _, disk⟩ <;> rfl
    | produced | stored | unknown => rfl
  | forwarding delegate ih => exact ih
  | virtual delegate reserved ih =>
    cases object with
    | produced position => exact onArtifact_setLocation w location paths position _
    | stored => rfl
    | disk | unknown => exact ih

private theorem writeStream_setLocation (stream : Stream) (payload : Payload) :
    writeStream (setLocation w location paths) stream payload =
      located location paths (writeStream w stream payload) := by
  cases stream with
  | artifact position => exact onArtifact_setLocation w location paths position _
  | file path =>
    cases payload with
    | none => rfl
    | some bytes =>
      simp only [writeStream, show (setLocation w location paths).disk = w.disk from rfl]
      cases w.disk.write path ((w.disk.content? path).getD [] ++ bytes) <;> rfl

private theorem endStream_setLocation (stream : Stream) :
    endStream (setLocation w location paths) stream =
      located location paths (endStream w stream) := by
  cases stream with
  | artifact position => exact onArtifact_setLocation w location paths position _
  | file path => rfl

private theorem read_setLocation (object : FileObject) :
    m.read (setLocation w location paths) object = m.read w object := by
  induction m with
  | standard => rfl
  | forwarding delegate ih => exact ih
  | virtual delegate reserved ih =>
    cases object with
    | produced | stored => rfl
    | disk | unknown => exact ih

@[simp] theorem setLocation_setLocation (others : List Path) :
    setLocation (setLocation w location paths) location others = setLocation w location others := by
  cases location <;> rfl

@[simp] theorem setLocation_get :
    setLocation w location (w.locations.get location) = w := by
  cases location <;> rfl

theorem setLocation_comm {other : Location} (apart : other ≠ location) (others : List Path) :
    setLocation (setLocation w location paths) other others =
      setLocation (setLocation w other others) location paths := by
  cases location <;> cases other <;> first | rfl | exact absurd rfl apart

theorem sameBut_located {α : Type} (did : α × Workspace) (others : List Path) :
    SameBut location (located location paths did) (located location others did) :=
  ⟨others, by simp [located]⟩

theorem getLocation_eq : m.getLocation w location = w.locations.get location := by
  induction m with
  | standard => rfl
  | forwarding delegate ih => exact ih
  | virtual delegate reserved ih => exact ih

end FileAccess

namespace Activity

variable {α β : Type}

/-- An activity neither sets the paths of a location nor asks for files there. -/
def Avoids (location : Location) : Activity α → Prop
  | .done _ => True
  | .fail _ => True
  | .setLocation other _ next => other ≠ location ∧ next.Avoids location
  | .list asked _ _ _ next => asked ≠ location ∧ ∀ answer, (next answer).Avoids location
  | .binaryName _ next => ∀ name, (next name).Avoids location
  | .output asked _ _ next => asked ≠ location ∧ ∀ answer, (next answer).Avoids location
  | .openStream _ next => ∀ answer, (next answer).Avoids location
  | .write _ _ next => ∀ answer, (next answer).Avoids location
  | .finish _ next => ∀ answer, (next answer).Avoids location
  | .read _ next => ∀ answer, (next answer).Avoids location
  | .report _ next => next.Avoids location
  | .note _ next => next.Avoids location
  | .tell _ next => next.Avoids location
  | .time next => ∀ reading, (next reading).Avoids location
  | .flush next => next.Avoids location

section Avoiding

variable {location : Location}

theorem Avoids.andThen {a : Activity α} {f : α → Activity β} (first : a.Avoids location)
    (rest : ∀ result, (f result).Avoids location) : (a.andThen f).Avoids location := by
  induction a with
  | done result => exact rest result
  | fail failure => trivial
  | setLocation other paths next ih => exact ⟨first.1, ih first.2⟩
  | list asked package kinds recurse next ih =>
    exact ⟨first.1, fun answer => ih answer (first.2 answer)⟩
  | output asked name kind next ih => exact ⟨first.1, fun answer => ih answer (first.2 answer)⟩
  | binaryName object next ih => exact fun name => ih name (first name)
  | openStream object next ih => exact fun answer => ih answer (first answer)
  | write stream payload next ih => exact fun answer => ih answer (first answer)
  | finish stream next ih => exact fun answer => ih answer (first answer)
  | read object next ih => exact fun answer => ih answer (first answer)
  | report diagnostic next ih => exact ih first
  | note names next ih => exact ih first
  | tell line next ih => exact ih first
  | time next ih => exact fun reading => ih reading (first reading)
  | flush next ih => exact ih first

theorem avoids_ofAnswer (answer : Except Failure α) : (ofAnswer answer).Avoids location := by
  cases answer <;> trivial

theorem avoids_binaryNames (objects : List FileObject) :
    (binaryNames objects).Avoids location := by
  induction objects with
  | nil => trivial
  | cons object rest ih => exact fun name => ih.andThen fun names => trivial

private theorem avoids_writeAll (stream : Stream) (payload : List Payload) :
    (writeAll stream payload).Avoids location := by
  induction payload with
  | nil => trivial
  | cons piece rest ih => exact fun answer => (avoids_ofAnswer answer).andThen fun _ => ih

theorem avoids_writeArtifact (object : FileObject) (payload : List Payload) :
    (writeArtifact object payload).Avoids location :=
  fun answer => (avoids_ofAnswer answer).andThen fun stream =>
    (avoids_writeAll stream payload).andThen fun _ done =>
      (avoids_ofAnswer done).andThen fun _ => trivial

/-- A run that avoids a location does not depend on its paths and leaves them as they are. -/
theorem run_setLocation {a : Activity α} (avoids : a.Avoids location) (m : FileAccess)
    (w : Workspace) (paths : List Path) :
    a.run m (FileAccess.setLocation w location paths) =
      FileAccess.located location paths (a.run m w) := by
  -- On the activity: what is asked answers the same, and what it leaves has the paths again.
  induction a generalizing w with
  | done result => rfl
  | fail failure => rfl
  | setLocation other given next ih =>
    rw [run, run, FileAccess.setLocation_comm w location paths avoids.1, ih avoids.2]
  | list asked package kinds recurse next ih =>
    rw [run, run, FileAccess.list_setLocation m w location paths avoids.1, ih _ (avoids.2 _)]
  | binaryName object next ih =>
    rw [run, run, FileAccess.binaryName_setLocation, ih _ (avoids _)]
  | output asked name kind next ih =>
    rw [run, run, FileAccess.output_setLocation m w location paths avoids.1]
    exact ih _ (avoids.2 _) _
  | openStream object next ih =>
    rw [run, run, FileAccess.openStream_setLocation]
    exact ih _ (avoids _) _
  | write stream payload next ih =>
    rw [run, run, FileAccess.writeStream_setLocation]
    exact ih _ (avoids _) _
  | finish stream next ih =>
    rw [run, run, FileAccess.endStream_setLocation]
    exact ih _ (avoids _) _
  | read object next ih =>
    rw [run, run, FileAccess.read_setLocation, ih _ (avoids _)]
  | report diagnostic next ih =>
    exact ih avoids { w with diagnostics := w.diagnostics ++ [diagnostic] }
  | note names next ih => exact ih avoids { w with notes := w.notes ++ [names] }
  | tell line next ih => exact ih avoids (w.tell line)
  | time next ih => exact ih _ (avoids _) w.tick
  | flush next ih => rw [run_flush, run_flush, ih avoids]

theorem get_locations_run {a : Activity α} (avoids : a.Avoids location) (m : FileAccess)
    (w : Workspace) : (a.run m w).2.locations.get location = w.locations.get location := by
  have again := run_setLocation avoids m w (w.locations.get location)
  rw [FileAccess.setLocation_get] at again
  rw [again]
  exact LocationTable.get_set_self _ _ _

end Avoiding

end Activity

end PagePress
