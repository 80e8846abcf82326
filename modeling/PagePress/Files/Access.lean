import PagePress.Files.DiskFile
import PagePress.Files.Workspace

/-!
Access to files: the hands of a compiler. The standard access works on the disk. One that forwards
leaves everything to another. A virtual one keeps output in memory and answers what the reserved
packages hold from the store; all else it leaves to another.
-/

set_option autoImplicit false

namespace PagePress

/-- A file as it is handed out: on the disk, an artifact of the session by its position, an artifact
out of the store, or something that no access knows. -/
inductive FileObject
  | disk (file : DiskFile)
  | produced (position : Nat)
  | stored (artifact : Artifact)
  | unknown (label : String)
  deriving DecidableEq, Repr

def FileObject.shown (index : PackageIndex) : FileObject → String
  | .disk file => file.shown
  | .produced position => ((index.get? position).map Artifact.shown).getD ""
  | .stored artifact => artifact.shown
  | .unknown label => Text.Quoted.quote label

/-- What a compiler writes through: the writer of an artifact of the session, or a file of the
disk. -/
inductive Stream
  | artifact (position : Nat)
  | file (path : Path)
  deriving DecidableEq, Repr

inductive FileAccess
  | standard
  | forwarding (delegate : FileAccess)
  | virtual (delegate : FileAccess) (reserved : String)
  deriving DecidableEq, Repr

namespace FileAccess

/-- The virtual access over another one; its namespace has a name. -/
def makeVirtual (delegate : FileAccess) (reserved : String) : Except Failure FileAccess :=
  if reserved = "" then .error (.configuration .emptyNamespace)
  else .ok (.virtual delegate reserved)

/-- Whether a package is answered from the store. -/
def isReserved : FileAccess → String → Bool
  | .standard, _ => false
  | .forwarding delegate, package => delegate.isReserved package
  | .virtual _ reserved, package => Name.isWithin package reserved

def setLocation (w : Workspace) (location : Location) (paths : List Path) : Workspace :=
  { w with locations := w.locations.set location paths }

def getLocation : FileAccess → Workspace → Location → List Path
  | .standard, w, location => w.locations.get location
  | .forwarding delegate, w, location => delegate.getLocation w location
  | .virtual delegate _, w, location => delegate.getLocation w location

/-- Flushes an access; the standard one holds nothing back. -/
def flush : FileAccess → Workspace → Workspace
  | .standard, w => w
  | .forwarding delegate, w => delegate.flush w
  | .virtual delegate _, w => delegate.flush w

theorem flush_eq (m : FileAccess) (w : Workspace) : m.flush w = w := by
  induction m with
  | standard => rfl
  | forwarding delegate ih => exact ih
  | «virtual» delegate reserved ih => exact ih

def close : FileAccess → Workspace → Workspace
  | .standard, w => w
  | .forwarding delegate, w => delegate.close w
  | .virtual delegate _, w => delegate.close w

def storedMembers (store : Store) (package : String) (kinds : List Kind) (recurse : Bool) :
    List FileObject :=
  if kinds.contains .compiled then
    (store.list package recurse).filterMap fun name =>
      (store.get? name).map fun content => .stored (.ofContent name .compiled content)
  else []

def list : FileAccess → Workspace → Location → String → List Kind → Bool →
    Except Failure (List FileObject)
  | .standard, w, location, package, kinds, recurse =>
    match DiskFile.list w.disk (w.locations.get location) package kinds recurse with
    | .ok files => .ok (files.map .disk)
    | .error error => .error (.disk error)
  | .forwarding delegate, w, location, package, kinds, recurse =>
    delegate.list w location package kinds recurse
  | .virtual delegate reserved, w, location, package, kinds, recurse =>
    if location = .classPath && Name.isWithin package reserved then
      .ok (storedMembers w.store package kinds recurse)
    else delegate.list w location package kinds recurse

def binaryName : FileAccess → Workspace → FileObject → Option String
  | .standard, _, object =>
    match object with
    | .disk file => some file.binaryName
    | _ => none
  | .forwarding delegate, w, object => delegate.binaryName w object
  | .virtual delegate _, w, object =>
    match object with
    | .produced position => (w.index.get? position).map (·.name)
    | .stored artifact => some artifact.name
    | _ => delegate.binaryName w object

def allocated (artifact : Artifact) (location : Location) : LogLine :=
  ⟨.files, .debug, "Allocated in-memory artifact " ++ artifact.uri ++ " for " ++ location.name⟩

def output :
    FileAccess → Workspace → Location → String → Kind → Except Failure FileObject × Workspace
  | .standard, w, location, name, kind =>
    match w.locations.get location with
    | [] => (.error (.configuration (.noDirectory location.name)), w)
    | root :: _ => ((DiskFile.forOutput root name kind).map .disk, w)
  | .forwarding delegate, w, location, name, kind => delegate.output w location name kind
  | .virtual _ _, w, location, name, kind =>
    if name = "" then (.error (.adapter .outputWithoutName), w)
    else
      let artifact := Artifact.create name kind ""
      let w := { w with index := w.index.register artifact }
      (.ok (.produced (w.index.size - 1)), w.tell (allocated artifact location))

def openFile (w : Workspace) (file : DiskFile) : Except Failure Stream × Workspace :=
  match w.disk.writeBelow file.target [] with
  | (.error e, disk) => (.error (.disk e), { w with disk })
  | (.ok (), disk) => (.ok (.file file.target), { w with disk })

def onArtifact {α : Type} (w : Workspace) (position : Nat)
    (act : Artifact → Except Failure (α × Artifact)) : Except Failure α × Workspace :=
  match w.index.get? position with
  | none => (.error (.notReady ""), w)
  | some artifact =>
    match act artifact with
    | .error e => (.error e, w)
    | .ok (answer, artifact) => (.ok answer, { w with index := w.index.update position artifact })

/-- Something done to an artifact breaks, and leaves everything as it was, or changes this artifact
alone. -/
theorem onArtifact_cases {α : Type} (w : Workspace) (position : Nat)
    (act : Artifact → Except Failure (α × Artifact)) :
    (∃ failure, onArtifact w position act = (.error failure, w)) ∨
      ∃ a b answer, w.index.get? position = some a ∧ act a = .ok (answer, b) ∧
        onArtifact w position act =
          (.ok answer, { w with index := w.index.update position b }) := by
  unfold onArtifact
  split
  · exact .inl ⟨_, rfl⟩
  · rename_i a found
    split
    · exact .inl ⟨_, rfl⟩
    · rename_i answer b acted
      exact .inr ⟨a, b, answer, found, acted, rfl⟩

def openStream : FileAccess → Workspace → FileObject → Except Failure Stream × Workspace
  | .standard, w, object =>
    match object with
    | .disk file =>
      match file.isMember w.disk with
      | .error failure => (.error failure, w)
      | .ok true => (.error (.adapter (.cannotWrite file.shown)), w)
      | .ok false => openFile w file
    | _ => (.error (.adapter (.cannotWrite (object.shown w.index))), w)
  | .forwarding delegate, w, object => delegate.openStream w object
  | .virtual delegate _, w, object =>
    match object with
    | .produced position =>
      onArtifact w position fun artifact =>
        artifact.openWriter.map fun artifact => (.artifact position, artifact)
    | .stored artifact => (.error (.adapter (.alreadySealed artifact.name)), w)
    | _ => delegate.openStream w object

def writeStream (w : Workspace) (stream : Stream) (payload : Payload) :
    Except Failure Nat × Workspace :=
  match stream with
  | .artifact position => onArtifact w position fun artifact => artifact.write payload
  | .file path =>
    match payload with
    | none => (.error .noBytes, w)
    | some bytes =>
      match w.disk.write path ((w.disk.content? path).getD [] ++ bytes) with
      | .error e => (.error (.disk e), w)
      | .ok disk => (.ok bytes.length, { w with disk })

/-- Ends an open stream: the artifact behind it becomes readable. -/
def endStream (w : Workspace) (stream : Stream) : Except Failure Unit × Workspace :=
  match stream with
  | .artifact position =>
    onArtifact w position fun artifact => artifact.close.map fun artifact => ((), artifact)
  | .file _ => (.ok (), w)

def read : FileAccess → Workspace → FileObject → Except Failure Bytes
  | .standard, w, object =>
    match object with
    | .disk file => file.read w.disk
    | _ => .error (.adapter (.cannotRead (object.shown w.index)))
  | .forwarding delegate, w, object => delegate.read w object
  | .virtual delegate _, w, object =>
    match object with
    | .produced position =>
      match w.index.get? position with
      | some artifact => artifact.read
      | none => .error (.notReady "")
    | .stored artifact => artifact.read
    | _ => delegate.read w object

end FileAccess

end PagePress
