import PagePress.Files.Access

/-!
An access to files under any calls, with a transcript of the answers. A virtual access answers some
calls itself: those for output, those on artifacts in memory, and the listings of reserved packages
on the class path. It forwards all others, and nothing of what it does itself reaches the files that
it shares with the access behind it. A forwarding access is the one behind it in every call.
-/

set_option autoImplicit false

namespace PagePress

/-- What can be asked of an access, and of the streams that it opened. -/
inductive FileCall
  | setLocation (location : Location) (paths : List Path)
  | getLocation (location : Location)
  | list (location : Location) (package : String) (kinds : List Kind) (recurse : Bool)
  | binaryName (object : FileObject)
  | output (location : Location) (name : String) (kind : Kind)
  | openStream (object : FileObject)
  | read (object : FileObject)
  | write (stream : Stream) (payload : Payload)
  | finish (stream : Stream)
  | flush
  | close
  deriving DecidableEq, Repr

inductive FileReply
  | done
  | failed (failure : Failure)
  | paths (paths : List Path)
  | objects (objects : List FileObject)
  | name (name : Option String)
  | object (object : FileObject)
  | stream (stream : Stream)
  | content (bytes : Bytes)
  | count (length : Nat)
  deriving DecidableEq, Repr

def FileReply.ofExcept {α : Type} (reply : α → FileReply) : Except Failure α → FileReply
  | .ok answer => reply answer
  | .error failure => .failed failure

def FileObject.isOutside : FileObject → Bool
  | .disk _ | .unknown _ => true
  | .produced _ | .stored _ => false

def Stream.isOutside : Stream → Bool
  | .file _ => true
  | .artifact _ => false

namespace FileCall

/-- Whether a call asks neither for output nor for anything of an artifact in memory. -/
def isOutside : FileCall → Bool
  | .output _ _ _ => false
  | .binaryName object | .openStream object | .read object => object.isOutside
  | .write stream _ | .finish stream => stream.isOutside
  | .setLocation _ _ | .getLocation _ | .list _ _ _ _ | .flush | .close => true

/-- Whether a call asks for a listing of a reserved package on the class path. -/
def listsReserved (reserved : String) : FileCall → Bool
  | .list location package _ _ => location = .classPath && Name.isWithin package reserved
  | _ => false

/-- Whether a virtual access leaves a call to the access behind it. -/
def isForwarded (reserved : String) (call : FileCall) : Bool :=
  call.isOutside && !call.listsReserved reserved

end FileCall

namespace FileAccess

def perform (m : FileAccess) (w : Workspace) : FileCall → FileReply × Workspace
  | .setLocation location paths => (.done, setLocation w location paths)
  | .getLocation location => (.paths (m.getLocation w location), w)
  | .list location package kinds recurse =>
    (.ofExcept .objects (m.list w location package kinds recurse), w)
  | .binaryName object => (.name (m.binaryName w object), w)
  | .output location name kind => (m.output w location name kind).map (.ofExcept .object) id
  | .openStream object => (m.openStream w object).map (.ofExcept .stream) id
  | .read object => (.ofExcept .content (m.read w object), w)
  | .write stream payload => (writeStream w stream payload).map (.ofExcept .count) id
  | .finish stream => (endStream w stream).map (.ofExcept fun _ => .done) id
  | .flush => (.done, m.flush w)
  | .close => (.done, m.close w)

def after (m : FileAccess) (w : Workspace) (calls : List FileCall) : Workspace :=
  calls.foldl (fun w call => (m.perform w call).2) w

@[simp] theorem after_nil (m : FileAccess) (w : Workspace) : m.after w [] = w := rfl

@[simp] theorem after_cons (m : FileAccess) (w : Workspace) (call : FileCall)
    (rest : List FileCall) : m.after w (call :: rest) = m.after (m.perform w call).2 rest := rfl

theorem after_append (m : FileAccess) (w : Workspace) (calls more : List FileCall) :
    m.after w (calls ++ more) = m.after (m.after w calls) more := List.foldl_append

def transcript (m : FileAccess) : Workspace → List FileCall → List (FileCall × FileReply)
  | _, [] => []
  | w, call :: rest => (call, (m.perform w call).1) :: m.transcript (m.perform w call).2 rest

end FileAccess

/-- Two workspaces on the same disk, with the same locations and the same store. -/
structure Workspace.SameFiles (v w : Workspace) : Prop where
  disk : v.disk = w.disk
  locations : v.locations = w.locations
  store : v.store = w.store

namespace Workspace.SameFiles

variable {u v w : Workspace}

theorem refl (w : Workspace) : w.SameFiles w := ⟨rfl, rfl, rfl⟩

private theorem trans (h : u.SameFiles v) (k : v.SameFiles w) : u.SameFiles w :=
  ⟨h.disk.trans k.disk, h.locations.trans k.locations, h.store.trans k.store⟩

end Workspace.SameFiles

namespace FileAccess

variable {v w : Workspace}

private theorem onArtifact_sameFiles {α : Type} (w : Workspace) (position : Nat)
    (act : Artifact → Except Failure (α × Artifact)) :
    (onArtifact w position act).2.SameFiles w := by
  rcases onArtifact_cases w position act with ⟨failure, broke⟩ | ⟨a, b, answer, -, -, went⟩
  · rw [broke]
    exact .refl w
  · rw [went]
    exact ⟨rfl, rfl, rfl⟩

/-! A file of the disk is the business of the access at the very back. -/

theorem openStream_disk (m : FileAccess) (w : Workspace) (f : DiskFile) :
    m.openStream w (.disk f) = FileAccess.standard.openStream w (.disk f) := by
  induction m with
  | standard => rfl
  | forwarding delegate ih => exact ih
  | «virtual» delegate reserved ih => exact ih

theorem read_disk (m : FileAccess) (w : Workspace) (f : DiskFile) :
    m.read w (.disk f) = f.read w.disk := by
  induction m with
  | standard => rfl
  | forwarding delegate ih => exact ih
  | «virtual» delegate reserved ih => exact ih

/-! What an access answers about the files outside depends on these files alone. -/

private theorem getLocation_congr (same : v.SameFiles w) (m : FileAccess) (location : Location) :
    m.getLocation v location = m.getLocation w location := by
  induction m with
  | standard => simp only [getLocation, same.locations]
  | forwarding delegate ih => exact ih
  | «virtual» delegate reserved ih => exact ih

theorem list_congr (same : v.SameFiles w) (m : FileAccess) (location : Location) (package : String)
    (kinds : List Kind) (recurse : Bool) :
    m.list v location package kinds recurse = m.list w location package kinds recurse := by
  induction m with
  | standard => simp only [list, same.disk, same.locations]
  | forwarding delegate ih => exact ih
  | «virtual» delegate reserved ih => simp only [list, same.store, ih]

/-- The name of a file depends on the workspace only for an artifact of the session. -/
theorem binaryName_congr (v w : Workspace) {object : FileObject}
    (apart : ∀ position, object ≠ .produced position) (m : FileAccess) :
    m.binaryName v object = m.binaryName w object := by
  induction m with
  | standard => rfl
  | forwarding delegate ih => exact ih
  | «virtual» delegate reserved ih =>
    cases object with
    | produced position => exact absurd rfl (apart position)
    | stored artifact => rfl
    | disk file => exact ih
    | unknown label => exact ih

private theorem read_congr (same : v.SameFiles w) {object : FileObject}
    (outside : object.isOutside = true) (m : FileAccess) : m.read v object = m.read w object := by
  induction m with
  | standard =>
    cases object with
    | disk file => simp only [read, same.disk]
    | unknown label => rfl
    | produced position => cases outside
    | stored artifact => cases outside
  | forwarding delegate ih => exact ih
  | «virtual» delegate reserved ih =>
    cases object with
    | disk file => exact ih
    | unknown label => exact ih
    | produced position => cases outside
    | stored artifact => cases outside

private theorem openFile_congr (same : v.SameFiles w) (file : DiskFile) :
    (openFile v file).1 = (openFile w file).1 ∧
      (openFile v file).2.SameFiles (openFile w file).2 := by
  unfold openFile
  rw [same.disk]
  rcases w.disk.writeBelow file.target [] with ⟨failure | done, disk⟩
  · exact ⟨rfl, rfl, same.locations, same.store⟩
  · exact ⟨rfl, rfl, same.locations, same.store⟩

private theorem openStream_congr (same : v.SameFiles w) {object : FileObject}
    (outside : object.isOutside = true) (m : FileAccess) :
    (m.openStream v object).1 = (m.openStream w object).1 ∧
      (m.openStream v object).2.SameFiles (m.openStream w object).2 := by
  induction m with
  | standard =>
    cases object with
    | disk file =>
      simp only [openStream, same.disk]
      rcases file.isMember w.disk with failure | ⟨_ | _⟩
      · exact ⟨rfl, same⟩
      · exact openFile_congr same file
      · exact ⟨rfl, same⟩
    | unknown label => exact ⟨rfl, same⟩
    | produced position => cases outside
    | stored artifact => cases outside
  | forwarding delegate ih => exact ih
  | «virtual» delegate reserved ih =>
    cases object with
    | disk file => exact ih
    | unknown label => exact ih
    | produced position => cases outside
    | stored artifact => cases outside

private theorem writeStream_congr (same : v.SameFiles w) {stream : Stream}
    (outside : stream.isOutside = true) (payload : Payload) :
    (writeStream v stream payload).1 = (writeStream w stream payload).1 ∧
      (writeStream v stream payload).2.SameFiles (writeStream w stream payload).2 := by
  cases stream with
  | artifact position => cases outside
  | file path =>
    cases payload with
    | none => exact ⟨rfl, same⟩
    | some bytes =>
      simp only [writeStream, same.disk]
      cases w.disk.write path ((w.disk.content? path).getD [] ++ bytes) with
      | error failure => exact ⟨rfl, same⟩
      | ok disk => exact ⟨rfl, rfl, same.locations, same.store⟩

theorem close_eq (m : FileAccess) (w : Workspace) : m.close w = w := by
  induction m with
  | standard => rfl
  | forwarding delegate ih => exact ih
  | «virtual» delegate reserved ih => exact ih

/-- A call that has nothing to do with artifacts in memory gives the same reply on the same files,
and leaves the same files behind it. -/
private theorem perform_congr (same : v.SameFiles w) {call : FileCall}
    (outside : call.isOutside = true) (m : FileAccess) :
    (m.perform v call).1 = (m.perform w call).1 ∧
      (m.perform v call).2.SameFiles (m.perform w call).2 := by
  cases call with
  | setLocation location paths =>
    exact ⟨rfl, same.disk, by simp only [perform, setLocation, same.locations], same.store⟩
  | getLocation location =>
    exact ⟨congrArg FileReply.paths (getLocation_congr same m location), same⟩
  | list location package kinds recurse =>
    have rows := list_congr same m location package kinds recurse
    exact ⟨congrArg (FileReply.ofExcept .objects) rows, same⟩
  | binaryName object =>
    have apart : ∀ position, object ≠ .produced position := by
      rintro position rfl
      cases outside
    exact ⟨congrArg FileReply.name (binaryName_congr v w apart m), same⟩
  | output location name kind => cases outside
  | openStream object =>
    obtain ⟨reply, files⟩ := openStream_congr same outside m
    exact ⟨congrArg (FileReply.ofExcept .stream) reply, files⟩
  | read object => 
    exact ⟨congrArg (FileReply.ofExcept .content) (read_congr same outside m), same⟩
  | write stream payload =>
    obtain ⟨reply, files⟩ := writeStream_congr same outside payload
    exact ⟨congrArg (FileReply.ofExcept .count) reply, files⟩
  | finish stream =>
    cases stream with
    | file path => exact ⟨rfl, same⟩
    | artifact position => cases outside
  | flush => exact ⟨rfl, by simpa only [perform, flush_eq] using same⟩
  | close => exact ⟨rfl, by simpa only [perform, close_eq] using same⟩

private theorem perform_forwarding (delegate : FileAccess) (w : Workspace) (call : FileCall) :
    (FileAccess.forwarding delegate).perform w call = delegate.perform w call := by
  cases call <;> rfl

private theorem perform_virtual_of_isForwarded (delegate : FileAccess) (w : Workspace)
    {reserved : String} {call : FileCall} (forwarded : call.isForwarded reserved = true) :
    (FileAccess.virtual delegate reserved).perform w call = delegate.perform w call := by
  obtain ⟨outside, open_⟩ := Bool.and_eq_true_iff.1 forwarded
  cases call with
  | list location package kinds recurse =>
    have elsewhere : (decide (location = .classPath) && Name.isWithin package reserved) = false :=
      Bool.not_inj (open_.trans Bool.not_false.symm)
    rw [perform, perform, list, elsewhere, if_neg Bool.false_ne_true]
  | binaryName object => cases object <;> first | rfl | cases outside
  | openStream object => cases object <;> first | rfl | cases outside
  | read object => cases object <;> first | rfl | cases outside
  | output location name kind => cases outside
  | _ => rfl

private theorem perform_virtual_sameFiles (delegate : FileAccess) (w : Workspace)
    {reserved : String} {call : FileCall} (kept : call.isForwarded reserved = false) :
    ((FileAccess.virtual delegate reserved).perform w call).2.SameFiles w := by
  cases call with
  | output location name kind =>
    simp only [perform, output, Prod.map, id]
    split
    · exact .refl w
    · exact ⟨rfl, rfl, rfl⟩
  | openStream object =>
    cases object with
    | produced position => exact onArtifact_sameFiles w position _
    | stored artifact => exact .refl w
    | disk file => cases kept
    | unknown label => cases kept
  | write stream payload =>
    cases stream with
    | artifact position => exact onArtifact_sameFiles w position _
    | file path => cases kept
  | finish stream =>
    cases stream with
    | artifact position => exact onArtifact_sameFiles w position _
    | file path => cases kept
  | list location package kinds recurse => exact .refl w
  | binaryName object => exact .refl w
  | read object => exact .refl w
  | getLocation location => exact .refl w
  | setLocation location paths => cases kept
  | flush => cases kept
  | close => cases kept

private theorem output_store (m : FileAccess) (w : Workspace) (location : Location) (name : String)
    (kind : Kind) : (m.output w location name kind).2.store = w.store := by
  induction m with
  | standard =>
    simp only [output]
    split <;> rfl
  | forwarding delegate ih => exact ih
  | «virtual» delegate reserved ih =>
    simp only [output]
    split <;> rfl

private theorem openFile_store (w : Workspace) (file : DiskFile) :
    (openFile w file).2.store = w.store := by
  unfold openFile
  split <;> rfl

private theorem openStream_store (m : FileAccess) (w : Workspace) (object : FileObject) :
    (m.openStream w object).2.store = w.store := by
  induction m with
  | standard =>
    cases object with
    | disk file =>
      simp only [openStream]
      split
      · rfl
      · rfl
      · exact openFile_store w file
    | unknown label => rfl
    | produced position => rfl
    | stored artifact => rfl
  | forwarding delegate ih => exact ih
  | «virtual» delegate reserved ih =>
    cases object with
    | produced position => exact (onArtifact_sameFiles w position _).store
    | stored artifact => rfl
    | disk file => exact ih
    | unknown label => exact ih

private theorem writeStream_store (w : Workspace) (stream : Stream) (payload : Payload) :
    (writeStream w stream payload).2.store = w.store := by
  cases stream with
  | artifact position => exact (onArtifact_sameFiles w position _).store
  | file path =>
    cases payload with
    | none => rfl
    | some bytes =>
      simp only [writeStream]
      split <;> rfl

private theorem perform_store (m : FileAccess) (w : Workspace) (call : FileCall) :
    (m.perform w call).2.store = w.store := by
  cases call with
  | output location name kind => exact output_store m w location name kind
  | openStream object => exact openStream_store m w object
  | write stream payload => exact writeStream_store w stream payload
  | finish stream =>
    cases stream with
    | artifact position => exact (onArtifact_sameFiles w position _).store
    | file path => rfl
  | flush => exact congrArg Workspace.store (flush_eq m w)
  | close => exact congrArg Workspace.store (close_eq m w)
  | _ => rfl

private theorem after_store (m : FileAccess) (w : Workspace) (calls : List FileCall) :
    (m.after w calls).store = w.store := by
  induction calls generalizing w with
  | nil => rfl
  | cons call rest ih => exact (ih _).trans (perform_store m w call)

/-- Under any calls a virtual access and the access behind it stay on the same files, though the
latter is given the forwarded calls only, and these get the same replies. -/
private theorem virtual_run (delegate : FileAccess) (reserved : String) (calls : List FileCall)
    (same : v.SameFiles w) :
    let forwarded := calls.filter (FileCall.isForwarded reserved)
    ((FileAccess.virtual delegate reserved).after v calls).SameFiles (delegate.after w forwarded) ∧
      ((FileAccess.virtual delegate reserved).transcript v calls).filter
          (fun entry => entry.1.isForwarded reserved) =
        delegate.transcript w forwarded := by
  induction calls generalizing v w with
  | nil => exact ⟨same, rfl⟩
  | cons call rest ih =>
    cases forwarded : call.isForwarded reserved with
    | true =>
      -- Both sides take the step, on workspaces that may differ in what was brought forth.
      have outside : call.isOutside = true := (Bool.and_eq_true_iff.1 forwarded).1
      obtain ⟨reply, files⟩ := perform_congr same outside delegate
      have step := perform_virtual_of_isForwarded delegate v forwarded
      obtain ⟨ends, replies⟩ := ih (step ▸ files)
      simp only [List.filter_cons_of_pos, forwarded, transcript, after, List.foldl_cons]
      exact ⟨ends, by rw [replies, step, reply]⟩
    | false =>
      have files := (perform_virtual_sameFiles delegate v forwarded).trans same
      obtain ⟨ends, replies⟩ := ih files
      simp only [List.filter_cons, forwarded, transcript, after, List.foldl_cons,
        Bool.false_eq_true, if_false]
      exact ⟨ends, replies⟩

private theorem forwarding_run (delegate : FileAccess) (w : Workspace) (calls : List FileCall) :
    (FileAccess.forwarding delegate).after w calls = delegate.after w calls ∧
      (FileAccess.forwarding delegate).transcript w calls = delegate.transcript w calls := by
  induction calls generalizing w with
  | nil => exact ⟨rfl, rfl⟩
  | cons call rest ih =>
    have step := perform_forwarding delegate w call
    obtain ⟨ends, replies⟩ := ih (delegate.perform w call).2
    simp only [after, transcript, List.foldl_cons, step]
    exact ⟨ends, congrArg _ replies⟩

/-- A virtual access is the access behind it in all it does not answer itself: under any calls the
disk and the locations become what the forwarded calls alone make of them behind it, these get the
same replies there, and the store stays as it is. A forwarding access is the access behind it in all
calls. -/
theorem virtual_is_delegate_elsewhere (delegate : FileAccess) (reserved : String) (w : Workspace)
    (calls : List FileCall) :
    (let m : FileAccess := .virtual delegate reserved
      let forwarded := calls.filter (FileCall.isForwarded reserved)
      (m.after w calls).disk = (delegate.after w forwarded).disk ∧
        (m.after w calls).locations = (delegate.after w forwarded).locations ∧
        (m.transcript w calls).filter (fun entry => entry.1.isForwarded reserved) =
          delegate.transcript w forwarded ∧
        (m.after w calls).store = w.store) ∧
      (FileAccess.forwarding delegate).after w calls = delegate.after w calls ∧
      (FileAccess.forwarding delegate).transcript w calls = delegate.transcript w calls := by
  obtain ⟨files, replies⟩ := virtual_run delegate reserved calls (.refl w)
  have kept := after_store (.virtual delegate reserved) w calls
  exact ⟨⟨files.disk, files.locations, replies, kept⟩, forwarding_run delegate w calls⟩

end FileAccess

end PagePress
