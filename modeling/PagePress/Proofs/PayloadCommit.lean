import PagePress.Proofs.Artifact.Bench
import PagePress.Proofs.DiskOutput

/-!
Writes of payloads after any calls on an access. The stream of a file on the disk starts with an empty
file. An artifact in memory has one writer for all its streams, so that what was written to streams
that were left behind or that broke is committed in front of the payload.
-/

set_option autoImplicit false

namespace PagePress

/-- The bytes that a call brought to the writer of the artifact at a position. -/
def FileCall.poured (k : Nat) : FileCall × FileReply → Bytes
  | (.write (.artifact position) (some bytes), .count _) => if position = k then bytes else []
  | _ => []

def FileCall.ofWrite (object : FileObject) (stream : Stream) (payload : List Payload) :
    List FileCall :=
  .openStream object :: (payload.map (.write stream) ++ [.finish stream])

/-- The bytes that the writer of a file was brought; a file of the disk has none that lasts. -/
def FileObject.drafted (log : List (FileCall × FileReply)) : FileObject → Bytes
  | .produced k => log.flatMap (FileCall.poured k)
  | .disk _ | .stored _ | .unknown _ => []

/-- Whether the path of a file of the disk may lead elsewhere than below its root. -/
def FileObject.leavesRoot : FileObject → Bool
  | .disk f => f.path.anchor != .here || f.path.parts.isEmpty
  | .produced _ | .stored _ | .unknown _ => false

/-- Whether a file is read where it stands: the root of a file of the disk is no file itself. -/
def FileObject.isReadInPlace (d : Disk) : FileObject → Bool
  | .disk f => f.isMember d = .ok false
  | .produced _ | .stored _ | .unknown _ => true

/-- The bytes of a file of the disk as a member of the archive that its root is. -/
def FileObject.packedAs (d : Disk) (content : Bytes) : FileObject → Prop
  | .disk f => ∃ packed, d.lookup f.root = .ok (some (.archive packed)) ∧
      Disk.member? packed.members f.path.toString = some content
  | .produced _ | .stored _ | .unknown _ => False

namespace DiskFile

variable {d d' : Disk} {f : DiskFile}

private theorem leavesRoot_of_written {spot : Address} {content : Bytes}
    (outside : f.isMember d = .ok false) (written : Disk.Written d d' f.target spot content)
    (apart : f.isMember d' ≠ .ok false) : (FileObject.disk f).leavesRoot = true := by
  by_contra inside
  obtain ⟨relative, deeper⟩ : f.path.anchor = .here ∧ f.path.parts ≠ [] := by
    simpa [FileObject.leavesRoot] using inside
  obtain ⟨base, rooted, here, -⟩ := exists_root_of_written relative outside deeper written
  refine apart ?_
  rw [isMember, Disk.lookup_eq_some_iff.2 ⟨base, rooted, here⟩]
  rfl

private theorem packed_of_read (apart : f.isMember d ≠ .ok false) {content : Bytes}
    (reads : f.read d = .ok content) : (FileObject.disk f).packedAs d content := by
  cases found : d.lookup f.root with
  | error e =>
    simp only [read, found] at reads
    cases reads
  | ok node =>
    rcases node with _ | _ | _ | packed
    · exact absurd (by rw [isMember, found]; rfl) apart
    · exact absurd (by rw [isMember, found]; rfl) apart
    · simp only [read, found] at reads
      cases reads
    · rw [read_archive found] at reads
      split at reads
      · rename_i member
        cases reads
        exact ⟨packed, found, member⟩
      · cases reads

end DiskFile

/-- What was written to an artifact is in the buffer of its writer, and is its content once it was
sealed; where no artifact is yet nothing was written. -/
inductive Artifact.Carries : Option Artifact → Bytes → Prop
  | absent : Carries none []
  | pending {a : Artifact} {bytes : Bytes} (state : a.Pending bytes) : Carries (some a) bytes
  | published {a : Artifact} {bytes : Bytes} (state : a.Published bytes) : Carries (some a) bytes

namespace Artifact.Carries

variable {a b : Artifact} {bytes : Bytes}

private theorem openWriter (h : Carries (some a) bytes) (opened : a.openWriter = .ok b) :
    Carries (some b) bytes := by
  cases h with
  | pending state =>
    obtain ⟨c, opens, -, later⟩ := state.openWriter
    obtain rfl : b = c := Except.ok.inj (opened.symm.trans opens)
    exact .pending later
  | published state =>
    rw [state.openWriter] at opened
    cases opened

private theorem write {payload : Payload} {count : Nat} (h : Carries (some a) bytes)
    (written : a.write payload = .ok (count, b)) :
    ∃ chunk, payload = some chunk ∧ Carries (some b) (bytes ++ chunk) := by
  cases h with
  | pending state =>
    cases payload with
    | none =>
      rw [state.write_none] at written
      cases written
    | some chunk =>
      obtain ⟨c, writes, -, later⟩ := state.write_some chunk
      obtain ⟨-, rfl⟩ := Prod.mk.inj (Except.ok.inj (written.symm.trans writes))
      exact ⟨chunk, rfl, .pending later⟩
  | published state =>
    rw [state.write] at written
    cases written

private theorem close (h : Carries (some a) bytes) (closed : a.close = .ok b) :
    b.Published bytes := by
  cases h with
  | pending state =>
    by_cases empty : bytes = []
    · subst empty
      rw [state.close_empty] at closed
      cases closed
    · obtain ⟨c, closes, -, later⟩ := state.close empty
      obtain rfl : b = c := Except.ok.inj (closed.symm.trans closes)
      exact later
  | published state =>
    rw [state.close] at closed
    cases closed

private theorem register {index : PackageIndex} {k : Nat} (h : Carries (index.get? k) bytes)
    (name : String) (kind : Kind) (uri : String) :
    Carries ((index.register (.create name kind uri)).get? k) bytes := by
  rcases Nat.lt_or_ge k index.size with there | beyond
  · rwa [PackageIndex.get?_register_of_lt _ there]
  · rw [PackageIndex.get?_eq_none_iff.2 beyond] at h
    cases h
    rcases Nat.eq_or_lt_of_le beyond with rfl | further
    · rw [PackageIndex.get?_register_size]
      exact .pending (pending_create name kind uri)
    · rw [PackageIndex.get?_eq_none_iff.2 (PackageIndex.size_register _ _ ▸ further)]
      exact .absent

end Artifact.Carries

namespace FileAccess

open Artifact (Carries)

variable {m : FileAccess} {w v : Workspace} {k : Nat} {bytes : Bytes}

/-- Something is done to one artifact: another carries what it carried, and this one also what was
added to it. -/
private theorem carries_onArtifact {γ : Type} {act : Artifact → Except Failure (γ × Artifact)}
    (h : Carries (w.index.get? k) bytes) (position : Nat) (added : Except Failure γ → Bytes)
    (fails : ∀ failure, added (.error failure) = [])
    (acts : ∀ a b answer, Carries (some a) bytes → act a = .ok (answer, b) →
      Carries (some b) (bytes ++ added (.ok answer))) :
    Carries ((onArtifact w position act).2.index.get? k)
      (bytes ++ if position = k then added (onArtifact w position act).1 else []) := by
  rcases onArtifact_cases w position act with
    ⟨failure, broke⟩ | ⟨a, b, answer, found, acted, went⟩
  · simpa [broke, fails] using h
  · rw [went]
    by_cases own : position = k
    · subst own
      rw [found] at h
      simpa [PackageIndex.get?_update found] using acts a b answer h acted
    · simpa [own, PackageIndex.get?_update_of_ne own] using h

private theorem carries_onArtifact_of_kept {γ : Type}
    {act : Artifact → Except Failure (γ × Artifact)} (h : Carries (w.index.get? k) bytes)
    (position : Nat) (keeps : ∀ a b answer, Carries (some a) bytes → act a = .ok (answer, b) →
      Carries (some b) bytes) :
    Carries ((onArtifact w position act).2.index.get? k) bytes := by
  simpa using carries_onArtifact h position (fun _ => []) (fun _ => rfl)
    (by simpa using keeps)

private theorem carries_output (h : Carries (w.index.get? k) bytes) (m : FileAccess)
    (location : Location) (name : String) (kind : Kind) : Carries
    ((m.output w location name kind).2.index.get? k) bytes := by
  induction m with
  | standard =>
    simp only [output]
    split <;> exact h
  | forwarding delegate ih => exact ih
  | «virtual» delegate reserved ih =>
    simp only [output]
    split
    · exact h
    · exact h.register name kind ""

private theorem openFile_index (w : Workspace) (file : DiskFile) :
    (openFile w file).2.index = w.index := by
  unfold openFile
  split <;> rfl

private theorem carries_openStream (h : Carries (w.index.get? k) bytes) (m : FileAccess)
    (object : FileObject) : Carries ((m.openStream w object).2.index.get? k) bytes := by
  induction m with
  | standard =>
    cases object with
    | disk file =>
      simp only [openStream]
      split
      · exact h
      · exact h
      · rwa [openFile_index]
    | produced position => exact h
    | stored artifact => exact h
    | unknown label => exact h
  | forwarding delegate ih => exact ih
  | «virtual» delegate reserved ih =>
    cases object with
    | produced position =>
      refine carries_onArtifact_of_kept h position fun a b answer carried acted => ?_
      obtain ⟨c, opened, same⟩ := Activity.ok_of_map acted
      cases same
      exact carried.openWriter opened
    | stored artifact => exact h
    | disk file => exact ih
    | unknown label => exact ih

private theorem carries_writeStream (h : Carries (w.index.get? k) bytes) (stream : Stream)
    (payload : Payload) : Carries ((writeStream w stream payload).2.index.get? k)
      (bytes ++ FileCall.poured k
        (.write stream payload, .ofExcept .count (writeStream w stream payload).1)) := by
  cases stream with
  | file path =>
    have same : (writeStream w (.file path) payload).2.index = w.index := by
      cases payload with
      | none => rfl
      | some chunk =>
        simp only [writeStream]
        split <;> rfl
    simpa [same, FileCall.poured] using h
  | artifact position =>
    let added (answer : Except Failure Nat) : Bytes := FileCall.poured position
      (.write (.artifact position) payload, .ofExcept .count answer)
    have there (answer : Except Failure Nat) : FileCall.poured k
        (.write (.artifact position) payload, .ofExcept .count answer) =
          if position = k then added answer else [] := by
      cases payload <;> cases answer <;> simp [added, FileCall.poured, FileReply.ofExcept]
    rw [there]
    refine carries_onArtifact h position added ?_ fun a b count carried written => ?_
    · intro failure
      cases payload <;> rfl
    · obtain ⟨chunk, rfl, later⟩ := carried.write written
      simpa [added, FileCall.poured, FileReply.ofExcept] using later

private theorem carries_endStream (h : Carries (w.index.get? k) bytes) (stream : Stream) :
    Carries ((endStream w stream).2.index.get? k) bytes := by
  cases stream with
  | file path => exact h
  | artifact position =>
    refine carries_onArtifact_of_kept h position fun a b answer carried acted => ?_
    obtain ⟨c, closed, same⟩ := Activity.ok_of_map acted
    cases same
    exact .published (carried.close closed)

private theorem carries_perform (h : Carries (w.index.get? k) bytes) (m : FileAccess)
    (call : FileCall) :
    Carries ((m.perform w call).2.index.get? k)
      (bytes ++ FileCall.poured k (call, (m.perform w call).1)) := by
  have idle {a : Option Artifact} (kept : Carries a bytes) : Carries a (bytes ++ []) := by
    rwa [List.append_nil]
  cases call with
  | write stream payload => exact carries_writeStream h stream payload
  | output location name kind => exact idle (carries_output h m location name kind)
  | openStream object => exact idle (carries_openStream h m object)
  | finish stream => exact idle (carries_endStream h stream)
  | flush => exact idle (by rwa [perform, flush_eq])
  | close => exact idle (by rwa [perform, close_eq])
  | setLocation _ _ | getLocation _ | list _ _ _ _ | binaryName _ | read _ => exact idle h

private theorem carries_after (h : Carries (w.index.get? k) bytes) (m : FileAccess)
    (calls : List FileCall) : Carries ((m.after w calls).index.get? k)
      (bytes ++ (m.transcript w calls).flatMap (FileCall.poured k)) := by
  induction calls generalizing w bytes with
  | nil => simpa [transcript] using h
  | cons call rest ih =>
    rw [transcript, List.flatMap_cons, ← List.append_assoc]
    exact ih (carries_perform h m call)

private theorem carries_after_renew (m : FileAccess) (start : Workspace) (calls : List FileCall)
    (k : Nat) :
    Carries ((m.after start.renew calls).index.get? k)
      (FileObject.drafted (m.transcript start.renew calls) (.produced k)) := by
  have bare : Carries (start.renew.index.get? k) [] := .absent
  exact carries_after bare m calls

private theorem openStream_produced_ok {stream : Stream}
    (opened : m.openStream w (.produced k) = (.ok stream, v)) :
    stream = .artifact k ∧
      ∀ u a, u.index.get? k = some a → m.read u (.produced k) = a.read := by
  induction m with
  | standard => cases opened
  | forwarding delegate ih => exact ih opened
  | «virtual» delegate reserved ih =>
    obtain ⟨a, b, -, acted, -⟩ := Activity.onArtifact_eq_ok opened
    obtain ⟨c, -, same⟩ := Activity.ok_of_map acted
    cases same
    exact ⟨rfl, fun u c found => by simp only [read, found]⟩

private theorem openStream_stored (m : FileAccess) (w : Workspace) (a : Artifact) :
    ∃ failure, m.openStream w (.stored a) = (.error failure, w) := by
  induction m with
  | standard => exact ⟨_, rfl⟩
  | forwarding delegate ih => exact ih
  | «virtual» delegate reserved => exact ⟨_, rfl⟩

private theorem openStream_unknown (m : FileAccess) (w : Workspace) (label : String) :
    ∃ failure, m.openStream w (.unknown label) = (.error failure, w) := by
  induction m with
  | standard => exact ⟨_, rfl⟩
  | forwarding delegate ih => exact ih
  | «virtual» delegate reserved ih => exact ih

end FileAccess

namespace Activity

open Artifact (Carries)

variable {m : FileAccess} {w v : Workspace} {k : Nat} {bytes : Bytes}

private theorem carries_writeAll (h : Carries (w.index.get? k) bytes) {chunks : List Bytes}
    (wrote : (writeAll (.artifact k) (chunks.map some)).run m w = (.ok (), v)) :
    Carries (v.index.get? k) (bytes ++ chunks.flatten) := by
  induction chunks generalizing w bytes with
  | nil =>
    cases wrote
    simpa using h
  | cons chunk chunks ih =>
    rw [List.map_cons] at wrote
    obtain ⟨count, u, once, others⟩ := run_writeAll_cons_ok wrote
    have kept := FileAccess.carries_writeStream h (.artifact k) (some chunk)
    rw [once] at kept
    rw [List.flatten_cons, ← List.append_assoc]
    exact ih (by simpa [FileCall.poured, FileReply.ofExcept] using kept) others

private theorem read_of_writeArtifact (h : Carries (w.index.get? k) bytes) {chunks : List Bytes}
    {result : FileObject}
    (wrote : (writeArtifact (.produced k) (chunks.map some)).run m w = (.ok result, v)) :
    m.read v (.produced k) = .ok (bytes ++ chunks.flatten) := by
  obtain ⟨-, stream, u, x, opened, all, ended⟩ := run_writeArtifact_ok wrote
  obtain ⟨rfl, reads⟩ := FileAccess.openStream_produced_ok opened
  have begun : Carries (u.index.get? k) bytes := by
    have kept := FileAccess.carries_openStream h m (.produced k)
    rwa [opened] at kept
  have filled := carries_writeAll begun all
  obtain ⟨a, b, found, acted, rfl⟩ := onArtifact_eq_ok ended
  rw [found] at filled
  obtain ⟨c, closed, same⟩ := ok_of_map acted
  cases same
  rw [reads _ _ (PackageIndex.get?_update found _)]
  exact (filled.close closed).read

private theorem exists_calls_writeAll (m : FileAccess) (stream : Stream) (payload : List Payload)
    (w : Workspace) :
    ∃ row, row <+: payload.map (FileCall.write stream) ∧
      ((writeAll stream payload).run m w).2 = m.after w row ∧
      (((writeAll stream payload).run m w).1 = .ok () →
        row = payload.map (FileCall.write stream)) := by
  induction payload generalizing w with
  | nil => exact ⟨[], List.prefix_refl _, rfl, fun _ => rfl⟩
  | cons piece rest ih =>
    rw [writeAll, run]
    rcases once : FileAccess.writeStream w stream piece with ⟨failure | count, u⟩
    · refine ⟨[.write stream piece], by simp, ?_, fun returned => ?_⟩
      · simp [FileAccess.perform, once, run_andThen]
      · simp [run_andThen] at returned
    · obtain ⟨row, front, reached, whole⟩ := ih u
      simp only [run_andThen, run_ofAnswer, goOn_ok]
      refine ⟨.write stream piece :: row, List.cons_prefix_cons.2 ⟨rfl, front⟩, ?_, fun returned => ?_⟩
      · simp [reached, FileAccess.perform, once]
      · rw [whole returned, List.map_cons]

private theorem exists_calls_writeArtifact (m : FileAccess) (object : FileObject)
    (payload : List Payload) (w : Workspace) :
    ∃ stream row, row <+: FileCall.ofWrite object stream payload ∧
      ((writeArtifact object payload).run m w).2 = m.after w row := by
  rcases opened : m.openStream w object with ⟨failure | stream, u⟩
  · refine ⟨.artifact 0, [.openStream object], by simp [FileCall.ofWrite], ?_⟩
    simp [writeArtifact, run, opened, run_andThen, FileAccess.perform]
  · obtain ⟨row, front, reached, whole⟩ := exists_calls_writeAll m stream payload u
    rcases all : (writeAll stream payload).run m u with ⟨failure | ⟨⟩, x⟩
    · rw [all] at reached
      refine ⟨stream, .openStream object :: row,
        List.cons_prefix_cons.2 ⟨rfl, front.trans (List.prefix_append _ _)⟩, ?_⟩
      simp [writeArtifact, run, opened, run_andThen, all, FileAccess.perform, ← reached]
    · rw [all] at reached whole
      rw [whole rfl] at reached
      refine ⟨stream, FileCall.ofWrite object stream payload, List.prefix_refl _, ?_⟩
      rcases ended : FileAccess.endStream x stream with ⟨failure | ⟨⟩, y⟩ <;>
        simp [writeArtifact, run, opened, run_andThen, all, ended, FileCall.ofWrite,
          FileAccess.after_append, FileAccess.perform, ← reached]

end Activity

namespace FileAccess

/-- After any calls on an access, those of writes that returned or broke among them: a write that
returns commits its payload, on the disk alone, and in memory behind all that earlier streams of the
artifact were brought. Only a file of the disk whose path does not lead below its root may not be read
where it stands: when its root is a file afterwards, it is looked for in there. -/
theorem payload_is_committed_behind_drafts (m : FileAccess) (start : Workspace)
    (calls : List FileCall) (object : FileObject) (payload : List Payload) :
    let write := (Activity.writeArtifact object payload).run m (m.after start.renew calls)
    (∃ stream row, row <+: FileCall.ofWrite object stream payload ∧
      write.2 = m.after start.renew (calls ++ row)) ∧
    ∀ result, write.1 = .ok result → result = object ∧
      ∃ chunks : List Bytes, payload = chunks.map some ∧
        (object.isReadInPlace write.2.disk = true → m.read write.2 object =
          .ok (object.drafted (m.transcript start.renew calls) ++ chunks.flatten)) ∧
        (object.isReadInPlace write.2.disk = false → object.leavesRoot = true ∧
          ∀ content, m.read write.2 object = .ok content →
            object.packedAs write.2.disk content) := by
  intro write
  constructor
  · obtain ⟨stream, row, front, reached⟩ :=
      Activity.exists_calls_writeArtifact m object payload (m.after start.renew calls)
    exact ⟨stream, row, front, by rw [reached, after_append]⟩
  · intro result returned
    have wrote : (Activity.writeArtifact object payload).run m (m.after start.renew calls) =
        (.ok result, write.2) := Prod.ext returned rfl
    obtain ⟨rfl, stream, u, x, opened, all, -⟩ := Activity.run_writeArtifact_ok wrote
    obtain ⟨chunks, rfl⟩ := Activity.exists_chunks all
    refine ⟨rfl, chunks, rfl, ?_⟩
    cases result with
    | disk f =>
      obtain ⟨-, outside, -, spot, written⟩ := Activity.run_writeArtifact_disk wrote
      rw [read_disk m]
      refine ⟨fun inPlace => ?_, fun apart => ?_⟩
      · exact DiskFile.read_of_written (of_decide_eq_true inPlace) written
      · have apart := of_decide_eq_false apart
        exact ⟨DiskFile.leavesRoot_of_written outside written apart,
          fun content reads => DiskFile.packed_of_read apart reads⟩
    | produced k =>
      exact ⟨fun _ => Activity.read_of_writeArtifact (carries_after_renew m start calls k) wrote,
        nofun⟩
    | stored artifact =>
      obtain ⟨failure, refused⟩ := openStream_stored m (m.after start.renew calls) artifact
      rw [refused] at opened
      cases opened
    | unknown label =>
      obtain ⟨failure, refused⟩ := openStream_unknown m (m.after start.renew calls) label
      rw [refused] at opened
      cases opened

/-- A write to a source of the disk breaks behind its first piece; the next one replaces it. -/
theorem payload_replaces_broken_write :
    let start : Workspace := { Workspace.start ⟨[(["lib"], .directory)], []⟩ (.empty ⟨0, []⟩) with
      locations := LocationTable.empty.set .classOutput [.ofString "lib"] }
    let file := DiskFile.ofUnit (.ofString "lib") "Page" .source
    let w := FileAccess.standard.after start.renew
      [.output .classOutput "Page" .source, .openStream (.disk file),
        .write (.file file.target) (some [1]), .write (.file file.target) none]
    let write := (Activity.writeArtifact (.disk file) [some [2], some [3]]).run .standard w
    FileAccess.standard.read w (.disk file) = .ok [1] ∧ write.1 = .ok (.disk file) ∧
      FileAccess.standard.read write.2 (.disk file) = .ok [2, 3] := by
  intro start file w write
  have returned : write.1 = .ok (.disk file) := by decide +kernel
  obtain ⟨-, chunks, split, reads⟩ := (payload_is_committed_behind_drafts .standard start
    [.output .classOutput "Page" .source, .openStream (.disk file),
      .write (.file file.target) (some [1]), .write (.file file.target) none]
    (.disk file) [some [2], some [3]]).2 _ returned
  obtain rfl : chunks = [[2], [3]] :=
    List.map_injective_iff.2 (fun _ _ => Option.some.inj) split.symm
  refine ⟨by decide +kernel, returned, reads.1 ?_⟩
  decide +kernel

/-- A write to an artifact breaks behind its first piece, and the next one commits this piece in
front of its own; the byte of a stream that was left behind is committed in the same way. -/
theorem earlier_pieces_are_committed :
    let m : FileAccess := .virtual .standard "generated"
    let start := Workspace.start ⟨[], []⟩ (.empty ⟨0, []⟩)
    let requested := m.after start.renew [.output .classOutput "generated.A" .compiled]
    let write (payload : List Payload) (w : Workspace) :=
      (Activity.writeArtifact (.produced 0) payload).run m w
    let broken := write [some [97], none] requested
    let left := m.after requested [.openStream (.produced 0), .write (.artifact 0) (some [97])]
    broken.1 = .error .noBytes ∧
      (write [some [98]] broken.2).1 = .ok (.produced 0) ∧
      m.read (write [some [98]] broken.2).2 (.produced 0) = .ok [97, 98] ∧
      (write [some [98]] left).1 = .ok (.produced 0) ∧
      m.read (write [some [98]] left).2 (.produced 0) = .ok [97, 98] ∧
      m.read (write [some [98]] requested).2 (.produced 0) = .ok [98] := by
  decide +kernel

end FileAccess

end PagePress
