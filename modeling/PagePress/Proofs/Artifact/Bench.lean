import Mathlib.Data.List.Induction
import PagePress.Artifact.Index

/-!
Any number of artifacts and of the writers that were handed out for them, and calls on them in any
order. Every writer of an artifact is the same one, and the transcript of the calls tells what it
holds: an artifact that was not sealed has in its buffer what was written to it so far, and one that
was sealed has what was written before the seal, for good.
-/

set_option autoImplicit false

namespace PagePress

namespace Artifact

/-- An artifact that was not sealed, with what was written to it so far. -/
structure Pending (a : Artifact) (bytes : Bytes) : Prop where
  content_eq : a.content = none
  writer_eq : a.writerOrNew = ⟨bytes, false⟩

structure Published (a : Artifact) (bytes : Bytes) : Prop where
  content_eq : a.content = some bytes
  writer_eq : a.writerOrNew = ⟨[], true⟩

variable {a : Artifact} {bytes : Bytes}

theorem pending_create (name : String) (kind : Kind) (uri : String) :
    (create name kind uri).Pending [] := ⟨rfl, rfl⟩

namespace Pending

private theorem read (h : a.Pending bytes) : a.read = .error (.notReady a.name) := by
  simp [Artifact.read, h.content_eq]

theorem openWriter (h : a.Pending bytes) :
    ∃ b, a.openWriter = .ok b ∧ b.name = a.name ∧ b.Pending bytes := by
  have unsealed : a.isSealed = false := by simp [isSealed, h.content_eq]
  have buffer := h.writer_eq
  cases opened : a.writer with
  | some w =>
    exact ⟨a, by simp [Artifact.openWriter, unsealed, opened], rfl, h⟩
  | none =>
    refine ⟨{ a with writer := some ⟨[], false⟩ }, by simp [Artifact.openWriter, unsealed, opened],
      rfl, h.content_eq, ?_⟩
    simpa [writerOrNew, opened] using buffer

theorem write_some (h : a.Pending bytes) (payload : Bytes) :
    ∃ b, a.write (some payload) = .ok (payload.length, b) ∧ b.name = a.name ∧
      b.Pending (bytes ++ payload) :=
  ⟨{ a with writer := some ⟨bytes ++ payload, false⟩ }, by simp [Artifact.write, h.writer_eq], rfl,
    h.content_eq, rfl⟩

theorem write_none (h : a.Pending bytes) : a.write none = .error .noBytes := by
  simp [Artifact.write, h.writer_eq]

theorem close_empty (h : a.Pending []) : a.close = .error (.adapter (.sealedEmpty a.name)) := by
  simp [close, h.writer_eq]

theorem close (h : a.Pending bytes) (filled : bytes ≠ []) :
    ∃ b, a.close = .ok b ∧ b.name = a.name ∧ b.Published bytes := by
  refine ⟨{ a with writer := some ⟨[], true⟩, content := some bytes }, ?_, rfl, rfl, rfl⟩
  simp [Artifact.close, h.writer_eq, filled, commit, isSealed, h.content_eq]

end Pending

namespace Published

theorem read (h : a.Published bytes) : a.read = .ok bytes := by
  simp [Artifact.read, h.content_eq]

theorem openWriter (h : a.Published bytes) :
    a.openWriter = .error (.adapter (.alreadySealed a.name)) := by
  simp [Artifact.openWriter, isSealed, h.content_eq]

theorem write (h : a.Published bytes) (payload : Payload) :
    a.write payload = .error (.adapter (.writeAfterSeal a.name)) := by
  simp [Artifact.write, h.writer_eq]

theorem close (h : a.Published bytes) : a.close = .error (.adapter (.sealedTwice a.name)) := by
  simp [Artifact.close, h.writer_eq]

end Published

end Artifact

/-- Artifacts, and for each writer that was handed out the position of its artifact. -/
structure Bench where
  index : PackageIndex
  writers : List Nat
  deriving DecidableEq, Repr

namespace Bench

/-- What can be asked of a bench; artifacts are known by position, writers by the order in which
they were handed out. -/
inductive Call
  | create (name : String) (kind : Kind) (uri : String)
  | openWriter (position : Nat)
  | write (writer : Nat) (payload : Payload)
  | close (writer : Nat)
  | read (position : Nat)
  deriving DecidableEq, Repr

/-- What a call gives: an artifact or a writer, the length of what was written, a content, or a
failure; `absent` when there is no such artifact or writer. -/
inductive Answer
  | artifact (position : Nat)
  | writer (number : Nat)
  | count (length : Nat)
  | content (bytes : Bytes)
  | refused (failure : Failure)
  | absent
  deriving DecidableEq, Repr

def empty : Bench := ⟨.empty, []⟩

def held? (b : Bench) (writer : Nat) : Option (Nat × Artifact) :=
  (b.writers[writer]?).bind fun position => (b.index.get? position).map fun a => (position, a)

def step (b : Bench) : Call → Answer × Bench
  | .create name kind uri =>
    (.artifact b.index.size, { b with index := b.index.register (.create name kind uri) })
  | .openWriter position =>
    match b.index.get? position with
    | none => (.absent, b)
    | some a =>
      match a.openWriter with
      | .error failure => (.refused failure, b)
      | .ok a => (.writer b.writers.length, ⟨b.index.update position a, b.writers ++ [position]⟩)
  | .write writer payload =>
    match b.held? writer with
    | none => (.absent, b)
    | some (position, a) =>
      match a.write payload with
      | .error failure => (.refused failure, b)
      | .ok (count, a) => (.count count, { b with index := b.index.update position a })
  | .close writer =>
    match b.held? writer with
    | none => (.absent, b)
    | some (position, a) =>
      match a.close with
      | .error failure => (.refused failure, b)
      | .ok a => (.artifact position, { b with index := b.index.update position a })
  | .read position =>
    match b.index.get? position with
    | none => (.absent, b)
    | some a =>
      match a.read with
      | .error failure => (.refused failure, b)
      | .ok bytes => (.content bytes, b)

/-- The position of the artifact that a call is about; an artifact that a call makes has none yet. -/
def subject? (b : Bench) : Call → Option Nat
  | .create .. => none
  | .openWriter position | .read position => some position
  | .write writer _ | .close writer => b.writers[writer]?

/-- A call that was made, the artifact that it was about, and what it gave. -/
structure Deed where
  subject : Option Nat
  call : Call
  answer : Answer
  deriving DecidableEq, Repr

def deed (b : Bench) (call : Call) : Deed := ⟨b.subject? call, call, (b.step call).1⟩

def after (calls : List Call) : Bench := calls.foldl (fun b call => (b.step call).2) empty

def transcriptFrom (b : Bench) : List Call → List Deed
  | [] => []
  | call :: rest => b.deed call :: transcriptFrom (b.step call).2 rest

def transcript (calls : List Call) : List Deed := transcriptFrom empty calls

/-- The bytes that a deed wrote to the artifact at a position. -/
def Deed.poured (k : Nat) (e : Deed) : Bytes :=
  match e.call, e.answer with
  | .write _ (some bytes), .count _ => if e.subject = some k then bytes else []
  | _, _ => []

def poured (k : Nat) (log : List Deed) : Bytes := log.flatMap (Deed.poured k)

/-- Whether a deed is a seal of the artifact at a position, and one that succeeded. -/
def Deed.seals (k : Nat) (e : Deed) : Bool :=
  match e.call, e.answer with
  | .close _, .artifact _ => e.subject == some k
  | _, _ => false

/-- The artifact at a position is not readable, and its writer takes bytes; a seal succeeds exactly
when there are some, and publishes them. -/
structure Awaits (b : Bench) (k : Nat) (a : Artifact) (bytes : Bytes) : Prop where
  reads : b.step (.read k) = (.refused (.notReady a.name), b)
  opens : (b.step (.openWriter k)).1 = .writer b.writers.length ∧
    (b.step (.openWriter k)).2.writers = b.writers ++ [k]
  takes : ∀ writer payload, b.writers[writer]? = some k →
    (b.step (.write writer (some payload))).1 = .count payload.length
  ignores : ∀ writer, b.writers[writer]? = some k →
    b.step (.write writer none) = (.refused .noBytes, b)
  refuses : bytes = [] → ∀ writer, b.writers[writer]? = some k →
    b.step (.close writer) = (.refused (.adapter (.sealedEmpty a.name)), b)
  publishes : bytes ≠ [] → ∀ writer, b.writers[writer]? = some k →
    (b.step (.close writer)).1 = .artifact k ∧
      ((b.step (.close writer)).2.step (.read k)).1 = .content bytes

/-- The artifact at a position has a content, and its writer takes nothing any more. -/
structure Holds (b : Bench) (k : Nat) (a : Artifact) (bytes : Bytes) : Prop where
  reads : b.step (.read k) = (.content bytes, b)
  opens : b.step (.openWriter k) = (.refused (.adapter (.alreadySealed a.name)), b)
  writes : ∀ writer payload, b.writers[writer]? = some k →
    b.step (.write writer payload) = (.refused (.adapter (.writeAfterSeal a.name)), b)
  seals : ∀ writer, b.writers[writer]? = some k →
    b.step (.close writer) = (.refused (.adapter (.sealedTwice a.name)), b)

/-- The state of an artifact that a transcript tells. -/
inductive Standing (log : List Deed) (k : Nat) (a : Artifact) : Prop
  | pending (unsealed : ∀ e ∈ log, ¬ e.seals k) (state : a.Pending (poured k log))
  | published (before : List Deed) (e : Deed) (rest : List Deed)
      (split : log = before ++ e :: rest) (sealed : e.seals k)
      (once : ∀ other ∈ before ++ rest, ¬ other.seals k) (filled : poured k before ≠ [])
      (state : a.Published (poured k before))

variable {b : Bench} {k : Nat} {a : Artifact} {bytes : Bytes} {log : List Deed}

private theorem held?_eq_some_iff {writer : Nat} :
    b.held? writer = some (k, a) ↔ b.writers[writer]? = some k ∧ b.index.get? k = some a := by
  simp only [held?, Option.bind_eq_some_iff, Option.map_eq_some_iff, Prod.mk.injEq]
  constructor
  · rintro ⟨_, given, _, found, rfl, rfl⟩
    exact ⟨given, found⟩
  · rintro ⟨given, found⟩
    exact ⟨k, given, a, found, rfl, rfl⟩

private theorem held?_eq (found : b.index.get? k = some a) {writer : Nat}
    (given : b.writers[writer]? = some k) : b.held? writer = some (k, a) :=
  held?_eq_some_iff.2 ⟨given, found⟩

private theorem awaits_of_pending (found : b.index.get? k = some a) (state : a.Pending bytes) :
    b.Awaits k a bytes where
  reads := by simp [step, found, state.read]
  opens := by
    obtain ⟨c, opened, -, -⟩ := state.openWriter
    simp [step, found, opened]
  takes writer payload given := by
    obtain ⟨c, written, -, -⟩ := state.write_some payload
    simp [step, held?_eq found given, written]
  ignores writer given := by simp [step, held?_eq found given, state.write_none]
  refuses empty writer given := by
    subst empty
    simp [step, held?_eq found given, state.close_empty]
  publishes filled writer given := by
    obtain ⟨c, closed, -, published⟩ := state.close filled
    simp [step, held?_eq found given, closed, PackageIndex.get?_update found, published.read]

private theorem holds_of_published (found : b.index.get? k = some a) (state : a.Published bytes) :
    b.Holds k a bytes where
  reads := by simp [step, found, state.read]
  opens := by simp [step, found, state.openWriter]
  writes writer payload given := by simp [step, held?_eq found given, state.write]
  seals writer given := by simp [step, held?_eq found given, state.close]

private theorem get?_step_of_ne (found : b.index.get? k = some a) {call : Call}
    (apart : b.subject? call ≠ some k) : (b.step call).2.index.get? k = some a := by
  cases call with
  | create name kind uri =>
    exact (PackageIndex.get?_register_of_lt _ (PackageIndex.lt_size_of_get? found)).trans found
  | openWriter position =>
    have apart : position ≠ k := by simpa [subject?] using apart
    simp only [step]
    repeat' split
    all_goals simp [found, PackageIndex.get?_update_of_ne apart]
  | write writer payload =>
    simp only [step]
    split
    · exact found
    · rename_i position c held
      have apart : position ≠ k := fun same => apart (same ▸ (held?_eq_some_iff.1 held).1)
      split <;> simp [found, PackageIndex.get?_update_of_ne apart]
  | close writer =>
    simp only [step]
    split
    · exact found
    · rename_i position c held
      have apart : position ≠ k := fun same => apart (same ▸ (held?_eq_some_iff.1 held).1)
      split <;> simp [found, PackageIndex.get?_update_of_ne apart]
  | read position =>
    simp only [step]
    repeat' split
    all_goals exact found

def Deed.IsQuiet (k : Nat) (e : Deed) : Prop := e.poured k = [] ∧ ¬ e.seals k

private theorem poured_append (k : Nat) (log rest : List Deed) :
    poured k (log ++ rest) = poured k log ++ poured k rest := List.flatMap_append

private theorem Deed.isQuiet_of_subject_ne {e : Deed} (apart : e.subject ≠ some k) :
    e.IsQuiet k := by
  constructor
  · simp only [Deed.poured]
    split
    · exact if_neg apart
    · rfl
  · simp only [Deed.seals]
    split <;> simp [apart]

private theorem Deed.isQuiet_of_answer {e : Deed} (uncounted : ∀ n, e.answer ≠ .count n)
    (unsealed : ∀ position, e.answer ≠ .artifact position) : e.IsQuiet k := by
  constructor
  · simp only [Deed.poured]
    split
    · rename_i counted
      exact absurd counted (uncounted _)
    · rfl
  · simp only [Deed.seals]
    split
    · rename_i given
      exact absurd given (unsealed _)
    · simp

private theorem Standing.extend (h : Standing log k a) {e : Deed} (quiet : e.IsQuiet k) :
    Standing (log ++ [e]) k a := by
  obtain ⟨nothing, unsealing⟩ := quiet
  cases h with
  | pending unsealed state =>
    refine .pending ?_ (by simpa [poured, nothing] using state)
    intro other mem
    rcases List.mem_append.1 mem with mem | mem
    · exact unsealed other mem
    · exact List.mem_singleton.1 mem ▸ unsealing
  | published before closing rest split sealed once filled state =>
    refine .published before closing (rest ++ [e]) (by simp [split]) sealed ?_ filled state
    intro other mem
    rcases List.mem_append.1 (List.append_assoc before rest [e] ▸ mem) with mem | mem
    · exact once other mem
    · exact List.mem_singleton.1 mem ▸ unsealing

private theorem quiet_of_refused {call : Call} {failure : Failure}
    (refused : b.step call = (.refused failure, b)) :
    (b.step call).2 = b ∧ (b.deed call).IsQuiet k := by
  have answer : (b.deed call).answer = .refused failure := congrArg Prod.fst refused
  exact ⟨congrArg Prod.snd refused,
    Deed.isQuiet_of_answer (by simp [answer]) (by simp [answer])⟩

private theorem quiet_of_content {call : Call} {content : Bytes}
    (read : b.step call = (.content content, b)) :
    (b.step call).2 = b ∧ (b.deed call).IsQuiet k := by
  have answer : (b.deed call).answer = .content content := congrArg Prod.fst read
  exact ⟨congrArg Prod.snd read, Deed.isQuiet_of_answer (by simp [answer]) (by simp [answer])⟩

private theorem quiet_of_holds (h : b.Holds k a bytes) {call : Call}
    (about : b.subject? call = some k) :
    (b.step call).2 = b ∧ (b.deed call).IsQuiet k := by
  cases call with
  | create name kind uri => cases about
  | openWriter position =>
    obtain rfl : position = k := by simpa [subject?] using about
    exact quiet_of_refused h.opens
  | write writer payload => exact quiet_of_refused (h.writes writer payload about)
  | close writer => exact quiet_of_refused (h.seals writer about)
  | read position =>
    obtain rfl : position = k := by simpa [subject?] using about
    exact quiet_of_content h.reads

private theorem standing_step_of_pending (found : b.index.get? k = some a)
    (unsealed : ∀ e ∈ log, ¬ e.seals k) (state : a.Pending (poured k log)) {call : Call}
    (about : b.subject? call = some k) :
    ∃ c, (b.step call).2.index.get? k = some c ∧ Standing (log ++ [b.deed call]) k c := by
  have awaits := awaits_of_pending found state
  cases call with
  | create name kind uri => cases about
  | openWriter position =>
    obtain rfl : position = k := by simpa [subject?] using about
    obtain ⟨c, opened, -, later⟩ := state.openWriter
    refine ⟨c, by simp [step, found, opened, PackageIndex.get?_update found], ?_⟩
    refine (Standing.pending unsealed later).extend (Deed.isQuiet_of_answer ?_ ?_) <;>
      simp [deed, awaits.opens.1]
  | write writer payload =>
    cases payload with
    | none =>
      obtain ⟨same, quiet⟩ := quiet_of_refused (awaits.ignores writer about)
      exact ⟨a, by rw [same]; exact found, (Standing.pending unsealed state).extend quiet⟩
    | some payload =>
      obtain ⟨c, written, -, later⟩ := state.write_some payload
      refine ⟨c, by simp [step, held?_eq found about, written, PackageIndex.get?_update found], ?_⟩
      refine .pending ?_ ?_
      · intro other mem
        rcases List.mem_append.1 mem with mem | mem
        · exact unsealed other mem
        · simp [List.mem_singleton.1 mem, Deed.seals, deed]
      · have added : (b.deed (.write writer (some payload))).poured k = payload := by
          simp [Deed.poured, deed, awaits.takes writer payload about, about]
        simpa [poured_append, poured, added] using later
  | close writer =>
    by_cases empty : poured k log = []
    · obtain ⟨same, quiet⟩ := quiet_of_refused (awaits.refuses empty writer about)
      exact ⟨a, by rw [same]; exact found, (Standing.pending unsealed state).extend quiet⟩
    · obtain ⟨c, closed, -, later⟩ := state.close empty
      refine ⟨c, by simp [step, held?_eq found about, closed, PackageIndex.get?_update found], ?_⟩
      refine .published log _ [] rfl ?_ (by simpa using unsealed) empty later
      simp [Deed.seals, deed, (awaits.publishes empty writer about).1, about]
  | read position =>
    obtain rfl : position = k := by simpa [subject?] using about
    obtain ⟨same, quiet⟩ := quiet_of_refused awaits.reads
    exact ⟨a, by rw [same]; exact found, (Standing.pending unsealed state).extend quiet⟩

private theorem standing_step (found : b.index.get? k = some a) (h : Standing log k a)
    (call : Call) :
    ∃ c, (b.step call).2.index.get? k = some c ∧ Standing (log ++ [b.deed call]) k c := by
  by_cases about : b.subject? call = some k
  · cases h with
    | pending unsealed state => exact standing_step_of_pending found unsealed state about
    | published before closing rest split sealed once filled state =>
      obtain ⟨same, quiet⟩ := quiet_of_holds (holds_of_published found state) about
      exact ⟨a, by rw [same]; exact found,
        (Standing.published before closing rest split sealed once filled state).extend quiet⟩
  · exact ⟨a, get?_step_of_ne found about, h.extend (Deed.isQuiet_of_subject_ne about)⟩

/-- A transcript tells the state of every artifact, and nothing of others. -/
structure Told (b : Bench) (log : List Deed) : Prop where
  present : ∀ k a, b.index.get? k = some a → Standing log k a
  absent : ∀ k, b.index.get? k = none → ∀ e ∈ log, e.IsQuiet k

private theorem isQuiet_deed_of_none (missing : b.index.get? k = none) (call : Call) :
    (b.deed call).IsQuiet k := by
  by_cases about : b.subject? call = some k
  · have absent : (b.deed call).answer = .absent := by
      cases call with
      | create name kind uri => cases about
      | openWriter position | read position =>
        obtain rfl : position = k := by simpa [subject?] using about
        simp [deed, step, missing]
      | write writer payload | close writer =>
        have about : b.writers[writer]? = some k := about
        simp [deed, step, held?, about, missing]
    exact Deed.isQuiet_of_answer (by simp [absent]) (by simp [absent])
  · exact Deed.isQuiet_of_subject_ne about

private theorem get?_step_of_none (missing : b.index.get? k = none) (call : Call) :
    (b.step call).2.index.get? k = none ∨
      ∃ name kind uri, (b.step call).2.index.get? k = some (.create name kind uri) := by
  have beyond := PackageIndex.get?_eq_none_iff.1 missing
  have updated (i : Nat) (c : Artifact) : (b.index.update i c).get? k = none := by
    rwa [PackageIndex.get?_eq_none_iff, PackageIndex.size_update]
  cases call with
  | create name kind uri =>
    rcases Nat.eq_or_lt_of_le beyond with rfl | further
    · exact .inr ⟨name, kind, uri, PackageIndex.get?_register_size _ _⟩
    · left
      rw [step, PackageIndex.get?_eq_none_iff, PackageIndex.size_register]
      exact further
  | openWriter position | write writer payload | close writer | read position =>
    left
    simp only [step]
    repeat' split
    all_goals first | exact missing | exact updated _ _

private theorem Told.step (h : b.Told log) (call : Call) :
    (b.step call).2.Told (log ++ [b.deed call]) where
  present k a found := by
    cases before : b.index.get? k with
    | some c =>
      obtain ⟨d, later, standing⟩ := standing_step before (h.present k c before) call
      exact Option.some.inj (found.symm.trans later) ▸ standing
    | none =>
      have quiet : ∀ e ∈ log, e.IsQuiet k := h.absent k before
      rcases get?_step_of_none before call with still | ⟨name, kind, uri, made⟩
      · rw [still] at found
        cases found
      · obtain rfl : a = .create name kind uri := Option.some.inj (found.symm.trans made)
        -- what a transcript says of a position before its artifact is there is no write and no seal
        have nothing : poured k log = [] := List.flatMap_eq_nil_iff.2 fun e mem => (quiet e mem).1
        exact (Standing.pending (fun e mem => (quiet e mem).2)
          (nothing ▸ Artifact.pending_create name kind uri)).extend (isQuiet_deed_of_none before call)
  absent k missing e mem := by
    cases before : b.index.get? k with
    | some c =>
      obtain ⟨d, later, -⟩ := standing_step before (h.present k c before) call
      rw [missing] at later
      cases later
    | none =>
      rcases List.mem_append.1 mem with mem | mem
      · exact h.absent k before e mem
      · exact List.mem_singleton.1 mem ▸ isQuiet_deed_of_none before call

private theorem transcriptFrom_append (b : Bench) (calls : List Call) (call : Call) :
    transcriptFrom b (calls ++ [call]) = transcriptFrom b calls ++
      [(calls.foldl (fun b call => (b.step call).2) b).deed call] := by
  induction calls generalizing b with
  | nil => rfl
  | cons first rest ih => simp [transcriptFrom, ih]

private theorem told_after (calls : List Call) : (after calls).Told (transcript calls) := by
  -- from the last call back, since a transcript grows at its end
  induction calls using List.reverseRecOn with
  | nil =>
    constructor
    · intro k a found
      simp [after, empty, PackageIndex.empty, PackageIndex.get?] at found
    · intro k _ e mem
      cases mem
  | append_singleton calls call ih =>
    have later : after (calls ++ [call]) = ((after calls).step call).2 := by simp [after]
    have longer : transcript (calls ++ [call]) = transcript calls ++ [(after calls).deed call] :=
      transcriptFrom_append empty calls call
    rw [later, longer]
    exact ih.step call

/-- What a transcript says about one artifact: it is not readable before a seal of its writer, an
empty seal changes nothing, a seal publishes all that was written through any writer before it, and
after a seal nothing can be changed; calls about other artifacts leave it as it is, and no seal finds
a content. -/
structure PublishesOnce (b : Bench) (log : List Deed) (k : Nat) (a : Artifact) : Prop where
  unsealed : (∀ e ∈ log, ¬ e.seals k) → b.Awaits k a (poured k log)
  sealed : ∀ before e rest, log = before ++ e :: rest → e.seals k →
    poured k before ≠ [] ∧ (∀ other ∈ before ++ rest, ¬ other.seals k) ∧
      b.Holds k a (poured k before)
  apart : ∀ call, b.subject? call ≠ some k → (b.step call).2.index.get? k = some a
  unguarded : ∀ writer name, b.writers[writer]? = some k →
    (b.step (.close writer)).1 ≠ .refused (.adapter (.alreadySealed name))

private theorem split_unique {before rest before' rest' : List Deed} {e e' : Deed}
    (same : before ++ e :: rest = before' ++ e' :: rest') (sealed : e'.seals k)
    (once : ∀ other ∈ before ++ rest, ¬ other.seals k) : before' = before ∧ rest' = rest := by
  induction before generalizing before' with
  | nil =>
    cases before' with
    | nil =>
      cases same
      exact ⟨rfl, rfl⟩
    | cons first others =>
      obtain ⟨-, rfl⟩ := List.cons.inj same
      exact absurd sealed (once e' (by simp))
  | cons first others ih =>
    cases before' with
    | nil =>
      obtain ⟨rfl, -⟩ := List.cons.inj same
      exact absurd sealed (once first (by simp))
    | cons first' others' =>
      obtain ⟨rfl, tails⟩ := List.cons.inj same
      obtain ⟨rfl, rfl⟩ := ih tails fun other mem => once other (List.mem_cons_of_mem _ mem)
      exact ⟨rfl, rfl⟩

/-- Whatever is asked of any number of artifacts and writers, in any order: each artifact is
published once, by the first seal of its writer that finds bytes. -/
theorem artifacts_publish_once (calls : List Call) (k : Nat) (a : Artifact)
    (found : (after calls).index.get? k = some a) :
    (after calls).PublishesOnce (transcript calls) k a := by
  cases (told_after calls).present k a found with
  | pending unsealed state =>
    have awaits := awaits_of_pending found state
    refine ⟨fun _ => awaits, ?_, fun call apart => get?_step_of_ne found apart, ?_⟩
    · intro before e rest split sealed
      exact absurd sealed (unsealed e (by simp [split]))
    · intro writer name given
      by_cases empty : poured k (transcript calls) = []
      · simp [awaits.refuses empty writer given]
      · simp [(awaits.publishes empty writer given).1]
  | published before e rest split sealed once filled state =>
    have holds := holds_of_published found state
    refine ⟨fun unsealed => absurd sealed (unsealed e (by simp [split])), ?_,
      fun call apart => get?_step_of_ne found apart, ?_⟩
    · intro before' e' rest' split' sealed'
      obtain ⟨rfl, rfl⟩ := split_unique (split.symm.trans split') sealed' once
      exact ⟨filled, once, holds⟩
    · intro writer name given
      simp [holds.seals writer given]

/-- Two artifacts with three writers in turn: the first is published with what two of its writers
wrote, after an empty seal; the second still waits. -/
def twoArtifacts : List Call :=
  [.create "pages.Home" .compiled "", .create "pages.Menu" .compiled "", .openWriter 0,
    .openWriter 0, .close 1, .openWriter 1, .write 0 (some [1, 2]), .write 2 (some [7]),
    .write 1 (some [3]), .close 1, .write 0 (some [4]), .close 0]

theorem two_artifacts_publish_apart :
    (∃ a, (after twoArtifacts).index.get? 0 = some a ∧ (after twoArtifacts).Holds 0 a [1, 2, 3]) ∧
      ∃ a, (after twoArtifacts).index.get? 1 = some a ∧ (after twoArtifacts).Awaits 1 a [7] := by
  constructor
  · refine ⟨⟨"pages.Home", .compiled, "mem:///pages/Home.pyc", some [1, 2, 3], some ⟨[], true⟩⟩,
      by decide +kernel, ?_⟩
    exact ((artifacts_publish_once twoArtifacts 0 _ (by decide +kernel)).sealed
      ((transcript twoArtifacts).take 9) ⟨some 0, .close 1, .artifact 0⟩
      ((transcript twoArtifacts).drop 10) (by decide +kernel) (by decide +kernel)).2.2
  · refine ⟨⟨"pages.Menu", .compiled, "mem:///pages/Menu.pyc", none, some ⟨[7], false⟩⟩,
      by decide +kernel, ?_⟩
    exact (artifacts_publish_once twoArtifacts 1 _ (by decide +kernel)).unsealed (by decide +kernel)

end Bench

end PagePress
