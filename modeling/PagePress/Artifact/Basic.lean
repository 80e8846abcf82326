import PagePress.Bytes
import PagePress.Failure
import PagePress.Name

/-!
Artifacts and their writers. An artifact has one writer, however often it is asked for; what is
written becomes readable only when the writer is sealed, all at once, and then stays as it is.
-/

set_option autoImplicit false

namespace PagePress

inductive Kind
  | source
  | compiled
  | other
  deriving DecidableEq, Repr

def Kind.suffix : Kind → String
  | .source => ".py"
  | .compiled => ".pyc"
  | .other => ""

def Kind.name : Kind → String
  | .source => "SOURCE"
  | .compiled => "CLASS"
  | .other => "OTHER"

def Kind.ofName? (name : String) : Option Kind :=
  [Kind.source, .compiled, .other].find? fun kind => kind.name == name

/-- A buffer for the bytes of an artifact, and whether it was sealed. -/
structure Writer where
  buffer : Bytes
  isSealed : Bool
  deriving DecidableEq, Repr

/-- The output for one name: its content, once there is one, and its writer, once it was asked
for. -/
structure Artifact where
  name : String
  kind : Kind
  uri : String
  content : Option Bytes
  writer : Option Writer
  deriving DecidableEq, Repr

namespace Artifact

def memoryUri (name : String) (kind : Kind) : String :=
  "mem:///" ++ Name.slashed name ++ kind.suffix

/-- An artifact without content; an empty address counts as none. -/
def create (name : String) (kind : Kind) (uri : String) : Artifact :=
  ⟨name, kind, if uri = "" then memoryUri name kind else uri, none, none⟩

/-- An artifact around a content that stays. -/
def ofContent (name : String) (kind : Kind) (content : Bytes) : Artifact :=
  { create name kind "" with content := some content }

def package (a : Artifact) : String := Name.packageOf a.name

def isSealed (a : Artifact) : Bool := a.content.isSome

def read (a : Artifact) : Except Failure Bytes :=
  match a.content with
  | none => .error (.notReady a.name)
  | some content => .ok content

def openWriter (a : Artifact) : Except Failure Artifact :=
  if a.isSealed then .error (.adapter (.alreadySealed a.name))
  else
    match a.writer with
    | some _ => .ok a
    | none => .ok { a with writer := some ⟨[], false⟩ }

/-- Gives the artifact its content; one that has a content keeps it. -/
def commit (a : Artifact) (content : Bytes) : Except Failure Artifact :=
  if a.isSealed then .error (.adapter (.alreadySealed a.name))
  else .ok { a with content := some content }

/-- The writer of an artifact, as it is when nobody asked for it yet. -/
def writerOrNew (a : Artifact) : Writer := a.writer.getD ⟨[], false⟩

def write (a : Artifact) (payload : Payload) : Except Failure (Nat × Artifact) :=
  let w := a.writerOrNew
  if w.isSealed then .error (.adapter (.writeAfterSeal a.name))
  else
    match payload with
    | none => .error .noBytes
    | some bytes => .ok (bytes.length, { a with writer := some ⟨w.buffer ++ bytes, false⟩ })

/-- Seals the writer, which gives the artifact all that was written. -/
def close (a : Artifact) : Except Failure Artifact :=
  let w := a.writerOrNew
  if w.isSealed then .error (.adapter (.sealedTwice a.name))
  else if w.buffer.isEmpty then .error (.adapter (.sealedEmpty a.name))
  else ({ a with writer := some ⟨[], true⟩ } : Artifact).commit w.buffer

def shown (a : Artifact) : String :=
  let state :=
    match a.content with
    | some content => toString content.length ++ " bytes"
    | none => "unsealed"
  "CompiledArtifact(" ++ Text.Quoted.quote a.name ++ ", " ++ state ++ ")"

end Artifact

end PagePress
