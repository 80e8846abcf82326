import PagePress.Artifact.Basic
import PagePress.Text.Encoding

/-!
Source units: the generated text of one fully qualified name, in an encoding that can represent it.
-/

set_option autoImplicit false

namespace PagePress

/-- A source text with the name of its unit and of its encoding. -/
structure SourceUnit where
  name : String
  source : String
  encoding : String
  deriving DecidableEq, Repr

namespace SourceUnit

/-- What is lacking is told as a wrong configuration; that an encoding itself breaks is not. -/
def encodeFailure (unit encoding : String) : Text.EncodeFailure → Failure
  | .lacking fault => .configuration (.unencodable unit encoding fault)
  | .broken reason => .brokenEncoding encoding reason

section

variable [Text.Encodings]

/-- The bytes of a text in a named encoding. -/
def encodeAs (unit encoding source : String) : Except Failure Bytes :=
  match Text.EncodingName.of encoding with
  | .unspeakable => .error .nullCharacter
  | .unknown => .error (.configuration (.unknownEncoding encoding))
  | .transformation => .error (.notTextEncoding encoding "encode")
  | .text e => (e.encode source).mapError (encodeFailure unit encoding)

/-- The unit of a text, if its encoding exists and represents it. -/
def make (name source encoding : String) : Except Failure SourceUnit := do
  let _ ← encodeAs name encoding source
  pure ⟨name, source, encoding⟩

def encoded (u : SourceUnit) : Except Failure Bytes := encodeAs u.name u.encoding u.source

end

def uri (u : SourceUnit) : String := "string:///" ++ Name.slashed u.name ++ Kind.source.suffix

end SourceUnit

end PagePress
