import PagePress.Text.Decode

/-!
The encodings that texts can be written in, by name. Which there are is left open: whatever is
compiled or read in a named encoding goes by the encodings at hand.
-/

set_option autoImplicit false

namespace PagePress.Text

/-- An encoding of texts. -/
structure Encoding where
  encode : String → Except EncodeFailure Bytes
  decode : Bytes → Except DecodeFault (List Char)

def Codec.encoding (codec : Codec) : Encoding := ⟨codec.encode, codec.decode⟩

/-- What a name can be known for: an encoding of texts, or a transformation, which is none. -/
inductive Known
  | text (encoding : Encoding)
  | transformation

/-- The encodings at hand. The usual one for files goes by a name that only reading knows. -/
class Encodings where
  find? : String → Option Known
  find?_utf8 : find? "utf-8" = some (.text Codec.utf8.encoding)
  find?_locale : find? "locale" = none

/-- What a name stands for: an encoding of texts, a transformation, nothing, or a text that cannot
be a name. -/
inductive EncodingName
  | text (encoding : Encoding)
  | transformation
  | unknown
  | unspeakable

/-- What a name stands for among the encodings at hand. -/
def EncodingName.of [Encodings] (name : String) : EncodingName :=
  if name.toList.contains '\x00' then .unspeakable
  else
    match Encodings.find? name with
    | some (.text encoding) => .text encoding
    | some .transformation => .transformation
    | none => .unknown

theorem EncodingName.of_utf8 [Encodings] : of "utf-8" = .text Codec.utf8.encoding := by
  simp only [of, Encodings.find?_utf8]
  rfl

theorem EncodingName.of_locale [Encodings] : of "locale" = .unknown := by
  simp only [of, Encodings.find?_locale]
  rfl

end PagePress.Text
