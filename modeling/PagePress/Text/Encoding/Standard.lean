import PagePress.Text.Encoding
import PagePress.Text.Encoding.Table

/-!
The encodings of the standard library, as far as they are tabulated: all that write one byte for
each character, and those of the universal character set.
-/

set_option autoImplicit false

namespace PagePress.Text

namespace Encodings

def codecs : List (Names × Codec) := [
  (⟨"ascii", ["646", "ansi_x3.4_1968", "ansi_x3_4_1968", "ansi_x3.4_1986", "cp367", "csascii",
    "ibm367", "iso646_us", "iso_646.irv_1991", "iso_ir_6", "us", "us_ascii"]⟩, .ascii),
  (⟨"latin_1", ["8859", "cp819", "csisolatin1", "ibm819", "iso8859", "iso8859_1", "iso_8859_1",
    "iso_8859_1_1987", "iso_ir_100", "l1", "latin", "latin1"]⟩, .latin1),
  (⟨"charmap", []⟩, .latin1),
  (⟨"utf_8", ["u8", "utf", "utf8", "utf8_ucs2", "utf8_ucs4", "cp65001"]⟩, .utf8),
  (⟨"utf_8_sig", []⟩, .utf8Marked),
  (⟨"utf_16", ["u16", "utf16"]⟩, .utf16 none),
  (⟨"utf_16_le", ["unicodelittleunmarked", "utf_16le"]⟩, .utf16 (some .low)),
  (⟨"utf_16_be", ["unicodebigunmarked", "utf_16be"]⟩, .utf16 (some .high)),
  (⟨"utf_32", ["u32", "utf32"]⟩, .utf32 none),
  (⟨"utf_32_le", ["utf_32le"]⟩, .utf32 (some .low)),
  (⟨"utf_32_be", ["utf_32be"]⟩, .utf32 (some .high)),
  (⟨"undefined", []⟩, .undefined)] ++ charmaps.map fun (names, page) => (names, .charmap page)

def transformations : List Names := [
  ⟨"base64_codec", ["base64", "base_64"]⟩, ⟨"bz2_codec", ["bz2"]⟩, ⟨"hex_codec", ["hex"]⟩,
  ⟨"quopri_codec", ["quopri", "quoted_printable", "quotedprintable"]⟩, ⟨"rot_13", ["rot13"]⟩,
  ⟨"uu_codec", ["uu"]⟩, ⟨"zlib_codec", ["zip", "zlib"]⟩]

def codec? (name : String) : Option Codec :=
  let canonical := Names.canonicalName name
  (codecs.find? fun (names, _) => names.hold canonical).map Prod.snd

def isTransformation (name : String) : Bool :=
  let canonical := Names.canonicalName name
  transformations.any fun names => names.hold canonical

def tabulated? (name : String) : Option Known :=
  match codec? name with
  | some codec => some (.text codec.encoding)
  | none => if isTransformation name then some .transformation else none

private theorem tabulated?_utf8 : tabulated? "utf-8" = some (.text Codec.utf8.encoding) := by
  have coded : codec? "utf-8" = some .utf8 := by decide +kernel
  simp only [tabulated?, coded]

private theorem tabulated?_locale : tabulated? "locale" = none := by
  have coded : codec? "locale" = none := by decide +kernel
  have transformed : isTransformation "locale" = false := by decide +kernel
  simp only [tabulated?, coded, transformed]
  rfl

instance standard : Encodings where
  find? := tabulated?
  find?_utf8 := tabulated?_utf8
  find?_locale := tabulated?_locale

example : codec? "iso8859.1" = some .latin1 ∧ codec? "latin.1" = none := by decide +kernel

end Encodings

end PagePress.Text
