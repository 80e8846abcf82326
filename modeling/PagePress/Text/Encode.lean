import PagePress.Bytes
import PagePress.Text.Codec

/-!
Writing a text with a codec. A character that the codec does not have is a fault, which names the
first run of such characters.
-/

set_option autoImplicit false

namespace PagePress.Text

/-- A run of characters that a codec does not have. -/
structure EncodeFault where
  codec : String
  reason : String
  character : Char
  first : Nat
  last : Nat
  deriving DecidableEq, Repr

def EncodeFault.message (f : EncodeFault) : String :=
  let place :=
    if f.first = f.last then
      "character '" ++ String.ofList (Escape.escape f.character) ++ "' in position " ++
        toString f.first
    else "characters in position " ++ toString f.first ++ "-" ++ toString f.last
  "'" ++ f.codec ++ "' codec can't encode " ++ place ++ ": " ++ f.reason

/-- Why a text is not written: characters are lacking, or the codec itself breaks on the text. -/
inductive EncodeFailure
  | lacking (fault : EncodeFault)
  | broken (reason : String)
  deriving DecidableEq, Repr

namespace Encode

/-- The byte of a character on a page; of several the last. -/
def pageByte? (chars : List (Option Char)) (c : Char) : Option UInt8 :=
  (chars.reverse.findIdx? (· == some c)).map fun i => UInt8.ofNat (chars.length - 1 - i)

/-- The byte of a character in a codec that has the characters below a limit. -/
def byteBelow? (limit : Nat) (c : Char) : Option UInt8 :=
  if c.toNat < limit then some (UInt8.ofNat c.toNat) else none

def wide (order : ByteOrder) (width n : Nat) : Bytes :=
  match order with
  | .low => Bytes.ofNatLow width n
  | .high => Bytes.ofNatHigh width n

def pair (order : ByteOrder) (c : Char) : Bytes :=
  let n := c.toNat
  if n < 0x10000 then wide order 2 n
  else
    wide order 2 (0xd800 + (n - 0x10000) / 0x400) ++ wide order 2 (0xdc00 + (n - 0x10000) % 0x400)

def single (byte? : Char → Option UInt8) (codec reason : String) (cs : List Char) :
    Except EncodeFailure Bytes :=
  let good := cs.takeWhile fun c => (byte? c).isSome
  match cs.dropWhile fun c => (byte? c).isSome with
  | [] => .ok (good.filterMap byte?)
  | c :: rest =>
    let run := (rest.takeWhile fun d => (byte? d).isNone).length
    .error (.lacking ⟨codec, reason, c, good.length, good.length + run⟩)

end Encode

def Codec.undefinedReason : String := "undefined encoding"

def Codec.encode (codec : Codec) (s : String) : Except EncodeFailure Bytes :=
  let cs := s.toList
  match codec with
  | .ascii => Encode.single (Encode.byteBelow? 128) "ascii" "ordinal not in range(128)" cs
  | .latin1 => Encode.single (Encode.byteBelow? 256) "latin-1" "ordinal not in range(256)" cs
  | .charmap page =>
    Encode.single (Encode.pageByte? page.chars) "charmap" "character maps to <undefined>" cs
  | .utf8 => .ok (cs.flatMap String.utf8EncodeChar)
  | .utf8Marked => .ok (0xef :: 0xbb :: 0xbf :: cs.flatMap String.utf8EncodeChar)
  | .utf16 (some order) => .ok (cs.flatMap (Encode.pair order))
  | .utf16 none => .ok (Encode.wide .low 2 0xfeff ++ cs.flatMap (Encode.pair .low))
  | .utf32 (some order) => .ok (cs.flatMap fun c => Encode.wide order 4 c.toNat)
  | .utf32 none =>
    .ok (Encode.wide .low 4 0xfeff ++ cs.flatMap fun c => Encode.wide .low 4 c.toNat)
  | .undefined => .error (.broken undefinedReason)

example : (Codec.latin1.encode "é").toOption = some [0xe9] ∧
    ((Codec.utf16 none).encode "a").toOption = some [0xff, 0xfe, 0x61, 0] := by decide +kernel

end PagePress.Text
