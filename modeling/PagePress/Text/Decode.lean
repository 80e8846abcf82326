import PagePress.Text.Encode

/-!
Reading a text with a codec. Bytes that fit no character are a fault, which names the first of
them; a wide text without an order needs a mark in front, unless it is empty.
-/

set_option autoImplicit false

namespace PagePress.Text

inductive DecodeFault
  | bytes (codec reason : String) (byte : UInt8) (first last : Nat)
  | unmarked (width : Nat)
  | broken (reason : String)
  deriving DecidableEq, Repr

def DecodeFault.message : DecodeFault → String
  | .bytes codec reason byte first last =>
    let place :=
      if first = last then
        "byte 0x" ++ String.ofList (Escape.hexDigits 2 byte.toNat) ++ " in position " ++
          toString first
      else "bytes in position " ++ toString first ++ "-" ++ toString last
    "'" ++ codec ++ "' codec can't decode " ++ place ++ ": " ++ reason
  | .unmarked width => "UTF-" ++ toString width ++ " stream does not start with BOM"
  | .broken reason => reason

namespace Decode

def fault (codec reason : String) (bytes : Bytes) (first count : Nat) : DecodeFault :=
  .bytes codec reason (bytes.headD 0) first (first + count - 1)

def single (char? : UInt8 → Option Char) (codec reason : String) (bytes : Bytes) :
    Except DecodeFault (List Char) :=
  let good := bytes.takeWhile fun b => (char? b).isSome
  match bytes.drop good.length with
  | [] => .ok (good.filterMap char?)
  | rest => .error (fault codec reason rest good.length 1)

def pageChar? (chars : List (Option Char)) (b : UInt8) : Option Char := (chars[b.toNat]?).join

def charBelow? (limit : Nat) (b : UInt8) : Option Char :=
  if b.toNat < limit then some (Char.ofNat b.toNat) else none

/-- Reads the bytes that continue a character of several bytes; the first of them lies between
`low` and `high`. The fault counts the bytes that fit. -/
def continuation : Nat → Nat → Nat → Nat → Nat → Bytes → Except (String × Nat) (Nat × Nat × Bytes)
  | 0, _, _, code, seen, rest => .ok (code, seen, rest)
  | _ + 1, _, _, _, seen, [] => .error ("unexpected end of data", seen)
  | need + 1, low, high, code, seen, b :: rest =>
    if low ≤ b.toNat && b.toNat ≤ high then
      continuation need 0x80 0xbf (code * 64 + b.toNat % 64) (seen + 1) rest
    else .error ("invalid continuation byte", seen)

/-- How a first byte goes on: how many bytes follow, the range of the first of them, and its own
part of the code. -/
def lead? (b : UInt8) : Option (Nat × Nat × Nat × Nat) :=
  let n := b.toNat
  if n < 0x80 then some (0, 0, 0, n)
  else if n < 0xc2 then none
  else if n < 0xe0 then some (1, 0x80, 0xbf, n % 32)
  else if n < 0xf0 then
    some (2, if n = 0xe0 then 0xa0 else 0x80, if n = 0xed then 0x9f else 0xbf, n % 16)
  else if n < 0xf5 then
    some (3, if n = 0xf0 then 0x90 else 0x80, if n = 0xf4 then 0x8f else 0xbf, n % 8)
  else none

def utf8 : Nat → Nat → Bytes → List Char → Except DecodeFault (List Char)
  | 0, _, _, before => .ok before.reverse
  | _ + 1, _, [], before => .ok before.reverse
  | fuel + 1, offset, b :: rest, before =>
    match lead? b with
    | none => .error (fault "utf-8" "invalid start byte" (b :: rest) offset 1)
    | some (need, low, high, code) =>
      match continuation need low high code 1 rest with
      | .error (reason, seen) => .error (fault "utf-8" reason (b :: rest) offset seen)
      | .ok (code, seen, rest) => utf8 fuel (offset + seen) rest (Char.ofNat code :: before)

def unitOf (order : ByteOrder) (bytes : Bytes) : Nat :=
  match order with
  | .low => Bytes.toNatLow bytes
  | .high => Bytes.toNatLow bytes.reverse

def wideName (width : Nat) (order : ByteOrder) : String :=
  "utf-" ++ toString width ++ (match order with | .low => "-le" | .high => "-be")

def utf16 (order : ByteOrder) : Nat → Nat → Bytes → List Char → Except DecodeFault (List Char)
  | 0, _, _, before => .ok before.reverse
  | _ + 1, _, [], before => .ok before.reverse
  | fuel + 1, offset, bytes, before =>
    let bad (reason : String) (count : Nat) : Except DecodeFault (List Char) :=
      .error (fault (wideName 16 order) reason bytes offset count)
    let unit := unitOf order (bytes.take 2)
    if bytes.length < 2 then bad "truncated data" 1
    else if unit < 0xd800 || 0xe000 ≤ unit then
      utf16 order fuel (offset + 2) (bytes.drop 2) (Char.ofNat unit :: before)
    else if 0xdc00 ≤ unit then bad "illegal encoding" 2
    else if bytes.length < 4 then bad "unexpected end of data" bytes.length
    else
      let low := unitOf order ((bytes.drop 2).take 2)
      if 0xdc00 ≤ low && low < 0xe000 then
        let code := 0x10000 + (unit - 0xd800) * 0x400 + (low - 0xdc00)
        utf16 order fuel (offset + 4) (bytes.drop 4) (Char.ofNat code :: before)
      else bad "illegal UTF-16 surrogate" 2

def utf32 (order : ByteOrder) : Nat → Nat → Bytes → List Char → Except DecodeFault (List Char)
  | 0, _, _, before => .ok before.reverse
  | _ + 1, _, [], before => .ok before.reverse
  | fuel + 1, offset, bytes, before =>
    let bad (reason : String) (count : Nat) : Except DecodeFault (List Char) :=
      .error (fault (wideName 32 order) reason bytes offset count)
    let unit := unitOf order (bytes.take 4)
    if bytes.length < 4 then bad "truncated data" bytes.length
    else if 0xd800 ≤ unit && unit < 0xe000 then
      bad "code point in surrogate code point range(0xd800, 0xe000)" 4
    else if 0x110000 ≤ unit then bad "code point not in range(0x110000)" 4
    else utf32 order fuel (offset + 4) (bytes.drop 4) (Char.ofNat unit :: before)

/-- Reads a wide text whose order a mark in front tells. -/
def marked (width : Nat)
    (read : ByteOrder → Nat → Nat → Bytes → List Char → Except DecodeFault (List Char))
    (bytes : Bytes) : Except DecodeFault (List Char) :=
  let size := width / 8
  let mark := bytes.take size
  if mark = Bytes.ofNatLow size 0xfeff then read .low bytes.length size (bytes.drop size) []
  else if mark = Bytes.ofNatHigh size 0xfeff then read .high bytes.length size (bytes.drop size) []
  else do
    let cs ← read .low bytes.length 0 bytes []
    if cs.isEmpty then pure cs else throw (.unmarked width)

def mark8 : Bytes := [0xef, 0xbb, 0xbf]

end Decode

def Codec.decode (codec : Codec) (bytes : Bytes) : Except DecodeFault (List Char) :=
  match codec with
  | .ascii => Decode.single (Decode.charBelow? 128) "ascii" "ordinal not in range(128)" bytes
  | .latin1 => Decode.single (Decode.charBelow? 256) "latin-1" "ordinal not in range(256)" bytes
  | .charmap page =>
    Decode.single (Decode.pageChar? page.chars) "charmap" "character maps to <undefined>" bytes
  | .utf8 => Decode.utf8 bytes.length 0 bytes []
  | .utf8Marked =>
    if bytes.length < 3 && bytes.isPrefixOf Decode.mark8 then .ok []
    else
      let body := if Decode.mark8.isPrefixOf bytes then bytes.drop 3 else bytes
      Decode.utf8 body.length 0 body []
  | .utf16 (some order) => Decode.utf16 order bytes.length 0 bytes []
  | .utf16 none => Decode.marked 16 Decode.utf16 bytes
  | .utf32 (some order) => Decode.utf32 order bytes.length 0 bytes []
  | .utf32 none => Decode.marked 32 Decode.utf32 bytes
  | .undefined => .error (.broken undefinedReason)

example : (Codec.utf8.decode [0xe2, 0x82, 0xac]).toOption = some ['€'] := by decide +kernel

end PagePress.Text
