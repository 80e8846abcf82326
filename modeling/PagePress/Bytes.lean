import PagePress.Text.Escape

/-!
Byte strings, with fixed-width numbers in either order of bytes.
-/

set_option autoImplicit false

namespace PagePress

abbrev Bytes := List UInt8

/-- Content offered for storing; nothing may be offered by mistake. -/
abbrev Payload := Option Bytes

namespace Bytes

def ofNatLow : Nat → Nat → Bytes
  | 0, _ => []
  | width + 1, n => UInt8.ofNat n :: ofNatLow width (n / 256)

/-- The number as `width` bytes, the highest first. -/
def ofNatHigh (width n : Nat) : Bytes := (ofNatLow width n).reverse

/-- The number whose bytes are given, the lowest first. -/
def toNatLow : Bytes → Nat
  | [] => 0
  | b :: rest => b.toNat + 256 * toNatLow rest

def hex (bytes : Bytes) : String :=
  String.ofList (bytes.flatMap fun b => Text.Escape.hexDigits 2 b.toNat)

/-- The bytes of hexadecimal digits, two per byte; what is no digit counts as zero. -/
def ofHex : List Char → Bytes
  | high :: low :: rest =>
    let value (c : Char) := (Text.Escape.hexValue? c).getD 0
    UInt8.ofNat (value high * 16 + value low) :: ofHex rest
  | _ => []

theorem length_ofNatLow (width n : Nat) : (ofNatLow width n).length = width := by
  induction width generalizing n with
  | zero => rfl
  | succ width ih => simp [ofNatLow, ih]

end Bytes

end PagePress
