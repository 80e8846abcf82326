/-!
Binary floating-point numbers of 64 bits: 53 bits of precision, exponents from -1074 to 971, two
infinities, and a value that is not a number. A decimal is read as the nearest of them, and of two
equally near ones as the one with the even mantissa.
-/

set_option autoImplicit false

namespace PagePress.Number

/-- A 64-bit number; the finite ones are `mantissa * 2 ^ exponent` with a sign. -/
inductive Binary64
  | finite (negative : Bool) (mantissa : Nat) (exponent : Int)
  | infinite (negative : Bool)
  | nan
  deriving DecidableEq, Repr

namespace Binary64

def minExponent : Int := -1074

def maxExponent : Int := 971

def numerator (base m : Nat) (e : Int) : Nat := if 0 ≤ e then m * Nat.pow base e.toNat else m

def denominator (base : Nat) (e : Int) : Nat := if 0 ≤ e then 1 else Nat.pow base (-e).toNat

def roundDiv (num den : Nat) : Nat :=
  let q := num / den
  let r := num % den
  if den < 2 * r || (2 * r == den && q % 2 == 1) then q + 1 else q

/-- The exponent at which `num / den` has 53 bits before the point, or the smallest one. -/
def exponentFor (num den : Nat) : Int :=
  let low : Int := (Nat.log2 num : Int) - Nat.log2 den - 53
  let scaled := numerator 2 num (-low) / (den * denominator 2 (-low))
  max minExponent (if Nat.pow 2 53 ≤ scaled then low + 1 else low)

def ofRatio (negative : Bool) (num den : Nat) : Binary64 :=
  if num = 0 then .finite negative 0 0
  else
    let e := exponentFor num den
    let m := roundDiv (numerator 2 num (-e)) (den * denominator 2 (-e))
    let (m, e) := if m = Nat.pow 2 53 then (Nat.pow 2 52, e + 1) else (m, e)
    if maxExponent < e then .infinite negative
    else if m = 0 then .finite negative 0 0
    else .finite negative m e

/-- The nearest number to `m * 10 ^ e`; a decimal far outside the range is not expanded. -/
def ofDecimal (negative : Bool) (m : Nat) (e : Int) : Binary64 :=
  let magnitude : Int := (Nat.log2 m : Int) * 3 / 10 + e
  if m = 0 then .finite negative 0 0
  else if 400 < magnitude then .infinite negative
  else if magnitude < -400 then .finite negative 0 0
  else ofRatio negative (numerator 10 m e) (denominator 10 e)

def truncate? : Binary64 → Option Int
  | .finite negative m e =>
    let n : Int := (numerator 2 m e / denominator 2 e : Nat)
    some (if negative then -n else n)
  | _ => none

def equalsInt (x : Binary64) (n : Int) : Bool :=
  match x with
  | .finite _ m e => numerator 2 m e % denominator 2 e == 0 && x.truncate? == some n
  | _ => false

/-- Whether two numbers are equal as numbers: the two zeros are, and what is not a number equals
nothing. -/
def equals : Binary64 → Binary64 → Bool
  | .finite s m e, .finite t n f =>
    (m == 0 && n == 0) || (s == t && m == n && e == f)
  | .infinite s, .infinite t => s == t
  | _, _ => false

example : ofDecimal false 1 (-1) = .finite false 7205759403792794 (-56) := by decide +kernel

example : ofDecimal false 5 (-324) = .finite false 1 (-1074) ∧
    ofDecimal false 2 308 = .infinite false ∧
    truncate? (ofDecimal true 37 (-1)) = some (-3) := by decide +kernel

end Binary64

end PagePress.Number
