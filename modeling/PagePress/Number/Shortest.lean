import PagePress.Number.Binary64

/-!
The shortest decimal of a binary number: the fewest digits that read back as the number, and of
those the nearest to it, a tie going to the even digit.
-/

set_option autoImplicit false

namespace PagePress.Number.Shortest

open Binary64 (numerator denominator)

/-- Digits `digits` with the point after the first `point` of them. -/
structure Decimal where
  digits : List Char
  point : Int
  deriving DecidableEq, Repr

/-- Four times the number and the two ends of the interval of reals that are nearest to it, over a
common denominator: low end, number, high end, denominator. -/
def interval (m : Nat) (e : Int) : Nat × Nat × Nat × Nat :=
  let below := if m = Nat.pow 2 52 && Binary64.minExponent < e then 1 else 2
  (numerator 2 (4 * m - below) e, numerator 2 (4 * m) e, numerator 2 (4 * m + 2) e,
    4 * denominator 2 e)

/-- Whether `c * 10 ^ k` lies in the interval of the number; the ends belong to it when the mantissa
is even. -/
def readsBack (m : Nat) (e : Int) (c : Nat) (k : Int) : Bool :=
  let (low, _, high, den) := interval m e
  let x := numerator 10 c k * den
  let unit := denominator 10 k
  if m % 2 = 0 then low * unit ≤ x && x ≤ high * unit else low * unit < x && x < high * unit

/-- The nearer of two neighbours `c` and `c + 1` on the grid of `10 ^ k` that read back. -/
def nearest? (m : Nat) (e : Int) (k : Int) : Option Nat :=
  let num := numerator 2 m e * denominator 10 k
  let den := denominator 2 e * numerator 10 1 k
  let c := num / den
  let rest := 2 * (num % den)
  match readsBack m e c k, readsBack m e (c + 1) k with
  | true, true => some (if rest < den || (rest == den && c % 2 == 0) then c else c + 1)
  | true, false => some c
  | false, true => some (c + 1)
  | false, false => none

def isBelow (m : Nat) (e k : Int) : Bool :=
  numerator 2 m e * denominator 10 k < denominator 2 e * numerator 10 1 k

/-- The number of decimal places before the point: the least `k` with the number below `10 ^ k`,
found among three neighbours from the number of binary places. -/
def magnitude (m : Nat) (e : Int) : Int :=
  let guess := ((Nat.log2 m : Int) + e) * 30103 / 100000
  if isBelow m e guess then guess else if isBelow m e (guess + 1) then guess + 1 else guess + 2

def dropZeros (digits : List Char) : List Char :=
  (digits.reverse.dropWhile (· == '0')).reverse

def search (m : Nat) (e : Int) (top : Int) : Nat → Nat → Decimal
  | 0, digits => ⟨[], top - digits⟩
  | steps + 1, digits =>
    match nearest? m e (top - digits) with
    | some c =>
      let shown := (toString c).toList
      ⟨dropZeros shown, top - digits + shown.length⟩
    | none => search m e top steps (digits + 1)

def ofFinite (m : Nat) (e : Int) : Decimal :=
  if m = 0 then ⟨['0'], 1⟩ else search m e (magnitude m e) 17 1

example : ofFinite 7205759403792794 (-56) = ⟨['1'], 0⟩ ∧ ofFinite 1 (-1074) = ⟨['5'], -323⟩ := by
  decide +kernel

end PagePress.Number.Shortest
