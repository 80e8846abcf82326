import PagePress.Text.Escape
import PagePress.Text.Split

/-!
Entries of a table of characters. An entry speaks of a run of characters and tells the parts of the
first; those of the others differ from it by as much as the characters do, in the first part.
-/

set_option autoImplicit false

namespace PagePress.Text.Normal

/-- A run of characters, the parts of the first, and whether the parts make up the character. -/
structure Entry where
  first : Nat
  last : Nat
  parts : List Nat
  isComposed : Bool
  deriving DecidableEq, Repr

namespace Entry

/-- Reads an entry: hexadecimal numbers, the last character behind a dash if there are several, the
parts behind a colon or an equals sign with points between them. -/
def read (cs : List Char) : Entry :=
  let number := Escape.valueIn 16
  let run := cs.takeWhile fun c => c != ':' && c != '='
  let first := number (run.takeWhile (· != '-'))
  let last := run.drop ((run.takeWhile (· != '-')).length + 1)
  ⟨first, if last.isEmpty then first else number last,
    (Split.parts '.' (cs.drop (run.length + 1))).map number, cs.contains '='⟩

def readAll (lines : List String) : List Entry :=
  lines.flatMap fun line => (Split.parts ' ' line.toList).map read

def holds (e : Entry) (n : Nat) : Bool := e.first ≤ n && n ≤ e.last

def partsOf (e : Entry) (n : Nat) : List Nat :=
  match e.parts with
  | [] => []
  | part :: rest => (part + (n - e.first)) :: rest

def composed? (e : Entry) (a b : Nat) : Option Nat :=
  match e.parts with
  | [part, mark] =>
    if e.isComposed && mark == b && part ≤ a && a ≤ part + (e.last - e.first) then
      some (e.first + (a - part))
    else none
  | _ => none

example : read "1d400-1d419:41".toList = ⟨0x1d400, 0x1d419, [0x41], false⟩ ∧
    read "c0=41.300".toList = ⟨0xc0, 0xc0, [0x41, 0x300], true⟩ := by decide +kernel

end Entry

end PagePress.Text.Normal
