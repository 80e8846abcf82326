import PagePress.Text.Escape
import PagePress.Text.Split

/-!
Codecs: the ways in which a text is written as bytes. Some write one byte for each character, others
units of one, two or four bytes; one of them fits no text at all.
-/

set_option autoImplicit false

namespace PagePress.Text

/-- Which byte of a unit comes first. -/
inductive ByteOrder
  | low
  | high
  deriving DecidableEq, Repr

/-- A page of characters. A byte below `start` stands for the character with its number; what the
others stand for is told by rows of hexadecimal numbers, with runs, and dashes for nothing. -/
structure Charmap where
  start : Nat
  rows : List String
  deriving DecidableEq, Repr

namespace Charmap

def readEntry (entry : List Char) : List (Option Char) :=
  let number := Escape.valueIn 16
  match Split.parts '-' entry with
  | [digits] => [some (Char.ofNat (number digits))]
  | [[], []] => [none]
  | [first, last] =>
    (List.range (number last + 1 - number first)).map fun i => some (Char.ofNat (number first + i))
  | _ => []

def chars (m : Charmap) : List (Option Char) :=
  (List.range m.start).map (fun n => some (Char.ofNat n)) ++
    m.rows.flatMap fun row => (Split.parts ' ' row.toList).flatMap readEntry

example : (Charmap.mk 2 ["20ac - 41-43"]).chars =
    [some '\x00', some '\x01', some '€', none, some 'A', some 'B', some 'C'] := by decide +kernel

end Charmap

/-- A codec. In the wide ones without an order a mark in front tells the order. -/
inductive Codec
  | ascii
  | latin1
  | charmap (page : Charmap)
  | utf8
  | utf8Marked
  | utf16 (order : Option ByteOrder)
  | utf32 (order : Option ByteOrder)
  | undefined
  deriving DecidableEq, Repr

end PagePress.Text
