import PagePress.Text.CharacterName.Table
import PagePress.Text.Escape
import PagePress.Text.Normal
import PagePress.Text.Split

/-!
Characters by name, in letters of either case. A letter with marks is named by the letter and the
marks, and is what these make up.
-/

set_option autoImplicit false

namespace PagePress.Text.CharacterName

def Row.find? (r : Row) (name : List Char) : Option Nat :=
  let opening := r.opening.toList
  if opening.isPrefixOf name then
    let names := r.names.flatMap fun piece => Split.parts ',' piece.toList
    (names.idxOf? (name.drop opening.length)).map (r.first + ·)
  else none

def listed? (name : List Char) : Option Nat := rows.findSome? fun r => r.find? name

def markNames : List (String × Nat) :=
  [("GRAVE", 0x300), ("ACUTE", 0x301), ("CIRCUMFLEX", 0x302), ("TILDE", 0x303), ("MACRON", 0x304),
    ("BREVE", 0x306), ("DOT ABOVE", 0x307), ("DIAERESIS", 0x308), ("HOOK ABOVE", 0x309),
    ("RING ABOVE", 0x30a), ("DOUBLE ACUTE", 0x30b), ("CARON", 0x30c), ("DOUBLE GRAVE", 0x30f),
    ("INVERTED BREVE", 0x311), ("HORN", 0x31b), ("DOT BELOW", 0x323), ("COMMA BELOW", 0x326),
    ("CEDILLA", 0x327), ("OGONEK", 0x328), ("TONOS", 0x301), ("DIALYTIKA", 0x308)]

def marks? (names : String) : Option (List Nat) :=
  (names.splitOn " AND ").mapM fun name => markNames.lookup name

def marked? (name : String) : Option Nat :=
  match name.splitOn " WITH " with
  | [letter, names] =>
    match listed? letter.toList, marks? names with
    | some n, some marks =>
      match Normal.compose (n :: marks) with
      | [whole] => some whole
      | _ => none
    | _, _ => none
  | _ => none

def ideographOpening : List Char := "CJK UNIFIED IDEOGRAPH-".toList

def isIdeograph (n : Nat) : Bool :=
  (0x3400 ≤ n && n ≤ 0x4dbf) || (0x4e00 ≤ n && n ≤ 0x9fff) || (0x20000 ≤ n && n ≤ 0x2a6df)

def numbered? (name : List Char) : Option Nat :=
  let n := Escape.valueIn 16 (name.drop ideographOpening.length)
  if ideographOpening.isPrefixOf name && isIdeograph n then some n else none

def character? (name : List Char) : Option Char :=
  let name := name.map Char.toUpper
  (((listed? name).or (numbered? name)).or (marked? (String.ofList name))).map Char.ofNat

end PagePress.Text.CharacterName
