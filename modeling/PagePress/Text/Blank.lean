/-!
Blank characters, and texts without the blanks around and between their words.
-/

set_option autoImplicit false

namespace PagePress.Text.Blank

def runs : List (Nat × Nat) := [
  (0x9, 0xd), (0x1c, 0x20), (0x85, 0x85), (0xa0, 0xa0), (0x1680, 0x1680), (0x2000, 0x200a),
  (0x2028, 0x2029), (0x202f, 0x202f), (0x205f, 0x205f), (0x3000, 0x3000)]

/-- Whether the character is blank: a space, a line or paragraph separator, or a control that
moves to another line, column or unit. -/
def isBlank (c : Char) : Bool :=
  runs.any fun (first, last) => first ≤ c.toNat && c.toNat ≤ last

def trimEnd (cs : List Char) : List Char :=
  (cs.reverse.dropWhile isBlank).reverse

def trim (cs : List Char) : List Char :=
  trimEnd (cs.dropWhile isBlank)

/-- Puts a character in front of the first word of a split text, or starts a new word. -/
private def attach (c : Char) (next : Option Char) (words : List (List Char)) : List (List Char) :=
  match next, words with
  | some d, word :: rest => if isBlank d then [c] :: word :: rest else (c :: word) :: rest
  | _, _ => [c] :: words

/-- The maximal runs of characters that are not blank, in order. -/
def words : List Char → List (List Char)
  | [] => []
  | c :: rest => if isBlank c then words rest else attach c rest.head? (words rest)

def trimText (s : String) : String := String.ofList (trim s.toList)

def wordsText (s : String) : List String := (words s.toList).map String.ofList

example : trimText " \t3.11\u2003" = "3.11" := by decide +kernel

example : wordsText "  -source\t3.8 " = ["-source", "3.8"] ∧ wordsText "  " = [] := by
  decide +kernel

end PagePress.Text.Blank
