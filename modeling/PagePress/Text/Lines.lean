import PagePress.Text.Split

/-!
Lines of a text. In files a line ends with a line feed, a carriage return, or both together; in
printed text other characters break lines as well.
-/

set_option autoImplicit false

namespace PagePress.Text

def unifyLines : List Char → List Char
  | '\r' :: '\n' :: rest => '\n' :: unifyLines rest
  | '\r' :: rest => '\n' :: unifyLines rest
  | c :: rest => c :: unifyLines rest
  | [] => []

def isBreak (c : Char) : Bool :=
  [0xa, 0xb, 0xc, 0xd, 0x1c, 0x1d, 0x1e, 0x85, 0x2028, 0x2029].contains c.toNat

/-- The lines of a printed text; a break at its end begins no further line. -/
def lines (s : String) : List String :=
  let parts := Split.parts '\n' ((unifyLines s.toList).map fun c => if isBreak c then '\n' else c)
  (if parts.getLast? == some [] then parts.dropLast else parts).map String.ofList

example : unifyLines "a\r\nb\rc".toList = "a\nb\nc".toList := by decide +kernel

example : lines "a\r\n\nb\u2028" = ["a", "", "b"] ∧ lines "" = [] := by decide +kernel

end PagePress.Text
