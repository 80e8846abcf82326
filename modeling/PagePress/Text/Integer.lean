import PagePress.Text.Blank
import PagePress.Text.Digit
import PagePress.Text.Quoted

/-!
Integers in text. An integer is an optional sign and decimal digits of any script, with single
underscores between digits, and blanks around it. A text with more digits than the limit is refused
for its length, whatever follows the digits.
-/

set_option autoImplicit false

namespace PagePress.Text.Integer

inductive Fault
  | malformed (text : String)
  | tooLong (digits : Nat)
  deriving DecidableEq, Repr

def digitLimit : Nat := 4300

def shownLength : Nat := 200

def Fault.message : Fault → String
  | .malformed text =>
    "invalid literal for int() with base 10: " ++
      String.ofList ((Quoted.quoteChars text.toList).take shownLength)
  | .tooLong digits =>
    "Exceeds the limit (" ++ toString digitLimit ++
      " digits) for integer string conversion: value has " ++ toString digits ++
      " digits; use sys.set_int_max_str_digits() to increase the limit"

/-- Whether a character may surround an integer: a blank other than the four information
separators. -/
def isMargin (c : Char) : Bool :=
  Blank.isBlank c && !(0x1c ≤ c.toNat && c.toNat ≤ 0x1f)

def inRun (c : Char) : Bool := c == '_' || Digit.isDecimal c

def wellSeparated : List Char → Bool
  | [] => false
  | [c] => c != '_'
  | c :: d :: rest => (c != '_' || d != '_') && wellSeparated (d :: rest)

def valueOf (run : List Char) : Nat :=
  run.foldl (fun n c => match Digit.value? c with
    | some digit => 10 * n + digit
    | none => n) 0

def takeSign : List Char → Bool × List Char
  | '-' :: rest => (true, rest)
  | '+' :: rest => (false, rest)
  | rest => (false, rest)

def read (s : String) : Except Fault Int :=
  let (negative, body) := takeSign (s.toList.dropWhile isMargin)
  let run := body.takeWhile inRun
  let rest := body.dropWhile inRun
  let digits := (run.filter (· != '_')).length
  if run.head? == some '_' || !wellSeparated run then .error (.malformed s)
  else if digitLimit < digits then .error (.tooLong digits)
  else if rest.all isMargin then
    .ok (if negative then -(valueOf run : Int) else valueOf run)
  else .error (.malformed s)

example : (read " +1_0\n").toOption = some 10 ∧ (read "-٣").toOption = some (-3) := by
  decide +kernel

example : (read "1__0").toOption = none ∧ (read "²").toOption = none := by decide +kernel

end PagePress.Text.Integer
