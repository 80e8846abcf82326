import PagePress.Program.Basic
import PagePress.Program.Token
import PagePress.Text.Normal

/-!
Reading expressions: constants with signs in front of them, sums of constants, names, and lists and
tuples. Brackets around a single expression say nothing. What is no such expression is taken for an
object of some kind.
-/

set_option autoImplicit false

namespace PagePress.Program

open Number (Binary64)
open Text.Escape (valueIn)

/-- The number that is written in a base behind its two-character mark, or in decimal digits. -/
def wholeNumber (digits : List Char) : Nat :=
  match digits with
  | '0' :: mark :: rest =>
    if mark = 'x' || mark = 'X' then valueIn 16 rest
    else if mark = 'o' || mark = 'O' then valueIn 8 rest
    else if mark = 'b' || mark = 'B' then valueIn 2 rest
    else valueIn 10 digits
  | _ => valueIn 10 digits

/-- The number of decimal digits with a point among them, or an exponent behind them, or both. -/
def fractionNumber (cs : List Char) : Binary64 :=
  let isMark (c : Char) : Bool := c == 'e' || c == 'E'
  let digits := cs.takeWhile fun c => !isMark c
  let whole := digits.takeWhile (· != '.')
  let fraction := digits.drop (whole.length + 1)
  let exponent : Int :=
    match cs.drop (digits.length + 1) with
    | '-' :: power => -(valueIn 10 power : Int)
    | '+' :: power => valueIn 10 power
    | power => valueIn 10 power
  Binary64.ofDecimal false (valueIn 10 (whole ++ fraction)) (exponent - fraction.length)

def ofNumber (spelling : String) : Constant :=
  let cs := spelling.toList.filter (· != '_')
  let isMarked := cs.contains 'x' || cs.contains 'X'
  if cs.getLast? = some 'j' || cs.getLast? = some 'J' then .other "complex"
  else if !isMarked && (cs.contains '.' || cs.contains 'e' || cs.contains 'E') then
    .real (fractionNumber cs)
  else .int (wholeNumber cs)

def opposite : Binary64 → Binary64
  | .finite negative m e => .finite (!negative) m e
  | .infinite negative => .infinite (!negative)
  | .nan => .nan

/-- A constant behind a sign, if it is a number; truth values count as numbers there. -/
def signed? (sign : Char) (value : Constant) : Option Constant :=
  let ofInt (n : Int) : Option Constant :=
    some (.int (if sign = '-' then -n else if sign = '~' then -n - 1 else n))
  match value with
  | .int n => ofInt n
  | .bool b => ofInt (if b then 1 else 0)
  | .real x => if sign = '~' then none else some (.real (if sign = '-' then opposite x else x))
  | .other "complex" => if sign = '~' then none else some value
  | _ => none

def integer? : Constant → Option Int
  | .int n => some n
  | .bool b => some (if b then 1 else 0)
  | _ => none

def combined? (sign : Char) (a b : Constant) : Option Constant :=
  let isNumber (c : Constant) : Bool :=
    (integer? c).isSome || c.typeName == "float" || c.typeName == "complex"
  match integer? a, integer? b with
  | some n, some k => some (.int (if sign = '-' then n - k else n + k))
  | _, _ =>
    match a, b with
    | .text s, .text t => if sign = '+' then some (.text (s ++ t)) else none
    | _, _ =>
      if isNumber a && isNumber b then
        some (.other (if a.typeName = "complex" || b.typeName = "complex" then "complex"
          else "float"))
      else none

def textsAhead : List Token → (Bool × String) × List Token
  | .text isBytes value :: rest =>
    let ((more, values), rest) := textsAhead rest
    ((isBytes || more, value ++ values), rest)
  | rest => ((false, ""), rest)

def ofWord (word : String) : Atom :=
  if word = "None" then .constant .null
  else if word = "True" then .constant (.bool true)
  else if word = "False" then .constant (.bool false)
  else .name (Text.Normal.form word)

/-- The names up to the bracket that closes `depth` open ones, whether there is a colon at the
innermost of these levels, and the tokens behind that bracket. -/
def afterBrace : Nat → List Token → List String × Bool × List Token
  | _, [] => ([], false, [])
  | depth, .sign c :: rest =>
    if c = '(' || c = '[' || c = '\x7b' then afterBrace (depth + 1) rest
    else if c = ')' || c = ']' || c = '\x7d' then
      if depth ≤ 1 then ([], false, rest) else afterBrace (depth - 1) rest
    else
      let (names, found, rest) := afterBrace depth rest
      (names, found || (c = ':' && depth ≤ 1), rest)
  | depth, .word word :: rest =>
    let (names, found, rest) := afterBrace depth rest
    ((ofWord word).names ++ names, found, rest)
  | depth, _ :: rest => afterBrace depth rest

abbrev constantAhead (value : Constant) : Expression := .atom (.constant value)

mutual

/-- Reads signs and what they stand in front of; `fuel` bounds the number of tokens. -/
def operand : Nat → List Token → Option (Expression × List Token)
  | 0, _ => none
  | fuel + 1, tokens =>
    match tokens with
    | .word word :: rest => some (.atom (ofWord word), rest)
    | .number spelling :: rest => some (constantAhead (ofNumber spelling), rest)
    | .text _ _ :: _ =>
      let ((isBytes, value), rest) := textsAhead tokens
      some (constantAhead (if isBytes then .other "bytes" else .text value), rest)
    | .sign '.' :: .number spelling :: rest =>
      some (constantAhead (ofNumber ("." ++ spelling)), rest)
    | .sign '.' :: .sign '.' :: .sign '.' :: rest => some (constantAhead (.other "ellipsis"), rest)
    | .sign '(' :: rest =>
      match row fuel rest with
      | some ([item], false, .sign ')' :: rest) => some (item, rest)
      | some (items, _, .sign ')' :: rest) => some (.sequence true (items.map (·.asItem)), rest)
      | _ => none
    | .sign '[' :: rest =>
      match row fuel rest with
      | some (items, _, .sign ']' :: rest) => some (.sequence false (items.map (·.asItem)), rest)
      | _ => none
    | .sign '\x7b' :: .sign '\x7d' :: rest => some (constantAhead (.other "dict"), rest)
    | .sign '\x7b' :: rest =>
      let (names, hasColon, rest) := afterBrace 1 rest
      some (.atom (.collection (if hasColon then "dict" else "set") names), rest)
    | .sign sign :: rest =>
      if sign = '-' || sign = '+' || sign = '~' then
        match operand fuel rest with
        | some (.atom (.constant value), rest) =>
          (signed? sign value).map fun value => (constantAhead value, rest)
        | _ => none
      else none
    | _ => none

def sumBehind : Nat → Expression → List Token → Option (Expression × List Token)
  | 0, _, _ => none
  | fuel + 1, first, tokens =>
    match tokens with
    | .sign sign :: rest =>
      if sign = '-' || sign = '+' then
        match first, operand fuel rest with
        | .atom (.constant a), some (.atom (.constant b), rest) =>
          match combined? sign a b with
          | some value => sumBehind fuel (constantAhead value) rest
          | none => none
        | _, _ => none
      else some (first, tokens)
    | _ => some (first, tokens)

/-- Reads expressions with commas between them, and perhaps one behind the last; the answer tells
whether there was a comma. -/
def row : Nat → List Token → Option (List Expression × Bool × List Token)
  | 0, _ => none
  | fuel + 1, tokens =>
    match tokens with
    | .sign ')' :: _ | .sign ']' :: _ | [] => some ([], false, tokens)
    | _ =>
      match operand fuel tokens with
      | none => none
      | some (first, rest) =>
        match sumBehind fuel first rest with
        | none => none
        | some (first, .sign ',' :: rest) =>
          (row fuel rest).map fun (items, _, rest) => (first :: items, true, rest)
        | some (first, rest) => some ([first], false, rest)

end

def expression (tokens : List Token) : Expression :=
  match row (2 * tokens.length + 2) tokens with
  | some ([item], false, []) => item
  | some (items, true, []) => .sequence true (items.map (·.asItem))
  | _ => constantAhead (.other "object")

def lonelyText? (tokens : List Token) : Option String :=
  match operand (tokens.length + 1) tokens with
  | some (.atom (.constant (.text s)), []) => some s
  | _ => none

end PagePress.Program
