import PagePress.Text.CharacterName
import PagePress.Text.Escape

/-!
Tokens of a program. The text is read character by character; brackets and backslashes hold lines
together, notes are dropped, and a line that starts with a blank is marked as one that belongs to a
definition. A form feed at the start of a line takes back the blanks in front of it.
-/

set_option autoImplicit false

namespace PagePress

/-- A word, a number, a text, a sign, the end of a line, or the blanks in front of one. -/
inductive Token
  | word (spelling : String)
  | number (spelling : String)
  | text (isBytes : Bool) (value : String)
  | sign (c : Char)
  | lineEnd
  | indent
  deriving DecidableEq, Repr

namespace Token

/-- A text that is being read: its quote, whether that is written three times, whether the text
holds bytes and takes backslashes as they are, the quotes at its end so far, and its characters,
the last first. -/
structure Quotation where
  quote : Char
  triple : Bool
  isBytes : Bool
  bare : Bool
  escaped : Bool
  closing : Nat
  taken : List Char
  deriving DecidableEq, Repr

/-- Where the reading stands. -/
inductive Mode
  | free
  | word (taken : List Char)
  | number (taken : List Char)
  | note
  | joining
  | opening (q : Quotation) (quotes : Nat)
  | inside (q : Quotation)
  deriving DecidableEq, Repr

/-- The state of the reading: the mode, the open brackets, whether a line begins, whether there are
blanks in front of it, and the tokens so far, the last first. -/
structure Reading where
  mode : Mode
  depth : Nat
  lineBegins : Bool
  isIndented : Bool
  tokens : List Token
  deriving DecidableEq, Repr

def startsWord (c : Char) : Bool := c.isAlpha || c == '_' || 128 ≤ c.toNat

def isInWord (c : Char) : Bool := startsWord c || c.isDigit

/-- Whether a character goes on with a number: a sign does behind the letter of an exponent. -/
def isInNumber (taken : List Char) (c : Char) : Bool :=
  isInWord c || c == '.' ||
    ((c == '-' || c == '+') && (taken.head? == some 'e' || taken.head? == some 'E') &&
      !taken.contains 'x' && !taken.contains 'X')

def isMarker (taken : List Char) : Bool :=
  taken.length ≤ 2 && taken.all fun c => ['b', 'r', 'u', 'f', 'B', 'R', 'U', 'F'].contains c

def isOctal (c : Char) : Bool := '0' ≤ c && c ≤ '7'

def control? (c : Char) : Option Char :=
  match c with
  | 'n' => some '\n'
  | 't' => some '\t'
  | 'r' => some '\r'
  | 'a' => some '\x07'
  | 'b' => some '\x08'
  | 'f' => some '\x0c'
  | 'v' => some '\x0b'
  | '\\' => some '\\'
  | '\'' => some '\''
  | '"' => some '"'
  | _ => none

def hexWidth? (c : Char) : Option Nat :=
  match c with
  | 'x' => some 2
  | 'u' => some 4
  | 'U' => some 8
  | _ => none

/-- The character that a name in braces stands for, and how long that is with its braces. -/
def named? (behind : List Char) : Option (Char × Nat) :=
  match behind with
  | '\x7b' :: rest =>
    let name := rest.takeWhile (· != '\x7d')
    (Text.CharacterName.character? name).map fun c => (c, name.length + 2)
  | _ => none

/-- What a backslash in front of a character stands for, and how many of the characters behind it
belong to the escape; what is no escape stands for itself. -/
def resolve (c : Char) (behind : List Char) : List Char × Nat :=
  if c = '\n' then ([], 0)
  else if isOctal c then
    let digits := ((c :: behind).take 3).takeWhile isOctal
    ([Char.ofNat (Text.Escape.valueIn 8 digits)], digits.length - 1)
  else
    match control? c, hexWidth? c, if c = 'N' then named? behind else none with
    | some e, _, _ => ([e], 0)
    | _, some width, _ => ([Char.ofNat (Text.Escape.valueIn 16 (behind.take width))], width)
    | _, _, some (e, length) => ([e], length)
    | _, _, _ => (['\\', c], 0)

def unescape : List Char → List Char
  | [] => []
  | [c] => [c]
  | c :: d :: rest =>
    if c ≠ '\\' then c :: unescape (d :: rest)
    else
      let (meant, count) := resolve d rest
      meant ++ unescape (rest.drop count)
termination_by cs => cs.length
decreasing_by
  all_goals simp only [List.length_cons, List.length_drop]
  all_goals omega

def ofQuotation (q : Quotation) : Token :=
  let cs := (q.taken.drop (if q.triple then 2 else 0)).reverse
  .text q.isBytes (String.ofList (if q.bare then cs else unescape cs))

namespace Reading

def add (r : Reading) (t : Token) : Reading := { r with tokens := t :: r.tokens }

def goOn (r : Reading) (mode : Mode) : Reading := { r with mode }

def openText (r : Reading) (marker : List Char) (quote : Char) : Reading :=
  let has (c d : Char) : Bool := marker.contains c || marker.contains d
  r.goOn (.opening ⟨quote, false, has 'b' 'B', has 'r' 'R', false, 0, []⟩ 1)

def beginLine (r : Reading) : Reading := { r with lineBegins := true, isIndented := false }

def beginContent (r : Reading) : Reading :=
  let r := if r.lineBegins && r.isIndented then r.add .indent else r
  { r with lineBegins := false }

def takeFree (r : Reading) (c : Char) : Reading :=
  let r := r.goOn .free
  if c = '\n' then if r.depth = 0 then (r.add .lineEnd).beginLine else r
  else if c = ' ' || c = '\t' then { r with isIndented := true }
  else if c = '\x0c' then { r with isIndented := false }
  else if c = '\\' then r.goOn .joining
  else if c = '#' then r.goOn .note
  else
    let r := r.beginContent
    if c = '"' || c = '\'' then r.openText [] c
    else if c.isDigit then r.goOn (.number [c])
    else if startsWord c then r.goOn (.word [c])
    else
      let r := r.add (.sign c)
      if c = '(' || c = '[' || c = '\x7b' then { r with depth := r.depth + 1 }
      else if c = ')' || c = ']' || c = '\x7d' then { r with depth := r.depth - 1 }
      else r

def takeInside (r : Reading) (q : Quotation) (c : Char) : Reading :=
  if q.escaped then
    r.goOn (.inside { q with escaped := false, closing := 0, taken := c :: q.taken })
  else if c = '\\' then
    r.goOn (.inside { q with escaped := true, closing := 0, taken := c :: q.taken })
  else if c = q.quote then
    if !q.triple || q.closing = 2 then (r.add (ofQuotation q)).goOn .free
    else r.goOn (.inside { q with closing := q.closing + 1, taken := c :: q.taken })
  else r.goOn (.inside { q with closing := 0, taken := c :: q.taken })

def take (r : Reading) (c : Char) : Reading :=
  match r.mode with
  | .free => r.takeFree c
  | .word taken =>
    if isInWord c then r.goOn (.word (c :: taken))
    else if (c = '"' || c = '\'') && isMarker taken then r.openText taken c
    else (r.add (.word (String.ofList taken.reverse))).takeFree c
  | .number taken =>
    if isInNumber taken c then r.goOn (.number (c :: taken))
    else (r.add (.number (String.ofList taken.reverse))).takeFree c
  | .note => if c = '\n' then r.takeFree c else r
  | .joining => if c = '\n' then r.goOn .free else r.takeFree c
  | .opening q quotes =>
    if c = q.quote then
      if quotes = 1 then r.goOn (.opening q 2) else r.goOn (.inside { q with triple := true })
    else if quotes = 1 then r.takeInside q c
    else (r.add (ofQuotation q)).takeFree c
  | .inside q => r.takeInside q c

def finish (r : Reading) : List Token := ((r.take '\n').tokens).reverse

end Reading

def scan (cs : List Char) : List Token := (cs.foldl Reading.take ⟨.free, 0, true, false, []⟩).finish

example : scan "A = 'caf\\u00e9'  # x\n b".toList =
    [.word "A", .sign '=', .text false "café", .lineEnd, .indent, .word "b", .lineEnd] := by
  decide +kernel

end Token

end PagePress
