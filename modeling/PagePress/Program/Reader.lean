import PagePress.Name
import PagePress.Program.Expression
import PagePress.Text.Lines

/-!
Reading programs. Each line is read on its own; lines that belong to a definition, and those that
are no statement of a program, are passed over. Names count in their normal form. A text that stands
alone at the start of a program describes the module.
-/

set_option autoImplicit false

namespace PagePress.Program

def cut (test : Token → Bool) : List Token → List (List Token)
  | [] => [[]]
  | t :: rest =>
    if test t then [] :: cut test rest
    else
      match cut test rest with
      | [] => [[t]]
      | piece :: more => (t :: piece) :: more

def isSign (c : Char) (t : Token) : Bool := t == .sign c

def dottedName : List Token → Option (String × List Token)
  | .word part :: .sign '.' :: rest =>
    (dottedName rest).map fun (name, rest) => (Name.below (Text.Normal.form part) name, rest)
  | .word part :: rest => some (Text.Normal.form part, rest)
  | _ => none

def importModule? (piece : List Token) : Option Statement :=
  match dottedName piece with
  | some (module, []) => some (.importTop module)
  | some (module, [.word "as", .word name]) => some (.importAs module (Text.Normal.form name))
  | _ => none

def member? : List Token → Option (String × String)
  | [.word member] => some (Text.Normal.form member, Text.Normal.form member)
  | [.word member, .word "as", .word name] => some (Text.Normal.form member, Text.Normal.form name)
  | _ => none

def isBracket (t : Token) : Bool := isSign '(' t || isSign ')' t

def assignment : List Token → List String × Expression
  | .word name :: .sign '=' :: rest =>
    let (names, value) := assignment rest
    (Text.Normal.form name :: names, value)
  | value => ([], expression value)

def ofLine (line : List Token) : Program :=
  match line with
  | .word "import" :: rest => (cut (isSign ',') rest).filterMap importModule?
  | .word "from" :: rest =>
    match dottedName rest with
    | some (module, .word "import" :: members) =>
      let members := members.filter fun t => !isBracket t
      [.importMembers module ((cut (isSign ',') members).filterMap member?)]
    | _ => []
  | .word "def" :: .word name :: _ => [.define (Text.Normal.form name)]
  | .word "class" :: .word name :: _ => [.declare (Text.Normal.form name)]
  | .word _ :: .sign '=' :: .sign '=' :: _ => []
  | .word _ :: .sign '=' :: _ =>
    let (names, value) := assignment line
    [.assign names value]
  | _ => []

def isHead : List Token → Bool
  | .word first :: _ => first == "def" || first == "class"
  | _ => false

def ofWholeLine (line : List Token) : Program :=
  if isHead line then ofLine line else (cut (isSign ';') line).flatMap ofLine

def descriptionName : String := "__doc__"

/-- The description that the first line of a program holds, if it is a text that stands alone. -/
def description (lines : List (List Token)) : Program :=
  match lines.find? fun line => !line.isEmpty with
  | some line =>
    match lonelyText? ((cut (isSign ';') line).headD []) with
    | some s => [.assign [descriptionName] (constantAhead (.text s))]
    | none => []
  | none => []

def read (source : String) : Program :=
  let lines := cut (· == .lineEnd) (Token.scan (Text.unifyLines source.toList))
  description lines ++ lines.flatMap ofWholeLine

example : read "import a.b as m\nfrom a import X, Y as Z\ndef f():\n    Q = 1\nN = -(2)\n" =
    [.importAs "a.b" "m", .importMembers "a" [("X", "X"), ("Y", "Z")], .define "f",
      .assign ["N"] (constantAhead (.int (-2)))] := by
  decide +kernel

end PagePress.Program
