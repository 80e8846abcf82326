import PagePress.Datum.Equality
import PagePress.Failure

/-!
Option lists for a compiler, built up flag by flag. Every setting appends; a setting made twice
stands in the list twice. Arguments become texts; a flag may be anything that counts as true, and is
kept as it is.
-/

set_option autoImplicit false

namespace PagePress

namespace Flag

def source : String := "-source"

def target : String := "-target"

def debug : String := "-g"

def extensions : String := "-extdirs"

def strict : String := "-Werror"

def quiet : String := "-nowarn"

end Flag

def pathSeparator : Char := ':'

/-- Paths for one argument: as a text that is taken as it is, or one by one. -/
inductive PathArgument
  | text (value : String)
  | several (items : List String)
  deriving DecidableEq, Repr

/-- The paths of a datum: a text, the items of a list or the names of a record. -/
def PathArgument.ofDatum : Datum → Except Failure PathArgument
  | .text value => .ok (.text value)
  | .list items => .ok (.several (items.map Datum.plainText))
  | .record fields => .ok (.several (fields.map (·.1)))
  | d => .error (.notIterable d.kindName)

def PathArgument.joined : PathArgument → String
  | .text value => value
  | .several items => (String.singleton pathSeparator).intercalate items

def PathArgument.isEmpty : PathArgument → Bool
  | .text value => value == ""
  | .several items => items.isEmpty

/-- A list of flags and arguments. -/
structure CompilerOptions where
  words : List Datum
  deriving DecidableEq, Repr

namespace CompilerOptions

def empty : CompilerOptions := ⟨[]⟩

def ofTexts (texts : List String) : CompilerOptions := ⟨texts.map .text⟩

def add (o : CompilerOptions) (flag : Datum) (args : List String) :
    Except Failure CompilerOptions :=
  if flag.isTruthy then .ok ⟨o.words ++ flag :: args.map .text⟩
  else .error (.configuration .emptyFlag)

def append (o : CompilerOptions) (flag : String) (args : List String) : CompilerOptions :=
  ⟨o.words ++ .text flag :: args.map .text⟩

def addSource (o : CompilerOptions) (level : String) : CompilerOptions :=
  o.append Flag.source [level]

def addTarget (o : CompilerOptions) (level : String) : CompilerOptions :=
  o.append Flag.target [level]

def addDebug (o : CompilerOptions) (wanted : Bool) : CompilerOptions :=
  if wanted then o.append Flag.debug [] else o

def addExtensions (o : CompilerOptions) (paths : PathArgument) : CompilerOptions :=
  o.append Flag.extensions [paths.joined]

def shown (o : CompilerOptions) : String :=
  "CompilerOptions(" ++ (Datum.list o.words).shown ++ ")"

end CompilerOptions

end PagePress
