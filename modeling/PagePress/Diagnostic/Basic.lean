import PagePress.Datum.Equality
import PagePress.Failure

/-!
Diagnostics of a compiler, and the errors that are handed back for them. A diagnostic points at a
line of generated source; an error points at the template it was generated from, or at the generated
line when nothing is known about it.
-/

set_option autoImplicit false

namespace PagePress

inductive Severity
  | error
  | warning
  | note
  deriving DecidableEq, Repr

namespace Severity

def name : Severity → String
  | .error => "error"
  | .warning => "warning"
  | .note => "note"

def ofName (s : String) : Except Failure Severity :=
  if s = "error" then .ok .error
  else if s = "warning" then .ok .warning
  else if s = "note" then .ok .note
  else .error (.severity s)

end Severity

structure Diagnostic where
  severity : Severity
  message : String
  line : Option Int
  source : Option String
  deriving DecidableEq, Repr

def Diagnostic.hasErrors (ds : List Diagnostic) : Bool := ds.any fun d => d.severity == .error

/-- A place in a template. A place that is given as such may have anything for its file and its
line. -/
structure Position where
  file : Datum
  line : Datum
  deriving DecidableEq, Repr

structure CompilationError where
  severity : Severity
  message : String
  line : Datum
  generatedLine : Option Int
  file : Datum
  mapped : Bool
  deriving DecidableEq, Repr

namespace CompilationError

def unmapped (d : Diagnostic) : CompilationError :=
  ⟨d.severity, d.message, (d.line.map .int).getD .null, d.line, .null, false⟩

def atPosition (d : Diagnostic) (p : Position) : CompilationError :=
  ⟨d.severity, d.message, p.line, d.line, p.file, true⟩

/-- The file that an error is shown with; what does not count as true counts as none. -/
def place (e : CompilationError) : String :=
  if e.file.isTruthy then e.file.plainText else "<generated>"

def text (e : CompilationError) : String :=
  let line :=
    match e.line with
    | .null => ""
    | line => ":" ++ line.plainText
  e.place ++ line ++ ": " ++ e.severity.name ++ ": " ++ e.message

end CompilationError

end PagePress
