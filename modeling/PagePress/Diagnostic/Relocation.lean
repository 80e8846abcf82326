import PagePress.Diagnostic.LineMap
import PagePress.Log

/-!
Relocation: from diagnostics to errors by way of a line map. Every diagnostic that is selected gives
one error, in order: notes are left out unless they are asked for. A line that cannot be looked up
is passed through.
-/

set_option autoImplicit false

namespace PagePress

/-- What a line map of any make answers for a line: a place, nothing, a failure, or something that
is no place. -/
inductive Answer
  | position (place : Position)
  | nothing
  | failure
  | malformed
  deriving DecidableEq, Repr

/-- A line map as relocation sees it. -/
abbrev LineGuide := Int → Answer

/-- The answers of a line map; some lines may fail to be looked up, others answer no place. -/
def LineMap.guide (m : LineMap) (failing malformed : List Int) : LineGuide := fun line =>
  if failing.contains line then .failure
  else if malformed.contains line then .malformed
  else
    match m.lookup line with
    | some place => .position place
    | none => .nothing

namespace Relocation

def select (includeNotes : Bool) (ds : List Diagnostic) : List Diagnostic :=
  if includeNotes then ds else ds.filter fun d => d.severity != .note

def failedLookup (line : Int) : LogLine :=
  ⟨.diagnostics, .warning, "Line map lookup failed for generated line " ++ toString line ++
    "; reporting it unmapped"⟩

/-- The error of one diagnostic, and what goes to the log. -/
def one (guide : Option LineGuide) (d : Diagnostic) :
    Except Failure (CompilationError × List LogLine) :=
  match guide, d.line with
  | some guide, some line =>
    match guide line with
    | .position place => .ok (.atPosition d place, [])
    | .nothing => .ok (.unmapped d, [])
    | .failure => .ok (.unmapped d, [failedLookup line])
    | .malformed => .error (.noAttribute "str" "line")
  | _, _ => .ok (.unmapped d, [])

/-- The errors of diagnostics up to the first that fails, and what goes to the log. -/
def all (guide : Option LineGuide) :
    List Diagnostic → Except Failure (List CompilationError) × List LogLine
  | [] => (.ok [], [])
  | d :: rest =>
    match one guide d with
    | .error e => (.error e, [])
    | .ok (error, log) =>
      let (errors, more) := all guide rest
      (errors.map (error :: ·), log ++ more)

def relocate (guide : Option LineGuide) (includeNotes : Bool) (ds : List Diagnostic) :
    Except Failure (List CompilationError) × List LogLine :=
  all guide (select includeNotes ds)

def failedRelocation (count : Nat) : LogLine :=
  ⟨.diagnostics, .warning, "Diagnostic translation failed; returning " ++ toString count ++
    " untranslated diagnostic(s)"⟩

/-- The errors of the diagnostics that are selected; when one cannot be relocated, all are passed
through. -/
def relocateAll (guide : Option LineGuide) (includeNotes : Bool) (ds : List Diagnostic) :
    List CompilationError × List LogLine :=
  match relocate guide includeNotes ds with
  | (.ok errors, log) => (errors, log)
  | (.error _, log) =>
    ((select includeNotes ds).map .unmapped, log ++ [failedRelocation ds.length])

end Relocation

end PagePress
