import PagePress.CommandLine.Arguments
import PagePress.Service.PageTask
import PagePress.Settings.Compiler
import PagePress.Settings.File
import PagePress.Text.Lines
import PagePress.Text.Uppercase

/-!
A run of the command line: it compiles one source file in memory and reports what came of it. The
run ends with 0 when the unit was compiled, with 1 and the errors when it was not, and with 2 when
it could not be tried or the command line was refused. A failure of another kind ends the run as
it is.
-/

set_option autoImplicit false

namespace PagePress

inductive RunEnding
  | exit (code : Nat)
  | refused (error : UsageError)
  | helped
  | raised (failure : Failure)
  deriving DecidableEq, Repr

/-- A run: how it ended, what it printed, its complaints, and the workspace that it left. -/
structure Run where
  ending : RunEnding
  output : List String
  complaints : List String
  workspace : Workspace

/-- What a run is given from outside: the front end, the reader of configuration files, the
environment, and the moment that the log shows. -/
structure Surroundings where
  frontEnd : FrontEnd
  reader : DocumentReader
  environment : Environment
  moment : String

namespace CommandLine

def programName : String := "compile_page.py"

def usage : String :=
  "usage: " ++ programName ++
    " [-h] [--config CONFIG] [--encoding ENCODING] [--line-map LINE_MAP] " ++
    "[--save SAVE] [--log-level LOG_LEVEL] source unit_name"

def decode (e : Text.Encoding) (bytes : Bytes) : Except Failure (List Char) :=
  match e.decode bytes with
  | .ok cs => .ok (Text.unifyLines cs)
  | .error fault => .error (.undecodable fault)

def usualEncoding : String := "locale"

section Reading

variable [Text.Encodings]

def openedAs (encoding : String) : Text.EncodingName :=
  if encoding = usualEncoding then .text Text.Codec.utf8.encoding else .of encoding

/-- The text of a file in an encoding that is given by name. That the file can be read is checked
before the name of the encoding, except for a name that cannot be looked up at all. -/
def readText (d : Disk) (path : String) : Given → Except Failure (List Char)
  | none => .error .noEncodingName
  | some encoding =>
    match openedAs encoding with
    | .unspeakable => .error .nullCharacter
    | name => do
      let file ← (d.readWritten path).mapError .disk
      match name with
      | .text e => decode e file.content
      | .transformation => throw (.notTextEncoding encoding "open")
      | _ => throw (.unknownEncoding encoding)

end Reading

def linePairs : List (String × Datum) → Except Failure (List (Datum × Target))
  | [] => .ok []
  | (line, template) :: rest => do
    let line ← (Datum.text line).toInt.mapError .notAnInteger
    let template ← template.toInt.mapError .notAnInteger
    let rest ← linePairs rest
    pure ((.int line, .plain (.int template)) :: rest)

def lineMapOf (d : Datum) : Except Failure LineMap :=
  match d with
  | .record fields => do
    let pairs ← linePairs fields
    LineMap.ofMapping (LineMap.mappingOf pairs) .null
  | d => .error (.noAttribute d.kindName "items")

def readLineMap [Text.Encodings] (d : Disk) (path : Option String) : Except Failure
    (Option LineMap) :=
  match path.filter fun path => path != "" with
  | none => .ok none
  | some path => do
    let cs ← readText d path (some "utf-8")
    let document ← (Datum.Json.read Datum.Json.usualDepth cs).mapError fun fault =>
      .document fault cs
    some <$> lineMapOf document

def readSettings [FieldRules] (x : Surroundings) (d : Disk) (path : Option String) :
    Except Failure Settings :=
  match path.filter fun path => path != "" with
  | none => .ok .usual
  | some path => Settings.load d x.environment x.reader path

/-- What a compilation is prepared with: the compiler with the text in its sink, and the map. -/
def prepare [Text.Encodings] [FieldRules] (x : Surroundings) (a : Arguments) (d : Disk) :
    Except Failure (PageCompiler × Option LineMap) := do
  let settings ← readSettings x d a.config
  let compiler ← PageCompiler.ofSettings settings
  let text ← readText d a.source a.encoding
  let map ← readLineMap d a.lineMap
  pure ((compiler.openSink (a.encoding.getD "")).writeTo 0 (String.ofList text), map)

def compile [Text.Encodings] [FieldRules] (x : Surroundings) (a : Arguments) (w : Workspace) :
    Except Failure CompilationResult × Workspace :=
  match prepare x a w.disk with
  | .error failure => (.error failure, w)
  | .ok (compiler, map) =>
    match a.unit with
    | none => (.error (.configuration (.unitName "[]")), w)
    | some name =>
      compiler.compile (PageTask.service x.frontEnd) name (map.map fun m => m.guide [] []) w

def reportedKinds : List String := [
  "ValueError", "UnicodeError", "UnicodeDecodeError", "UnicodeEncodeError", "OSError",
  "FileNotFoundError", "FileExistsError", "IsADirectoryError", "NotADirectoryError",
  "PermissionError"]

/-- Whether a run reports a failure; others end it. -/
def isReported : Failure → Bool
  | .configuration _ | .adapter _ | .notReady _ | .notStored _ | .disk _ => true
  | .namelessPath _ | .nullCharacter | .undecodable _ | .brokenEncoding _ _ => true
  | .document (.malformed _ _) _ | .document (.integer _) _ => true
  | .notAnInteger (.badText _) | .notAnInteger .notANumber => true
  | .lineBelowOne | .rangeReversed | .severity _ | .unknownLevel _ | .notListed => true
  | .code .foreign | .code .noCode | .code .unknownType | .code .sizeOutOfRange => true
  | .code .tooDeep => true
  | .importing .emptyName => true
  | .foreign kind _ => reportedKinds.contains kind
  | _ => false

def shownLog (x : Surroundings) (threshold : Nat) (log : List LogLine) : List String :=
  (log.filter fun l => threshold ≤ l.level.weight).map fun l => l.shown x.moment

def notRun (failure : Failure) : LogLine :=
  ⟨.commandLine, .error, "Compilation could not run: " ++ failure.message⟩

def compiled (name : String) (size : Nat) : String :=
  "compiled " ++ name ++ " (" ++ toString size ++ " bytes)"

/-- Ends a run whose unit was compiled: its artifact is saved, if that was asked for. -/
def finish (x : Surroundings) (threshold : Nat) (a : Arguments) (w : Workspace) : Run :=
  let name := a.unit.getD ""
  let output := [compiled name ((w.store.get? name).getD []).length]
  match a.save.filter fun path => path != "" with
  | none => ⟨.exit 0, output, shownLog x threshold w.log, w⟩
  | some path =>
    match w.save name (Path.ofString path) with
    | (.ok _, w) => ⟨.exit 0, output, shownLog x threshold w.log, w⟩
    | (.error failure, w) => ⟨.raised failure, output, shownLog x threshold w.log, w⟩

def runWith [Text.Encodings] [FieldRules] (x : Surroundings) (threshold : Nat) (a : Arguments)
    (w : Workspace) : Run :=
  match compile x a w with
  | (.error failure, w) =>
    if isReported failure then
      let log := shownLog x threshold (w.log ++ [notRun failure])
      ⟨.exit 2, [], log ++ ["error: " ++ failure.message], w⟩
    else ⟨.raised failure, [], shownLog x threshold w.log, w⟩
  | (.ok result, w) =>
    if result.success then finish x threshold a w
    else ⟨.exit 1, result.errors.map CompilationError.text, shownLog x threshold w.log, w⟩

/-- The weight from which on lines of the log are printed, for the level that is asked for. -/
def threshold : Given → Except Failure Nat
  | none => .error .noLevelName
  | some level =>
    let level := Text.Uppercase.upperText level
    match thresholds.lookup level with
    | some weight => .ok weight
    | none => .error (.unknownLevel level)

def run [Text.Encodings] [FieldRules] (x : Surroundings) (words : List String) (w : Workspace) :
    Run :=
  match Arguments.read words with
  | .error error =>
    ⟨.refused error, [], [usage, programName ++ ": error: " ++ error.message], w⟩
  | .ok none => ⟨.helped, [usage], [], w⟩
  | .ok (some a) =>
    match threshold a.logLevel with
    | .error failure => ⟨.raised failure, [], [], w⟩
    | .ok threshold => runWith x threshold a w

end CommandLine

end PagePress
