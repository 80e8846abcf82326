import PagePress.Diagnostic.Relocation
import PagePress.Service.Basic

/-!
The page compiler: it compiles one generated unit at a time in memory. A compilation first checks
what it was given, in a fixed order, and asks the service only when all is well. When the service
succeeds, every artifact of the session goes into the store at once; else nothing does, and the
diagnostics are handed back as errors.
-/

set_option autoImplicit false

namespace PagePress

/-- What a compilation answers: the unit, whether it succeeded, and the errors if it did not. -/
structure CompilationResult where
  unit : String
  success : Bool
  errors : List CompilationError
  deriving DecidableEq, Repr

def CompilationResult.complaint? (r : CompilationResult) : Option String :=
  if r.success then none
  else
    let details :=
      if r.errors.isEmpty then "  (no diagnostics reported)"
      else "\n".intercalate (r.errors.map fun e => "  " ++ e.text)
    some ("Compilation of '" ++ r.unit ++ "' failed:\n" ++ details)

/-- A text that is being generated, and the encoding that it is meant for. -/
structure Sink where
  text : String
  encoding : String
  deriving DecidableEq, Repr

/-- A page compiler: its classpath, options and sinks, of which the last opened is the one that is
compiled. -/
structure PageCompiler where
  reserved : String
  includeNotes : Bool
  classpath : List Path
  options : CompilerOptions
  sinks : List Sink
  deriving DecidableEq, Repr

/-- What may be set at once. -/
structure Configuration where
  classpath : Option (List String)
  sourceLevel : Option String
  targetLevel : Option String
  debug : Bool
  extensions : Option PathArgument
  deriving DecidableEq, Repr

namespace PageCompiler

def make (reserved : String) (includeNotes : Bool) : Except Failure PageCompiler :=
  if reserved = "" then .error (.configuration .emptyNamespace)
  else .ok ⟨reserved, includeNotes, [], .empty, []⟩

def setClasspath (c : PageCompiler) (paths : List String) : PageCompiler :=
  { c with classpath := paths.map Path.ofString }

def mapOptions (c : PageCompiler) (f : CompilerOptions → CompilerOptions) : PageCompiler :=
  { c with options := f c.options }

def addOption (c : PageCompiler) (words : List Datum) : Except Failure PageCompiler :=
  match words with
  | [] => .error .missingFlag
  | flag :: args => do
    let options ← c.options.add flag (args.map Datum.plainText)
    pure { c with options }

private def addLevel (add : CompilerOptions → String → CompilerOptions) (level : Option String)
    (o : CompilerOptions) : CompilerOptions :=
  match level with
  | some level => if level = "" then o else add o level
  | none => o

/-- Sets several things at once; the options are appended in a fixed order. -/
def configure (c : PageCompiler) (config : Configuration) : PageCompiler :=
  let c :=
    match config.classpath with
    | some paths => c.setClasspath paths
    | none => c
  c.mapOptions fun o =>
    let o :=
      match config.extensions with
      | some paths => if paths.isEmpty then o else o.addExtensions paths
      | none => o
    let o := addLevel .addSource config.sourceLevel o
    let o := addLevel .addTarget config.targetLevel o
    o.addDebug config.debug

/-- Opens a sink, from now on the one that is compiled. -/
def openSink (c : PageCompiler) (encoding : String) : PageCompiler :=
  { c with sinks := c.sinks ++ [⟨"", encoding⟩] }

def writeTo (c : PageCompiler) (position : Nat) (text : String) : PageCompiler :=
  { c with sinks := c.sinks.modify position fun sink => { sink with text := sink.text ++ text } }

def isUnitName (name : String) : Bool :=
  name != "" && !Text.Split.startsWith name "." && !Text.Split.endsWith name "."

def checkClasspath (d : Disk) : List Path → Except Failure Unit
  | [] => .ok ()
  | entry :: rest =>
    match d.lookup entry with
    | .error error => .error (.disk error)
    | .ok (some .directory) | .ok (some (.archive _)) => checkClasspath d rest
    | .ok _ => .error (.configuration (.classpathEntry entry))

/-- Checks what a compilation needs, in order: a sink, the name, the text, the classpath and the
options. The answer is the unit and its options. -/
def prepare [Text.Encodings] (c : PageCompiler) (s : Service) (d : Disk) (name : String) :
    Except Failure (SourceUnit × List String) := do
  match c.sinks.getLast? with
  | none => throw (.adapter .noSink)
  | some sink =>
    if !isUnitName name then throw (.configuration (.unitName name))
    let unit ← SourceUnit.make name sink.text sink.encoding
    checkClasspath d c.classpath
    let options ← s.validate d c.options.words
    pure (unit, options)

def committed (e : Entry) : LogLine :=
  ⟨.compiler, .info, "Committed " ++ e.name ++ " (" ++ toString e.content.length ++ " bytes)"⟩

/-- Puts the artifacts of a session into the store: all of them, if they are sealed and one is named
as the unit, and else none. -/
def commit (name : String) (w : Workspace) : Except Failure Unit × Workspace :=
  let artifacts := w.index.artifacts
  let unsealed := artifacts.filter fun a => !a.isSealed
  if !artifacts.any fun a => a.name == name then (.error (.adapter (.noArtifact name)), w)
  else if !unsealed.isEmpty then (.error (.adapter (.unsealed (unsealed.map (·.name)))), w)
  else
    match w.store.putMany (artifacts.map fun a => (a.name, a.content)) with
    | (.error failure, store) => (.error failure, { w with store })
    | (.ok entries, store) => (.ok (), { w with store, log := w.log ++ entries.map committed })

def passedOver (name : String) (d : Diagnostic) : LogLine :=
  let line :=
    match d.line with
    | some line => toString line
    | none => "None"
  ⟨.compiler, .debug, name ++ " line " ++ line ++ ": " ++ d.severity.name ++ ": " ++ d.message⟩

def failed (u : SourceUnit) (errors : Nat) : List LogLine :=
  [⟨.compiler, .info, "Compilation of " ++ u.name ++ " failed with " ++ toString errors ++
      " diagnostic(s)"⟩,
    ⟨.diagnostics, .debug, "Generated source for " ++ u.name ++ ":\n" ++ u.source⟩]

def conclude (c : PageCompiler) (u : SourceUnit) (guide : Option LineGuide) (succeeded : Bool)
    (w : Workspace) : Except Failure CompilationResult × Workspace :=
  if succeeded then
    match commit u.name w with
    | (.error failure, w) => (.error failure, w)
    | (.ok (), w) =>
      (.ok ⟨u.name, true, []⟩, { w with log := w.log ++ w.diagnostics.map (passedOver u.name) })
  else
    let (errors, log) := Relocation.relocateAll guide c.includeNotes w.diagnostics
    (.ok ⟨u.name, false, errors⟩, { w with log := w.log ++ log ++ failed u errors.length })

def execute (c : PageCompiler) (s : Service) (u : SourceUnit) (options : List String)
    (guide : Option LineGuide) (w : Workspace) : Except Failure CompilationResult × Workspace :=
  let w := FileAccess.setLocation w.renew .classPath c.classpath
  match s.task w.disk options [u] with
  | .error failure => (.error failure, w)
  | .ok activity =>
    match activity.run (.virtual .standard c.reserved) w with
    | (.error failure, w) => (.error failure, w)
    | (.ok succeeded, w) => c.conclude u guide succeeded w

/-- Compiles the text of the last sink as the unit of the given name. -/
def compile [Text.Encodings] (c : PageCompiler) (s : Service) (name : String)
    (guide : Option LineGuide) (w : Workspace) : Except Failure CompilationResult × Workspace :=
  match c.prepare s w.disk name with
  | .error failure => (.error failure, w)
  | .ok (unit, options) => c.execute s unit options guide w

end PageCompiler

end PagePress
