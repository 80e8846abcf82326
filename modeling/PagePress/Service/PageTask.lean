import PagePress.Options.LanguageLevel
import PagePress.Service.Basic
import PagePress.Service.CodeFile
import PagePress.Service.FrontEnd

/-!
The service that compiles pages with the interpreter's own front end. Each unit becomes one artifact
or reports an error; the units that follow are compiled all the same. Modules that a unit imports
from a package are looked up in the listing of the package, which is asked for once per task.
-/

set_option autoImplicit false

namespace PagePress

/-- What the options of a task ask for. -/
structure Demands where
  level : Option LanguageLevel
  debug : Bool
  extensions : List Path
  strict : Bool
  quiet : Bool
  deriving DecidableEq, Repr

/-- To debug means not to optimize. -/
def Demands.optimization (s : Demands) : Optimization := if s.debug then .off else .inherited

@[simp] theorem Demands.optimization_mk (s : Demands) (level : Option LanguageLevel)
    (extensions : List Path) (strict quiet : Bool) :
    optimization ⟨level, s.debug, extensions, strict, quiet⟩ = s.optimization := rfl

namespace PageTask

def arity : ArityTable := fun flag =>
  if flag = Flag.source || flag = Flag.target || flag = Flag.extensions then 1
  else if flag = Flag.debug || flag = Flag.strict || flag = Flag.quiet then 0
  else -1

def pathsOf (argument : String) : List Path :=
  ((Text.Split.partsText pathSeparator argument).filter (· != "")).map Path.ofString

def argument (g : OptionGroup) : String := g.args.headD ""

def checkExtensions (d : Disk) : List Path → Except Failure Unit
  | [] => .ok ()
  | path :: rest =>
    match d.lookup path with
    | .error error => .error (.disk error)
    | .ok (some .directory) => checkExtensions d rest
    | .ok _ => .error (.configuration (.missingExtension path))

def check (d : Disk) (g : OptionGroup) : Except Failure Unit :=
  if g.flag = Flag.source then do
    let level ← LanguageLevel.parse (argument g) g.flag
    if level.isBefore .lowest || LanguageLevel.current.isBefore level then
      throw (.configuration (.sourceLevel (argument g)))
  else if g.flag = Flag.target then do
    let level ← LanguageLevel.parse (argument g) g.flag
    if level ≠ .current then throw (.configuration (.targetLevel (argument g)))
  else if g.flag = Flag.extensions then checkExtensions d (pathsOf (argument g))
  else .ok ()

def apply (s : Demands) (g : OptionGroup) : Except Failure Demands :=
  if g.flag = Flag.source then do
    let level ← LanguageLevel.parse (argument g) g.flag
    pure { s with level := some level }
  else if g.flag = Flag.debug then .ok { s with debug := true }
  else if g.flag = Flag.extensions then
    .ok { s with extensions := s.extensions ++ pathsOf (argument g) }
  else if g.flag = Flag.strict then .ok { s with strict := true }
  else if g.flag = Flag.quiet then .ok { s with quiet := true }
  else .ok s

def demandsFrom (d : Disk) : Demands → List OptionGroup → Except Failure Demands
  | s, [] => .ok s
  | s, g :: rest => do
    check d g
    let s ← apply s g
    demandsFrom d s rest

def demandsOf (d : Disk) (options : List String) : Except Failure Demands := do
  let groups ← (OptionGroup.split arity options).mapError .configuration
  demandsFrom d ⟨none, false, [], false, false⟩ groups

abbrev Listings := List (String × List String)

/-- The listing of a package, asked for at its first use. -/
def listing (known : Listings) (package : String) : Activity (List String × Listings) :=
  match known.find? fun (key, _) => key == package with
  | some (_, names) => .done (names, known)
  | none =>
    .list .classPath package [.source, .compiled] true fun answer =>
      (Activity.ofAnswer answer).andThen fun objects =>
        (Activity.binaryNames objects).andThen fun names =>
          let names := (names.filterMap id).filter (· != "")
          .done (names, known ++ [(package, names)])

/-- Whether a listing shows a module: it holds the module or something below it, or is empty. -/
def shows (names : List String) (module : String) : Bool :=
  names.isEmpty || names.any fun name => Name.isWithin name module

/-- Whether a module can be imported. Names without a package are left to the interpreter. -/
def isVisible (known : Listings) (module : String) : Activity (Bool × Listings) :=
  let package := Name.packageOf module
  if package = "" then .done (true, known)
  else (listing known package).andThen fun (names, known) => .done (shows names module, known)

def report (u : SourceUnit) (severity : Severity) (n : Notice) : Activity Unit :=
  .report ⟨severity, n.message, n.line, some u.uri⟩ (.done ())

def notFound (r : ImportRequest) : Notice := ⟨"cannot find module '" ++ r.module ++ "'", r.line⟩

/-- Looks up the modules that a unit imports and reports those that cannot be found. -/
def checkImports (u : SourceUnit) (known : Listings) :
    List ImportRequest → Activity (Bool × Listings)
  | [] => .done (true, known)
  | r :: rest =>
    (isVisible known r.module).andThen fun (visible, known) =>
      (if visible then .done () else report u .error (notFound r)).andThen fun _ =>
        (checkImports u known rest).andThen fun (resolved, known) =>
          .done (visible && resolved, known)

/-- Reports the warnings of a pass, unless the task is quiet. -/
def reportWarnings (u : SourceUnit) (s : Demands) : List Notice → Activity Unit
  | [] => .done ()
  | n :: rest =>
    (if s.quiet then .done () else report u .warning n).andThen fun _ => reportWarnings u s rest

def strictNotice : Notice := ⟨"warnings found and -Werror specified", none⟩

/-- The code file of a unit whose text takes `size` bytes, made when the clock gives a reading. -/
def codeOf (u : SourceUnit) (reading : Int) (size : Nat) : Bytes :=
  CodeFile.write (CodeFile.moment reading) size ⟨u.source, u.uri⟩

section Compiling

variable [Text.Encodings]

def emit (u : SourceUnit) : Activity Unit :=
  (Activity.ofAnswer u.encoded).andThen fun bytes =>
    .output .classOutput u.name .compiled fun answer =>
      (Activity.ofAnswer answer).andThen fun object =>
        .time fun reading =>
          (Activity.writeArtifact object [some (codeOf u reading bytes.length)]).andThen fun _ =>
            .tell ⟨.service, .debug, "Compiled " ++ u.name⟩ (.done ())

/-- Compiles the tree of a unit that was parsed; `warned` tells whether the parser warned. -/
def compileTree (fe : FrontEnd) (s : Demands) (u : SourceUnit) (warned : Bool) (tree : SyntaxTree)
    (known : Listings) : Activity (Bool × Listings) :=
  (checkImports u known tree.allRequests).andThen fun (resolved, known) =>
    let pass := fe.generate u.source s.level s.optimization
    match pass.ending with
    | .broken failure => .fail failure
    | ending =>
      (reportWarnings u s pass.warnings).andThen fun _ =>
        let warned := warned || !pass.warnings.isEmpty
        match ending with
        | .refused n => (report u .error n).andThen fun _ => .done (false, known)
        | _ =>
          if !resolved then .done (false, known)
          else if warned && s.strict then
            (report u .error strictNotice).andThen fun _ => .done (false, known)
          else (emit u).andThen fun _ => .done (true, known)

def compileUnit (fe : FrontEnd) (s : Demands) (u : SourceUnit) (known : Listings) :
    Activity (Bool × Listings) :=
  let pass := fe.parse u.source s.level
  match pass.ending with
  | .broken failure => .fail failure
  | .refused n =>
    (reportWarnings u s pass.warnings).andThen fun _ =>
      (report u .error n).andThen fun _ => .done (false, known)
  | .done tree =>
    (reportWarnings u s pass.warnings).andThen fun _ =>
      compileTree fe s u (!pass.warnings.isEmpty) tree known

def compileUnits (fe : FrontEnd) (s : Demands) : List SourceUnit → Listings → Activity Bool
  | [], _ => .done true
  | u :: rest, known =>
    (compileUnit fe s u known).andThen fun (good, known) =>
      (compileUnits fe s rest known).andThen fun others => .done (good && others)

/-- Compiles all units of a task and flushes the access to files. -/
def compileAll (fe : FrontEnd) (s : Demands) (units : List SourceUnit) : Activity Bool :=
  (compileUnits fe s units []).andThen fun good => .flush (.done good)

/-- What a task does: it sets the path of extensions, if there are any, and compiles its units. -/
def activity (fe : FrontEnd) (s : Demands) (units : List SourceUnit) : Activity Bool :=
  if s.extensions.isEmpty then compileAll fe s units
  else .setLocation .extensionPath s.extensions (compileAll fe s units)

/-- What the runs of one task do: the first compiles, the others are refused. -/
def runs (fe : FrontEnd) (s : Demands) (units : List SourceUnit) : Nat → Activity Bool
  | 0 => activity fe s units
  | _ + 1 => .fail (.adapter .alreadyRun)

def service (fe : FrontEnd) : Service where
  arity := arity
  check := check
  task d options units := do
    let demands ← demandsOf d options
    pure (activity fe demands units)

end Compiling

end PageTask

end PagePress
