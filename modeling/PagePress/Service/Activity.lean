import PagePress.Files.Access

/-!
Activities: what a compiler does with the access to files, the collector of diagnostics and the
clock that it is given. An activity asks, sees the answer, also when it is a failure, and goes on or
ends; nothing else of the workspace is open to it. Running an activity is one function for all
compilers.
-/

set_option autoImplicit false

namespace PagePress

/-- What a compiler does, ending with a result or a failure. -/
inductive Activity (α : Type)
  | done (result : α)
  | fail (failure : Failure)
  | setLocation (location : Location) (paths : List Path) (next : Activity α)
  | list (location : Location) (package : String) (kinds : List Kind) (recurse : Bool)
      (next : Except Failure (List FileObject) → Activity α)
  | binaryName (object : FileObject) (next : Option String → Activity α)
  | output (location : Location) (name : String) (kind : Kind)
      (next : Except Failure FileObject → Activity α)
  | openStream (object : FileObject) (next : Except Failure Stream → Activity α)
  | write (stream : Stream) (payload : Payload) (next : Except Failure Nat → Activity α)
  | finish (stream : Stream) (next : Except Failure Unit → Activity α)
  | read (object : FileObject) (next : Except Failure Bytes → Activity α)
  | report (diagnostic : Diagnostic) (next : Activity α)
  | note (names : List (Option String)) (next : Activity α)
  | tell (line : LogLine) (next : Activity α)
  | time (next : Int → Activity α)
  | flush (next : Activity α)

namespace Activity

def andThen {α β : Type} : Activity α → (α → Activity β) → Activity β
  | .done result, f => f result
  | .fail failure, _ => .fail failure
  | .setLocation location paths next, f => .setLocation location paths (next.andThen f)
  | .list location package kinds recurse next, f =>
    .list location package kinds recurse fun answer => (next answer).andThen f
  | .binaryName object next, f => .binaryName object fun name => (next name).andThen f
  | .output location name kind next, f =>
    .output location name kind fun answer => (next answer).andThen f
  | .openStream object next, f => .openStream object fun answer => (next answer).andThen f
  | .write stream payload next, f => .write stream payload fun answer => (next answer).andThen f
  | .finish stream next, f => .finish stream fun answer => (next answer).andThen f
  | .read object next, f => .read object fun answer => (next answer).andThen f
  | .report diagnostic next, f => .report diagnostic (next.andThen f)
  | .note names next, f => .note names (next.andThen f)
  | .tell line next, f => .tell line (next.andThen f)
  | .time next, f => .time fun reading => (next reading).andThen f
  | .flush next, f => .flush (next.andThen f)

instance : Monad Activity where
  pure := .done
  bind := .andThen

def ofAnswer {α : Type} : Except Failure α → Activity α
  | .ok answer => .done answer
  | .error failure => .fail failure

def run {α : Type} (m : FileAccess) : Activity α → Workspace → Except Failure α × Workspace
  | .done result, w => (.ok result, w)
  | .fail failure, w => (.error failure, w)
  | .setLocation location paths next, w => next.run m (FileAccess.setLocation w location paths)
  | .list location package kinds recurse next, w =>
    (next (m.list w location package kinds recurse)).run m w
  | .binaryName object next, w => (next (m.binaryName w object)).run m w
  | .output location name kind next, w =>
    let (answer, w) := m.output w location name kind
    (next answer).run m w
  | .openStream object next, w =>
    let (answer, w) := m.openStream w object
    (next answer).run m w
  | .write stream payload next, w =>
    let (answer, w) := FileAccess.writeStream w stream payload
    (next answer).run m w
  | .finish stream next, w =>
    let (answer, w) := FileAccess.endStream w stream
    (next answer).run m w
  | .read object next, w => (next (m.read w object)).run m w
  | .report diagnostic next, w =>
    next.run m { w with diagnostics := w.diagnostics ++ [diagnostic] }
  | .note names next, w => next.run m { w with notes := w.notes ++ [names] }
  | .tell line next, w => next.run m (w.tell line)
  | .time next, w => (next w.clock.now).run m w.tick
  | .flush next, w => next.run m (m.flush w)

def binaryNames : List FileObject → Activity (List (Option String))
  | [] => .done []
  | object :: rest =>
    .binaryName object fun name => (binaryNames rest).andThen fun names => .done (name :: names)

def writeAll (stream : Stream) : List Payload → Activity Unit
  | [] => .done ()
  | piece :: rest =>
    .write stream piece fun answer => (ofAnswer answer).andThen fun _ => writeAll stream rest

/-- Writes a payload to a file and makes it readable. -/
def writeArtifact (object : FileObject) (payload : List Payload) : Activity FileObject :=
  .openStream object fun answer => (ofAnswer answer).andThen fun stream =>
    (writeAll stream payload).andThen fun _ =>
      .finish stream fun answer => (ofAnswer answer).andThen fun _ => .done object

end Activity

end PagePress
