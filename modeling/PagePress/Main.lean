import PagePress.CommandLine.Run
import PagePress.Program.FrontEnd
import PagePress.Settings.Lax
import PagePress.Text.Encoding.Standard

/-!
The program: it reads the files that its words name, runs the command line on them, prints what the
run printed and writes what it saved. Of a directory on the classpath it takes only that it is
there; configuration files are data documents.
-/

set_option autoImplicit false

namespace PagePress.Process

/-- What stands at a path: the bytes of a file, or a directory where there is something else. -/
def nodeAt (path : String) : IO (Option Node) := do
  try
    let content ← IO.FS.readBinFile path
    pure (some (.file content.toList))
  catch
    | .noFileOrDirectory _ _ _ => pure none
    | _ => pure (some .directory)

def place : List String → Disk → IO Disk
  | [], disk => pure disk
  | path :: rest, disk => do
    let p := Path.ofString path
    match ← nodeAt path with
    | none => place rest disk
    | some node => place rest ((disk.makeDirectories p.parent).2.put p.parts node)

def variablesNamed : List String → IO Environment
  | [] => pure .empty
  | name :: rest => do
    let e ← variablesNamed rest
    match ← IO.getEnv name with
    | some value => pure { e with process := (name, value) :: e.process }
    | none => pure e

def saveOutput (run : Run) (words : List String) : IO Unit := do
  match run.ending, Arguments.read words with
  | .exit 0, .ok (some a) =>
    match a.save.filter fun path => path != "" with
    | some path =>
      let p := Path.ofString path
      IO.FS.createDirAll p.parent.toString
      IO.FS.writeBinFile p.toString ⟨((run.workspace.disk.content? p).getD []).toArray⟩
    | none => pure ()
  | _, _ => pure ()

def exitCode : RunEnding → UInt32
  | .exit code => UInt32.ofNat code
  | .refused _ => 2
  | .helped => 0
  | .raised _ => 1

end PagePress.Process

open PagePress PagePress.Process

def main (words : List String) : IO UInt32 := do
  let named ← place words .empty
  let environment ← variablesNamed Environment.names
  let now ← IO.monoMsNow
  let x : Surroundings := ⟨.ofPrograms, .ofJson, environment, toString now⟩
  let entries :=
    match Arguments.read words with
    | .ok (some a) =>
      match CommandLine.readSettings x named a.config with
      | .ok settings => settings.classpath
      | .error _ => []
    | _ => []
  let disk ← place entries named
  let run := CommandLine.run x words
    { Workspace.start disk (.empty (.ofReadings [now])) with clock := .ofReadings [now / 1000] }
  for line in run.output do IO.println line
  for line in run.complaints do IO.eprintln line
  match run.ending with
  | .raised failure => IO.eprintln failure.message
  | _ => pure ()
  saveOutput run words
  pure (exitCode run.ending)
