/-!
The log: lines with the channel they are written to and their level.
-/

set_option autoImplicit false

namespace PagePress

inductive Level
  | debug
  | info
  | warning
  | error
  deriving DecidableEq, Repr

def Level.name : Level → String
  | .debug => "DEBUG"
  | .info => "INFO"
  | .warning => "WARNING"
  | .error => "ERROR"

def Level.weight : Level → Nat
  | .debug => 10
  | .info => 20
  | .warning => 30
  | .error => 40

inductive Channel
  | compiler
  | diagnostics
  | files
  | service
  | store
  | commandLine
  deriving DecidableEq, Repr

def Channel.name : Channel → String
  | .compiler => "memcompile.compiler"
  | .diagnostics => "memcompile.diagnostics"
  | .files => "memcompile.compiler.file_manager"
  | .service => "memcompile.compiler.service"
  | .store => "memcompile.runtime.artifact_store"
  | .commandLine => "compile_page"

structure LogLine where
  channel : Channel
  level : Level
  text : String
  deriving DecidableEq, Repr

def LogLine.shown (l : LogLine) (moment : String) : String :=
  moment ++ " - " ++ l.channel.name ++ " - " ++ l.level.name ++ " - " ++ l.text

def thresholds : List (String × Nat) := [
  ("CRITICAL", 50), ("FATAL", 50), ("ERROR", 40), ("WARN", 30), ("WARNING", 30), ("INFO", 20),
  ("DEBUG", 10), ("NOTSET", 0)]

end PagePress
