import PagePress.PageCompiler
import PagePress.Settings.Basic

/-!
From settings to a page compiler. Options are set in a fixed order; extra options come last, each
cut into words at its blanks.
-/

set_option autoImplicit false

namespace PagePress

namespace PageCompiler

def addWritten (c : PageCompiler) : List String → Except Failure PageCompiler
  | [] => .ok c
  | option :: rest => do
    let c ← c.addOption ((Text.Blank.wordsText option).map .text)
    c.addWritten rest

def ofSettings (s : Settings) : Except Failure PageCompiler := do
  let c ← make s.reserved s.includeNotes
  let c := c.configure {
    classpath := some s.classpath
    sourceLevel := s.sourceLevel
    targetLevel := s.targetLevel
    debug := s.debug
    extensions := s.extensions.map .text }
  c.addWritten s.extraOptions

end PageCompiler

end PagePress
