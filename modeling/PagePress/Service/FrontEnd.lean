import PagePress.Failure
import PagePress.Options.LanguageLevel
import PagePress.Service.SyntaxTree

/-!
The front end: the parser and the code generator, as the service uses them. A pass issues warnings
and then succeeds, refuses the source, or breaks.
-/

set_option autoImplicit false

namespace PagePress

/-- A message about a line of a source. -/
structure Notice where
  message : String
  line : Option Int
  deriving DecidableEq, Repr

/-- How a pass ends. -/
inductive PassEnd (α : Type)
  | done (result : α)
  | refused (notice : Notice)
  | broken (failure : Failure)

/-- A pass over a source: its warnings in order, and how it ends. -/
structure Pass (α : Type) where
  warnings : List Notice
  ending : PassEnd α

/-- How far code is optimized: as the interpreter was told to when it was started, or not at all. -/
inductive Optimization
  | inherited
  | off
  deriving DecidableEq, Repr

/-- The two passes; both depend on the source and on the level that was asked for, and the generator
on how far it is to optimize. -/
structure FrontEnd where
  parse : String → Option LanguageLevel → Pass SyntaxTree
  generate : String → Option LanguageLevel → Optimization → Pass Unit

end PagePress
