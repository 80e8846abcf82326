import PagePress.Failure

/-!
Language levels: two numbers with a point between them.
-/

set_option autoImplicit false

namespace PagePress

structure LanguageLevel where
  major : Int
  minor : Int
  deriving DecidableEq, Repr

namespace LanguageLevel

def isNumber (part : String) : Bool :=
  !part.toList.isEmpty && part.toList.all Text.Digit.isDigit

def number (part : String) : Except Failure Int :=
  (Text.Integer.read part).mapError fun fault => .notAnInteger (.badText fault)

def parse (value flag : String) : Except Failure LanguageLevel :=
  match Text.Split.partsText '.' value with
  | [major, minor] =>
    if isNumber major && isNumber minor then do
      let major ← number major
      let minor ← number minor
      pure ⟨major, minor⟩
    else .error (.configuration (.malformedLevel flag value))
  | _ => .error (.configuration (.malformedLevel flag value))

def isBefore (a b : LanguageLevel) : Bool :=
  a.major < b.major || (a.major == b.major && a.minor < b.minor)

def lowest : LanguageLevel := ⟨3, 7⟩

def current : LanguageLevel := ⟨3, 11⟩

end LanguageLevel

end PagePress
