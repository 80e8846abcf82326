import PagePress.Options.Basic
import PagePress.Settings.FieldRules
import PagePress.Text.Blank
import PagePress.Text.Digit

/-!
Settings of a page compiler, read from a record. Every field is checked on its own, by the rules for
its kind and perhaps one of this program, and the defects of all fields are reported together, in the
order of the fields. Fields that no setting is named
after are passed over.
-/

set_option autoImplicit false

namespace PagePress

/-- The settings of a page compiler. -/
structure Settings where
  classpath : List String
  sourceLevel : Option String
  targetLevel : Option String
  debug : Bool
  extensions : Option String
  reserved : String
  includeNotes : Bool
  extraOptions : List String
  deriving DecidableEq, Repr

namespace Settings

/-- The namespace that is reserved unless another one is named. -/
def usualNamespace : String := "generated"

def usual : Settings := ⟨[], none, none, false, none, usualNamespace, false, []⟩

def checkOptionalText [FieldRules] (field : String) : Datum → Checked (Option String)
  | .null => .sound none
  | d => some <$> FieldRules.text field d

def isDecimalNumber (cs : List Char) : Bool := !cs.isEmpty && cs.all Text.Digit.isDecimal

/-- Whether a text is a language level: two decimal numbers with a point between them. -/
def isLevel (s : String) : Bool :=
  match Text.Split.parts '.' s.toList with
  | [major, minor] => isDecimalNumber major && isDecimalNumber minor
  | _ => false

/-- Checks a language level that may be missing. One that was written as a number has lost its
zeros, so only a text will do. The rules at hand see the level that is left. -/
def checkLevel [FieldRules] (field : String) : Datum → Checked (Option String)
  | .null => checkOptionalText field .null
  | .text s =>
    let level := Text.Blank.trimText s
    if isLevel level then checkOptionalText field (.text level)
    else .refuseValue field ("expected a language level like 3.11, got '" ++ level ++ "'")
  | d => .refuseValue field ("language level " ++ d.shown ++ " must be quoted, e.g. '3.10'")

def startsPart (c : Char) : Bool := c.isAlpha || c == '_'

def isNamePart : List Char → Bool
  | [] => false
  | c :: rest => startsPart c && rest.all fun c => c.isAlphanum || c == '_'

/-- A text without the line break at its end, if there is one. -/
def withoutLastBreak (cs : List Char) : List Char :=
  if cs.getLast? = some '\n' then cs.dropLast else cs

/-- Whether a text is a package name with dots between its parts; a line break at the end is let
pass. -/
def isNamespace (s : String) : Bool :=
  (Text.Split.parts '.' (withoutLastBreak s.toList)).all isNamePart

def checkNamespace [FieldRules] (field : String) (d : Datum) : Checked String :=
  match FieldRules.text field d with
  | .sound s =>
    if isNamespace s then .sound s
    else .refuseValue field ("'" ++ s ++ "' is not a dotted package name")
  | .defective defects => .defective defects

/-- Checks a field of a record, and takes the usual value when it is missing. -/
def checkField {α : Type} (d : Datum) (field : String) (usual : α)
    (check : String → Datum → Checked α) : Checked α :=
  match d.field? field with
  | some value => check field value
  | none => .sound usual

def check [FieldRules] (d : Datum) : Checked Settings :=
  Settings.mk <$> checkField d "classpath" usual.classpath FieldRules.texts
    <*> checkField d "source_level" usual.sourceLevel checkLevel
    <*> checkField d "target_level" usual.targetLevel checkLevel
    <*> checkField d "debug" usual.debug FieldRules.truth
    <*> checkField d "ext_dirs" usual.extensions checkOptionalText
    <*> checkField d "reserved_namespace" usual.reserved checkNamespace
    <*> checkField d "include_notes" usual.includeNotes FieldRules.truth
    <*> checkField d "extra_options" usual.extraOptions FieldRules.texts

example : isNamespace "_x1.Y_2" ∧ isNamespace "pages\n" ∧ !isNamespace "a.1b" ∧
    !isNamespace "" := by
  decide +kernel

example : isLevel "3.10" ∧ isLevel "٣.٩" ∧ !isLevel "3.11.2" ∧ !isLevel "3." := by decide +kernel

end Settings

end PagePress
