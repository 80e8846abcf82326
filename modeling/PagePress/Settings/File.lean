import PagePress.Disk
import PagePress.Settings.Environment
import PagePress.Text.Lines

/-!
Configuration files: a document whose section for the compiler holds the settings. How a document is
written down is left to a reader.
-/

set_option autoImplicit false

namespace PagePress

/-- What a reader makes of a file: a document, whether the names of its fields are all texts, or a
reason why there is none. -/
inductive DocumentReading
  | document (value : Datum) (namesAreTexts : Bool)
  | malformed
  | broken (failure : Failure)

/-- A reader of documents. -/
abbrev DocumentReader := Bytes → DocumentReading

def DocumentReader.ofJson : DocumentReader := fun content =>
  match Text.Codec.utf8.decode content with
  | .error fault => .broken (.undecodable fault)
  | .ok cs =>
    match Datum.Json.read Datum.Json.usualDepth (Text.unifyLines cs) with
    | .ok value => .document value true
    | .error _ => .malformed

namespace Settings

def sectionName : String := "compiler_config"

/-- The fields of the section of the compiler. A document that counts as nothing has no section. -/
def compilerFields? (d : Datum) : Option (List (String × Datum)) :=
  match d.field? sectionName with
  | some (.record fields) => some fields
  | _ => none

def load [FieldRules] (disk : Disk) (e : Environment) (reader : DocumentReader) (path : String) :
    Except Failure Settings :=
  match disk.readWritten path with
  | .error (.missing _) => .error (.configuration (.missingFile path))
  | .error error => .error (.disk error)
  | .ok file =>
    match reader file.content with
    | .malformed => .error (.configuration (.malformedFile path))
    | .broken failure => .error failure
    | .document value namesAreTexts =>
      match compilerFields? value with
      | none => .error (.configuration (.missingSection path))
      | some fields => if namesAreTexts then ofFields e fields else .error .fieldNames

end Settings

end PagePress
