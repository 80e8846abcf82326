import PagePress.Datum.Json
import PagePress.Text.Escape

/-!
Writing a datum in JSON, without gaps, on one line. Characters that may not stand in a text are
escaped; all others stand for themselves.
-/

set_option autoImplicit false

namespace PagePress.Datum.Json

open Number (Binary64)

def writtenChar (c : Char) : List Char :=
  if c = '"' then ['\\', '"']
  else if c = '\\' then ['\\', '\\']
  else if c.toNat < 0x20 then '\\' :: 'u' :: Text.Escape.hexDigits 4 c.toNat
  else [c]

def writtenText (s : String) : String :=
  String.ofList ('"' :: (s.toList.flatMap writtenChar ++ ['"']))

/-- A number; what is not finite goes by its name. -/
def writtenReal : Binary64 → String
  | .infinite negative => if negative then "-Infinity" else "Infinity"
  | .nan => "NaN"
  | x => realText x

mutual

def write : Datum → String
  | .null => "null"
  | .bool true => "true"
  | .bool false => "false"
  | .int n => toString n
  | .real x => writtenReal x
  | .text s => writtenText s
  | .list items => "[" ++ ",".intercalate (writeItems items) ++ "]"
  | .record fields => "\x7b" ++ ",".intercalate (writeFields fields) ++ "\x7d"

def writeItems : List Datum → List String
  | [] => []
  | item :: rest => write item :: writeItems rest

def writeFields : List (String × Datum) → List String
  | [] => []
  | (name, value) :: rest => (writtenText name ++ ":" ++ write value) :: writeFields rest

end

example : write (.record [("a\n", .list [.null, .int (-1)])]) =
    "\x7b\"a\\u000a\":[null,-1]\x7d" := by
  decide +kernel

end PagePress.Datum.Json
