import PagePress.Datum.Basic
import PagePress.Text.Escape

/-!
Reading a document in JSON. A fault tells what the grammar wanted and where; the place is given as
line, column and count of characters before it. Lists and records may be nested only so deep.
Besides the standard grammar the names of the two infinities and of what is not a number are
accepted, and a repeated field keeps its first place and its last value.
-/

set_option autoImplicit false

namespace PagePress.Datum.Json

open Number (Binary64)
open Text.Escape (hexValue?)

inductive Wanted
  | value
  | fieldName
  | colon
  | comma
  | endOfText
  | endOfString
  | plainCharacter
  | escapeLetter
  | escapeDigits
  | noByteOrderMark
  deriving DecidableEq, Repr

def Wanted.message : Wanted → String
  | .value => "Expecting value"
  | .fieldName => "Expecting property name enclosed in double quotes"
  | .colon => "Expecting ':' delimiter"
  | .comma => "Expecting ',' delimiter"
  | .endOfText => "Extra data"
  | .endOfString => "Unterminated string starting at"
  | .plainCharacter => "Invalid control character at"
  | .escapeLetter => "Invalid \\escape"
  | .escapeDigits => "Invalid \\uXXXX escape"
  | .noByteOrderMark => "Unexpected UTF-8 BOM (decode using utf-8-sig)"

inductive Nested
  | list
  | record
  deriving DecidableEq, Repr

def Nested.word : Nested → String
  | .list => "array"
  | .record => "object"

inductive Fault
  | malformed (wanted : Wanted) (offset : Nat)
  | integer (fault : Text.Integer.Fault)
  | tooDeep (nested : Nested)
  deriving DecidableEq, Repr

def Fault.message (document : List Char) : Fault → String
  | .malformed wanted offset =>
    let before := document.take offset
    let line := before.count '\n' + 1
    let column := (before.reverse.takeWhile (· != '\n')).length + 1
    wanted.message ++ ": line " ++ toString line ++ " column " ++ toString column ++
      " (char " ++ toString offset ++ ")"
  | .integer fault => fault.message
  | .tooDeep nested =>
    "maximum recursion depth exceeded while decoding a JSON " ++ nested.word ++
      " from a unicode string"

/-- The characters still to read and the number of those read. -/
structure Cursor where
  rest : List Char
  offset : Nat

namespace Cursor

def advance (c : Cursor) (n : Nat) : Cursor := ⟨c.rest.drop n, c.offset + n⟩

/-- Whether a character may stand between the parts of a document. -/
def isGap (c : Char) : Bool := c == ' ' || c == '\t' || c == '\n' || c == '\r'

def skip (c : Cursor) : Cursor := c.advance (c.rest.takeWhile isGap).length

end Cursor

/-- The value of four hexadecimal digits that are not the last characters of the text. -/
def hexFour? : List Char → Option (Nat × List Char)
  | a :: b :: c :: d :: e :: rest =>
    match hexValue? a, hexValue? b, hexValue? c, hexValue? d with
    | some a, some b, some c, some d => some (((a * 16 + b) * 16 + c) * 16 + d, e :: rest)
    | _, _, _, _ => none
  | _ => none

def escaped? (c : Char) : Option Char :=
  match c with
  | '"' => some '"'
  | '\\' => some '\\'
  | '/' => some '/'
  | 'b' => some '\x08'
  | 'f' => some '\x0c'
  | 'n' => some '\n'
  | 'r' => some '\r'
  | 't' => some '\t'
  | _ => none

/-- Reads the inside of a string up to its closing quote; `start` is where its opening quote
stands. -/
def readString (start : Nat) : Nat → Cursor → List Char → Except Fault (String × Cursor)
  | 0, _, _ => .error (.malformed .endOfString start)
  | fuel + 1, cursor, read =>
    match cursor.rest with
    | [] => .error (.malformed .endOfString start)
    | '"' :: _ => .ok (String.ofList read.reverse, cursor.advance 1)
    | ['\\'] => .error (.malformed .endOfString start)
    | '\\' :: 'u' :: rest =>
      match hexFour? rest with
      | none => .error (.malformed .escapeDigits (cursor.offset + 1))
      | some (high, behind) =>
        if 0xd800 ≤ high && high ≤ 0xdbff then
          match behind with
          | '\\' :: 'u' :: next =>
            match hexFour? next with
            | none => .error (.malformed .escapeDigits (cursor.offset + 7))
            | some (low, _) =>
              if 0xdc00 ≤ low && low ≤ 0xdfff then
                let code := 0x10000 + (high - 0xd800) * 0x400 + (low - 0xdc00)
                readString start fuel (cursor.advance 12) (Char.ofNat code :: read)
              else readString start fuel (cursor.advance 6) ('\ufffd' :: read)
          | _ => readString start fuel (cursor.advance 6) ('\ufffd' :: read)
        else
          let c := if 0xdc00 ≤ high && high ≤ 0xdfff then '\ufffd' else Char.ofNat high
          readString start fuel (cursor.advance 6) (c :: read)
    | '\\' :: letter :: _ =>
      match escaped? letter with
      | some c => readString start fuel (cursor.advance 2) (c :: read)
      | none => .error (.malformed .escapeLetter cursor.offset)
    | c :: _ =>
      if c.toNat ≤ 0x1f then .error (.malformed .plainCharacter cursor.offset)
      else readString start fuel (cursor.advance 1) (c :: read)

def digitsValue (digits : List Char) : Nat :=
  digits.foldl (fun n c => 10 * n + (c.toNat - 0x30)) 0

def takeDigits (cs : List Char) : List Char × List Char :=
  (cs.takeWhile Char.isDigit, cs.dropWhile Char.isDigit)

def takeFraction (cs : List Char) : List Char × List Char :=
  match cs with
  | '.' :: rest =>
    match takeDigits rest with
    | ([], _) => ([], cs)
    | split => split
  | _ => ([], cs)

/-- Takes an exponent, a letter, an optional sign and at least one digit, off the front. -/
def takeExponent (cs : List Char) : Option Int × List Char :=
  let digitsAfter (negative : Bool) (rest : List Char) : Option Int × List Char :=
    match takeDigits rest with
    | ([], _) => (none, cs)
    | (digits, behind) =>
      (some (if negative then -(digitsValue digits : Int) else digitsValue digits), behind)
  match cs with
  | letter :: rest =>
    if letter == 'e' || letter == 'E' then
      match rest with
      | '-' :: behind => digitsAfter true behind
      | '+' :: behind => digitsAfter false behind
      | _ => digitsAfter false rest
    else (none, cs)
  | [] => (none, cs)

def readNumber (cursor : Cursor) : Except Fault (Datum × Cursor) :=
  let (negative, body) : Bool × List Char :=
    match cursor.rest with
    | '-' :: rest => (true, rest)
    | rest => (false, rest)
  let (whole, behind) : List Char × List Char :=
    match body with
    | '0' :: rest => (['0'], rest)
    | _ => takeDigits body
  if whole.isEmpty then .error (.malformed .value cursor.offset)
  else
    let (fraction, behind) := takeFraction behind
    let (exponent, behind) := takeExponent behind
    let next : Cursor := ⟨behind, cursor.offset + (cursor.rest.length - behind.length)⟩
    if fraction.isEmpty && exponent.isNone then
      if Text.Integer.digitLimit < whole.length then .error (.integer (.tooLong whole.length))
      else .ok (.int (if negative then -(digitsValue whole : Int) else digitsValue whole), next)
    else
      let scale := exponent.getD 0 - fraction.length
      .ok (.real (Binary64.ofDecimal negative (digitsValue (whole ++ fraction)) scale), next)

def words : List (List Char × Datum) := [
  ("null".toList, .null), ("true".toList, .bool true), ("false".toList, .bool false),
  ("NaN".toList, .real .nan), ("Infinity".toList, .real (.infinite false)),
  ("-Infinity".toList, .real (.infinite true))]

mutual

/-- Reads a value in which lists and records may be nested `depth` deep; `fuel` bounds the depth and
length that the text can have. -/
def readValue : Nat → Nat → Cursor → Except Fault (Datum × Cursor)
  | 0, _, cursor => .error (.malformed .value cursor.offset)
  | fuel + 1, depth, cursor =>
    match cursor.rest with
    | '"' :: _ => do
      let (s, next) ← readString cursor.offset (fuel + 1) (cursor.advance 1) []
      pure (.text s, next)
    | '[' :: _ =>
      let inside := (cursor.advance 1).skip
      match depth with
      | 0 => .error (.tooDeep .list)
      | depth + 1 =>
        if inside.rest.head? == some ']' then .ok (.list [], inside.advance 1)
        else readItems fuel depth inside []
    | '\x7b' :: _ =>
      let inside := (cursor.advance 1).skip
      match depth with
      | 0 => .error (.tooDeep .record)
      | depth + 1 =>
        if inside.rest.head? == some '\x7d' then .ok (.record [], inside.advance 1)
        else readFields fuel depth inside []
    | _ =>
      match words.find? fun (word, _) => word.isPrefixOf cursor.rest with
      | some (word, value) => .ok (value, cursor.advance word.length)
      | none => readNumber cursor

/-- Reads the items of a list up to its end; those before are in reverse. -/
def readItems : Nat → Nat → Cursor → List Datum → Except Fault (Datum × Cursor)
  | 0, _, cursor, _ => .error (.malformed .value cursor.offset)
  | fuel + 1, depth, cursor, before => do
    let (item, next) ← readValue fuel depth cursor
    let next := next.skip
    match next.rest with
    | ']' :: _ => .ok (.list (item :: before).reverse, next.advance 1)
    | ',' :: _ => readItems fuel depth (next.advance 1).skip (item :: before)
    | _ => .error (.malformed .comma next.offset)

def readFields :
    Nat → Nat → Cursor → List (String × Datum) → Except Fault (Datum × Cursor)
  | 0, _, cursor, _ => .error (.malformed .fieldName cursor.offset)
  | fuel + 1, depth, cursor, before =>
    match cursor.rest with
    | '"' :: _ => do
      let (name, next) ← readString cursor.offset (fuel + 1) (cursor.advance 1) []
      let next := next.skip
      match next.rest with
      | ':' :: _ =>
        let (value, next) ← readValue fuel depth (next.advance 1).skip
        let fields := NameTable.set before name value
        let next := next.skip
        match next.rest with
        | '\x7d' :: _ => .ok (.record fields, next.advance 1)
        | ',' :: _ => readFields fuel depth (next.advance 1).skip fields
        | _ => .error (.malformed .comma next.offset)
      | _ => .error (.malformed .colon next.offset)
    | _ => .error (.malformed .fieldName cursor.offset)

end

/-- How deep lists and records are nested in documents from outside. -/
def usualDepth : Nat := 985

/-- Reads a whole document in which lists and records are nested at most `depth` deep. -/
def read (depth : Nat) (document : List Char) : Except Fault Datum :=
  if document.head? == some '\ufeff' then .error (.malformed .noByteOrderMark 0)
  else do
    let start : Cursor := ⟨document, 0⟩
    let (value, next) ← readValue (2 * document.length + 1) depth start.skip
    let next := next.skip
    if next.rest.isEmpty then pure value else .error (.malformed .endOfText next.offset)

end PagePress.Datum.Json
