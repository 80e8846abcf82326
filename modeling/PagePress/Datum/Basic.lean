import PagePress.NameTable
import PagePress.Number.Shortest
import PagePress.Text.Integer
import PagePress.Text.Quoted

/-!
Data of a document: nothing, truth values, integers, numbers, texts, lists and records, and the
text in which messages show them. A record keeps its fields in order, each name once.
-/

set_option autoImplicit false

namespace PagePress

open Number (Binary64)

/-- A value as documents hold it. -/
inductive Datum
  | null
  | bool (value : Bool)
  | int (value : Int)
  | real (value : Binary64)
  | text (value : String)
  | list (items : List Datum)
  | record (fields : List (String × Datum))
  deriving Inhabited, Repr

namespace Datum

/-- How a finite number is written: digits around a point when the point falls near them, else a
digit, a fraction and a signed exponent of at least two digits. -/
def decimalText (negative : Bool) (m : Nat) (e : Int) : String :=
  let d := Number.Shortest.ofFinite m e
  let count := d.digits.length
  let body : List Char :=
    if -4 < d.point && d.point ≤ 16 then
      if d.point ≤ 0 then
        '0' :: '.' :: (List.replicate (-d.point).toNat '0' ++ d.digits)
      else if (count : Int) ≤ d.point then
        d.digits ++ List.replicate (d.point.toNat - count) '0' ++ ['.', '0']
      else d.digits.take d.point.toNat ++ '.' :: d.digits.drop d.point.toNat
    else
      let exponent := d.point - 1
      let shown := (toString exponent.natAbs).toList
      d.digits.take 1 ++ (if count = 1 then [] else '.' :: d.digits.drop 1) ++
        'e' :: (if exponent < 0 then '-' else '+') ::
          (if shown.length < 2 then '0' :: shown else shown)
  String.ofList (if negative then '-' :: body else body)

def realText : Binary64 → String
  | .finite negative m e => decimalText negative m e
  | .infinite negative => if negative then "-inf" else "inf"
  | .nan => "nan"

mutual

def shown : Datum → String
  | .null => "None"
  | .bool true => "True"
  | .bool false => "False"
  | .int n => toString n
  | .real x => realText x
  | .text s => Text.Quoted.quote s
  | .list items => "[" ++ ", ".intercalate (shownItems items) ++ "]"
  | .record fields => "\x7b" ++ ", ".intercalate (shownFields fields) ++ "\x7d"

def shownItems : List Datum → List String
  | [] => []
  | item :: rest => shown item :: shownItems rest

def shownFields : List (String × Datum) → List String
  | [] => []
  | (name, value) :: rest => (Text.Quoted.quote name ++ ": " ++ shown value) :: shownFields rest

end

/-- The text of a datum that stands alone: a text is itself, all else is as messages show it. -/
def plainText : Datum → String
  | .text s => s
  | d => shown d

def kindName : Datum → String
  | .null => "NoneType"
  | .bool _ => "bool"
  | .int _ => "int"
  | .real _ => "float"
  | .text _ => "str"
  | .list _ => "list"
  | .record _ => "dict"

/-- Whether a datum counts as true: nothing, false, zero and what is empty do not. -/
def isTruthy : Datum → Bool
  | .null => false
  | .bool b => b
  | .int n => n != 0
  | .real x => !x.equalsInt 0
  | .text s => s != ""
  | .list items => !items.isEmpty
  | .record fields => !fields.isEmpty

def field? (name : String) (d : Datum) : Option Datum :=
  match d with
  | .record fields => NameTable.get? fields name
  | _ => none

inductive IntegerFault
  | badText (fault : Text.Integer.Fault)
  | noNumber (kind : String)
  | notANumber
  | infinity
  deriving DecidableEq, Repr

def IntegerFault.message : IntegerFault → String
  | .badText fault => fault.message
  | .noNumber kind =>
    "int() argument must be a string, a bytes-like object or a real number, not '" ++ kind ++ "'"
  | .notANumber => "cannot convert float NaN to integer"
  | .infinity => "cannot convert float infinity to integer"

/-- The integer that a datum stands for: a number loses its fraction, a truth value is zero or one,
a text is read. -/
def toInt : Datum → Except IntegerFault Int
  | .bool b => .ok (if b then 1 else 0)
  | .int n => .ok n
  | .real x =>
    match x with
    | .nan => .error .notANumber
    | .infinite _ => .error .infinity
    | .finite negative m e => .ok ((Binary64.finite negative m e).truncate?.getD 0)
  | .text s => (Text.Integer.read s).mapError .badText
  | d => .error (.noNumber d.kindName)

example : shown (.list [.real (Binary64.ofDecimal false 31 (-1)), .null, .bool true]) =
    "[3.1, None, True]" := by decide +kernel

example : shown (.real (Binary64.ofDecimal false 1 20)) = "1e+20" := by decide +kernel

end Datum

end PagePress
