import PagePress.Bytes
import PagePress.Failure

/-!
Code files: a header that names the interpreter, the time and the size of the source, and behind it
a value. Code keeps the source it was made from and the address of its unit; a code of another make
is gone through to its end and then refused. Main statement: what is written for a code is read back
as that code.
-/

set_option autoImplicit false

namespace PagePress

/-- A unit of code: the source that it runs and the address of the unit. -/
structure Code where
  source : String
  uri : String
  deriving DecidableEq, Repr

inductive CodeValue
  | nothing
  | bool (value : Bool)
  | int (value : Nat)
  | bytes (value : Bytes)
  | tuple (items : List CodeValue)
  | code (value : Code)
  deriving Repr

namespace CodeFile

def mark : Bytes := [0xa7, 0x0d, 0x0d, 0x0a]

def headerSize : Nat := 16

/-- The moment of a reading of the clock: its low 32 bits. -/
def moment (reading : Int) : Nat := (reading % Int.pow 2 32).toNat

def header (time sourceSize : Nat) : Bytes :=
  mark ++ [0, 0, 0, 0] ++ Bytes.ofNatLow 4 time ++ Bytes.ofNatLow 4 sourceSize

/-- A number in groups of seven bits, the lowest first; every byte but the last has its top bit
set. -/
def writeNumber (n : Nat) : Bytes :=
  if n < 128 then [UInt8.ofNat n] else UInt8.ofNat (n % 128 + 128) :: writeNumber (n / 128)

def writeChars : List Char → Bytes
  | [] => []
  | c :: rest => writeNumber c.toNat ++ writeChars rest

def writeText (s : String) : Bytes := writeNumber s.toList.length ++ writeChars s.toList

/-- The five numbers that describe the frame of a code; a module has none of its own. -/
def frame : Bytes := List.replicate 20 0

/-- What tells a code that keeps its source from one of another make: no value begins like this. -/
def pageMark : Bytes := [0x01, 0x70, 0x61, 0x67, 0x65]

def writeCode (code : Code) : Bytes :=
  0xe3 :: (frame ++ pageMark ++ writeText code.source ++ writeText code.uri)

def write (time sourceSize : Nat) (code : Code) : Bytes := header time sourceSize ++ writeCode code

def take (count : Nat) (bytes : Bytes) : Except CodeFault (Bytes × Bytes) :=
  if bytes.length < count then .error .tooShort else .ok (bytes.take count, bytes.drop count)

def readWord (bytes : Bytes) : Except CodeFault (Nat × Bytes) := do
  let (digits, rest) ← take 4 bytes
  pure (Bytes.toNatLow digits, rest)

def readCounted (bytes : Bytes) : Except CodeFault (Bytes × Bytes) := do
  let (count, rest) ← readWord bytes
  if Nat.pow 2 31 ≤ count then throw .sizeOutOfRange
  take count rest

def readNumber : Bytes → Except CodeFault (Nat × Bytes)
  | [] => .error .noObject
  | b :: rest =>
    if b.toNat < 128 then .ok (b.toNat, rest)
    else
      match readNumber rest with
      | .error fault => .error fault
      | .ok (high, rest) => .ok (b.toNat - 128 + 128 * high, rest)

def readChars : Nat → Bytes → Except CodeFault (List Char × Bytes)
  | 0, bytes => .ok ([], bytes)
  | count + 1, bytes =>
    match readNumber bytes with
    | .error fault => .error fault
    | .ok (n, bytes) =>
      match readChars count bytes with
      | .error fault => .error fault
      | .ok (cs, bytes) => .ok (Char.ofNat n :: cs, bytes)

def readText (bytes : Bytes) : Except CodeFault (String × Bytes) :=
  match readNumber bytes with
  | .error fault => .error fault
  | .ok (count, bytes) =>
    match readChars count bytes with
    | .error fault => .error fault
    | .ok (cs, bytes) => .ok (String.ofList cs, bytes)

/-- The source and the address of a code that keeps them. -/
def readPage (bytes : Bytes) : Except CodeFault (CodeValue × Bytes) :=
  match readText bytes with
  | .error fault => .error fault
  | .ok (source, bytes) =>
    match readText bytes with
    | .error fault => .error fault
    | .ok (uri, bytes) => .ok (.code ⟨source, uri⟩, bytes)

abbrev ValueReader := Bytes → Except CodeFault (CodeValue × Bytes)

def readMany (readOne : ValueReader) : Nat → Bytes → Except CodeFault (List CodeValue × Bytes)
  | 0, bytes => .ok ([], bytes)
  | count + 1, bytes => do
    let (item, bytes) ← readOne bytes
    let (items, bytes) ← readMany readOne count bytes
    pure (item :: items, bytes)

/-- Goes through a code of another make: eight values, a line number and two more values. Three of
the values would have to be texts, which no value is. -/
def readForeign (readOne : ValueReader) (bytes : Bytes) : Except CodeFault (CodeValue × Bytes) := do
  let (_, bytes) ← readMany readOne 8 bytes
  let (_, bytes) ← readWord bytes
  let _ ← readMany readOne 2 bytes
  throw .malformedCode

def readCode (readOne : ValueReader) (bytes : Bytes) : Except CodeFault (CodeValue × Bytes) :=
  match take frame.length bytes with
  | .error fault => .error fault
  | .ok (_, bytes) =>
    if pageMark.isPrefixOf bytes then readPage (bytes.drop pageMark.length)
    else readForeign readOne bytes

def asItem {α : Type} (answer : Except CodeFault α) : Except CodeFault α :=
  answer.mapError fun fault => if fault = .nullObject then .nullItem else fault

/-- The number of values of a list, whose bytes follow; it counts as the greatest possible where the
bytes are at their end. -/
def itemCount : Bytes → Nat × Bytes
  | [] => (255, [])
  | count :: rest => (count.toNat, rest)

def readValue : Nat → ValueReader
  | _, [] => .error .noObject
  | 0, _ :: _ => .error .tooDeep
  | depth + 1, type :: rest =>
    let type := type.toNat % 128
    if type = 0x4e then .ok (.nothing, rest)
    else if type = 0x54 then .ok (.bool true, rest)
    else if type = 0x46 then .ok (.bool false, rest)
    else if type = 0x63 then readCode (readValue depth) rest
    else if type = 0x69 then (readWord rest).map fun (value, rest) => (.int value, rest)
    else if type = 0x73 then (readCounted rest).map fun (value, rest) => (.bytes value, rest)
    else if type = 0x29 then
      let (count, rest) := itemCount rest
      (readMany (fun bytes => asItem (readValue depth bytes)) count rest).map
        fun (items, rest) => (.tuple items, rest)
    else if type = 0x30 then .error .nullObject
    else .error .unknownType

/-- How deep values are nested at most. -/
def depthLimit : Nat := 2000

/-- Reads a code file. What stands behind the value is left alone. -/
def read (content : Bytes) : Except CodeFault Code :=
  if content.length ≤ headerSize || content.take 4 != mark then .error .foreign
  else
    match readValue depthLimit (content.drop headerSize) with
    | .error fault => .error fault
    | .ok (.code code, _) => .ok code
    | .ok _ => .error .noCode

private theorem readNumber_writeNumber (n : Nat) (rest : Bytes) :
    readNumber (writeNumber n ++ rest) = .ok (n, rest) := by
  fun_induction writeNumber n with
  | case1 n small =>
    have value : (UInt8.ofNat n).toNat = n := by simp; omega
    simp [readNumber, small, Nat.mod_eq_of_lt (show n < 256 by omega)]
  | case2 n large ih =>
    have value : (UInt8.ofNat (n % 128 + 128)).toNat = n % 128 + 128 := by simp; omega
    simp only [List.cons_append, readNumber, ih, value]
    rw [if_neg (by omega)]
    congr 2
    omega

private theorem readChars_writeChars (cs : List Char) (rest : Bytes) :
    readChars cs.length (writeChars cs ++ rest) = .ok (cs, rest) := by
  induction cs with
  | nil => rfl
  | cons c cs ih =>
    simp [readChars, writeChars, List.append_assoc, readNumber_writeNumber, ih]

private theorem readText_writeText (s : String) (rest : Bytes) :
    readText (writeText s ++ rest) = .ok (s, rest) := by
  simp only [readText, writeText, List.append_assoc, readNumber_writeNumber]
  rw [readChars_writeChars]
  simp

private theorem take_append (start rest : Bytes) :
    take start.length (start ++ rest) = .ok (start, rest) := by
  have enough : ¬ (start ++ rest).length < start.length := by simp
  simp only [take, if_neg enough, List.take_left, List.drop_left]

private theorem isPrefixOf_append (start rest : Bytes) : start.isPrefixOf (start ++ rest) = true :=
  List.isPrefixOf_iff_prefix.2 (List.prefix_append start rest)

private theorem readCode_append (readOne : ValueReader) (code : Code) (rest : Bytes) :
    readCode readOne (frame ++ pageMark ++ writeText code.source ++ writeText code.uri ++ rest) =
      .ok (.code code, rest) := by
  simp only [readCode, readPage, List.append_assoc, take_append, isPrefixOf_append, if_true,
    List.drop_left, readText_writeText]

private theorem length_header (time sourceSize : Nat) : (header time sourceSize).length = 16 := by
  simp [header, mark, Bytes.length_ofNatLow]

theorem read_write (time sourceSize : Nat) (code : Code) :
    read (write time sourceSize code) = .ok code := by
  have long : ¬ (write time sourceSize code).length ≤ headerSize := by
    simp [write, writeCode, length_header, headerSize]
  have marked : (write time sourceSize code).take 4 = mark := by
    simp [write, header, mark]
  have body : (write time sourceSize code).drop headerSize = writeCode code := by
    rw [write, List.drop_append_of_le_length (by simp [length_header, headerSize]),
      List.drop_eq_nil_of_le (by simp [length_header, headerSize]), List.nil_append]
  have whole := readCode_append (readValue 1999) code []
  rw [List.append_nil, List.append_assoc, List.append_assoc] at whole
  simp only [read, body, marked, long]
  simp [writeCode, depthLimit, readValue, whole]

end CodeFile

end PagePress
