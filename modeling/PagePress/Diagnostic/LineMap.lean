import PagePress.Diagnostic.Basic

/-!
Line maps: from lines of generated source to places in a template. Lines are counted from one where
they are given as numbers; a place that is given as such is taken as it is.
-/

set_option autoImplicit false

namespace PagePress

/-- The places known for generated lines, each line once. -/
structure LineMap where
  places : List (Int × Position)
  deriving DecidableEq, Repr

/-- What a generated line is mapped to: a line, which is converted, or a place. -/
inductive Target
  | plain (line : Datum)
  | position (place : Position)

namespace LineMap

def empty : LineMap := ⟨[]⟩

def size (m : LineMap) : Nat := m.places.length

def lookup (m : LineMap) (line : Int) : Option Position :=
  (m.places.find? fun (key, _) => key == line).map (·.2)

def set (m : LineMap) (line : Int) (place : Position) : LineMap :=
  if m.places.any fun (key, _) => key == line then
    ⟨m.places.map fun (key, old) => if key = line then (key, place) else (key, old)⟩
  else ⟨m.places ++ [(line, place)]⟩

def add (m : LineMap) (line template : Int) (file : Datum) : Except Failure LineMap :=
  if line < 1 || template < 1 then .error .lineBelowOne else .ok (m.set line ⟨file, .int template⟩)

/-- Maps `count` generated lines from `first` on, one after the other. A line that is refused ends
this, and the lines before it stay mapped. -/
def addFrom (m : LineMap) (first : Int) : Nat → Int → Datum → Except Failure Unit × LineMap
  | 0, _, _ => (.ok (), m)
  | count + 1, template, file =>
    match m.add first template file with
    | .error failure => (.error failure, m)
    | .ok m => addFrom m (first + 1) count template file

/-- Maps every generated line of a range, both ends included, to one line of a template; the map is
the one that this leaves, also when it fails. -/
def extend (m : LineMap) (first last template : Int) (file : Datum) :
    Except Failure Unit × LineMap :=
  if last < first then (.error .rangeReversed, m)
  else m.addFrom first (last - first + 1).toNat template file

def addTarget (m : LineMap) (file : Datum) (line : Datum) (target : Target) :
    Except Failure LineMap := do
  match target with
  | .position place =>
    let key ← line.toInt.mapError .notAnInteger
    pure (m.set key place)
  | .plain template =>
    let key ← line.toInt.mapError .notAnInteger
    let template ← template.toInt.mapError .notAnInteger
    m.add key template file

/-- The map of a mapping, whose lines are converted in order. -/
def ofMapping (pairs : List (Datum × Target)) (file : Datum) : Except Failure LineMap :=
  pairs.foldlM (fun m (line, target) => m.addTarget file line target) empty

/-- Whether two keys of a mapping are one: numbers and truth values are compared as numbers. -/
def sameKey : Datum → Datum → Bool
  | .null, .null => true
  | .text s, .text t => s == t
  | .real x, .real y => x.equals y
  | .real x, .int n => x.equalsInt n
  | .int n, .real x => x.equalsInt n
  | .real x, .bool b => x.equalsInt (if b then 1 else 0)
  | .bool b, .real x => x.equalsInt (if b then 1 else 0)
  | .int n, .int k => n == k
  | .bool b, .bool c => b == c
  | .int n, .bool b => n == (if b then 1 else 0)
  | .bool b, .int n => n == (if b then 1 else 0)
  | _, _ => false

/-- Sets the target of a key; a key that is there keeps its place. -/
def setPair (pairs : List (Datum × Target)) (line : Datum) (target : Target) :
    List (Datum × Target) :=
  if pairs.any fun (key, _) => sameKey key line then
    pairs.map fun (key, old) => if sameKey key line then (key, target) else (key, old)
  else pairs ++ [(line, target)]

/-- The mapping of a list of pairs: of pairs with one key the last counts. -/
def mappingOf (pairs : List (Datum × Target)) : List (Datum × Target) :=
  pairs.foldl (fun mapping (line, target) => setPair mapping line target) []

end LineMap

end PagePress
