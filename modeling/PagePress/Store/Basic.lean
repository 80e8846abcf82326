import PagePress.Bytes
import PagePress.Failure
import PagePress.Name
import PagePress.Store.Clock

/-!
The store of artifacts. An entry is replaced as a whole and keeps its place; entries stand in the
order in which they last became present, and packages in the order in which they last became
non-empty. The date of an entry never falls while it stays.
-/

set_option autoImplicit false

namespace PagePress

/-- One stored artifact. -/
structure Entry where
  name : String
  content : Bytes
  storedAt : Int
  deriving DecidableEq, Repr

def Entry.package (e : Entry) : String := Name.packageOf e.name

/-- The entries, the names of each package that is not empty, and the clock that dates entries. -/
structure Store where
  entries : List Entry
  members : List (String × List String)
  clock : Clock
  deriving DecidableEq, Repr

namespace Store

def empty (clock : Clock) : Store := ⟨[], [], clock⟩

def entry? (s : Store) (name : String) : Option Entry := s.entries.find? fun e => e.name == name

def get? (s : Store) (name : String) : Option Bytes := (s.entry? name).map (·.content)

def storedAt? (s : Store) (name : String) : Option Int := (s.entry? name).map (·.storedAt)

def contains (s : Store) (name : String) : Bool := (s.entry? name).isSome

def size (s : Store) : Nat := s.entries.length

def packages (s : Store) : List String := s.members.map (·.1)

def direct (s : Store) (package : String) : List String :=
  ((s.members.find? fun (key, _) => key == package).map (·.2)).getD []

def isSubpackage (package other : String) : Bool :=
  other != package && (package == "" || Name.isBelow other package)

/-- The names of a package, and with `recurse` those of the packages below it behind them. -/
def list (s : Store) (package : String) (recurse : Bool) : List String :=
  s.direct package ++
    if recurse then
      (s.members.filter fun (other, _) => isSubpackage package other).flatMap (·.2)
    else []

def enlist (members : List (String × List String)) (package name : String) :
    List (String × List String) :=
  if members.any (·.1 == package) then
    members.map fun (key, names) => if key = package then (key, names ++ [name]) else (key, names)
  else members ++ [(package, [name])]

/-- Takes a name out of its package, and the package out when nothing is left in it. -/
def delist (members : List (String × List String)) (package name : String) :
    List (String × List String) :=
  (members.map fun (key, names) => if key = package then (key, names.erase name) else (key, names))
    |>.filter fun (key, names) => key != package || !names.isEmpty

/-- The entry that a content makes now. -/
def dated (s : Store) (name : String) (content : Bytes) : Entry :=
  match s.entry? name with
  | some previous => ⟨name, content, max previous.storedAt s.clock.now⟩
  | none => ⟨name, content, s.clock.now⟩

def insert (s : Store) (name : String) (content : Bytes) : Entry × Store :=
  let entry := s.dated name content
  let clock := s.clock.tick
  if s.contains name then
    (entry, { s with
      entries := s.entries.map fun old => if old.name = name then entry else old
      clock := clock })
  else
    (entry, ⟨s.entries ++ [entry], enlist s.members entry.package name, clock⟩)

/-- Stores what is offered under a name. The clock moves also when nothing is offered. -/
def put (s : Store) (name : String) (payload : Payload) : Except Failure Entry × Store :=
  match payload with
  | none => (.error .noContent, { s with clock := s.clock.tick })
  | some content =>
    let (entry, s) := s.insert name content
    (.ok entry, s)

def insertAll (s : Store) : List (String × Bytes) → List Entry × Store
  | [] => ([], s)
  | (name, content) :: rest =>
    let (entry, s) := s.insert name content
    let (entries, s) := insertAll s rest
    (entry :: entries, s)

/-- The contents of a batch, unless one is missing. -/
def contents? : List (String × Payload) → Option (List (String × Bytes))
  | [] => some []
  | (name, payload) :: rest =>
    match payload, contents? rest with
    | some content, some contents => some ((name, content) :: contents)
    | _, _ => none

/-- Stores a batch: all of it, or nothing when a content is missing. -/
def putMany (s : Store) (items : List (String × Payload)) :
    Except Failure (List Entry) × Store :=
  match contents? items with
  | none => (.error .noContent, s)
  | some contents =>
    let (entries, s) := s.insertAll contents
    (.ok entries, s)

/-- Takes a name out of the store, and tells whether it was there. A name that its package does not
list cannot be taken out of the package; the entry is gone by then. -/
def remove (s : Store) (name : String) : Except Failure Bool × Store :=
  match s.entry? name with
  | none => (.ok false, s)
  | some entry =>
    let entries := s.entries.filter fun e => e.name != name
    if (s.direct entry.package).contains name then
      (.ok true, { s with entries, members := delist s.members entry.package name })
    else (.error .notListed, { s with entries })

def clear (s : Store) : Store := ⟨[], [], s.clock⟩

end Store

end PagePress
