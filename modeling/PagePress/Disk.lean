import PagePress.Bytes
import PagePress.Failure

/-!
The disk: a tree of directories, files and archives, and the directory in which relative paths
start. A node is addressed by the names on the way down to it. A path is walked part by part, and
every part but the last has to be a directory. Names and paths have a greatest length.
-/

set_option autoImplicit false

namespace PagePress

/-- The names on the way from the top down to a node. -/
abbrev Address := List String

/-- A file that holds members, in the order in which they were put in; of members with one name the
last is the one that is read. The bytes are those of the file itself. -/
structure Archive where
  members : List (String × Bytes)
  bytes : Bytes
  deriving DecidableEq, Repr

inductive Node
  | directory
  | file (content : Bytes)
  | archive (packed : Archive)
  deriving DecidableEq, Repr

def Node.isFile : Node → Bool
  | .directory => false
  | .file _ => true
  | .archive _ => true

def Node.content : Node → Bytes
  | .directory => []
  | .file content => content
  | .archive packed => packed.bytes

/-- The nodes below the top, each at its address, and the address where relative paths start. -/
structure Disk where
  nodes : List (Address × Node)
  start : Address
  deriving DecidableEq, Repr

namespace Disk

def empty : Disk := ⟨[], []⟩

/-- The node at an address; the top is a directory. -/
def node? (d : Disk) (spot : Address) : Option Node :=
  if spot = [] then some .directory
  else (d.nodes.find? fun (address, _) => address == spot).map (·.2)

def put (d : Disk) (spot : Address) (node : Node) : Disk :=
  if d.nodes.any fun (address, _) => address == spot then
    { d with nodes := d.nodes.map fun (address, old) =>
        if address = spot then (address, node) else (address, old) }
  else { d with nodes := d.nodes ++ [(spot, node)] }

/-- Why a way cannot be walked. -/
inductive Obstacle
  | missing
  | noDirectory
  | nameTooLong
  deriving DecidableEq, Repr

def nameLimit : Nat := 255

def pathLimit : Nat := 4095

/-- Walks from an address along the parts of a path. The address reached may hold nothing. -/
def walk (d : Disk) : Address → List String → Except Obstacle Address
  | spot, [] => .ok spot
  | spot, part :: rest =>
    match d.node? spot with
    | none => .error .missing
    | some .directory =>
      if part = "" || part = "." then walk d spot rest
      else if part = ".." then walk d spot.dropLast rest
      else if nameLimit < part.utf8ByteSize then .error .nameTooLong
      else walk d (spot ++ [part]) rest
    | some _ => .error .noDirectory

def Obstacle.error (path : String) : Obstacle → DiskError
  | .missing => .missing path
  | .noDirectory => .noDirectory path
  | .nameTooLong => .nameTooLong path

def hasNull (parts : List String) : Bool := parts.any fun part => part.toList.contains '\x00'

/-- Where the way of a path starts: at the top, unless the path is relative. -/
def origin (d : Disk) (anchor : Anchor) : Address := if anchor = .here then d.start else []

/-- The address that the parts of a path lead to; `shown` is the path as it is written and as
messages show it. -/
def locate (d : Disk) (shown : String) (anchor : Anchor) (parts : List String) :
    Except DiskError Address :=
  if hasNull parts then .error .nullByte
  else if pathLimit < shown.utf8ByteSize then .error (.nameTooLong shown)
  else (walk d (d.origin anchor) parts).mapError (Obstacle.error shown)

def address (d : Disk) (p : Path) : Except DiskError Address := d.locate p.toString p.anchor p.parts

/-- The node that a path leads to, if any; a path that is too long cannot even be asked about. -/
def lookup (d : Disk) (p : Path) : Except DiskError (Option Node) :=
  match d.address p with
  | .ok spot => .ok (d.node? spot)
  | .error (.nameTooLong path) => .error (.nameTooLong path)
  | .error _ => .ok none

def find? (d : Disk) (p : Path) : Option Node := ((d.lookup p).toOption).join

/-- Asks about a path; when a file is there, it has to lie below a root. -/
def ask (d : Disk) (root p : Path) : Except DiskError Unit := do
  if (← d.lookup p).any Node.isFile && (p.relativeTo? root).isNone then
    throw (.outside p.toString root.toString)

def askAll (d : Disk) (root : Path) : List Path → Except DiskError Unit
  | [] => .ok ()
  | p :: rest => do
    d.ask root p
    askAll d root rest

def readAt (d : Disk) (shown : String) (anchor : Anchor) (parts : List String) :
    Except DiskError Node := do
  let spot ← d.locate shown anchor parts
  match d.node? spot with
  | none => throw (.missing shown)
  | some .directory => throw (.directory shown)
  | some node => pure node

def read (d : Disk) (p : Path) : Except DiskError Node := d.readAt p.toString p.anchor p.parts

/-- The file at a path as it is written, every slash of which counts: a name followed by a slash is
the name of a directory. -/
def readWritten (d : Disk) (s : String) : Except DiskError Node :=
  if s = "" then .error (.missing s)
  else d.readAt s (Path.ofString s).anchor (Text.Split.partsText '/' s)

def makeDirectory (d : Disk) (p : Path) : Except DiskError Disk := do
  let spot ← d.address p
  match d.node? spot with
  | none => pure (d.put spot .directory)
  | some .directory => pure d
  | some _ => throw (.occupied p.toString)

/-- Makes the directory whose parts are given from the last to the first, and those above it that
are missing. What was made stays, also when the rest fails. -/
def makeDirectoriesAt (anchor : Anchor) : List String → Disk → Except DiskError Unit × Disk
  | [], d =>
    match d.makeDirectory ⟨anchor, []⟩ with
    | .ok d => (.ok (), d)
    | .error e => (.error e, d)
  | last :: above, d =>
    let p : Path := ⟨anchor, (last :: above).reverse⟩
    match d.makeDirectory p with
    | .ok d => (.ok (), d)
    | .error (.missing _) =>
      match makeDirectoriesAt anchor above d with
      | (.error e, d) => (.error e, d)
      | (.ok (), d) =>
        match d.makeDirectory p with
        | .ok d => (.ok (), d)
        | .error e => (.error e, d)
    | .error e => (.error e, d)

def makeDirectories (d : Disk) (p : Path) : Except DiskError Unit × Disk :=
  makeDirectoriesAt p.anchor p.parts.reverse d

def write (d : Disk) (p : Path) (content : Bytes) : Except DiskError Disk := do
  let spot ← d.address p
  match d.node? spot with
  | some .directory => throw (.directory p.toString)
  | _ => pure (d.put spot (.file content))

/-- Puts a file at a path and makes the directories above it. -/
def writeBelow (d : Disk) (p : Path) (content : Bytes) : Except DiskError Unit × Disk :=
  match d.makeDirectories p.parent with
  | (.error e, d) => (.error e, d)
  | (.ok (), d) =>
    match d.write p content with
    | .ok d => (.ok (), d)
    | .error e => (.error e, d)

def content? (d : Disk) (p : Path) : Option Bytes :=
  ((d.find? p).filter Node.isFile).map Node.content

def reaches (base spot : Address) (recurse : Bool) : Bool :=
  base.isPrefixOf spot && base.length < spot.length && (recurse || spot.length == base.length + 1)

def below (d : Disk) (base : Address) (recurse : Bool) : List (List String × Node) :=
  (d.nodes.filter fun (spot, _) => reaches base spot recurse).map fun (spot, node) =>
    (spot.drop base.length, node)

def filesBelow (d : Disk) (p : Path) : List (Path × Bytes) :=
  match d.address p with
  | .error _ => []
  | .ok spot =>
    (d.below spot true).filterMap fun (way, node) =>
      if node.isFile then some (p.join ⟨.here, way⟩, node.content) else none

/-- The bytes of a member of an archive: of several with one name, the last. -/
def member? (members : List (String × Bytes)) (name : String) : Option Bytes :=
  (members.reverse.find? fun (key, _) => key == name).map (·.2)

end Disk

end PagePress
