import PagePress.Artifact.Basic
import PagePress.Disk

/-!
Files of the disk as an access to files sees them: below a root, which is a directory or an archive.
A listing of a package holds the files whose suffix tells one of the kinds that are asked for: those
of a directory in the order of the names on the way down, those of an archive in the order of the
names of its members.
-/

set_option autoImplicit false

namespace PagePress

/-- A file below a root. -/
structure DiskFile where
  root : Path
  path : Path
  kind : Kind
  deriving DecidableEq, Repr

def Kind.ofSuffix? (suffix : String) : Option Kind :=
  if suffix = Kind.source.suffix then some .source
  else if suffix = Kind.compiled.suffix then some .compiled
  else none

namespace DiskFile

/-- The dotted name of a file: the way to it without the suffix; the file that stands for its
package is named for the package. -/
def binaryName (f : DiskFile) : String :=
  let bare : Path := ⟨f.path.anchor, f.path.parts.dropLast ++ [f.path.stem]⟩
  let components := bare.components
  ".".intercalate
    (if components.getLast? = some "__init__" then components.dropLast else components)

def shown (f : DiskFile) : String :=
  "DiskFileObject(root=PosixPath(" ++ Text.Quoted.quote f.root.toString ++
    "), relative_path=PurePosixPath(" ++ Text.Quoted.quote f.path.toString ++
    "), kind=<Kind." ++ f.kind.name ++ ": " ++ Text.Quoted.quote f.kind.suffix ++ ">)"

def packagePath (package : String) : Path := Path.ofPieces (Name.parts package)

def namesLe : List String → List String → Bool
  | [], _ => true
  | _ :: _, [] => false
  | a :: as, b :: bs => if a = b then namesLe as bs else decide (a < b)

/-- What stands below an address, in the order of the names on the way down. -/
def entries (d : Disk) (spot : Address) (recurse : Bool) : List (List String × Node) :=
  (d.below spot recurse).mergeSort fun a b => namesLe a.1 b.1

/-- What stands below the directory of a package at the end of a way, as a file below the root, when
it is one of the kinds. -/
def fileAt? (root package : Path) (kinds : List Kind) (way : List String) (node : Node) :
    Option DiskFile := do
  let path ← ((root.join package).join ⟨.here, way⟩).relativeTo? root
  let kind ← Kind.ofSuffix? path.suffix
  if kinds.contains kind && node.isFile then some ⟨root, path, kind⟩ else none

/-- The files of a package in a directory, which is there. -/
def listDirectory (d : Disk) (root package : Path) (kinds : List Kind) (recurse : Bool) :
    List DiskFile :=
  match d.address (root.join package) with
  | .error _ => []
  | .ok spot =>
    (entries d spot recurse).filterMap fun (way, node) => fileAt? root package kinds way node

/-- The paths below the directory of a package that its listing asks about: with `recurse` first
every directory, since it is gone through, and then all that is named like a file of the kinds. -/
def askedBelow (d : Disk) (root package : Path) (kinds : List Kind) (recurse : Bool) : List Path :=
  match d.address (root.join package) with
  | .error _ => []
  | .ok spot =>
    let found := (entries d spot recurse).map fun (way, node) =>
      ((root.join package).join ⟨.here, way⟩, node)
    let opened := found.filter fun (_, node) => recurse && node = .directory
    let named := found.filter fun (path, _) => (Kind.ofSuffix? path.suffix).any kinds.contains
    (opened ++ named).map (·.1)

/-- Whether a member of an archive belongs to a package, or with `recurse` to one below it. -/
def inPackage (package member : Path) (recurse : Bool) : Bool :=
  member.parent == package || (recurse && package.isAbove member.parent)

def listArchive (members : List (String × Bytes)) (root package : Path) (kinds : List Kind)
    (recurse : Bool) : List DiskFile :=
  ((members.map (·.1)).mergeSort fun a b => decide (a ≤ b)).filterMap fun name =>
    let path := Path.ofString name
    match Kind.ofSuffix? path.suffix with
    | some kind =>
      if kinds.contains kind && inPackage package path recurse then some ⟨root, path, kind⟩
      else none
    | none => none

/-- The files of a package below a root; a root that is neither a directory nor an archive has
none. All that is asked about on the way has to be something that can be asked about, and the files
among it have to lie below the root, which those of an anchored package need not do. -/
def listRoot (d : Disk) (package : Path) (kinds : List Kind) (recurse : Bool) (root : Path) :
    Except DiskError (List DiskFile) := do
  match ← d.lookup root with
  | some .directory =>
    match ← d.lookup (root.join package) with
    | some .directory =>
      d.askAll root (askedBelow d root package kinds recurse)
      pure (listDirectory d root package kinds recurse)
    | _ => pure []
  | some (.archive packed) => pure (listArchive packed.members root package kinds recurse)
  | _ => if Disk.hasNull root.parts then throw .nullByte else pure []

/-- The files of a package, root by root. -/
def list (d : Disk) (roots : List Path) (package : String) (kinds : List Kind) (recurse : Bool) :
    Except DiskError (List DiskFile) := do
  let files ← roots.mapM (listRoot d (packagePath package) kinds recurse)
  pure files.flatten

def target (f : DiskFile) : Path := f.root.join f.path

/-- Whether a file is, or would be, a member of an archive: its root is a file. -/
def isMember (d : Disk) (f : DiskFile) : Except Failure Bool :=
  ((d.lookup f.root).map fun node => node.any Node.isFile).mapError .disk

def read (d : Disk) (f : DiskFile) : Except Failure Bytes := do
  match ← (d.lookup f.root).mapError .disk with
  | some (.archive packed) =>
    match Disk.member? packed.members f.path.toString with
    | some content => pure content
    | none => throw (.noMember f.path.toString)
  | some (.file _) => throw .notAnArchive
  | _ => (d.read f.target).map Node.content |>.mapError .disk

def forOutput (root : Path) (name : String) (kind : Kind) : Except Failure DiskFile :=
  let path := packagePath name
  match path.withSuffix? kind.suffix with
  | some path => .ok ⟨root, path, kind⟩
  | none => .error (.namelessPath path)

end DiskFile

end PagePress
