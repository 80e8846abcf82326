import PagePress.Artifact.Index
import PagePress.Diagnostic.Basic
import PagePress.Disk
import PagePress.Files.Location
import PagePress.Log
import PagePress.Store.Basic

/-!
The workspace of a session: the disk, the paths of the locations, the store, the clock that code
files are dated with, and what the session itself brings forth: artifacts, diagnostics, and notes on
what a compiler was shown. The log and the clock go on from session to session.
-/

set_option autoImplicit false

namespace PagePress

/-- What a session works on. -/
structure Workspace where
  disk : Disk
  locations : LocationTable
  store : Store
  clock : Clock
  index : PackageIndex
  diagnostics : List Diagnostic
  notes : List (List (Option String))
  log : List LogLine

namespace Workspace

/-- A workspace before its first session, with a clock that stands. -/
def start (disk : Disk) (store : Store) : Workspace :=
  ⟨disk, .empty, store, .ofReadings [], .empty, [], [], []⟩

/-- The workspace for the next session: nothing was brought forth yet. -/
def renew (w : Workspace) : Workspace := { w with index := .empty, diagnostics := [], notes := [] }

def tick (w : Workspace) : Workspace := { w with clock := w.clock.tick }

def tell (w : Workspace) (line : LogLine) : Workspace := { w with log := w.log ++ [line] }

def saved (name : String) (size : Nat) (p : Path) : LogLine :=
  ⟨.store, .info, "Saved artifact " ++ name ++ " (" ++ toString size ++ " bytes) to " ++ p.toString⟩

def save (w : Workspace) (name : String) (p : Path) : Except Failure Path × Workspace :=
  match w.store.get? name with
  | none => (.error (.notStored name), w)
  | some content =>
    match w.disk.writeBelow p content with
    | (.error e, disk) => (.error (.disk e), { w with disk })
    | (.ok (), disk) => (.ok p, ({ w with disk } : Workspace).tell (saved name content.length p))

end Workspace

end PagePress
