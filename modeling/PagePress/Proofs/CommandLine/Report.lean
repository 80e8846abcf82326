import PagePress.Proofs.CommandLine.Ending
import PagePress.Proofs.Files.Writing
import PagePress.Settings.Lax
import PagePress.Text.Encoding.Standard

/-!
What a run of the command line reports. Its code and its output are those of the compilation of the
text that it has read, and the only thing that it leaves on the disk is the artifact, if that is to be
saved and the unit was compiled.
-/

set_option autoImplicit false

namespace PagePress

private theorem Disk.content?_of_writeBelow {d d' : Disk} {p : Path} {content : Bytes}
    (wrote : d.writeBelow p content = (.ok (), d')) : d'.content? p = some content := by
  obtain ⟨spot, written⟩ := written_of_writeBelow wrote
  exact content?_of_found (lookup_eq_some_iff.2 ⟨spot, written.reached, written.holds⟩)

namespace CommandLine

variable {x : Surroundings} {a : Arguments} {w v : Workspace} {words : List String} {weight : Nat}

/-- A run compiles the text that it reads, under the name of the unit and with the settings and the
map that it reads, to this answer and workspace. -/
def Compiles [Text.Encodings] [FieldRules] (x : Surroundings) (a : Arguments) (w : Workspace)
    (name : String) (answer : CompilationResult) (v : Workspace) : Prop :=
  ∃ i : Inputs, i.Read x a w.disk ∧ a.unit = some name ∧ i.compiled x a name w = (.ok answer, v)

private theorem exists_compiles_iff [Text.Encodings] [FieldRules] {answer : CompilationResult} :
    (∃ name, Compiles x a w name answer v) ↔ compile x a w = (.ok answer, v) := by
  rw [compile_eq_ok_iff]
  constructor
  · rintro ⟨name, i, compiles⟩
    exact ⟨i, name, compiles⟩
  · rintro ⟨i, name, compiles⟩
    exact ⟨name, i, compiles⟩

/-- A run reports a unit that was compiled: it prints the length of the artifact in the store, and the
file of this name, if one is given, holds the artifact. Without such a name the disk stays as it is. -/
structure Delivers (a : Arguments) (w : Workspace) (name : String) (v : Workspace) (r : Run)
    (content : Bytes) : Prop where
  filled : content ≠ []
  stored : v.store.get? name = some content
  kept : r.workspace.store = v.store
  printed : r.output = [compiled name content.length]
  saved : ∀ path, Names a.save path → r.workspace.disk.content? (Path.ofString path) = some content
  unsaved : (∀ path, ¬ Names a.save path) → r.workspace.disk = w.disk

private theorem finish_delivers {name : String} {content : Bytes} {code : Nat}
    (unit : a.unit = some name) (stored : v.store.get? name = some content) (filled : content ≠ [])
    (disk : v.disk = w.disk) (ended : (finish x weight a v).ending = .exit code) :
    code = 0 ∧ Delivers a w name v (finish x weight a v) content := by
  unfold finish at ended ⊢
  dsimp only at ended ⊢
  rw [unit, Option.getD_some, stored, Option.getD_some] at ended ⊢
  split at ended
  · rename_i none
    cases ended
    exact ⟨rfl, filled, stored, rfl, rfl,
      fun path named => absurd named (filter_eq_none_iff.1 none path), fun _ => disk⟩
  · rename_i path some
    have named := filter_eq_some_iff.1 some
    rcases save_eq stored (Path.ofString path) with
      ⟨after, log, wrote, saved⟩ | ⟨after, e, refused, saved⟩
    · rw [saved] at ended ⊢
      cases ended
      refine ⟨rfl, filled, stored, rfl, rfl, fun other again => ?_, fun none => absurd named (none path)⟩
      obtain rfl := Option.some.inj (named.1.symm.trans again.1)
      exact Disk.content?_of_writeBelow wrote
    · rw [saved] at ended
      cases ended

private theorem runWith_of_error [Text.Encodings] [FieldRules] {failure : Failure} {code : Nat}
    (compiled : compile x a w = (.error failure, v))
    (ended : (runWith x weight a w).ending = .exit code) :
    code = 2 ∧ (runWith x weight a w).output = [] ∧ (runWith x weight a w).workspace = v := by
  rw [runWith, compiled] at ended ⊢
  dsimp only at ended ⊢
  split at ended
  · rename_i reported
    cases ended
    rw [if_pos reported]
    exact ⟨rfl, rfl, rfl⟩
  · cases ended

private theorem runWith_of_answer [Text.Encodings] [FieldRules] {answer : CompilationResult}
    (compiled : compile x a w = (.ok answer, v)) :
    runWith x weight a w =
      if answer.success then finish x weight a v
      else ⟨.exit 1, answer.errors.map CompilationError.text, shownLog x weight v.log, v⟩ := by
  rw [runWith, compiled]

end CommandLine

end PagePress
