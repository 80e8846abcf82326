import Mathlib.Data.List.Forall2
import PagePress.Files.Access
import PagePress.Proofs.Store.Consistency

/-!
What a virtual access lists for a reserved package. The answer is a function of the store: neither
the access behind it nor its disk and locations count. Every name that the store lists is shown, since
the rows of a store that came about by its operations hold stored names only, and what is shown is a
copy, which later changes of the store do not reach.
-/

set_option autoImplicit false

namespace PagePress

private theorem Store.Consistent.contains_of_mem_list {s : Store} (h : s.Consistent)
    {package : String} (named : package ≠ "") {recurse : Bool} {name : String}
    (listed : name ∈ s.list package recurse) :
    s.contains name = true := by
  cases recurse with
  | false => exact ((h.mem_direct name package).1 (s.list_false package ▸ listed)).1
  | true => exact ((h.mem_list named name).1 listed).1

namespace FileAccess

/-- A file that shows what is stored under a name: a sealed artifact that the access knows by that
name and reads as the content in the store, on every workspace, whatever its store became. -/
structure Shows (m : FileAccess) (s : Store) (name : String) (object : FileObject) : Prop where
  isSealed : ∃ a, object = .stored a ∧ a.isSealed = true
  binaryName : ∀ w, m.binaryName w object = some name
  read : ∃ content, s.get? name = some content ∧ ∀ w, m.read w object = .ok content
  openStream : ∀ w, m.openStream w object = (.error (.adapter (.alreadySealed name)), w)

private theorem shows_ofContent (d : FileAccess) (reserved : String) {s : Store} {name : String}
    {content : Bytes} (stored : s.get? name = some content) :
    (FileAccess.virtual d reserved).Shows s name (.stored (.ofContent name .compiled content)) where
  isSealed := ⟨_, rfl, rfl⟩
  binaryName _ := rfl
  read := ⟨content, stored, fun _ => rfl⟩
  openStream _ := rfl

private theorem shows_copies (d : FileAccess) (reserved : String) (s : Store) (names : List String)
    (stored : ∀ name ∈ names, s.contains name = true) :
    List.Forall₂ ((FileAccess.virtual d reserved).Shows s) names
      (names.filterMap fun name =>
        (s.get? name).map fun content => .stored (.ofContent name .compiled content)) := by
  induction names with
  | nil => exact .nil
  | cons name rest ih =>
    have present : (s.get? name).isSome = true := by
      rw [← s.contains_eq_isSome_get?]
      exact stored name (by simp)
    obtain ⟨content, found⟩ := Option.isSome_iff_exists.1 present
    have copied := ih fun other mem => stored other (List.mem_cons_of_mem _ mem)
    simpa [found] using List.Forall₂.cons (shows_ofContent d reserved found) copied

private theorem eq_virtual {d m : FileAccess} {reserved : String}
    (made : makeVirtual d reserved = .ok m) : reserved ≠ "" ∧ m = .virtual d reserved := by
  unfold makeVirtual at made
  split at made
  · cases made
  · rename_i named
    cases made
    exact ⟨named, rfl⟩

/-- The listing of a reserved package, by any two virtual accesses with the same namespace and
store: the same answer, with one copy for each name that the store lists, in its order; and nothing
when compiled files are not asked for. -/
theorem reserved_listing_shows_store {d d' m m' : FileAccess} {reserved package : String}
    {w w' : Workspace} (made : makeVirtual d reserved = .ok m)
    (made' : makeVirtual d' reserved = .ok m') (shared : w'.store = w.store)
    (reachable : w.store.Reachable) (within : Name.isWithin package reserved = true)
    (kinds : List Kind) (recurse : Bool) :
    ∃ objects, m.list w .classPath package kinds recurse = .ok objects ∧
      m'.list w' .classPath package kinds recurse = .ok objects ∧
      (kinds.contains .compiled = true →
        List.Forall₂ (m.Shows w.store) (w.store.list package recurse) objects) ∧
      (kinds.contains .compiled = false → objects = []) := by
  obtain ⟨named, rfl⟩ := eq_virtual made
  obtain ⟨-, rfl⟩ := eq_virtual made'
  refine ⟨storedMembers w.store package kinds recurse, ?_, ?_, ?_, ?_⟩
  · simp [list, within]
  · simp [list, within, shared]
  · intro asked
    have packageNamed : package ≠ "" := by
      rintro rfl
      rcases (Name.isWithin_iff "" reserved).1 within with same | below
      · exact named same.symm
      · have := Name.length_lt_of_isBelow below
        simp at this
    simp only [storedMembers, asked, if_true]
    exact shows_copies d reserved w.store _ fun name listed =>
      reachable.consistent.contains_of_mem_list packageNamed listed
  · intro unasked
    simp only [storedMembers, unasked, Bool.false_eq_true, if_false]

/-- A file on the disk of one of two workspaces is no member of the reserved package. -/
theorem stored_pages_listed_beside_file :
    let store := (((Store.empty ⟨0, []⟩).put "generated.A" (some [1])).2.put
      "generated.menu.B" (some [2])).2
    let disk : Disk := ⟨[(["lib"], .directory), (["lib", "generated"], .directory),
      (["lib", "generated", "Ghost.pyc"], .file [3])], []⟩
    let w := Workspace.start .empty store
    let w' := setLocation (.start disk store) .classPath [.ofString "lib"]
    let m := FileAccess.virtual .standard "generated"
    let m' := FileAccess.virtual (.forwarding .standard) "generated"
    ∃ objects, m.list w .classPath "generated" [.compiled, .source] true = .ok objects ∧
      m'.list w' .classPath "generated" [.compiled, .source] true = .ok objects ∧
      List.Forall₂ (m.Shows store) ["generated.A", "generated.menu.B"] objects := by
  intro store disk w w' m m'
  have reachable : store.Reachable := .put _ _ (.put _ _ (.empty _))
  have made : makeVirtual .standard "generated" = .ok m := rfl
  have made' : makeVirtual (.forwarding .standard) "generated" = .ok m' := rfl
  have within : Name.isWithin "generated" "generated" = true := by decide +kernel
  have shared : w'.store = w.store := rfl
  obtain ⟨objects, listed, listed', shown, -⟩ :=
    reserved_listing_shows_store made made' shared reachable within [.compiled, .source] true
  have names : store.list "generated" true = ["generated.A", "generated.menu.B"] := by
    decide +kernel
  exact ⟨objects, listed, listed', names ▸ shown rfl⟩

end FileAccess

end PagePress
