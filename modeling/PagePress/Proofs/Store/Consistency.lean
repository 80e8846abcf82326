import Mathlib.Data.List.Nodup
import Mathlib.Tactic.ByContra
import PagePress.Proofs.Naming
import PagePress.Proofs.Store.Insertion

/-!
The stores that can come about. In every one of them the rows of names agree with the entries: each
package lists the names of its entries, in their order, and is gone when none is left. From this
follows what a listing holds: with the packages below, everything stored below a package.
-/

set_option autoImplicit false

namespace PagePress.Store

/-- The stores that come about by storing and taking away. -/
inductive Reachable : Store → Prop
  | empty (clock : Clock) : Reachable (empty clock)
  | put {s : Store} (name : String) (payload : Payload) :
      Reachable s → Reachable (s.put name payload).2
  | putMany {s : Store} (items : List (String × Payload)) :
      Reachable s → Reachable (s.putMany items).2
  | remove {s : Store} (name : String) : Reachable s → Reachable (s.remove name).2
  | clear {s : Store} : Reachable s → Reachable s.clear

/-- The names of the entries of a package, in the order of the entries. -/
def namesIn (entries : List Entry) (package : String) : List String :=
  (entries.filter fun e => e.package == package).map Entry.name

def names (s : Store) : List String := s.entries.map Entry.name

structure Consistent (s : Store) : Prop where
  names_nodup : (s.entries.map Entry.name).Nodup
  packages_nodup : s.packages.Nodup
  direct_eq : ∀ package, s.direct package = namesIn s.entries package
  direct_ne_nil : ∀ package ∈ s.packages, s.direct package ≠ []

private theorem package_of_name {e other : Entry} (h : e.name = other.name) :
    e.package = other.package := by rw [Entry.package, Entry.package, h]

private theorem map_name_replace (entries : List Entry) (e : Entry) :
    (entries.map fun old => if old.name = e.name then e else old).map Entry.name =
      entries.map Entry.name := by
  rw [List.map_map]
  apply List.map_congr_left
  intro old _
  simp only [Function.comp]
  split
  · rename_i same
    exact same.symm
  · rfl

private theorem namesIn_replace (entries : List Entry) (e : Entry) (package : String) :
    namesIn (entries.map fun old => if old.name = e.name then e else old) package =
      namesIn entries package := by
  induction entries with
  | nil => rfl
  | cons old rest ih =>
    have first : (if old.name = e.name then e else old).name = old.name := by
      split
      · rename_i same
        exact same.symm
      · rfl
    have alike := package_of_name first
    simp only [namesIn, List.map_cons, List.filter_cons, alike] at ih ⊢
    split
    · rw [List.map_cons, List.map_cons, first, ih]
    · exact ih

theorem mem_names (s : Store) (name : String) : name ∈ s.names ↔ s.contains name = true := by
  rw [contains_iff, names, List.mem_map]

theorem names_insert (s : Store) (name : String) (content : Bytes) :
    (s.insert name content).2.names = if s.contains name then s.names else s.names ++ [name] := by
  cases stored : s.contains name with
  | true =>
    have replaced := map_name_replace s.entries (s.dated name content)
    rw [name_dated] at replaced
    simpa [Store.insert, stored, names] using replaced
  | false => simp [Store.insert, stored, names]

private theorem packages_enlist (members : List (String × List String)) (package name : String) :
    (enlist members package name).map Prod.fst =
      if package ∈ members.map Prod.fst then members.map Prod.fst
      else members.map Prod.fst ++ [package] := by
  have present : members.any (·.1 == package) = true ↔ package ∈ members.map Prod.fst := by
    simp
  simp only [enlist, present]
  split
  · rw [List.map_map]
    apply List.map_congr_left
    intro row _
    simp only [Function.comp]
    split <;> rfl
  · simp

theorem packages_insert (s : Store) (name : String) (content : Bytes) :
    (s.insert name content).2.packages =
      if s.contains name = true ∨ Name.packageOf name ∈ s.packages then s.packages
      else s.packages ++ [Name.packageOf name] := by
  cases stored : s.contains name with
  | true => simp [Store.insert, stored, packages]
  | false =>
    have own : (s.dated name content).package = Name.packageOf name := by simp [Entry.package]
    simp only [Store.insert, stored, Bool.false_eq_true, if_false, false_or, packages, own]
    exact packages_enlist s.members _ name

private theorem namesIn_insert (s : Store) (name package : String) (content : Bytes) :
    namesIn (s.insert name content).2.entries package =
      namesIn s.entries package ++
        if s.contains name = false ∧ package = Name.packageOf name then [name] else [] := by
  cases stored : s.contains name with
  | true =>
    have replaced := namesIn_replace s.entries (s.dated name content) package
    rw [name_dated] at replaced
    simpa [Store.insert, stored] using replaced
  | false =>
    have own : (s.dated name content).package = Name.packageOf name := by simp [Entry.package]
    by_cases here : package = Name.packageOf name
    · simp [Store.insert, stored, namesIn, own, here]
    · have there : (Name.packageOf name == package) = false := by
        simpa using fun same => here same.symm
      simp [Store.insert, stored, namesIn, own, here, there]

theorem Consistent.insert {s : Store} (h : s.Consistent) (name : String) (content : Bytes) :
    (s.insert name content).2.Consistent := by
  refine ⟨?_, ?_, ?_, ?_⟩
  · show (s.insert name content).2.names.Nodup
    rw [names_insert]
    split
    · exact h.names_nodup
    · rename_i absent
      refine List.Nodup.append h.names_nodup (List.nodup_singleton name) ?_
      rw [List.disjoint_singleton]
      exact fun held => absent ((mem_names s name).1 held)
  · rw [packages_insert]
    split
    · exact h.packages_nodup
    · rename_i absent
      refine List.Nodup.append h.packages_nodup (List.nodup_singleton _) ?_
      rw [List.disjoint_singleton]
      exact fun held => absent (.inr held)
  · intro package
    rw [direct_insert, namesIn_insert, h.direct_eq]
  · intro package present
    rw [direct_insert]
    by_cases held : package ∈ s.packages
    · simp [h.direct_ne_nil package held]
    · rw [packages_insert] at present
      split at present
      · exact absurd present held
      · rename_i absent
        rw [not_or, Bool.not_eq_true] at absent
        have own : package = Name.packageOf name := by simpa [held] using present
        simp [absent.1, own]

private theorem Consistent.insertAll {s : Store} (h : s.Consistent)
    (items : List (String × Bytes)) :
    (s.insertAll items).2.Consistent := by
  induction items generalizing s with
  | nil => exact h
  | cons item rest ih => exact ih (h.insert item.1 item.2)

theorem Consistent.mem_direct {s : Store} (h : s.Consistent) (name package : String) :
    name ∈ s.direct package ↔ s.contains name = true ∧ Name.packageOf name = package := by
  rw [h.direct_eq, namesIn, List.mem_map, contains_iff]
  constructor
  · rintro ⟨e, member, rfl⟩
    obtain ⟨stored, here⟩ := List.mem_filter.1 member
    exact ⟨⟨e, stored, rfl⟩, by simpa [Entry.package] using here⟩
  · rintro ⟨⟨e, stored, rfl⟩, here⟩
    exact ⟨e, List.mem_filter.2 ⟨stored, by simpa [Entry.package] using here⟩, rfl⟩

private def row (members : List (String × List String)) (package : String) : List String :=
  ((members.find? fun (key, _) => key == package).map (·.2)).getD []

private theorem row_of_notMem {members : List (String × List String)} {package : String}
    (absent : package ∉ members.map Prod.fst) : row members package = [] := by
  have none : (members.find? fun (key, _) => key == package) = none := by
    rw [List.find?_eq_none]
    intro pair member here
    exact absent (List.mem_map.2 ⟨pair, member, by simpa using here⟩)
  rw [row, none]
  rfl

private theorem row_cons (key package : String) (names : List String)
    (rest : List (String × List String)) :
    row ((key, names) :: rest) package = if key = package then names else row rest package := by
  by_cases here : key = package <;> simp [row, here]

private theorem row_of_mem {members : List (String × List String)} {package : String}
    {names : List String} (nodup : (members.map Prod.fst).Nodup)
    (member : (package, names) ∈ members) : row members package = names := by
  induction members with
  | nil => cases member
  | cons first rest ih =>
    obtain ⟨key, others⟩ := first
    simp only [List.map_cons, List.nodup_cons] at nodup
    rw [row_cons]
    rcases List.mem_cons.1 member with same | later
    · cases same
      simp
    · have differs : key ≠ package := by
        rintro rfl
        exact nodup.1 (List.mem_map.2 ⟨_, later, rfl⟩)
      rw [if_neg differs, ih nodup.2 later]

private theorem delist_cons (key package name : String) (names : List String)
    (rest : List (String × List String)) :
    delist ((key, names) :: rest) package name =
      if key = package then
        if (names.erase name).isEmpty then delist rest package name
        else (key, names.erase name) :: delist rest package name
      else (key, names) :: delist rest package name := by
  by_cases own : key = package
  · by_cases gone : (names.erase name).isEmpty = true <;>
      simp [delist, own, gone]
  · simp [delist, own]

private theorem row_delist (members : List (String × List String)) (package name asked : String)
    (nodup : (members.map Prod.fst).Nodup) :
    row (delist members package name) asked =
      if asked = package then (row members asked).erase name else row members asked := by
  induction members with
  | nil => simp [delist, row]
  | cons first rest ih =>
    obtain ⟨key, names⟩ := first
    simp only [List.map_cons, List.nodup_cons] at nodup
    specialize ih nodup.2
    rw [delist_cons]
    by_cases own : key = package
    · subst own
      rw [if_pos rfl]
      by_cases here : key = asked
      · subst here
        -- Where nothing is left the row goes, and no other row has its key.
        have others : row (delist rest key name) key = [] := by
          rw [ih, row_of_notMem nodup.1]
          simp
        by_cases gone : (names.erase name).isEmpty = true
        · have nothing : names.erase name = [] := by simpa using gone
          simp [others, row_cons, nothing]
        · simp [gone, row_cons]
      · have there : asked ≠ key := fun same => here same.symm
        rw [if_neg there] at ih ⊢
        split <;> simp [row_cons, here, ih]
    · rw [if_neg own, row_cons, row_cons, ih]
      by_cases here : key = asked
      · subst here
        simp [own]
      · simp [here]

private theorem mem_packages_delist {members : List (String × List String)}
    {package name asked : String} (nodup : (members.map Prod.fst).Nodup)
    (present : asked ∈ (delist members package name).map Prod.fst) :
    asked ∈ members.map Prod.fst ∧
      (asked = package → row (delist members package name) asked ≠ []) := by
  induction members with
  | nil => simp [delist] at present
  | cons first rest ih =>
    obtain ⟨key, names⟩ := first
    simp only [List.map_cons, List.nodup_cons] at nodup
    rw [delist_cons] at present ⊢
    by_cases own : key = package
    · subst own
      rw [if_pos rfl] at present ⊢
      by_cases gone : (names.erase name).isEmpty = true
      · rw [if_pos gone] at present ⊢
        obtain ⟨held, filled⟩ := ih nodup.2 present
        exact ⟨List.mem_cons_of_mem _ held, filled⟩
      · rw [if_neg gone] at present ⊢
        refine ⟨?_, ?_⟩
        · rcases List.mem_cons.1 present with rfl | later
          · exact List.mem_cons_self
          · exact List.mem_cons_of_mem _ (ih nodup.2 later).1
        · rintro rfl
          rw [row_cons, if_pos rfl]
          simpa using gone
    · rw [if_neg own] at present ⊢
      rcases List.mem_cons.1 present with rfl | later
      · exact ⟨List.mem_cons_self, fun same => absurd same own⟩
      · obtain ⟨held, filled⟩ := ih nodup.2 later
        refine ⟨List.mem_cons_of_mem _ held, ?_⟩
        intro same
        rw [row_cons, if_neg (same ▸ own)]
        exact filled same

private theorem packages_delist_sublist (members : List (String × List String))
    (package name : String) :
    ((delist members package name).map Prod.fst).Sublist (members.map Prod.fst) := by
  induction members with
  | nil => simp [delist]
  | cons first rest ih =>
    obtain ⟨key, names⟩ := first
    rw [delist_cons]
    split
    · split
      · exact ih.cons _
      · exact ih.cons_cons _
    · exact ih.cons_cons _

private theorem namesIn_filter (entries : List Entry) (package name : String)
    (nodup : (entries.map Entry.name).Nodup) :
    namesIn (entries.filter fun e => e.name != name) package =
      (namesIn entries package).erase name := by
  have fewer : (namesIn entries package).Nodup :=
    nodup.sublist (List.filter_sublist.map Entry.name)
  rw [fewer.erase_eq_filter]
  simp only [namesIn, List.filter_map, List.filter_filter, Function.comp_def]
  apply congrArg (List.map Entry.name)
  apply List.filter_congr
  intro e _
  exact Bool.and_comm _ _

private theorem remove_of_absent {s : Store} {name : String} (absent : s.contains name = false) :
    s.remove name = (.ok false, s) := by
  have missing : s.entry? name = none := by simpa [contains] using absent
  simp only [Store.remove, missing]

private theorem Consistent.remove_of_stored {s : Store} (h : s.Consistent) {name : String}
    (stored : s.contains name = true) :
    s.remove name = (.ok true, { s with
      entries := s.entries.filter fun e => e.name != name
      members := delist s.members (Name.packageOf name) name }) := by
  obtain ⟨e, found⟩ := Option.isSome_iff_exists.1 stored
  have own : e.package = Name.packageOf name := by rw [Entry.package, name_of_entry? found]
  have listed : (s.direct (Name.packageOf name)).contains name = true := by
    rw [List.contains_iff_mem, h.mem_direct]
    exact ⟨stored, rfl⟩
  simp only [Store.remove, found, own, listed, if_true]

private theorem entries_remove (s : Store) (name : String) :
    (s.remove name).2.entries = s.entries.filter fun e => e.name != name := by
  unfold Store.remove
  split
  · rename_i missing
    unfold entry? at missing
    rw [List.find?_eq_none] at missing
    refine (List.filter_eq_self.2 fun e member => ?_).symm
    simpa using missing e member
  · split <;> rfl

theorem names_remove (s : Store) (name : String) :
    (s.remove name).2.names = s.names.filter (· != name) := by
  rw [names, entries_remove, names, List.filter_map]
  rfl

theorem entry?_remove (s : Store) (name other : String) :
    entry? (s.remove name).2 other = if other = name then none else s.entry? other := by
  unfold entry?
  rw [entries_remove, List.find?_filter]
  split
  · rename_i same
    subst same
    rw [List.find?_eq_none]
    intro e _
    simp
  · rename_i differs
    congr 1
    funext e
    by_cases here : e.name = other <;> simp [here, differs]

theorem get?_remove (s : Store) (name other : String) :
    (s.remove name).2.get? other = if other = name then none else s.get? other := by
  rw [get?, entry?_remove]
  split <;> rfl

theorem clock_remove (s : Store) (name : String) : (s.remove name).2.clock = s.clock := by
  unfold Store.remove
  split
  · rfl
  · split <;> rfl

theorem packages_remove_sublist (s : Store) (name : String) :
    (s.remove name).2.packages.Sublist s.packages := by
  unfold Store.remove
  split
  · exact .refl _
  · split
    · exact packages_delist_sublist _ _ _
    · exact .refl _

theorem Consistent.fst_remove {s : Store} (h : s.Consistent) (name : String) :
    (s.remove name).1 = .ok (s.contains name) := by
  cases stored : s.contains name with
  | true => rw [h.remove_of_stored stored]
  | false => rw [remove_of_absent stored]

theorem Consistent.remove {s : Store} (h : s.Consistent) (name : String) :
    (s.remove name).2.Consistent := by
  cases stored : s.contains name with
  | false =>
    rw [remove_of_absent stored]
    exact h
  | true =>
    rw [h.remove_of_stored stored]
    have direct (asked : String) : row (delist s.members (Name.packageOf name) name) asked =
        namesIn (s.entries.filter fun e => e.name != name) asked := by
      have before : row s.members asked = namesIn s.entries asked := h.direct_eq asked
      rw [row_delist _ _ _ _ h.packages_nodup, namesIn_filter _ _ _ h.names_nodup, before]
      split
      · rfl
      · rename_i other
        rw [List.erase_of_not_mem]
        intro listed
        obtain ⟨b, member, same⟩ := List.mem_map.1 listed
        have here : b.package = asked := by simpa using (List.mem_filter.1 member).2
        exact other (by rw [← here, Entry.package, same])
    refine ⟨?_, ?_, direct, ?_⟩
    · exact h.names_nodup.sublist (List.filter_sublist.map Entry.name)
    · exact h.packages_nodup.sublist (packages_delist_sublist _ _ _)
    · intro asked present
      obtain ⟨held, filled⟩ := mem_packages_delist h.packages_nodup present
      by_cases own : asked = Name.packageOf name
      · exact filled own
      · have kept : row (delist s.members (Name.packageOf name) name) asked =
            row s.members asked := by
          rw [row_delist _ _ _ _ h.packages_nodup, if_neg own]
        exact fun nothing => h.direct_ne_nil asked held (kept.symm.trans nothing)

theorem consistent_empty (clock : Clock) : (empty clock).Consistent where
  names_nodup := List.nodup_nil
  packages_nodup := List.nodup_nil
  direct_eq _ := rfl
  direct_ne_nil := by simp [packages, empty]

/-- In every store that can come about the rows of names agree with the entries. -/
theorem Reachable.consistent {s : Store} (h : s.Reachable) : s.Consistent := by
  induction h with
  | empty clock => exact consistent_empty clock
  | put name payload _ ih =>
    cases payload with
    | none => exact ⟨ih.names_nodup, ih.packages_nodup, ih.direct_eq, ih.direct_ne_nil⟩
    | some content =>
      rw [put_some]
      exact ih.insert name content
  | putMany items _ ih =>
    unfold Store.putMany
    cases Store.contents? items with
    | none => exact ih
    | some contents => exact ih.insertAll contents
  | remove name _ ih => exact ih.remove name
  | clear _ _ => exact consistent_empty _

theorem Consistent.mem_packages {s : Store} (h : s.Consistent) (package : String) :
    package ∈ s.packages ↔ ∃ name, s.contains name = true ∧ Name.packageOf name = package := by
  constructor
  · intro present
    obtain ⟨name, listed⟩ := List.exists_mem_of_ne_nil _ (h.direct_ne_nil package present)
    exact ⟨name, (h.mem_direct name package).1 listed⟩
  · rintro ⟨name, held⟩
    have listed := (h.mem_direct name package).2 held
    by_contra absent
    have nothing : row s.members package = [] := row_of_notMem absent
    rw [show s.direct package = row s.members package from rfl, nothing] at listed
    cases listed

private theorem Consistent.direct_of_mem {s : Store} (h : s.Consistent) {package : String}
    {names : List String} (member : (package, names) ∈ s.members) : s.direct package = names :=
  row_of_mem h.packages_nodup member

theorem Consistent.nodup_direct {s : Store} (h : s.Consistent) (package : String) :
    (s.direct package).Nodup := by
  rw [h.direct_eq]
  exact h.names_nodup.sublist (List.filter_sublist.map Entry.name)

theorem isSubpackage_iff (package other : String) :
    isSubpackage package other = true ↔
      other ≠ package ∧ (package = "" ∨ Name.isBelow other package = true) := by
  simp [isSubpackage]

/-- The packages below a package are listed behind it, each as it lists itself. -/
theorem Consistent.list_true {s : Store} (h : s.Consistent) (package : String) :
    s.list package true = s.direct package ++
      (s.packages.filter (isSubpackage package)).flatMap s.direct := by
  have rows : (s.members.filter fun (other, _) => isSubpackage package other).flatMap (·.2) =
      (s.members.filter fun (other, _) => isSubpackage package other).flatMap
        fun row => s.direct row.1 :=
    List.flatMap_congr fun row member => (h.direct_of_mem (List.mem_of_mem_filter member)).symm
  rw [list, if_pos rfl, rows, packages, List.filter_map, List.flatMap_map]
  rfl

/-- With the packages below it, a package lists exactly what is stored below it; the one that has no
name is above everything. -/
theorem Consistent.mem_list_true {s : Store} (h : s.Consistent) (package name : String) :
    name ∈ s.list package true ↔
      s.contains name = true ∧ (package = "" ∨ Name.isBelow name package = true) := by
  have inside : name ∈ s.list package true ↔ s.contains name = true ∧
      (Name.packageOf name = package ∨ isSubpackage package (Name.packageOf name) = true) := by
    simp only [h.list_true, List.mem_append, List.mem_flatMap, List.mem_filter, h.mem_direct,
      h.mem_packages]
    constructor
    · rintro (⟨stored, here⟩ | ⟨other, ⟨-, below⟩, stored, rfl⟩)
      · exact ⟨stored, .inl here⟩
      · exact ⟨stored, .inr below⟩
    · rintro ⟨stored, here | below⟩
      · exact .inl ⟨stored, here⟩
      · exact .inr ⟨_, ⟨⟨name, stored, rfl⟩, below⟩, stored, rfl⟩
  rw [inside, isSubpackage_iff]
  refine and_congr_right fun _ => ?_
  by_cases top : package = ""
  · simp [top, em]
  · have below_iff : Name.isBelow name package = true ↔ _ := Name.isBelow_iff_packageOf top
    rw [below_iff]
    by_cases here : Name.packageOf name = package <;> simp [top, here]

theorem Consistent.mem_list {s : Store} (h : s.Consistent) {package : String} (named : package ≠ "")
    (name : String) :
    name ∈ s.list package true ↔ s.contains name = true ∧ Name.isBelow name package = true := by
  simp [h.mem_list_true, named]

end PagePress.Store
