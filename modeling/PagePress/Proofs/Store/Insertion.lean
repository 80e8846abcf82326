import PagePress.Store.Basic

/-!
What storing does to a store. A name that is stored has what was stored for it last; every other
name keeps its entry, and its place, since a package is only ever extended at its end.
-/

set_option autoImplicit false

namespace PagePress.Store

theorem contains_iff (s : Store) (name : String) :
    s.contains name = true ↔ ∃ e ∈ s.entries, e.name = name := by
  simp [contains, entry?, List.find?_isSome]

theorem name_of_entry? {s : Store} {name : String} {e : Entry} (h : s.entry? name = some e) :
    e.name = name := by
  simpa using List.find?_some h

theorem contains_eq_isSome_get? (s : Store) (name : String) :
    s.contains name = (s.get? name).isSome := by
  simp [contains, get?]

@[simp] theorem name_dated (s : Store) (name : String) (content : Bytes) :
    (s.dated name content).name = name := by
  unfold dated
  split <;> rfl

@[simp] theorem content_dated (s : Store) (name : String) (content : Bytes) :
    (s.dated name content).content = content := by
  unfold dated
  split <;> rfl

@[simp] theorem insert_fst (s : Store) (name : String) (content : Bytes) :
    (s.insert name content).1 = s.dated name content := by
  unfold insert
  split <;> rfl

private theorem find?_replace (entries : List Entry) (name other : String) (e : Entry)
    (named : e.name = name) :
    (entries.map fun old => if old.name = name then e else old).find? (fun x => x.name == other) =
      if other = name then (entries.find? fun x => x.name == name).map fun _ => e
      else entries.find? fun x => x.name == other := by
  induction entries with
  | nil => simp
  | cons old rest ih =>
    by_cases replaced : old.name = name
    · by_cases asked : other = name
      · simp [replaced, named, asked]
      · have differs : (name == other) = false := by simpa using fun h => asked h.symm
        simp [replaced, named, asked, differs] at ih ⊢
        exact ih
    · by_cases found : old.name = other
      · have asked : other ≠ name := found ▸ replaced
        simp [found, asked]
      · have missed : (old.name == other) = false := by simpa using found
        have passed : (old.name == name) = false := by simpa using replaced
        simp only [List.map_cons, replaced, if_false, List.find?_cons, missed, passed]
        exact ih

/-- After storing, the name has the new entry and every other name has the entry it had. -/
theorem entry?_insert (s : Store) (name other : String) (content : Bytes) :
    entry? (s.insert name content).2 other =
      if other = name then some (s.dated name content) else s.entry? other := by
  by_cases stored : s.contains name = true
  · have found : (s.entries.find? fun e => e.name == name).isSome = true := stored
    obtain ⟨old, hold⟩ := Option.isSome_iff_exists.1 found
    simp only [insert, stored, if_true, entry?]
    rw [find?_replace _ _ _ _ (name_dated s name content), hold]
    rfl
  · have missing : (s.entries.find? fun e => e.name == name) = none := by
      simpa [contains, entry?] using stored
    simp only [insert, stored, Bool.false_eq_true, if_false, entry?, List.find?_append]
    by_cases asked : other = name
    · subst asked
      simp [missing]
    · have differs : name ≠ other := fun h => asked h.symm
      simp [asked, differs]

theorem get?_insert (s : Store) (name other : String) (content : Bytes) :
    (s.insert name content).2.get? other =
      if other = name then some content else s.get? other := by
  simp only [get?, entry?_insert]
  split <;> simp

theorem contains_insert (s : Store) (name other : String) (content : Bytes) :
    (s.insert name content).2.contains other = (decide (other = name) || s.contains other) := by
  simp only [contains_eq_isSome_get?, get?_insert]
  split <;> simp_all

private theorem direct_enlist (members : List (String × List String))
    (package name asked : String) :
    (((enlist members package name).find? fun (key, _) => key == asked).map (·.2)).getD [] =
      ((members.find? fun (key, _) => key == asked).map (·.2)).getD [] ++
        if asked = package then [name] else [] := by
  unfold enlist
  split
  · rename_i present
    rw [List.find?_map]
    have same : ((fun x : String × List String => x.1 == asked) ∘ fun x : String × List String =>
        if x.1 = package then (x.1, x.2 ++ [name]) else (x.1, x.2)) = fun x => x.1 == asked := by
      funext x
      simp only [Function.comp]
      split <;> rfl
    rw [same]
    cases found : members.find? fun x => x.1 == asked with
    | none =>
      have other : asked ≠ package := by
        rintro rfl
        obtain ⟨x, member, here⟩ := List.any_eq_true.1 present
        exact List.find?_eq_none.1 found x member here
      simp [other]
    | some x =>
      have here : x.1 = asked := by simpa using List.find?_some found
      by_cases own : asked = package <;> simp [here, own]
  · rename_i absent
    rw [List.find?_append]
    by_cases own : asked = package
    · subst own
      have missing : (members.find? fun x => x.1 == asked) = none := by
        rw [List.find?_eq_none]
        intro x member here
        exact absent (List.any_eq_true.2 ⟨x, member, here⟩)
      simp [missing]
    · have passed : (package == asked) = false := by simpa using fun h => own h.symm
      simp [own, passed]

/-- A package is extended at its end when a name comes to it that was not stored. -/
theorem direct_insert (s : Store) (name package : String) (content : Bytes) :
    (s.insert name content).2.direct package =
      s.direct package ++
        if s.contains name = false ∧ package = Name.packageOf name then [name] else [] := by
  by_cases stored : s.contains name = true
  · simp [insert, stored, direct]
  · have own : (s.dated name content).package = Name.packageOf name := by simp [Entry.package]
    have missing : s.contains name = false := by simpa using stored
    have extended := direct_enlist s.members (Name.packageOf name) name package
    simp only [insert, missing, Bool.false_eq_true, if_false, direct, own, true_and] at extended ⊢
    exact extended

private theorem filter_enlist (members : List (String × List String)) (package name : String)
    (chosen : String → Bool) (keep : String → Bool) (dropped : keep name = false) :
    (((enlist members package name).filter fun (other, _) => chosen other).flatMap (·.2)).filter
        keep = ((members.filter fun (other, _) => chosen other).flatMap (·.2)).filter keep := by
  unfold enlist
  split
  · rename_i present
    clear present
    induction members with
    | nil => rfl
    | cons row rest ih =>
      obtain ⟨key, names⟩ := row
      by_cases own : key = package <;> by_cases here : chosen key = true <;>
        simp_all
  · by_cases here : chosen package = true <;> simp [List.filter_append, here, dropped]

private theorem filter_list_insert (s : Store) (name package : String) (content : Bytes)
    (recurse : Bool) (keep : String → Bool) (dropped : keep name = false) :
    ((s.insert name content).2.list package recurse).filter keep =
      (s.list package recurse).filter keep := by
  have front : ((s.insert name content).2.direct package).filter keep =
      (s.direct package).filter keep := by
    rw [direct_insert, List.filter_append]
    split <;> simp [dropped]
  cases recurse with
  | false => simpa [list] using front
  | true =>
    have back : (((s.insert name content).2.members.filter
        fun (other, _) => isSubpackage package other).flatMap (·.2)).filter keep =
          ((s.members.filter fun (other, _) => isSubpackage package other).flatMap (·.2)).filter
            keep := by
      by_cases stored : s.contains name = true
      · simp [insert, stored]
      · have missing : s.contains name = false := by simpa using stored
        simp only [insert, missing, Bool.false_eq_true, if_false]
        exact filter_enlist _ _ _ _ _ dropped
    simp only [list, if_true, List.filter_append] at back ⊢
    rw [front, back]

theorem insertAll_snd (s : Store) (items : List (String × Bytes)) :
    (s.insertAll items).2 = items.foldl (fun store item => (store.insert item.1 item.2).2) s := by
  induction items generalizing s with
  | nil => rfl
  | cons item rest ih => exact ih _

theorem entry?_insertAll_of_notMem (s : Store) (items : List (String × Bytes)) (other : String)
    (h : other ∉ items.map Prod.fst) : entry? (s.insertAll items).2 other = s.entry? other := by
  induction items generalizing s with
  | nil => rfl
  | cons item rest ih =>
    simp only [List.map_cons, List.mem_cons, not_or] at h
    simp only [insertAll]
    rw [ih _ h.2, entry?_insert, if_neg h.1]

/-- A batch leaves under a name the last content that it holds for the name. -/
theorem get?_insertAll (s : Store) (earlier later : List (String × Bytes)) (name : String)
    (content : Bytes) (last : name ∉ later.map Prod.fst) :
    (s.insertAll (earlier ++ (name, content) :: later)).2.get? name = some content := by
  induction earlier generalizing s with
  | nil =>
    simp only [List.nil_append, insertAll, get?]
    rw [entry?_insertAll_of_notMem _ _ _ last, entry?_insert]
    simp
  | cons item rest ih => exact ih _

/-- A batch extends every package at its end, and only by names that it holds. -/
theorem direct_insertAll (s : Store) (items : List (String × Bytes)) (package : String) :
    ∃ added, (s.insertAll items).2.direct package = s.direct package ++ added ∧
      ∀ name ∈ added, name ∈ items.map Prod.fst := by
  induction items generalizing s with
  | nil => exact ⟨[], by simp [insertAll], by simp⟩
  | cons item rest ih =>
    obtain ⟨added, extended, held⟩ := ih (s.insert item.1 item.2).2
    rw [direct_insert, List.append_assoc] at extended
    refine ⟨_, extended, ?_⟩
    intro name member
    rcases List.mem_append.1 member with first | later
    · split at first
      · simp_all
      · simp at first
    · exact List.mem_cons_of_mem _ (held name later)

theorem filter_list_insertAll (s : Store) (items : List (String × Bytes)) (package : String)
    (recurse : Bool) (keep : String → Bool)
    (dropped : ∀ name ∈ items.map Prod.fst, keep name = false) :
    ((s.insertAll items).2.list package recurse).filter keep =
      (s.list package recurse).filter keep := by
  induction items generalizing s with
  | nil => rfl
  | cons item rest ih =>
    have first : keep item.1 = false := dropped item.1 (by simp)
    have later : ∀ name ∈ rest.map Prod.fst, keep name = false :=
      fun name member => dropped name (List.mem_cons_of_mem _ member)
    simp only [insertAll]
    rw [ih _ later, filter_list_insert _ _ _ _ _ _ first]

theorem put_some (s : Store) (name : String) (content : Bytes) :
    s.put name (some content) = (.ok (s.dated name content), (s.insert name content).2) := by
  simp [put, ← insert_fst]

theorem list_false (s : Store) (package : String) : s.list package false = s.direct package := by
  simp [list]

end PagePress.Store
