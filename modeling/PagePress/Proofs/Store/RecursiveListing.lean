import PagePress.Proofs.Store.History

/-!
The listing of a package with the packages below it. First stand the names of the package itself,
then those of each package below it in one piece, in the order of the moments since which something
has been stored in these packages. So every name that is stored below the package stands there once.
-/

set_option autoImplicit false

namespace PagePress.Store

private theorem Consistent.nodup_list_true {s : Store} (h : s.Consistent) (package : String) :
    (s.list package true).Nodup := by
  have apart {a b : String} (differ : a ≠ b) : List.Disjoint (s.direct a) (s.direct b) := by
    intro name first second
    rw [h.mem_direct] at first second
    exact differ (first.2.symm.trans second.2)
  rw [h.list_true]
  refine List.Nodup.append (h.nodup_direct package) ?_ ?_
  · refine List.nodup_flatMap.2 ⟨fun other _ => h.nodup_direct other, ?_⟩
    exact (h.packages_nodup.filter _).imp apart
  · intro name own below
    obtain ⟨other, chosen, listed⟩ := List.mem_flatMap.1 below
    have differ := ((isSubpackage_iff package other).1 (List.of_mem_filter chosen)).1
    exact apart differ listed own

section Order

variable {κ : Type} {there : κ → List Change → Prop} {past : List Change} {keys : List κ}

private theorem Since.and {holds : List Change → Prop} {fixed : Prop} (fix : fixed) {moment : Nat}
    (since : Since holds past moment) :
    Since (fun past => fixed ∧ holds past) past moment :=
  ⟨since.1, fun both => since.2.1 both.2, fun later behind bound =>
    ⟨fix, since.2.2 later behind bound⟩⟩

private theorem InOrder.filter (ordered : InOrder there past keys) {chosen : κ → Prop}
    {choose : κ → Bool} (chooses : ∀ key, choose key = true ↔ chosen key) :
    InOrder (fun key past => chosen key ∧ there key past) past (keys.filter choose) where
  mem_iff key := by
    rw [List.mem_filter, ordered.mem_iff, chooses, and_comm]
  nodup := ordered.nodup.filter choose
  ordered := by
    refine (ordered.ordered.sublist List.filter_sublist).imp_of_mem ?_
    rintro a b first second ⟨i, j, sinceA, sinceB, before⟩
    exact ⟨i, j, sinceA.and ((chooses a).1 (List.of_mem_filter first)),
      sinceB.and ((chooses b).1 (List.of_mem_filter second)), before⟩

end Order

/-- Whatever was done to a store, a package with those below it lists its own names first and then
the names of each package below it as this lists them, in the order in which these packages came to
be filled; it lists every name that is stored below it once, and no other name. -/
theorem recursive_listing_is_package_by_package (clock : Clock) (edits : List Edit)
    (package : String) :
    let s := edited clock edits
    ∃ subpackages,
      s.list package true =
        s.list package false ++ subpackages.flatMap (fun other => s.list other false) ∧
      InOrder (fun other past =>
          (other ≠ package ∧ (package = "" ∨ Name.isBelow other package = true)) ∧
            Filled other past)
        (changesOf edits) subpackages ∧
      ∀ name, (s.list package true).count name =
        if s.contains name = true ∧ (package = "" ∨ Name.isBelow name package = true) then 1
        else 0 := by
  intro s
  have consistent : s.Consistent := by
    rw [show s = after clock (changesOf edits) from edited_eq_after clock edits]
    exact consistent_after clock _
  have packages : InOrder Filled (changesOf edits) s.packages := by
    rw [show s = after clock (changesOf edits) from edited_eq_after clock edits]
    exact packages_inOrder clock _
  refine ⟨s.packages.filter (isSubpackage package), ?_, packages.filter (isSubpackage_iff package),
    fun name => ?_⟩
  · simp only [consistent.list_true, list_false]
  · rw [(consistent.nodup_list_true package).count]
    simp only [consistent.mem_list_true]

-- `pages.sub` is filled before `pages.old` is filled again, and `pagesx` is not below `pages`.
example :
    let s := edited ⟨0, []⟩ [.put "pages.old.A" (some [0]), .put "pages.sub.B" (some [0]),
      .put "pagesx.C" (some [0]), .remove "pages.old.A", .put "pages.old.D" (some [0]),
      .put "pages.E" (some [0]), .put "pages.sub.F" (some [0])]
    s.list "pages" true = ["pages.E", "pages.sub.B", "pages.sub.F", "pages.old.D"] := by
  decide +kernel

end PagePress.Store
