import PagePress.Proofs.Session
import PagePress.Proofs.Store.Insertion
import PagePress.Service.Scripted
import PagePress.Text.Encoding.Standard

/-!
Publication: a compilation that succeeds puts all that its session brought forth into the store, and
any other leaves the store as it was, whatever the service did on the way.
-/

set_option autoImplicit false

namespace PagePress.PageCompiler

/-- The store after the artifacts of a session were published as those of a unit. -/
structure Published (before : Store) (produced : List Artifact) (name : String)
    (after : Store) : Prop where
  all_sealed : ∀ a ∈ produced, a.isSealed = true
  unit_produced : ∃ a ∈ produced, a.name = name
  stored_in_order :
    after = produced.foldl (fun store a => (store.put a.name a.content).2) before
  later_wins : ∀ earlier a later, produced = earlier ++ a :: later →
    (∀ b ∈ later, b.name ≠ a.name) → after.get? a.name = a.content
  unit_filled : ∃ content, after.get? name = some content ∧ content ≠ []
  others_kept : ∀ other, (∀ a ∈ produced, a.name ≠ other) →
    after.entry? other = before.entry? other ∧
      ∀ (package : String) (position : Nat), (after.list package false)[position]? = some other ↔
        (before.list package false)[position]? = some other
  order_kept : ∀ (package : String) (recurse : Bool),
    (after.list package recurse).filter (fun other => produced.all fun a => a.name != other) =
      (before.list package recurse).filter fun other => produced.all fun a => a.name != other

private theorem stored_in_order (before : Store) (produced : List Artifact)
    (items : List (String × Bytes)) (same : produced.map (fun a => (a.name, a.content)) =
      items.map fun item => (item.1, some item.2)) :
    (before.insertAll items).2 =
      produced.foldl (fun store a => (store.put a.name a.content).2) before := by
  have offered : produced.foldl (fun store a => (store.put a.name a.content).2) before =
      (produced.map fun a => (a.name, a.content)).foldl
        (fun store offer => (store.put offer.1 offer.2).2) before := by
    rw [List.foldl_map]
  rw [offered, same, List.foldl_map, Store.insertAll_snd]
  simp only [Store.put_some]

private theorem position_append {α : Type} (front added : List α) (position : Nat) {x : α}
    (absent : x ∉ added) :
    (front ++ added)[position]? = some x ↔ front[position]? = some x := by
  rw [List.getElem?_append]
  split
  · rfl
  · rename_i beyond
    have none : front[position]? = none := List.getElem?_eq_none (Nat.le_of_not_lt beyond)
    rw [none]
    constructor
    · intro here
      exact absurd (List.mem_of_getElem? here) absent
    · intro here
      cases here

private theorem exists_last {produced : List Artifact} {name : String}
    (present : ∃ a ∈ produced, a.name = name) :
    ∃ earlier a later, produced = earlier ++ a :: later ∧ a.name = name ∧
      ∀ b ∈ later, b.name ≠ name := by
  induction produced with
  | nil => simp at present
  | cons a rest ih =>
    by_cases again : ∃ b ∈ rest, b.name = name
    · obtain ⟨earlier, b, later, rfl, named, last⟩ := ih again
      exact ⟨a :: earlier, b, later, rfl, named, last⟩
    · obtain ⟨b, member, named⟩ := present
      rcases List.mem_cons.1 member with rfl | member
      · exact ⟨[], b, rest, rfl, named, fun d inRest equal => again ⟨d, inRest, equal⟩⟩
      · exact absurd ⟨b, member, named⟩ again

private theorem published_of_batch {before after : Store} {produced : List Artifact}
    {items : List (String × Bytes)} {name : String} (all : ∀ a ∈ produced, a.isSealed = true)
    (present : ∃ a ∈ produced, a.name = name) (sound : ∀ a ∈ produced, a.Sound)
    (same : produced.map (fun a => (a.name, a.content)) =
      items.map fun item => (item.1, some item.2))
    (stored : after = (before.insertAll items).2) : Published before produced name after := by
  have names : items.map Prod.fst = produced.map Artifact.name := by
    have fronts := congrArg (List.map Prod.fst) same
    simpa [Function.comp_def] using fronts.symm
  have later_wins : ∀ earlier a later, produced = earlier ++ a :: later →
      (∀ b ∈ later, b.name ≠ a.name) → after.get? a.name = a.content := by
    intro earlier a later cut last
    -- The batch is cut where the artifacts are; no content behind the cut is for this name.
    subst cut
    simp only [List.map_append, List.map_cons] at same
    obtain ⟨front, rest, rfl, -, same⟩ := List.map_eq_append_iff.1 same.symm
    obtain ⟨⟨held, content⟩, back, rfl, first, same⟩ := List.map_eq_cons_iff.1 same
    obtain ⟨rfl, readable⟩ := Prod.mk.inj first
    have absent : a.name ∉ back.map Prod.fst := by
      have fronts := congrArg (List.map Prod.fst) same
      have behind : back.map Prod.fst = later.map Artifact.name := by
        simpa [Function.comp_def] using fronts
      rw [behind, List.mem_map]
      rintro ⟨b, member, equal⟩
      exact last b member equal
    rw [stored, Store.get?_insertAll _ _ _ _ _ absent]
    exact readable
  refine ⟨all, present, ?_, later_wins, ?_, ?_, ?_⟩
  · rw [stored, stored_in_order before produced items same]
  · obtain ⟨earlier, a, later, cut, named, last⟩ := exists_last present
    have member : a ∈ produced := by simp [cut]
    obtain ⟨content, readable⟩ := Option.isSome_iff_exists.1 (all a member)
    refine ⟨content, ?_, ?_⟩
    · have held := later_wins earlier a later cut (fun b inLater => named ▸ last b inLater)
      rw [← named, held, readable]
    · rintro rfl
      exact sound a member readable
  · intro other absent
    have unheld : other ∉ items.map Prod.fst := by
      rw [names, List.mem_map]
      rintro ⟨a, member, equal⟩
      exact absent a member equal
    refine ⟨by rw [stored, Store.entry?_insertAll_of_notMem _ _ _ unheld], ?_⟩
    intro package position
    obtain ⟨added, extended, held⟩ := Store.direct_insertAll before items package
    rw [Store.list_false, Store.list_false, stored, extended]
    exact position_append _ _ _ fun member => unheld (held other member)
  · intro package recurse
    rw [stored]
    apply Store.filter_list_insertAll
    rw [names]
    intro name member
    obtain ⟨a, inside, named⟩ := List.mem_map.1 member
    rw [← Bool.not_eq_true, List.all_eq_true]
    intro different
    simpa [named] using different a inside

/-- All or nothing: a compilation that succeeds stores every artifact that its task asked for, in
the order of the requests; any other leaves the store as it was. -/
theorem compile_publishes_all_or_nothing [Text.Encodings] (c : PageCompiler) (s : Service)
    (name : String) (guide : Option LineGuide) (w : Workspace) :
    (succeeded (c.compile s name guide w).1 = true →
      ∃ activity, c.task s w.disk name = .ok activity ∧
        (c.compile s name guide w).2.index.artifacts.map Artifact.name =
          Event.names (activity.trace c.access (c.session w)) ∧
        Published w.store (c.compile s name guide w).2.index.artifacts name
          (c.compile s name guide w).2.store) ∧
    (succeeded (c.compile s name guide w).1 = false →
      (c.compile s name guide w).2.store = w.store) := by
  have course := compile_course c s name guide w
  generalize c.compile s name guide w = outcome at course
  cases course with
  | refused asked kept => exact ⟨by simp [succeeded], fun _ => kept⟩
  | broken asked ran => exact ⟨by simp [succeeded], fun _ => store_of_run ran⟩
  | failed asked ran =>
    have kept := store_of_run ran
    exact ⟨by simp [succeeded], fun _ => kept⟩
  | withheld asked ran committed =>
    refine ⟨by simp [succeeded], fun _ => ?_⟩
    rw [store_of_commit_error committed, store_of_run ran]
  | @published activity v u log asked ran committed =>
    refine ⟨fun _ => ⟨activity, asked, ?_, ?_⟩, by simp [succeeded]⟩
    all_goals
      have steps := activity.run_steps c.access (c.session w)
      rw [ran] at steps
      obtain ⟨all, present, items, same, stored, kept, -⟩ := commit_ok committed
    · rw [kept, steps.names_eq]
      rfl
    · rw [store_of_run ran] at stored
      rw [kept]
      exact published_of_batch all present (steps.sound (by simp [session, Workspace.renew,
        FileAccess.setLocation, PackageIndex.empty])) same stored

/-- Three artifacts, two of them under one name: both names are stored, the later content wins. -/
theorem scripted_artifacts_are_published :
    let c : PageCompiler := ⟨"generated", false, [], .empty, [⟨"", "utf-8"⟩]⟩
    let output (name : String) (content : Bytes) : ScriptOutput :=
      ⟨name, .compiled, [some content], true, true⟩
    let s := Script.service (fun _ => -1) ⟨[], [output "generated.A" [1], output "generated.B" [2],
      output "generated.A" [3]], [], none, true⟩
    let w := Workspace.start .empty (.empty ⟨0, []⟩)
    let compiled := c.compile s "generated.A" none w
    succeeded compiled.1 = true ∧ compiled.2.store.get? "generated.A" = some [3] ∧
      ∃ activity, c.task s w.disk "generated.A" = .ok activity ∧
        compiled.2.index.artifacts.map Artifact.name =
          Event.names (activity.trace c.access (c.session w)) ∧
        Published w.store compiled.2.index.artifacts "generated.A" compiled.2.store := by
  intro c output s w compiled
  have success : succeeded compiled.1 = true := by decide +kernel
  have later : compiled.2.store.get? "generated.A" = some [3] := by decide +kernel
  exact ⟨success, later, (compile_publishes_all_or_nothing c s "generated.A" none w).1 success⟩

end PagePress.PageCompiler
