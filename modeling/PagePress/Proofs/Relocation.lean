import Mathlib.Data.List.Forall2
import PagePress.Proofs.Session
import PagePress.Service.Scripted
import PagePress.Text.Encoding.Standard

/-!
What is handed back for diagnostics. Every diagnostic that is selected gives one error in its place;
what becomes of a line depends on the guide, but no answer of a guide, nor a failure of it, costs an
error or its message.
-/

set_option autoImplicit false

namespace PagePress

namespace Relocation

/-- A guide was asked for the line of a diagnostic and gave this answer. -/
def Answered (guide : Option LineGuide) (d : Diagnostic) (answer : Answer) : Prop :=
  ∃ lookup line, guide = some lookup ∧ d.line = some line ∧ lookup line = answer

structure Keeps (d : Diagnostic) (e : CompilationError) : Prop where
  severity : e.severity = d.severity
  message : e.message = d.message
  generatedLine : e.generatedLine = d.line

/-- An error has the line of its diagnostic and nothing else for a place. -/
structure PassesThrough (d : Diagnostic) (e : CompilationError) : Prop where
  line : e.line = (d.line.map .int).getD .null
  file : e.file = .null
  unmapped : e.mapped = false

/-- An error has the place that was answered for its diagnostic, if one was. -/
structure Follows (guide : Option LineGuide) (d : Diagnostic) (e : CompilationError) : Prop where
  mapped_iff : e.mapped = true ↔ ∃ place, Answered guide d (.position place)
  placed : ∀ place, Answered guide d (.position place) → e.line = place.line ∧ e.file = place.file
  passed : (∀ place, ¬ Answered guide d (.position place)) → PassesThrough d e

/-- What is handed back for the diagnostics that were selected. -/
structure HandedBack (guide : Option LineGuide) (selected : List Diagnostic)
    (errors : List CompilationError) : Prop where
  one_for_one : List.Forall₂ Keeps selected errors
  placed : (∀ d ∈ selected, ¬ Answered guide d .malformed) →
    List.Forall₂ (Follows guide) selected errors
  given_up : (∃ d ∈ selected, Answered guide d .malformed) →
    List.Forall₂ PassesThrough selected errors

private theorem Answered.unique {guide : Option LineGuide} {d : Diagnostic} {a b : Answer}
    (first : Answered guide d a) (second : Answered guide d b) : a = b := by
  obtain ⟨lookup, line, rfl, here, rfl⟩ := first
  obtain ⟨_, _, same, there, rfl⟩ := second
  cases same
  cases here.symm.trans there
  rfl

private theorem keeps_unmapped (d : Diagnostic) : Keeps d (.unmapped d) := ⟨rfl, rfl, rfl⟩

private theorem passesThrough_unmapped (d : Diagnostic) : PassesThrough d
    (.unmapped d) := ⟨rfl, rfl, rfl⟩

private theorem follows_unmapped {guide : Option LineGuide} {d : Diagnostic}
    (nowhere : ∀ place, ¬ Answered guide d (.position place)) : Follows guide d (.unmapped d) where
  mapped_iff := by
    constructor
    · intro mapped
      cases mapped
    · rintro ⟨place, answered⟩
      exact absurd answered (nowhere place)
  placed place answered := absurd answered (nowhere place)
  passed _ := passesThrough_unmapped d

private theorem follows_atPosition {guide : Option LineGuide} {d : Diagnostic} {place : Position}
    (answered : Answered guide d (.position place)) : Follows guide d (.atPosition d place) where
  mapped_iff := ⟨fun _ => ⟨place, answered⟩, fun _ => rfl⟩
  placed other again := by
    cases answered.unique again
    exact ⟨rfl, rfl⟩
  passed nowhere := absurd answered (nowhere place)

private theorem not_answered {guide : Option LineGuide} {d : Diagnostic}
    (unasked : ∀ lookup line, guide = some lookup → d.line = some line → False) (answer : Answer) :
    ¬ Answered guide d answer := by
  rintro ⟨lookup, line, there, here, -⟩
  exact unasked lookup line there here

/-- A diagnostic alone: it fails exactly when the answer for its line is malformed, and else its
error keeps what it says and follows the answer. -/
private theorem one_spec (guide : Option LineGuide) (d : Diagnostic) :
    (Answered guide d .malformed ∧ ∃ failure, one guide d = .error failure) ∨
      (¬ Answered guide d .malformed ∧
        ∃ e log, one guide d = .ok (e, log) ∧ Keeps d e ∧ Follows guide d e) := by
  cases guide with
  | none =>
    have unasked := @not_answered none d (fun _ _ there _ => by cases there)
    exact .inr ⟨unasked _, _, _, rfl, keeps_unmapped d, follows_unmapped fun _ => unasked _⟩
  | some lookup =>
    cases here : d.line with
    | none =>
      have unasked := @not_answered (some lookup) d
        (fun _ _ _ there => by rw [here] at there; cases there)
      refine .inr ⟨unasked _, .unmapped d, [], ?_, keeps_unmapped d,
        follows_unmapped fun _ => unasked _⟩
      simp [one, here]
    | some line =>
      have asked : Answered (some lookup) d (lookup line) := ⟨lookup, line, rfl, here, rfl⟩
      cases answer : lookup line with
      | malformed =>
        rw [answer] at asked
        exact .inl ⟨asked, .noAttribute "str" "line", by simp [one, here, answer]⟩
      | position place =>
        rw [answer] at asked
        have good : ¬ Answered (some lookup) d .malformed := fun bad => nomatch asked.unique bad
        exact .inr ⟨good, .atPosition d place, [], by simp [one, here, answer], ⟨rfl, rfl, rfl⟩,
          follows_atPosition asked⟩
      | nothing =>
        rw [answer] at asked
        have good : ¬ Answered (some lookup) d .malformed := fun bad => nomatch asked.unique bad
        exact .inr ⟨good, .unmapped d, [], by simp [one, here, answer], keeps_unmapped d,
          follows_unmapped fun place other => nomatch asked.unique other⟩
      | failure =>
        rw [answer] at asked
        have good : ¬ Answered (some lookup) d .malformed := fun bad => nomatch asked.unique bad
        exact .inr ⟨good, .unmapped d, [failedLookup line], by simp [one, here, answer],
          keeps_unmapped d, follows_unmapped fun place other => nomatch asked.unique other⟩

/-- Diagnostics in a row: they fail exactly when one of them does, and else each gives its error in
its place. -/
private theorem all_spec (guide : Option LineGuide) (ds : List Diagnostic) :
    ((∃ d ∈ ds, Answered guide d .malformed) ∧ ∃ failure, (all guide ds).1 = .error failure) ∨
      ((∀ d ∈ ds, ¬ Answered guide d .malformed) ∧ ∃ errors, (all guide ds).1 = .ok errors ∧
        List.Forall₂ Keeps ds errors ∧ List.Forall₂ (Follows guide) ds errors) := by
  induction ds with
  | nil => exact .inr ⟨by simp, [], rfl, .nil, .nil⟩
  | cons d rest ih =>
    rcases one_spec guide d with ⟨bad, failure, failed⟩ | ⟨good, e, log, made, keeps, follows⟩
    · exact .inl ⟨⟨d, List.mem_cons_self, bad⟩, failure, by simp [all, failed]⟩
    · rcases ih with ⟨⟨b, member, bad⟩, failure, failed⟩ | ⟨others, errors, rested, kept, followed⟩
      · refine .inl ⟨⟨b, List.mem_cons_of_mem d member, bad⟩, failure, ?_⟩
        simp [all, made, failed, Except.map]
      · refine .inr ⟨?_, e :: errors, ?_, .cons keeps kept, .cons follows followed⟩
        · intro b member
          rcases List.mem_cons.1 member with rfl | later
          · exact good
          · exact others b later
        · simp [all, made, rested, Except.map]

private theorem forall₂_map {α β : Type} {relation : α → β → Prop} {f : α → β}
    (holds : ∀ a, relation a (f a)) (items : List α) :
    List.Forall₂ relation items (items.map f) := by
  rw [List.forall₂_map_right_iff]
  exact List.forall₂_same.2 fun a _ => holds a

theorem relocateAll_handedBack (guide : Option LineGuide) (includeNotes : Bool)
    (ds : List Diagnostic) :
    HandedBack guide (select includeNotes ds) (relocateAll guide includeNotes ds).1 := by
  unfold relocateAll relocate
  rcases all_spec guide (select includeNotes ds) with
    ⟨⟨d, member, bad⟩, failure, failed⟩ | ⟨good, errors, made, kept, followed⟩
  · cases outcome : all guide (select includeNotes ds) with
    | mk answer log =>
      rw [outcome] at failed
      subst failed
      exact ⟨forall₂_map keeps_unmapped _, fun none => absurd bad (none d member),
        fun _ => forall₂_map passesThrough_unmapped _⟩
  · cases outcome : all guide (select includeNotes ds) with
    | mk answer log =>
      rw [outcome] at made
      subst made
      refine ⟨kept, fun _ => followed, ?_⟩
      rintro ⟨d, member, bad⟩
      exact absurd bad (good d member)

private theorem exists_left_of_forall₂ {α β : Type} {relation : α → β → Prop} {items : List α}
    {images : List β} (pairs : List.Forall₂ relation items images) {b : β} (member : b ∈ images) :
    ∃ a ∈ items, relation a b := by
  induction pairs with
  | nil => cases member
  | cons related _ ih =>
    rcases List.mem_cons.1 member with rfl | later
    · exact ⟨_, List.mem_cons_self, related⟩
    · obtain ⟨a, inside, related⟩ := ih later
      exact ⟨a, List.mem_cons_of_mem _ inside, related⟩

theorem HandedBack.exists_error {guide : Option LineGuide} {selected : List Diagnostic}
    {errors : List CompilationError} (h : HandedBack guide selected errors) {d : Diagnostic}
    (member : d ∈ selected) : ∃ e ∈ errors, Keeps d e := by
  have turned : List.Forall₂ (fun e d => Keeps d e) errors selected := h.one_for_one.flip
  exact exists_left_of_forall₂ turned member

theorem HandedBack.exists_diagnostic {guide : Option LineGuide} {selected : List Diagnostic}
    {errors : List CompilationError} (h : HandedBack guide selected errors) {e : CompilationError}
    (member : e ∈ errors) : ∃ d ∈ selected, Keeps d e :=
  exists_left_of_forall₂ h.one_for_one member

/-- An error that has a place has the one that was answered for its line. -/
theorem HandedBack.exists_place {guide : Option LineGuide} {selected : List Diagnostic}
    {errors : List CompilationError} (h : HandedBack guide selected errors) {e : CompilationError}
    (member : e ∈ errors) (mapped : e.mapped = true) :
    ∃ d ∈ selected, Keeps d e ∧ ∃ place, Answered guide d (.position place) ∧
      e.line = place.line ∧ e.file = place.file := by
  by_cases good : ∀ d ∈ selected, ¬ Answered guide d .malformed
  · have both := List.Forall₂.mp (fun _ _ => And.intro) h.one_for_one (h.placed good)
    obtain ⟨d, inside, keeps, follows⟩ := exists_left_of_forall₂ both member
    obtain ⟨place, answered⟩ := follows.mapped_iff.1 mapped
    exact ⟨d, inside, keeps, place, answered, follows.placed place answered⟩
  · push Not at good
    obtain ⟨d, -, passes⟩ := exists_left_of_forall₂ (h.given_up good) member
    rw [passes.unmapped] at mapped
    cases mapped

theorem mem_select (includeNotes : Bool) (ds : List Diagnostic) (d : Diagnostic) :
    d ∈ select includeNotes ds ↔ d ∈ ds ∧ (includeNotes = false → d.severity ≠ .note) := by
  cases includeNotes <;> simp [select]

/-- An error is handed back with a message exactly when one was reported with it. -/
theorem exists_error_iff (guide : Option LineGuide) (includeNotes : Bool) (ds : List Diagnostic)
    (message : String) :
    (∃ e ∈ (relocateAll guide includeNotes ds).1, e.severity = .error ∧ e.message = message) ↔
      ∃ d ∈ ds, d.severity = .error ∧ d.message = message := by
  have handed := relocateAll_handedBack guide includeNotes ds
  constructor
  · rintro ⟨e, inside, grave, worded⟩
    obtain ⟨d, selected, keeps⟩ := handed.exists_diagnostic inside
    exact ⟨d, ((mem_select _ _ _).1 selected).1, keeps.severity.symm.trans grave,
      keeps.message.symm.trans worded⟩
  · rintro ⟨d, reported, grave, worded⟩
    have selected := (mem_select includeNotes ds d).2 ⟨reported, fun _ note => by
      rw [grave] at note
      cases note⟩
    obtain ⟨e, inside, keeps⟩ := handed.exists_error selected
    exact ⟨e, inside, keeps.severity.trans grave, keeps.message.trans worded⟩

end Relocation

namespace PageCompiler

/-- No diagnostic is lost: a compilation that fails hands back one error for every diagnostic that
its task reported and that is selected, in the order of the reports. -/
theorem failed_compile_hands_back [Text.Encodings] (c : PageCompiler) (s : Service) (name : String)
    (guide : Option LineGuide) (w : Workspace) (result : CompilationResult)
    (answered : (c.compile s name guide w).1 = .ok result) (unsuccessful : result.success = false) :
    ∃ activity, c.task s w.disk name = .ok activity ∧
      Relocation.HandedBack guide
        (Relocation.select c.includeNotes
          (Event.diagnostics (activity.trace c.access (c.session w)))) result.errors := by
  have course := compile_course c s name guide w
  generalize c.compile s name guide w = outcome at course answered
  cases course with
  | failed asked ran =>
    cases answered
    rename_i activity v log
    refine ⟨activity, asked, ?_⟩
    have steps := activity.run_steps c.access (c.session w)
    rw [ran] at steps
    have collected : v.diagnostics =
        Event.diagnostics (activity.trace c.access (c.session w)) := by
      rw [steps.diagnostics_eq]
      rfl
    rw [← collected]
    exact Relocation.relocateAll_handedBack guide c.includeNotes v.diagnostics
  | published =>
    cases answered
    cases unsuccessful
  | _ => cases answered

/-- An error with a place, a note that is left out, and a warning whose line cannot be looked up. -/
theorem scripted_failure_hands_back :
    let c : PageCompiler := ⟨"generated", false, [], .empty, [⟨"", "utf-8"⟩]⟩
    let s := Script.service (fun _ => -1) ⟨[], [], [.ok ⟨.error, "first", some 1, none⟩,
      .ok ⟨.note, "second", none, none⟩, .ok ⟨.warning, "third", some 2, none⟩], none, false⟩
    let guide := LineMap.guide ⟨[(1, ⟨.text "a.tpl", .int 7⟩)]⟩ [2] []
    let w := Workspace.start .empty (.empty ⟨0, []⟩)
    let result : CompilationResult := ⟨"generated.A", false,
      [⟨.error, "first", .int 7, some 1, .text "a.tpl", true⟩,
        ⟨.warning, "third", .int 2, some 2, .null, false⟩]⟩
    (c.compile s "generated.A" (some guide) w).1 = .ok result ∧ result.success = false ∧
      ∃ activity, c.task s w.disk "generated.A" = .ok activity ∧
        Relocation.HandedBack (some guide)
          (Relocation.select c.includeNotes
            (Event.diagnostics (activity.trace c.access (c.session w)))) result.errors := by
  intro c s guide w result
  have answered : (c.compile s "generated.A" (some guide) w).1 = .ok result :=
    ok_of_toOption (by decide +kernel)
  exact ⟨answered, rfl,
    failed_compile_hands_back c s "generated.A" (some guide) w result answered rfl⟩

end PageCompiler

end PagePress
