import PagePress.Modules.Source
import PagePress.Proofs.Modules.Finder

/-!
What a single finder answers for a name. Inside its namespace the answer depends on the store alone:
it answers for the namespace, for what is stored and for what has something stored below it, and for
nothing else, so no name on the way from the namespace down to a stored one is left out. Outside it
answers only for the packages above the namespace that are not installed.
-/

set_option autoImplicit false

namespace PagePress

def Store.StoresBelow (s : Store) (name : String) : Prop :=
  ∃ stored, s.contains stored = true ∧ Name.isBelow stored name = true

namespace ActiveFinder

/-- What a finder alone answers for a name that is looked for in a search path. -/
def answer (f : ActiveFinder) (stores : Stores) (installed : Installation) (search : SearchPath)
    (name : String) : Except Failure (Option Finding) :=
  (Interpreter.findIn stores name (installed.provides search name) [f]).map fun source =>
    source.bind ModuleSource.finding?

def Answers (f : ActiveFinder) (stores : Stores) (installed : Installation) (search : SearchPath)
    (name : String) (finding : Finding) : Prop :=
  f.answer stores installed search name = .ok (some finding)

variable {f : ActiveFinder} {stores : Stores} {installed : Installation} {search : SearchPath}

private theorem answer_eq (name : String) :
    f.answer stores installed search name =
      (if Finder.asks f.reserved name then installed.provides search name else .ok false).map
        fun provided => Finder.find (stores f.store) f.reserved name provided := by
  unfold answer Interpreter.findIn
  cases (if Finder.asks f.reserved name then installed.provides search name else .ok false) with
  | error failure => rfl
  | ok provided =>
    cases found : Finder.find (stores f.store) f.reserved name provided with
    | some finding => simp [Except.map, found, ModuleSource.finding?]
    | none => simp [Except.map, found, Interpreter.findIn]

private theorem answer_inside {name : String} (inside : Name.isWithin name f.reserved = true) :
    f.answer stores installed search name =
      .ok (Finder.find (stores f.store) f.reserved name false) := by
  have quiet : Finder.asks f.reserved name = false := by simp [Finder.asks, inside]
  rw [answer_eq, quiet]
  rfl

end ActiveFinder

/-- A finding for a name of a namespace tells by the store what the name is: where it is stored, and
that it is a package if something is stored below it, or if it is the bare namespace. -/
structure Finding.Describes (finding : Finding) (s : Store) (reserved name : String) : Prop where
  name_eq : finding.name = name
  origin_eq : finding.origin = if s.contains name then some (Finder.moduleUri name) else none
  isPackage_iff : finding.isPackage = true ↔
    s.StoresBelow name ∨ name = reserved ∧ s.contains name = false

namespace Finder

variable {s : Store} {reserved name : String} {provided : Bool} {finding : Finding}

private theorem name_ne_empty_of_isWithin (named : reserved ≠ "")
    (inside : Name.isWithin name reserved = true) : name ≠ "" := by
  rintro rfl
  rcases (Name.isWithin_iff "" reserved).1 inside with same | below
  · exact named same.symm
  · exact absurd (Name.length_lt_of_isBelow below) (by simp)

private theorem exists_find_iff (consistent : s.Consistent) (named : reserved ≠ "")
    (inside : Name.isWithin name reserved = true) :
    (∃ finding, find s reserved name provided = some finding) ↔
      name = reserved ∨ s.contains name = true ∨ s.StoresBelow name := by
  have below : holdsBelow s name = true ↔ s.StoresBelow name :=
    holdsBelow_iff consistent (name_ne_empty_of_isWithin named inside)
  rw [← Option.isSome_iff_exists, ← below]
  simp only [find, inside, if_true]
  by_cases stored : s.contains name = true
  · simp [stored]
  · by_cases bare : (name == reserved || holdsBelow s name) = true
    · rw [if_neg stored, if_pos bare]
      exact iff_of_true rfl (by simpa [stored] using bare)
    · rw [if_neg stored, if_neg bare]
      exact iff_of_false (by simp) (by simpa [stored] using bare)

private theorem describes_of_find (consistent : s.Consistent) (named : reserved ≠ "")
    (inside : Name.isWithin name reserved = true)
    (found : find s reserved name provided = some finding) :
    finding.Describes s reserved name := by
  have below : holdsBelow s name = true ↔ s.StoresBelow name :=
    holdsBelow_iff consistent (name_ne_empty_of_isWithin named inside)
  simp only [find, inside, if_true] at found
  by_cases stored : s.contains name = true
  · rw [if_pos stored] at found
    obtain rfl := Option.some.inj found
    exact ⟨rfl, by simp [stored], by simp [stored, below]⟩
  · rw [if_neg stored] at found
    have absent : s.contains name = false := by simpa using stored
    by_cases present : (name == reserved || holdsBelow s name) = true
    · rw [if_pos present] at found
      obtain rfl := Option.some.inj found
      have reason : s.StoresBelow name ∨ name = reserved ∧ s.contains name = false := by
        rcases Bool.or_eq_true _ _ ▸ present with top | holds
        · exact .inr ⟨beq_iff_eq.1 top, absent⟩
        · exact .inl (below.1 holds)
      exact ⟨rfl, by simp [absent, bare], iff_of_true rfl reason⟩
    · rw [if_neg present] at found
      cases found

private theorem find_outside (outside : Name.isWithin name reserved = false) :
    find s reserved name provided = some finding ↔
      Name.isBelow reserved name = true ∧ provided = false ∧ finding = bare name := by
  simp only [find, outside, Bool.false_eq_true, if_false]
  by_cases above : (Name.isBelow reserved name && !provided) = true
  · obtain ⟨below, missing⟩ := Bool.and_eq_true_iff.1 above
    have missing : provided = false := by simpa using missing
    rw [if_pos above]
    constructor
    · intro same
      exact ⟨below, missing, (Option.some.inj same).symm⟩
    · rintro ⟨-, -, rfl⟩
      rfl
  · rw [if_neg above]
    refine iff_of_false (by simp) ?_
    rintro ⟨below, missing, -⟩
    exact above (by simp [below, missing])

end Finder

namespace ActiveFinder

variable {f : ActiveFinder} {stores : Stores} {installed : Installation} {search : SearchPath}

private theorem answers_outside {name : String} (outside : Name.isWithin name f.reserved = false)
    (finding : Finding) :
    f.Answers stores installed search name finding ↔
      Name.isBelow f.reserved name = true ∧ installed.provides search name = .ok false ∧
        finding = Finder.bare name := by
  rw [Answers, answer_eq]
  by_cases below : Name.isBelow f.reserved name = true
  · have asks : Finder.asks f.reserved name = true := by simp [Finder.asks, outside, below]
    rw [if_pos asks]
    cases installed.provides search name with
    | error failure => simp [Except.map]
    | ok provided => simp [Except.map, Finder.find_outside outside]
  · have quiet : Finder.asks f.reserved name = false := by simp [Finder.asks, below]
    simp [quiet, Except.map, Finder.find_outside outside, below]

/-- Inside its namespace a finder answers exactly for the namespace, for stored names and for the
names above them, and says what is stored; outside it answers only for the packages above the
namespace that are not installed, as for empty ones. So it answers for each stored name of the
namespace, and for every name between the namespace and a stored one as for a package. -/
theorem answers_exactly (reachable : (stores f.store).Reachable) (named : f.reserved ≠ "") :
    (∀ name, Name.isWithin name f.reserved = true →
      (∃ answer, f.answer stores installed search name = .ok answer) ∧
      ((∃ finding, f.Answers stores installed search name finding) ↔
        name = f.reserved ∨ (stores f.store).contains name = true ∨
          (stores f.store).StoresBelow name) ∧
      ∀ finding, f.Answers stores installed search name finding →
        finding.Describes (stores f.store) f.reserved name) ∧
    (∀ name, Name.isWithin name f.reserved = false → ∀ finding,
      f.Answers stores installed search name finding ↔
        Name.isBelow f.reserved name = true ∧ installed.provides search name = .ok false ∧
          finding = Finder.bare name) ∧
    ∀ stored, (stores f.store).contains stored = true →
      Name.isWithin stored f.reserved = true →
        (∃ finding, f.Answers stores installed search stored finding) ∧
        ∀ above, Name.isBelow stored above = true → Name.isWithin above f.reserved = true →
          ∃ finding, f.Answers stores installed search above finding ∧ finding.isPackage = true := by
  have consistent := reachable.consistent
  have answers_iff : ∀ {name}, Name.isWithin name f.reserved = true → ∀ finding,
      f.Answers stores installed search name finding ↔
        Finder.find (stores f.store) f.reserved name false = some finding := by
    intro name inside finding
    rw [Answers, answer_inside inside, Except.ok.injEq]
  refine ⟨?inside, fun name outside finding => answers_outside outside finding, ?closed⟩
  case inside =>
    intro name inside
    refine ⟨⟨_, answer_inside inside⟩, ?_, ?_⟩
    · simp only [answers_iff inside]
      exact Finder.exists_find_iff consistent named inside
    · intro finding answers
      exact Finder.describes_of_find consistent named inside ((answers_iff inside finding).1 answers)
  case closed =>
    intro stored here within
    constructor
    · obtain ⟨finding, found⟩ := Finder.find_of_contains within here false
      exact ⟨finding, (answers_iff within finding).2 found⟩
    · intro above below inside
      have holds : Finder.holdsBelow (stores f.store) above = true :=
        (Finder.holdsBelow_iff consistent (Finder.name_ne_empty_of_isWithin named inside)).2
          ⟨stored, here, below⟩
      obtain ⟨finding, found, isPackage⟩ := Finder.find_of_holdsBelow inside holds false
      exact ⟨finding, (answers_iff inside finding).2 found, isPackage⟩

def similarPages : Store :=
  ((Store.empty ⟨0, []⟩).putMany
    [("pkg.A", some [0]), ("pkg.sub.B", some [1]), ("pkgx.C", some [2])]).2

/-- The namespace `pkg` has nothing to do with `pkgx`, though one text begins with the other. -/
theorem answers_beside_a_similar_name :
    (¬ ∃ finding, (ActiveFinder.mk 0 0 "pkg" []).Answers (fun _ => similarPages) [] .top "pkgx.C"
      finding) ∧
    ∃ finding, (ActiveFinder.mk 0 0 "pkg" []).Answers (fun _ => similarPages) [] .top "pkg.sub"
      finding ∧ finding.isPackage = true := by
  have reachable : similarPages.Reachable := .putMany _ (.empty _)
  obtain ⟨-, outside, closed⟩ := @answers_exactly ⟨0, 0, "pkg", []⟩ (fun _ => similarPages) [] .top
    reachable (by decide)
  constructor
  · rintro ⟨finding, answers⟩
    have below := ((outside "pkgx.C" (by decide +kernel) finding).1 answers).1
    exact absurd below (by decide +kernel)
  · exact (closed "pkg.sub.B" (by decide +kernel) (by decide +kernel)).2 "pkg.sub"
      (by decide +kernel) (by decide +kernel)

end ActiveFinder

end PagePress
