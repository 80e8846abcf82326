import PagePress.Proofs.LineMap.Calls
import PagePress.Proofs.Relocation

/-!
Lines that are counted from one. Whatever is given as a number, one line, a range or a line of a
mapping, is checked before it is mapped. A place that a mapping gives as such is not: its line and
the generated line are what was given, and an error at that line points there.
-/

set_option autoImplicit false

namespace PagePress

private theorem LastTells.imp {α β : Type} {tells tells' : α → β → Prop} {settles : α → Prop}
    {items : List α} {answer : β} (said : LastTells tells settles items answer)
    (imp : ∀ item, tells item answer → tells' item answer) :
    LastTells tells' settles items answer := by
  obtain ⟨before, item, after, split, tells, silent⟩ := said
  exact ⟨before, item, after, split, imp item tells, silent⟩

private theorem LastTells.or_else {α β : Type} {tells tells' : α → β → Prop} {settles : α → Prop}
    {items : List α} {answer : β} {holds : Prop} (said : LastTells tells settles items answer)
    (cases : ∀ item, tells item answer → holds ∨ tells' item answer) :
    holds ∨ LastTells tells' settles items answer := by
  obtain ⟨before, item, after, split, tells, silent⟩ := said
  exact (cases item tells).imp_right fun other => ⟨before, item, after, split, other, silent⟩

namespace LineMap

/-- A generated line and the line of its place are both counted from one. -/
structure OneBased (line : Int) (place : Position) : Prop where
  generated : 1 ≤ line
  onTemplate : ∃ template, place.line = .int template ∧ 1 ≤ template

def ReadsPlace (line : Int) (item : Datum × Target) (place : Position) : Prop :=
  ∃ key, item = (key, .position place) ∧ key.toInt = .ok line

/-- The last item of a mapping for a line gives its place as such. -/
def LastReadPlace (file : Datum) (pairs : List (Datum × Target)) (line : Int) : Position → Prop :=
  LastTells (ReadsPlace line) (fun item => ∃ place, Reads file item line place) pairs

def Call.GivesPlace (line : Int) (call : Call) (place : Position) : Prop :=
  ∃ pairs file, call = .ofMapping pairs file ∧ LastReadPlace file pairs line place

/-- Of the calls that are accepted, the last that settles a line gives its place as such. -/
def LastGivenPlace (calls : List Call) (line : Int) : Position → Prop :=
  LastTells (fun call place => call.Accepted ∧ call.GivesPlace line place) (Call.Settles line) calls

private theorem Reads.oneBased_or {file : Datum} {item : Datum × Target} {line : Int}
    {place : Position}
    (reads : Reads file item line place) : OneBased line place ∨ ReadsPlace line item place := by
  cases reads with
  | place keyed => exact .inr ⟨_, rfl, keyed⟩
  | line keyed read counted onTemplate => exact .inl ⟨counted, _, rfl, onTemplate⟩

private theorem ReadsPlace.reads {file : Datum} {item : Datum × Target} {line : Int}
    {place : Position} (reads : ReadsPlace line item place) : Reads file item line place := by
  obtain ⟨key, rfl, keyed⟩ := reads
  exact .place keyed

/-- A call that is accepted maps lines that are counted from one, or it gives a place as such. -/
private theorem Call.Gives.oneBased_or {call : Call} {line : Int} {place : Position}
    (accepted : call.Accepted) (gives : call.Gives line place) :
    OneBased line place ∨ call.GivesPlace line place := by
  cases call with
  | ofMapping pairs file =>
    exact (LastTells.or_else gives fun item reads => reads.oneBased_or).imp_right
      fun given => ⟨pairs, file, rfl, given⟩
  | add mapped template file =>
    obtain ⟨rfl, rfl⟩ := gives
    exact .inl ⟨accepted.1, template, rfl, accepted.2⟩
  | extend first last template file =>
    obtain ⟨⟨low, -⟩, rfl⟩ := gives
    obtain ⟨-, counted, onTemplate⟩ := accepted
    exact .inl ⟨by omega, template, rfl, onTemplate⟩

private theorem Call.GivesPlace.gives {call : Call} {line : Int} {place : Position}
    (given : call.GivesPlace line place) : call.Gives line place := by
  obtain ⟨pairs, file, rfl, read⟩ := given
  exact LastTells.imp read fun item reads => reads.reads

private theorem lookup_of_lastGivenPlace {calls : List Call} {line : Int} {place : Position}
    (given : LastGivenPlace calls line place) : (built calls).lookup line = some place :=
  (lookup_built_iff calls line place).2
    (LastTells.imp given fun _ both => ⟨both.1, both.2.gives⟩)

private theorem oneBased_or_of_lookup {calls : List Call} {line : Int} {place : Position}
    (found : (built calls).lookup line = some place) :
    OneBased line place ∨ LastGivenPlace calls line place := by
  refine LastTells.or_else ((lookup_built_iff calls line place).1 found) fun call both => ?_
  exact (both.2.oneBased_or both.1).imp_right fun given => ⟨both.1, given⟩

private theorem guide_eq_position_iff (m : LineMap) (failing malformed : List Int) (line : Int)
    (place : Position) :
    m.guide failing malformed line = .position place ↔
      line ∉ failing ∧ line ∉ malformed ∧ m.lookup line = some place := by
  unfold guide
  simp only [List.contains_iff_mem]
  by_cases fails : line ∈ failing
  · simp [fails]
  · by_cases bad : line ∈ malformed
    · simp [fails, bad]
    · cases m.lookup line <;> simp [fails, bad]

/-- Errors that have a place have it from the map: it is counted from one, as their line is, or it
was given as such. -/
private theorem mapped_error_oneBased_or {calls : List Call} {failing malformed : List Int}
    {includeNotes : Bool} {ds : List Diagnostic} {e : CompilationError}
    (member : e ∈ (Relocation.relocateAll (some ((built calls).guide failing malformed))
      includeNotes ds).1) (mapped : e.mapped = true) :
    ∃ line place, e.generatedLine = some line ∧ e.line = place.line ∧ e.file = place.file ∧
      (OneBased line place ∨ LastGivenPlace calls line place) := by
  have handed := Relocation.relocateAll_handedBack
    (some ((built calls).guide failing malformed)) includeNotes ds
  obtain ⟨d, -, keeps, place, ⟨guide, line, there, here, answer⟩, placed, filed⟩ :=
    handed.exists_place member mapped
  cases there
  have found := ((guide_eq_position_iff _ _ _ _ _).1 answer).2.2
  exact ⟨line, place, keeps.generatedLine.trans here, placed, filed, oneBased_or_of_lookup found⟩

/-- A line map is counted from one but for the places that were given as such. Whatever calls it was
built by, of a line that it maps both the line and the line of its place are at least one, or the
last accepted call that settles the line is a mapping whose last item for it is a place; in that
case the place stands in the map as it was given, and an error at the line is at this place. So a
map is counted from one exactly when all these places are, and then so is every mapped error. -/
theorem oneBased_but_given_places (calls : List Call) :
    (∀ line place, (built calls).lookup line = some place →
      OneBased line place ∨ LastGivenPlace calls line place) ∧
    (∀ line place, LastGivenPlace calls line place → (built calls).lookup line = some place ∧
      ∀ d : Diagnostic, d.line = some line →
        (Relocation.relocateAll (some ((built calls).guide [] [])) true [d]).1 =
          [.atPosition d place]) ∧
    ((∀ line place, (built calls).lookup line = some place → OneBased line place) ↔
      ∀ line place, LastGivenPlace calls line place → OneBased line place) ∧
    ∀ failing malformed includeNotes ds, ∀ e ∈ (Relocation.relocateAll
        (some ((built calls).guide failing malformed)) includeNotes ds).1, e.mapped = true →
      ∃ line place, e.generatedLine = some line ∧ e.line = place.line ∧ e.file = place.file ∧
        (OneBased line place ∨ LastGivenPlace calls line place) := by
  refine ⟨fun line place => oneBased_or_of_lookup, fun line place given => ?_, ?_,
    fun failing malformed includeNotes ds e => mapped_error_oneBased_or⟩
  · have found := lookup_of_lastGivenPlace given
    refine ⟨found, fun d here => ?_⟩
    have answer : (built calls).guide [] [] line = .position place :=
      (guide_eq_position_iff _ _ _ _ _).2 ⟨List.not_mem_nil, List.not_mem_nil, found⟩
    simp [Relocation.relocateAll, Relocation.relocate, Relocation.select, Relocation.all,
      Relocation.one, here, answer, Except.map]
  · constructor
    · exact fun counted line place given => counted line place (lookup_of_lastGivenPlace given)
    · exact fun counted line place found =>
        (oneBased_or_of_lookup found).elim id (counted line place)

/-- A place that is given as such for line zero of the generated source, and an error there. -/
theorem place_below_one_is_mapped :
    let calls : List Call := [.ofMapping [(.int 0, .position ⟨.text "a.tpl", .int (-3)⟩)] .null]
    let d : Diagnostic := ⟨.error, "first", some 0, none⟩
    ¬ ((∀ line place, (built calls).lookup line = some place → OneBased line place) ∧
        ∀ e ∈ (Relocation.relocateAll (some ((built calls).guide [] [])) false [d]).1,
          e.mapped = true → ∃ n, e.line = .int n ∧ 1 ≤ n) ∧
      (Relocation.relocateAll (some ((built calls).guide [] [])) false [d]).1 =
        [⟨.error, "first", .int (-3), some 0, .text "a.tpl", true⟩] := by
  intro calls d
  have answered : (Relocation.relocateAll (some ((built calls).guide [] [])) false [d]).1 =
      [⟨.error, "first", .int (-3), some 0, .text "a.tpl", true⟩] := by
    decide
  have found : (built calls).lookup 0 = some ⟨.text "a.tpl", .int (-3)⟩ := by decide
  refine ⟨fun counted => ?_, answered⟩
  have low := (counted.1 0 _ found).generated
  omega

end LineMap

end PagePress
