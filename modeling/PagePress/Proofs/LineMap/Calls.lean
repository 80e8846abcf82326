import Mathlib.Data.List.Induction
import Mathlib.Data.Set.Card
import PagePress.Diagnostic.LineMap

/-!
Line maps and the calls that they were built by, refused ones included. What a map answers for a line
is what the last call gave that was accepted and that covers the line, unless a mapping was accepted
after it. A call that is refused changes nothing: of a range only the first line can be refused,
before anything is mapped.
-/

set_option autoImplicit false

namespace PagePress

/-- The last of some items that settles a matter tells this of it. -/
def LastTells {α β : Type} (tells : α → β → Prop) (settles : α → Prop) (items : List α)
    (answer : β) : Prop :=
  ∃ before item after, items = before ++ item :: after ∧ tells item answer ∧
    ∀ later ∈ after, ¬ settles later

private theorem lastTells_nil {α β : Type} {tells : α → β → Prop} {settles : α → Prop}
    {answer : β} :
    ¬ LastTells tells settles [] answer := by
  rintro ⟨before, item, after, split, -⟩
  simp at split

private theorem lastTells_snoc {α β : Type} {tells : α → β → Prop} {settles : α → Prop}
    {items : List α} {item : α} {answer : β} :
    LastTells tells settles (items ++ [item]) answer ↔
      tells item answer ∨ (LastTells tells settles items answer ∧ ¬ settles item) := by
  constructor
  · rintro ⟨before, other, after, split, tells, silent⟩
    rcases List.eq_nil_or_concat after with rfl | ⟨front, last, rfl⟩
    · obtain ⟨rfl, same⟩ := List.append_inj' split rfl
      obtain rfl := List.singleton_inj.1 same
      exact .inl tells
    · have longer : before ++ other :: (front ++ [last]) = (before ++ other :: front) ++ [last] := by
        simp
      rw [List.concat_eq_append, longer] at split
      obtain ⟨rfl, same⟩ := List.append_inj' split rfl
      obtain rfl := List.singleton_inj.1 same
      rw [List.concat_eq_append, List.forall_mem_append] at silent
      exact .inr ⟨⟨before, other, front, rfl, tells, silent.1⟩, silent.2 _ List.mem_cons_self⟩
  · rintro (tells | ⟨⟨before, other, after, rfl, tells, silent⟩, unsettled⟩)
    · exact ⟨items, item, [], rfl, tells, by simp⟩
    · refine ⟨before, other, after ++ [item], by simp, tells, ?_⟩
      exact List.forall_mem_append.2 ⟨silent, List.forall_mem_singleton.2 unsettled⟩

namespace LineMap

/-- The generated lines that have a place, in the order in which they came. -/
def lines (m : LineMap) : List Int := m.places.map (·.1)

def Distinct (m : LineMap) : Prop := m.lines.Nodup

private theorem distinct_empty : empty.Distinct := List.nodup_nil

@[simp] theorem lookup_empty (line : Int) : empty.lookup line = none := rfl

private theorem set_of_mem {m : LineMap} {line : Int} (known : line ∈ m.lines) (place : Position) :
    m.set line place =
      ⟨m.places.map fun entry => (entry.1, if entry.1 = line then place else entry.2)⟩ := by
  have there : ∃ entry ∈ m.places, entry.1 = line := List.mem_map.1 known
  rw [set, if_pos (by simpa using there)]
  congr 2
  funext entry
  obtain ⟨key, old⟩ := entry
  by_cases here : key = line <;> simp [here]

private theorem set_of_not_mem {m : LineMap} {line : Int} (unknown : line ∉ m.lines)
    (place : Position) :
    m.set line place = ⟨m.places ++ [(line, place)]⟩ := by
  have missing : ¬ ∃ entry ∈ m.places, entry.1 = line := mt List.mem_map.2 unknown
  rw [set, if_neg (by simpa using missing)]

private theorem lines_set (m : LineMap) (line : Int) (place : Position) :
    (m.set line place).lines = if line ∈ m.lines then m.lines else m.lines ++ [line] := by
  by_cases known : line ∈ m.lines
  · rw [set_of_mem known, if_pos known]
    simp [lines, Function.comp_def]
  · rw [set_of_not_mem known, if_neg known]
    simp [lines]

private theorem Distinct.set {m : LineMap} (distinct : m.Distinct) (line : Int) (place : Position) :
    (m.set line place).Distinct := by
  rw [Distinct, lines_set]
  split
  · exact distinct
  · rename_i unknown
    exact List.nodup_append.2 ⟨distinct, List.nodup_singleton line, by
      rintro other member _ same rfl
      exact unknown (List.mem_singleton.1 same ▸ member)⟩

private theorem lookup_cons (line : Int) (place : Position) (rest : List (Int × Position))
    (other : Int) :
    (⟨(line, place) :: rest⟩ : LineMap).lookup other =
      if line = other then some place else (⟨rest⟩ : LineMap).lookup other := by
  by_cases asked : line = other
  · simp [lookup, asked]
  · simp [lookup, asked, List.find?_cons_of_neg]

private theorem lookup_eq_none_iff {m : LineMap} {line : Int} :
    m.lookup line = none ↔ line ∉ m.lines := by
  simp only [lookup, lines, Option.map_eq_none_iff, List.find?_eq_none, List.mem_map, not_exists,
    not_and, beq_iff_eq]

private theorem lookup_replace (line : Int) (place : Position) (places : List (Int × Position))
    (other : Int) :
    (⟨places.map fun entry => (entry.1, if entry.1 = line then place else entry.2)⟩ :
        LineMap).lookup other =
      if other = line then (if line ∈ (⟨places⟩ : LineMap).lines then some place else none)
      else (⟨places⟩ : LineMap).lookup other := by
  induction places with
  | nil => simp [lookup, lines]
  | cons entry rest ih =>
    obtain ⟨key, old⟩ := entry
    have known : line ∈ (⟨(key, old) :: rest⟩ : LineMap).lines ↔
        line = key ∨ line ∈ (⟨rest⟩ : LineMap).lines := List.mem_cons
    simp only [List.map_cons, lookup_cons, known, ih]
    by_cases asked : key = other
    · subst asked
      by_cases here : key = line <;> simp [here]
    · by_cases here : other = line
      · have apart : key ≠ line := fun h => asked (h.trans here.symm)
        simp [here, apart, apart.symm]
      · simp [here, asked]

private theorem lookup_set (m : LineMap) (line : Int) (place : Position) (other : Int) :
    (m.set line place).lookup other = if other = line then some place else m.lookup other := by
  by_cases known : line ∈ m.lines
  · rw [set_of_mem known, lookup_replace, if_pos known]
  · rw [set_of_not_mem known]
    have added : (⟨m.places ++ [(line, place)]⟩ : LineMap).lookup other =
        (m.lookup other).or (if line = other then some place else none) := by
      simp only [lookup, List.find?_append]
      cases m.places.find? _ with
      | some entry => rfl
      | none => by_cases asked : line = other <;> simp [asked]
    rw [added]
    by_cases asked : other = line
    · subst asked
      simp [lookup_eq_none_iff.2 known]
    · have missed : line ≠ other := fun h => asked h.symm
      simp [asked, missed]

private theorem isSome_lookup_iff (m : LineMap) (line : Int) :
    (m.lookup line).isSome = true ↔ line ∈ m.lines := by
  rw [Option.isSome_iff_ne_none, Ne, lookup_eq_none_iff, not_not]

private theorem Distinct.encard_eq {m : LineMap} (distinct : m.Distinct) :
    {line | (m.lookup line).isSome = true}.encard = m.size := by
  have same : {line | (m.lookup line).isSome = true} = (m.lines.toFinset : Set Int) := by
    ext line
    simp [isSome_lookup_iff]
  rw [same, Set.encard_coe_eq_coe_finsetCard, List.toFinset_card_of_nodup distinct]
  simp [size, lines]

/-! What a mapping and a range give. -/

/-- An item of a mapping gives a place to a line: one that is given as such, or a line of the
template that is read and counted from one, as then the generated line has to be. -/
inductive Reads (file : Datum) : Datum × Target → Int → Position → Prop
  | place {key : Datum} {place : Position} {line : Int} (keyed : key.toInt = .ok line) :
      Reads file (key, .position place) line place
  | line {key target : Datum} {line template : Int} (keyed : key.toInt = .ok line)
      (read : target.toInt = .ok template) (counted : 1 ≤ line) (onTemplate : 1 ≤ template) :
      Reads file (key, .plain target) line ⟨file, .int template⟩

/-- The last item of a mapping for a line gives it this place. -/
def LastRead (file : Datum) (pairs : List (Datum × Target)) (line : Int) : Position → Prop :=
  LastTells (fun item place => Reads file item line place)
    (fun item => ∃ place, Reads file item line place) pairs

private theorem Reads.unique {file : Datum} {item : Datum × Target} {line other : Int}
    {place place' : Position} (one : Reads file item line place)
    (two : Reads file item other place') : line = other ∧ place = place' := by
  cases one with
  | place keyed =>
    cases two with
    | place again => exact ⟨Except.ok.inj (keyed.symm.trans again), rfl⟩
  | line keyed read =>
    cases two with
    | line again reread =>
      obtain rfl := Except.ok.inj (read.symm.trans reread)
      exact ⟨Except.ok.inj (keyed.symm.trans again), rfl⟩

private theorem add_of_counted (m : LineMap) {line template : Int} (file : Datum)
    (counted : 1 ≤ line) (onTemplate : 1 ≤ template) :
    m.add line template file = .ok (m.set line ⟨file, .int template⟩) := by
  have fine : (decide (line < 1) || decide (template < 1)) = false := by
    rw [Bool.or_eq_false_iff, decide_eq_false_iff_not, decide_eq_false_iff_not]
    omega
  simp only [add, fine, Bool.false_eq_true, if_false]

private theorem add_of_not_counted (m : LineMap) {line template : Int} (file : Datum)
    (refused : ¬ (1 ≤ line ∧ 1 ≤ template)) :
    m.add line template file = .error .lineBelowOne := by
  have below : (decide (line < 1) || decide (template < 1)) = true := by
    rw [Bool.or_eq_true, decide_eq_true_eq, decide_eq_true_eq]
    omega
  simp only [add, below, if_true]

private theorem addTarget_of_reads (m : LineMap) {file : Datum} {item : Datum × Target} {line : Int}
    {place : Position} (reads : Reads file item line place) :
    m.addTarget file item.1 item.2 = .ok (m.set line place) := by
  cases reads with
  | place keyed =>
    simp only [addTarget, keyed]
    rfl
  | line keyed read counted onTemplate =>
    simp only [addTarget, keyed, read]
    exact add_of_counted m file counted onTemplate

private theorem addTarget_of_not_reads (m : LineMap) {file : Datum} {item : Datum × Target}
    (unread : ¬ ∃ line place, Reads file item line place) :
    ∃ failure, m.addTarget file item.1 item.2 = .error failure := by
  obtain ⟨key, target⟩ := item
  cases keyed : key.toInt with
  | error fault =>
    cases target <;> exact ⟨.notAnInteger fault, by simp only [addTarget, keyed]; rfl⟩
  | ok line =>
    cases target with
    | position place => exact absurd ⟨line, place, .place keyed⟩ unread
    | plain target =>
      cases read : target.toInt with
      | error fault => exact ⟨.notAnInteger fault, by simp only [addTarget, keyed, read]; rfl⟩
      | ok template =>
        refine ⟨.lineBelowOne, ?_⟩
        simp only [addTarget, keyed, read]
        exact add_of_not_counted m file fun ⟨counted, onTemplate⟩ =>
          unread ⟨line, _, .line keyed read counted onTemplate⟩

private theorem ofMapping_snoc (pairs : List (Datum × Target)) (item : Datum × Target)
    (file : Datum) :
    ofMapping (pairs ++ [item]) file =
      (ofMapping pairs file).bind fun m => m.addTarget file item.1 item.2 := by
  unfold ofMapping
  rw [List.foldlM_append]
  cases pairs.foldlM (fun (m : LineMap) (pair : Datum × Target) => m.addTarget file pair.1 pair.2)
      empty with
  | error failure => rfl
  | ok m =>
    show (m.addTarget file item.1 item.2).bind Except.ok = m.addTarget file item.1 item.2
    cases m.addTarget file item.1 item.2 <;> rfl

private theorem ofMapping_of_reads {file : Datum} {pairs : List (Datum × Target)}
    (reads : ∀ item ∈ pairs, ∃ line place, Reads file item line place) :
    ∃ m, ofMapping pairs file = .ok m ∧ m.Distinct ∧
      ∀ line place, m.lookup line = some place ↔ LastRead file pairs line place := by
  induction pairs using List.reverseRecOn with
  | nil => exact ⟨empty, rfl, distinct_empty, fun line place =>
      iff_of_false (by simp) lastTells_nil⟩
  | append_singleton pairs item ih =>
    obtain ⟨before, last⟩ := List.forall_mem_append.1 reads
    obtain ⟨m, made, distinct, answers⟩ := ih before
    obtain ⟨key, given, read⟩ := last item List.mem_cons_self
    refine ⟨m.set key given, ?_, distinct.set key given, fun line place => ?_⟩
    · rw [ofMapping_snoc, made]
      exact addTarget_of_reads m read
    · rw [lookup_set, LastRead, lastTells_snoc]
      by_cases here : line = key
      · subst here
        rw [if_pos rfl, Option.some.injEq]
        constructor
        · rintro rfl
          exact .inl read
        · rintro (again | ⟨-, silent⟩)
          · exact (read.unique again).2
          · exact absurd ⟨given, read⟩ silent
      · have silent : ¬ ∃ place, Reads file item line place := by
          rintro ⟨place, other⟩
          exact here (other.unique read).1
        rw [if_neg here, answers]
        constructor
        · exact fun said => .inr ⟨said, silent⟩
        · rintro (other | ⟨said, -⟩)
          · exact absurd ⟨place, other⟩ silent
          · exact said

private theorem ofMapping_of_not_reads {file : Datum} {pairs : List (Datum × Target)}
    (unread : ¬ ∀ item ∈ pairs, ∃ line place, Reads file item line place) :
    ∃ failure, ofMapping pairs file = .error failure := by
  induction pairs using List.reverseRecOn with
  | nil => exact absurd (by simp) unread
  | append_singleton pairs item ih =>
    rw [ofMapping_snoc]
    by_cases before : ∀ item ∈ pairs, ∃ line place, Reads file item line place
    · obtain ⟨m, made, -, -⟩ := ofMapping_of_reads before
      rw [made]
      exact addTarget_of_not_reads m fun read =>
        unread (List.forall_mem_append.2 ⟨before, List.forall_mem_singleton.2 read⟩)
    · obtain ⟨failure, failed⟩ := ih before
      exact ⟨failure, by rw [failed]; rfl⟩

/-- Lines that are counted from one are mapped without fail: the lines behind the first one are
greater still. -/
private theorem addFrom_of_counted {template : Int} (file : Datum) (onTemplate : 1 ≤ template)
    (count : Nat) {m : LineMap} {first : Int} (counted : 1 ≤ first) :
    ∃ n, m.addFrom first count template file = (.ok (), n) ∧ (m.Distinct → n.Distinct) ∧
      ∀ line, n.lookup line = if first ≤ line ∧ line < first + count then
        some ⟨file, .int template⟩ else m.lookup line := by
  induction count generalizing m first with
  | zero =>
    refine ⟨m, rfl, id, fun line => ?_⟩
    rw [if_neg (by omega)]
  | succ count ih =>
    let k := m.set first ⟨file, .int template⟩
    have next : 1 ≤ first + 1 := by omega
    obtain ⟨n, mapped, distinct, answers⟩ := ih (m := k) next
    refine ⟨n, ?_, fun d => distinct (d.set first _), fun line => ?_⟩
    · rw [addFrom, add_of_counted m file counted onTemplate]
      exact mapped
    · rw [answers, lookup_set]
      by_cases here : line = first
      · rw [if_neg (by omega), if_pos here, if_pos (by omega)]
      · rw [if_neg here]
        congr 1
        rw [eq_iff_iff]
        omega

private theorem extend_of_counted (m : LineMap) {first last template : Int} (file : Datum)
    (ordered : first ≤ last) (counted : 1 ≤ first) (onTemplate : 1 ≤ template) :
    ∃ n, m.extend first last template file = (.ok (), n) ∧ (m.Distinct → n.Distinct) ∧
      ∀ line, n.lookup line = if first ≤ line ∧ line ≤ last then
        some ⟨file, .int template⟩ else m.lookup line := by
  obtain ⟨n, mapped, distinct, answers⟩ :=
    addFrom_of_counted (m := m) file onTemplate (last - first + 1).toNat counted
  refine ⟨n, ?_, distinct, fun line => ?_⟩
  · rw [extend, if_neg (by omega), mapped]
  · rw [answers]
    congr 1
    rw [eq_iff_iff]
    omega

private theorem extend_of_not_counted (m : LineMap) {first last template : Int} (file : Datum)
    (refused : ¬ (first ≤ last ∧ 1 ≤ first ∧ 1 ≤ template)) :
    m.extend first last template file =
      (.error (if last < first then .rangeReversed else .lineBelowOne), m) := by
  unfold extend
  split
  · rfl
  · obtain ⟨count, size⟩ : ∃ count, (last - first + 1).toNat = count + 1 :=
      ⟨(last - first).toNat, by omega⟩
    rw [size, addFrom, add_of_not_counted m file (by omega)]

/-! Calls one after the other. -/

/-- What can be asked of a line map: to start again with a mapping, to map one line, and to map a
range of lines. -/
inductive Call
  | ofMapping (pairs : List (Datum × Target)) (file : Datum)
  | add (line template : Int) (file : Datum)
  | extend (first last template : Int) (file : Datum)

namespace Call

def apply (m : LineMap) : Call → Except Failure Unit × LineMap
  | .ofMapping pairs file =>
    match LineMap.ofMapping pairs file with
    | .ok new => (.ok (), new)
    | .error failure => (.error failure, m)
  | .add line template file =>
    match m.add line template file with
    | .ok more => (.ok (), more)
    | .error failure => (.error failure, m)
  | .extend first last template file => m.extend first last template file

def Accepted : Call → Prop
  | .ofMapping pairs file => ∀ item ∈ pairs, ∃ line place, Reads file item line place
  | .add line template _ => 1 ≤ line ∧ 1 ≤ template
  | .extend first last template _ => first ≤ last ∧ 1 ≤ first ∧ 1 ≤ template

def Gives (line : Int) : Call → Position → Prop
  | .ofMapping pairs file, place => LastRead file pairs line place
  | .add mapped template file, place => line = mapped ∧ place = ⟨file, .int template⟩
  | .extend first last template file, place =>
    (first ≤ line ∧ line ≤ last) ∧ place = ⟨file, .int template⟩

def StartsAnew : Call → Prop
  | .ofMapping _ _ => True
  | _ => False

/-- A call settles what a line is mapped to: it covers the line or starts a new map. -/
def Settles (line : Int) (call : Call) : Prop :=
  call.Accepted ∧ (call.StartsAnew ∨ ∃ place, call.Gives line place)

/-- A call that is accepted changes the answers for the lines that it covers, and for all of them if
it starts a new map. -/
private theorem apply_of_accepted {call : Call} (accepted : call.Accepted) (m : LineMap) :
    ∃ n, call.apply m = (.ok (), n) ∧ (m.Distinct → n.Distinct) ∧
      ∀ line place, n.lookup line = some place ↔
        call.Gives line place ∨ (m.lookup line = some place ∧ ¬ call.Settles line) := by
  cases call with
  | ofMapping pairs file =>
    obtain ⟨n, made, distinct, answers⟩ := ofMapping_of_reads accepted
    refine ⟨n, by simp only [apply, made], fun _ => distinct, fun line place => ?_⟩
    rw [answers]
    exact ⟨.inl, fun either => either.resolve_right fun old => old.2 ⟨accepted, .inl trivial⟩⟩
  | add mapped template file =>
    refine ⟨m.set mapped ⟨file, .int template⟩, ?_, fun d => d.set _ _, fun line place => ?_⟩
    · simp only [apply, add_of_counted m file accepted.1 accepted.2]
    · rw [lookup_set]
      by_cases here : line = mapped
      · rw [if_pos here, Option.some.injEq]
        constructor
        · exact fun same => .inl ⟨here, same.symm⟩
        · rintro (⟨-, same⟩ | ⟨-, unsettled⟩)
          · exact same.symm
          · exact absurd ⟨accepted, .inr ⟨_, here, rfl⟩⟩ unsettled
      · rw [if_neg here]
        have unsettled : ¬ (Call.add mapped template file).Settles line := by
          rintro ⟨-, anew | ⟨_, covered, -⟩⟩
          · exact anew
          · exact here covered
        exact ⟨fun old => .inr ⟨old, unsettled⟩,
          fun either => (either.resolve_left fun given => here given.1).1⟩
  | extend first last template file =>
    obtain ⟨n, mapped, distinct, answers⟩ :=
      extend_of_counted m file accepted.1 accepted.2.1 accepted.2.2
    refine ⟨n, mapped, distinct, fun line place => ?_⟩
    rw [answers]
    by_cases here : first ≤ line ∧ line ≤ last
    · rw [if_pos here, Option.some.injEq]
      constructor
      · exact fun same => .inl ⟨here, same.symm⟩
      · rintro (⟨-, same⟩ | ⟨-, unsettled⟩)
        · exact same.symm
        · exact absurd ⟨accepted, .inr ⟨_, here, rfl⟩⟩ unsettled
    · rw [if_neg here]
      have unsettled : ¬ (Call.extend first last template file).Settles line := by
        rintro ⟨-, anew | ⟨_, covered, -⟩⟩
        · exact anew
        · exact here covered
      exact ⟨fun old => .inr ⟨old, unsettled⟩,
        fun either => (either.resolve_left fun given => here given.1).1⟩

private theorem apply_of_not_accepted {call : Call} (refused : ¬ call.Accepted) (m : LineMap) :
    ∃ failure, call.apply m = (.error failure, m) := by
  cases call with
  | ofMapping pairs file =>
    obtain ⟨failure, failed⟩ := ofMapping_of_not_reads refused
    exact ⟨failure, by simp only [apply, failed]⟩
  | add line template file =>
    exact ⟨.lineBelowOne, by simp only [apply, add_of_not_counted m file refused]⟩
  | extend first last template file => exact ⟨_, extend_of_not_counted m file refused⟩

private theorem fails_iff (call : Call) (m : LineMap) :
    (∃ failure, (call.apply m).1 = .error failure) ↔ ¬ call.Accepted := by
  constructor
  · rintro ⟨failure, failed⟩ accepted
    obtain ⟨n, went, -, -⟩ := apply_of_accepted accepted m
    rw [went] at failed
    cases failed
  · intro refused
    obtain ⟨failure, failed⟩ := apply_of_not_accepted refused m
    exact ⟨failure, by rw [failed]⟩

end Call

/-- The map that calls make of the empty one, whether or not they are accepted. -/
def built (calls : List Call) : LineMap := calls.foldl (fun m call => (call.apply m).2) empty

/-- Of the calls that are accepted, the last that settles a line gives it this place. -/
def LastGiven (calls : List Call) (line : Int) : Position → Prop :=
  LastTells (fun call place => call.Accepted ∧ call.Gives line place) (Call.Settles line) calls

private theorem built_snoc (calls : List Call) (call : Call) :
    built (calls ++ [call]) = (call.apply (built calls)).2 := by
  simp [built]

private theorem distinct_built (calls : List Call) : (built calls).Distinct := by
  induction calls using List.reverseRecOn with
  | nil => exact distinct_empty
  | append_singleton calls call ih =>
    rw [built_snoc]
    by_cases accepted : call.Accepted
    · obtain ⟨n, went, distinct, -⟩ := Call.apply_of_accepted accepted (built calls)
      rw [went]
      exact distinct ih
    · obtain ⟨failure, failed⟩ := Call.apply_of_not_accepted accepted (built calls)
      rw [failed]
      exact ih

theorem lookup_built_iff (calls : List Call) (line : Int) (place : Position) :
    (built calls).lookup line = some place ↔ LastGiven calls line place := by
  induction calls using List.reverseRecOn with
  | nil => exact iff_of_false (by simp [built]) lastTells_nil
  | append_singleton calls call ih =>
    rw [built_snoc, LastGiven, lastTells_snoc]
    by_cases accepted : call.Accepted
    · obtain ⟨n, went, -, answers⟩ := Call.apply_of_accepted accepted (built calls)
      rw [went, answers, ih, LastGiven]
      exact or_congr_left ⟨fun given => ⟨accepted, given⟩, And.right⟩
    · obtain ⟨failure, failed⟩ := Call.apply_of_not_accepted accepted (built calls)
      rw [failed, ih]
      constructor
      · exact fun old => .inr ⟨old, fun settled => accepted settled.1⟩
      · rintro (⟨taken, -⟩ | ⟨old, -⟩)
        · exact absurd taken accepted
        · exact old

/-- A line map is a finite map. Whatever calls it was built by, the place of a line is the one that
the last accepted call gave which covers the line or started a new map; and the size is the number
of lines with a place. A call fails exactly when it is not accepted, a range therefore when it is
reversed or a line at its start is below one, and then the map is the same as before. -/
theorem map_tells_last_accepted (calls : List Call) :
    (∀ line place, (built calls).lookup line = some place ↔ LastGiven calls line place) ∧
    (∀ line, (built calls).lookup line = none ↔ ∀ place, ¬ LastGiven calls line place) ∧
    {line | ((built calls).lookup line).isSome = true}.encard = (built calls).size ∧
    (∀ (call : Call) (m : LineMap),
      ((∃ failure, (call.apply m).1 = .error failure) ↔ ¬ call.Accepted) ∧
      ∀ failure, (call.apply m).1 = .error failure → (call.apply m).2 = m) ∧
    ∀ (m : LineMap) (first last template : Int) (file : Datum),
      (∃ failure, (m.extend first last template file).1 = .error failure) ↔
        last < first ∨ first < 1 ∨ template < 1 := by
  refine ⟨lookup_built_iff calls, fun line => ?_, (distinct_built calls).encard_eq,
    fun call m => ⟨Call.fails_iff call m, fun failure failed => ?_⟩,
    fun m first last template file => ?_⟩
  · rw [Option.eq_none_iff_forall_ne_some]
    exact forall_congr' fun place => not_congr (lookup_built_iff calls line place)
  · obtain ⟨other, unchanged⟩ :=
      Call.apply_of_not_accepted ((Call.fails_iff call m).1 ⟨failure, failed⟩) m
    rw [unchanged]
  · have refused := Call.fails_iff (.extend first last template file) m
    simp only [Call.apply, Call.Accepted] at refused
    rw [refused]
    omega

end LineMap

end PagePress
