import PagePress.Proofs.Settings.Namespace
import PagePress.Settings.Lax

/-!
Settings in an environment. Three variables stand for fields of a record: what they say takes the
place of what the record says, so records that differ in such fields alone give the same settings, or
the same defects. Without these variables the record alone counts.
-/

set_option autoImplicit false

namespace PagePress

namespace Environment

/-- The value that counts for a variable: that of the process, also an empty one, and else the default
that is written for it. -/
inductive HasValue (e : Environment) (name : String) : String → Prop
  | process {value : String} (set : e.process.lookup name = some value) : HasValue e name value
  | default {value : String} (unset : e.process.lookup name = none)
      (written : e.defaults.lookup name = some (some value)) : HasValue e name value

/-- The fields that the environment sets. A classpath or a namespace has to say something; debugging
is set by any value. -/
inductive Overrides (e : Environment) : String → Prop
  | classpath {value : String} (set : e.HasValue classpathName value) (filled : value ≠ "") :
      Overrides e "classpath"
  | debug {value : String} (set : e.HasValue debugName value) : Overrides e "debug"
  | reserved {value : String} (set : e.HasValue reservedName value) (filled : value ≠ "") :
      Overrides e "reserved_namespace"

variable {e : Environment}

private theorem value?_eq_some_iff {name value : String} :
    e.value? name = some value ↔ e.HasValue name value := by
  unfold value?
  split
  · rename_i other set
    constructor
    · rintro ⟨⟩
      exact .process set
    · rintro (again | ⟨unset, -⟩)
      · exact set.symm.trans again
      · cases set.symm.trans unset
  · rename_i unset
    rw [Option.join_eq_some_iff]
    constructor
    · exact .default unset
    · rintro (set | ⟨-, written⟩)
      · cases unset.symm.trans set
      · exact written

private theorem filled?_eq_some_iff {name value : String} :
    e.filled? name = some value ↔ e.HasValue name value ∧ value ≠ "" := by
  rw [filled?, Option.filter_eq_some_iff, value?_eq_some_iff, bne_iff_ne]

private theorem value?_eq_none_iff {name : String} :
    e.value? name = none ↔ ∀ value, ¬ e.HasValue name value := by
  simp only [Option.eq_none_iff_forall_ne_some, ne_eq, value?_eq_some_iff]

private theorem filled?_eq_none_iff {name : String} :
    e.filled? name = none ↔ ∀ value, ¬ (e.HasValue name value ∧ value ≠ "") := by
  simp only [Option.eq_none_iff_forall_ne_some, ne_eq, filled?_eq_some_iff]

def outside? (e : Environment) (field : String) : Option Datum :=
  if field = "classpath" then e.classpath?.map fun entries => .list (entries.map .text)
  else if field = "debug" then e.debug?.map .bool
  else if field = "reserved_namespace" then e.reserved?.map .text
  else none

private theorem get?_overlay_self (field : String) (value : Option Datum)
    (fields : List (String × Datum)) :
    NameTable.get? (overlay field value fields) field = value.or (NameTable.get? fields field) := by
  cases value with
  | none => rfl
  | some value => exact NameTable.get?_set_self fields field value

private theorem get?_override (e : Environment) (fields : List (String × Datum)) (field : String) :
    NameTable.get? (e.override fields) field =
      (e.outside? field).or (NameTable.get? fields field) := by
  unfold override outside?
  dsimp only
  by_cases reserved : field = "reserved_namespace"
  · subst reserved
    rw [get?_overlay_self, get?_overlay_of_ne (by decide), get?_overlay_of_ne (by decide)]
    rfl
  rw [get?_overlay_of_ne reserved]
  by_cases debug : field = "debug"
  · subst debug
    rw [get?_overlay_self, get?_overlay_of_ne (by decide)]
    rfl
  rw [get?_overlay_of_ne debug]
  by_cases classpath : field = "classpath"
  · subst classpath
    rw [get?_overlay_self]
    rfl
  rw [get?_overlay_of_ne classpath, if_neg classpath, if_neg debug, if_neg reserved]
  rfl

private theorem outside?_eq_none_iff {field : String} :
    e.outside? field = none ↔ ¬ e.Overrides field := by
  have classpath : e.classpath?.map (fun entries => Datum.list (entries.map .text)) = none ↔
      ∀ value, ¬ (e.HasValue classpathName value ∧ value ≠ "") := by
    rw [Option.map_eq_none_iff, classpath?, Option.map_eq_none_iff, filled?_eq_none_iff]
  have debug : e.debug?.map Datum.bool = none ↔ ∀ value, ¬ e.HasValue debugName value := by
    rw [Option.map_eq_none_iff, debug?, Option.map_eq_none_iff, value?_eq_none_iff]
  have reserved : e.reserved?.map Datum.text = none ↔
      ∀ value, ¬ (e.HasValue reservedName value ∧ value ≠ "") := by
    rw [Option.map_eq_none_iff, reserved?, filled?_eq_none_iff]
  unfold outside?
  constructor
  · rintro nothing (⟨set, filled⟩ | set | ⟨set, filled⟩)
    · exact classpath.1 nothing _ ⟨set, filled⟩
    · exact debug.1 nothing _ set
    · exact reserved.1 nothing _ ⟨set, filled⟩
  · intro free
    split
    · subst field
      exact classpath.2 fun value has => free (.classpath has.1 has.2)
    · split
      · subst field
        exact debug.2 fun value set => free (.debug set)
      · split
        · subst field
          exact reserved.2 fun value has => free (.reserved has.1 has.2)
        · rfl

private theorem not_hasValue_empty (name value : String) : ¬ empty.HasValue name value := by
  rintro (set | ⟨-, written⟩)
  · cases set
  · cases written

private theorem not_overrides_empty (field : String) : ¬ empty.Overrides field := by
  rintro (⟨set, -⟩ | set | ⟨set, -⟩) <;> exact not_hasValue_empty _ _ set

end Environment

namespace Settings

open Environment

private theorem checkField_congr {α : Type} {d d' : Datum} {field : String}
    (same : d.field? field = d'.field? field) (usual : α) (check : String → Datum → Checked α) :
    checkField d field usual check = checkField d' field usual check := by
  rw [checkField, checkField, same]

private theorem check_congr [FieldRules] {d d' : Datum}
    (same : ∀ field, d.field? field = d'.field? field) :
    check d = check d' := by
  simp only [check, checkField_congr (same _)]

private theorem ofFields_eq_ok_iff [FieldRules] {e : Environment} {fields : List (String × Datum)}
    {s : Settings} :
    ofFields e fields = .ok s ↔ check (.record (e.override fields)) = .sound s := by
  unfold ofFields
  cases check (.record (e.override fields)) <;> simp

private theorem ofFields_eq_error_iff [FieldRules] {e : Environment}
    {fields : List (String × Datum)} {failure : Failure} :
    ofFields e fields = .error failure ↔ ∃ defects,
      check (.record (e.override fields)) = .defective defects ∧
        failure = .configuration (.settings defects) := by
  unfold ofFields
  cases check (.record (e.override fields)) <;> simp [eq_comm]

private theorem check_override_congr [FieldRules] {e : Environment}
    {fields others : List (String × Datum)} (agree : ∀ field, ¬ e.Overrides field →
      NameTable.get? fields field = NameTable.get? others field) :
    check (.record (e.override fields)) = check (.record (e.override others)) := by
  refine check_congr fun field => ?_
  change NameTable.get? (e.override fields) field = NameTable.get? (e.override others) field
  rw [get?_override, get?_override]
  cases outside : e.outside? field with
  | none => rw [agree field (outside?_eq_none_iff.1 outside)]
  | some value => rfl

private theorem check_override_of_free [FieldRules] {e : Environment}
    (free : ∀ field, ¬ e.Overrides field) (fields : List (String × Datum)) :
    check (.record (e.override fields)) = check (.record fields) := by
  refine check_congr fun field => ?_
  change NameTable.get? (e.override fields) field = NameTable.get? fields field
  rw [get?_override, outside?_eq_none_iff.2 (free field), Option.none_or]

private theorem checkField_override {α : Type} {e : Environment} {field : String} {value : Datum}
    (outside : e.outside? field = some value) (fields : List (String × Datum)) (usual : α)
    (check : String → Datum → Checked α) :
    checkField (.record (e.override fields)) field usual check = check field value := by
  have given : (Datum.record (e.override fields)).field? field = some value := by
    change NameTable.get? (e.override fields) field = some value
    rw [get?_override, outside, Option.some_or]
  rw [checkField, given]

/-- What the environment sets comes out as it says. -/
structure FollowsEnvironment (e : Environment) (s : Settings) : Prop where
  classpath : ∀ value, e.HasValue classpathName value → value ≠ "" →
    s.classpath = (Text.Split.partsText pathSeparator value).filter fun entry => entry != ""
  debug : ∀ value, e.HasValue debugName value →
    s.debug = debugWords.contains (lowered (Text.Blank.trimText value))
  reserved : ∀ value, e.HasValue reservedName value → value ≠ "" → s.reserved = value

private theorem followsEnvironment [FieldRules] {e : Environment} {fields : List (String × Datum)}
    {s : Settings} (made : ofFields e fields = .ok s) : FollowsEnvironment e s := by
  obtain ⟨classpath, -, -, debug, -, reserved, -, -⟩ :=
    check_eq_sound_iff.1 (ofFields_eq_ok_iff.1 made)
  constructor
  · intro value set filled
    have outside : e.outside? "classpath" = some (.list
        (((Text.Split.partsText pathSeparator value).filter fun entry => entry != "").map .text)) := by
      rw [outside?, if_pos rfl, classpath?, filled?_eq_some_iff.2 ⟨set, filled⟩]
      rfl
    rw [checkField_override outside, FieldRules.texts_texts] at classpath
    exact (Checked.sound.inj classpath).symm
  · intro value set
    have outside : e.outside? "debug" =
        some (.bool (debugWords.contains (lowered (Text.Blank.trimText value)))) := by
      rw [outside?, if_neg (by decide), if_pos rfl, debug?, value?_eq_some_iff.2 set]
      rfl
    rw [checkField_override outside, FieldRules.truth_bool] at debug
    exact (Checked.sound.inj debug).symm
  · intro value set filled
    have outside : e.outside? "reserved_namespace" = some (.text value) := by
      rw [outside?, if_neg (by decide), if_neg (by decide), if_pos rfl, reserved?,
        filled?_eq_some_iff.2 ⟨set, filled⟩]
      rfl
    rw [checkField_override outside, checkNamespace, FieldRules.text_text] at reserved
    dsimp only at reserved
    split at reserved
    · exact (Checked.sound.inj reserved).symm
    · cases reserved

/-- Settings in an environment, whatever the record holds in the fields that the environment sets:
records that agree in all other fields give the same settings or the same failure, and in settings
that come out these fields are as the environment says. An environment that sets none of the fields
leaves the record to its check. -/
theorem overridden_fields_do_not_leak [FieldRules] (e : Environment) :
    (∀ fields others : List (String × Datum),
      (∀ field, ¬ e.Overrides field →
        NameTable.get? fields field = NameTable.get? others field) →
      ofFields e fields = ofFields e others) ∧
    (∀ fields s, ofFields e fields = .ok s → FollowsEnvironment e s) ∧
    ((∀ field, ¬ e.Overrides field) → ∀ fields,
      (∀ s, ofFields e fields = .ok s ↔ check (.record fields) = .sound s) ∧
      ∀ failure, ofFields e fields = .error failure ↔ ∃ defects,
        check (.record fields) = .defective defects ∧
          failure = .configuration (.settings defects)) := by
  refine ⟨fun fields others agree => ?_, fun fields s made => followsEnvironment made,
    fun free fields => ⟨fun s => ?_, fun failure => ?_⟩⟩
  · unfold ofFields
    rw [check_override_congr agree]
  · rw [ofFields_eq_ok_iff, check_override_of_free free]
  · rw [ofFields_eq_error_iff, check_override_of_free free]

/-- All three variables are set: one by the process, one by its default and one, for the classpath, is
emptied by the process, so that the record counts there. Without variables one of the records is
refused. -/
theorem invalid_fields_do_not_leak :
    let e : Environment := ⟨[(debugName, " ON "), (classpathName, "")],
      [(classpathName, some "lib"), (reservedName, some "jsp.pages")]⟩
    let s : Settings := { usual with classpath := ["a"], debug := true, reserved := "jsp.pages" }
    let fields : List (String × Datum) := [("debug", .text "sometimes"),
      ("classpath", .list [.text "a"]), ("reserved_namespace", .int 3)]
    let others : List (String × Datum) := [("classpath", .list [.text "a"]), ("debug", .null)]
    ofFields e fields = .ok s ∧ ofFields e others = .ok s ∧ FollowsEnvironment e s ∧
      ofFields .empty others = .error (.configuration (.settings
        [⟨"debug", none, "bool_type", "Input should be a valid boolean"⟩])) := by
  intro e s fields others
  obtain ⟨alike, follows, -⟩ := overridden_fields_do_not_leak e
  obtain ⟨-, -, alone⟩ := overridden_fields_do_not_leak .empty
  have debug : e.Overrides "debug" := .debug (.process rfl)
  have reserved : e.Overrides "reserved_namespace" := .reserved (.default rfl rfl) (by decide)
  have agree (field : String) (free : ¬ e.Overrides field) :
      NameTable.get? fields field = NameTable.get? others field := by
    have apartDebug : "debug" ≠ field := fun same => free (same ▸ debug)
    have apartReserved : "reserved_namespace" ≠ field := fun same => free (same ▸ reserved)
    dsimp only [fields, others]
    rw [NameTable.get?, if_neg apartDebug, NameTable.get?, NameTable.get?, if_neg apartReserved,
      NameTable.get?, NameTable.get?, NameTable.get?, if_neg apartDebug, NameTable.get?]
  have outside : e.classpath? = none ∧ e.debug? = some true ∧ e.reserved? = some "jsp.pages" := by
    decide +kernel
  have overridden : e.override fields = [("debug", .bool true), ("classpath", .list [.text "a"]),
      ("reserved_namespace", .text "jsp.pages")] := by
    rw [override, outside.1, outside.2.1, outside.2.2]
    rfl
  have made : ofFields e fields = .ok s := by
    rw [ofFields_eq_ok_iff, overridden]
    rfl
  refine ⟨made, (alike fields others agree).symm.trans made, follows fields s made, ?_⟩
  exact ((alone not_overrides_empty others).2 _).2 ⟨_, rfl, rfl⟩

end Settings

end PagePress
