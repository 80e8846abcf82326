import PagePress.Settings.Environment

/-!
The defects of a record of settings. Every field is checked on its own: the defects of a record are
those of its fields, one field after the other, and each tells which field it is about. So what is
told of one field does not depend on the others.
-/

set_option autoImplicit false

namespace PagePress

namespace Settings

open Checked

variable [FieldRules]

@[simp] theorem checkOptionalText_text (field s : String) :
    checkOptionalText field (.text s) = .sound (some s) := by
  simp [checkOptionalText]

private theorem isAbout_checkOptionalText (field : String) (d : Datum) :
    (checkOptionalText field d).IsAbout field := by
  unfold checkOptionalText
  split
  · exact .sound field _
  · exact .map some (FieldRules.text_isAbout field _)

private theorem isAbout_checkLevel (field : String) (d : Datum) :
    (checkLevel field d).IsAbout field := by
  unfold checkLevel
  split
  · exact isAbout_checkOptionalText field _
  · dsimp only
    split
    · exact isAbout_checkOptionalText field _
    · exact .refuseValue field _
  · exact .refuseValue field _

private theorem isAbout_checkNamespace (field : String) (d : Datum) :
    (checkNamespace field d).IsAbout field := by
  have about := FieldRules.text_isAbout field d
  unfold checkNamespace
  split
  · split
    · exact .sound field _
    · exact .refuseValue field _
  · rename_i defects refused
    rw [refused] at about
    exact ⟨about.fields, fun none => about.told (congrArg _ (Checked.defective.inj none))⟩

private theorem isAbout_checkField {α : Type} (d : Datum) (field : String) (usual : α)
    {check : String → Datum → Checked α} (about : ∀ value, (check field value).IsAbout field) :
    (checkField d field usual check).IsAbout field := by
  unfold checkField
  split
  · exact about _
  · exact .sound field _

private theorem isAbout_fields (d : Datum) :
    (checkField d "classpath" usual.classpath FieldRules.texts).IsAbout "classpath" ∧
    (checkField d "source_level" usual.sourceLevel checkLevel).IsAbout "source_level" ∧
    (checkField d "target_level" usual.targetLevel checkLevel).IsAbout "target_level" ∧
    (checkField d "debug" usual.debug FieldRules.truth).IsAbout "debug" ∧
    (checkField d "ext_dirs" usual.extensions checkOptionalText).IsAbout "ext_dirs" ∧
    (checkField d "reserved_namespace" usual.reserved checkNamespace).IsAbout
      "reserved_namespace" ∧
    (checkField d "include_notes" usual.includeNotes FieldRules.truth).IsAbout "include_notes" ∧
    (checkField d "extra_options" usual.extraOptions FieldRules.texts).IsAbout
      "extra_options" :=
  ⟨isAbout_checkField d _ _ (FieldRules.texts_isAbout _),
    isAbout_checkField d _ _ (isAbout_checkLevel _), isAbout_checkField d _ _ (isAbout_checkLevel _),
    isAbout_checkField d _ _ (FieldRules.truth_isAbout _),
    isAbout_checkField d _ _ (isAbout_checkOptionalText _),
    isAbout_checkField d _ _ (isAbout_checkNamespace _),
    isAbout_checkField d _ _ (FieldRules.truth_isAbout _),
    isAbout_checkField d _ _ (FieldRules.texts_isAbout _)⟩

def fieldDefects (d : Datum) : List (String × List Defect) := [
  ("classpath", (checkField d "classpath" usual.classpath FieldRules.texts).defects),
  ("source_level", (checkField d "source_level" usual.sourceLevel checkLevel).defects),
  ("target_level", (checkField d "target_level" usual.targetLevel checkLevel).defects),
  ("debug", (checkField d "debug" usual.debug FieldRules.truth).defects),
  ("ext_dirs", (checkField d "ext_dirs" usual.extensions checkOptionalText).defects),
  ("reserved_namespace",
    (checkField d "reserved_namespace" usual.reserved checkNamespace).defects),
  ("include_notes", (checkField d "include_notes" usual.includeNotes FieldRules.truth).defects),
  ("extra_options", (checkField d "extra_options" usual.extraOptions FieldRules.texts).defects)]

private theorem defects_check (d : Datum) : (check d).defects = (fieldDefects d).flatMap (·.2) := by
  simp [check, fieldDefects]

private theorem field_of_mem_fieldDefects {d : Datum} {field : String} {defects : List Defect}
    (row : (field, defects) ∈ fieldDefects d) : ∀ defect ∈ defects, defect.field = field := by
  have all : ∀ row ∈ fieldDefects d, ∀ defect ∈ row.2, defect.field = row.1 := by
    simp only [fieldDefects, List.forall_mem_cons]
    obtain ⟨a1, a2, a3, a4, a5, a6, a7, a8⟩ := isAbout_fields d
    exact ⟨a1.fields, a2.fields, a3.fields, a4.fields, a5.fields, a6.fields, a7.fields, a8.fields,
      nofun⟩
  exact all (field, defects) row

private theorem nodup_fieldDefects (d : Datum) : ((fieldDefects d).map (·.1)).Nodup := by
  have names : (fieldDefects d).map (·.1) = ["classpath", "source_level", "target_level", "debug",
    "ext_dirs", "reserved_namespace", "include_notes", "extra_options"] := rfl
  rw [names]
  decide

private theorem filter_flatMap_rows {rows : List (String × List Defect)}
    (named : ∀ row ∈ rows, ∀ defect ∈ row.2, defect.field = row.1) (single : (rows.map (·.1)).Nodup)
    {field : String} {defects : List Defect} (row : (field, defects) ∈ rows) :
    (rows.flatMap (·.2)).filter (fun defect => defect.field = field) = defects := by
  have none {others : List (String × List Defect)}
      (named : ∀ row ∈ others, ∀ defect ∈ row.2, defect.field = row.1)
      (absent : field ∉ others.map (·.1)) :
      (others.flatMap (·.2)).filter (fun defect => defect.field = field) = [] := by
    simp only [List.filter_eq_nil_iff, List.mem_flatMap, decide_eq_true_eq]
    rintro defect ⟨other, member, inside⟩ rfl
    exact absent (List.mem_map.2 ⟨other, member, (named other member defect inside).symm⟩)
  induction rows with
  | nil => cases row
  | cons first rest ih =>
    obtain ⟨own, others⟩ := List.forall_mem_cons.1 named
    obtain ⟨apart, distinct⟩ := List.nodup_cons.1 single
    rw [List.flatMap_cons, List.filter_append]
    rcases List.mem_cons.1 row with rfl | later
    · rw [none others apart, List.append_nil]
      exact List.filter_eq_self.2 fun defect member => by simpa using own defect member
    · have elsewhere : first.1 ≠ field := by
        rintro rfl
        exact apart (List.mem_map.2 ⟨_, later, rfl⟩)
      rw [ih others distinct later, List.filter_eq_nil_iff.2, List.nil_append]
      intro defect member told
      exact elsewhere ((own defect member).symm.trans (by simpa using told))

/-- The defects of a record under the name of a field are those that its own check finds. -/
theorem filter_defects_check {d : Datum} {field : String} {defects : List Defect}
    (row : (field, defects) ∈ fieldDefects d) :
    (check d).defects.filter (fun defect => defect.field = field) = defects := by
  rw [defects_check]
  exact filter_flatMap_rows (fun row member => field_of_mem_fieldDefects member)
    (nodup_fieldDefects d) row

def complaints (field : String) : Except Failure Settings → List Defect
  | .error (.configuration (.settings defects)) => defects.filter fun d => d.field = field
  | _ => []

/-- What is told of a field of a record is what its own check finds. -/
theorem complaints_ofFields (e : Environment) (fields : List (String × Datum)) {field : String}
    {defects : List Defect} (row : (field, defects) ∈ fieldDefects (.record (e.override fields))) :
    complaints field (ofFields e fields) = defects := by
  have found := filter_defects_check row
  unfold ofFields
  cases checked : check (.record (e.override fields)) with
  | sound settings =>
    rw [checked] at found
    exact found
  | defective all =>
    rw [checked] at found
    exact found

private theorem check_ne_defective_nil (d : Datum) : check d ≠ .defective [] := by
  obtain ⟨a1, a2, a3, a4, a5, a6, a7, a8⟩ := isAbout_fields d
  have first := map_ne_defective_nil Settings.mk a1.told
  unfold check
  exact seq_ne_defective_nil (seq_ne_defective_nil (seq_ne_defective_nil (seq_ne_defective_nil
    (seq_ne_defective_nil (seq_ne_defective_nil (seq_ne_defective_nil first a2.told) a3.told)
    a4.told) a5.told) a6.told) a7.told) a8.told

theorem ofFields_eq_error {e : Environment} {fields : List (String × Datum)} {failure : Failure}
    (refused : ofFields e fields = .error failure) :
    ∃ defects, failure = .configuration (.settings defects) ∧ defects ≠ [] := by
  unfold ofFields at refused
  split at refused
  next => cases refused
  next defects checked =>
    cases refused
    refine ⟨defects, rfl, ?_⟩
    rintro rfl
    exact check_ne_defective_nil _ checked

theorem ofFields_ok_iff {e : Environment} {fields : List (String × Datum)} :
    (∃ settings, ofFields e fields = .ok settings) ↔
      ∀ field, complaints field (ofFields e fields) = [] := by
  cases answer : ofFields e fields with
  | ok settings => exact iff_of_true ⟨settings, rfl⟩ fun field => rfl
  | error failure =>
    obtain ⟨defects, rfl, some⟩ := ofFields_eq_error answer
    obtain ⟨defect, rest, rfl⟩ := List.exists_cons_of_ne_nil some
    refine iff_of_false nofun fun silent => ?_
    have told : defect ∈
        complaints defect.field (.error (.configuration (.settings (defect :: rest)))) :=
      List.mem_filter.2 ⟨List.mem_cons_self, by simp⟩
    rw [silent] at told
    cases told

theorem check_eq_sound_iff {d : Datum} {s : Settings} :
    check d = .sound s ↔
      checkField d "classpath" usual.classpath FieldRules.texts = .sound s.classpath ∧
      checkField d "source_level" usual.sourceLevel checkLevel = .sound s.sourceLevel ∧
      checkField d "target_level" usual.targetLevel checkLevel = .sound s.targetLevel ∧
      checkField d "debug" usual.debug FieldRules.truth = .sound s.debug ∧
      checkField d "ext_dirs" usual.extensions checkOptionalText = .sound s.extensions ∧
      checkField d "reserved_namespace" usual.reserved checkNamespace = .sound s.reserved ∧
      checkField d "include_notes" usual.includeNotes FieldRules.truth = .sound s.includeNotes ∧
      checkField d "extra_options" usual.extraOptions FieldRules.texts = .sound s.extraOptions := by
  simp only [check, seq_eq_sound_iff, map_eq_sound_iff]
  constructor
  · rintro ⟨_, _, ⟨_, _, ⟨_, _, ⟨_, _, ⟨_, _, ⟨_, _, ⟨_, _, ⟨_, h1, rfl⟩, h2, rfl⟩, h3, rfl⟩, h4, rfl⟩,
      h5, rfl⟩, h6, rfl⟩, h7, rfl⟩, h8, rfl⟩
    exact ⟨h1, h2, h3, h4, h5, h6, h7, h8⟩
  · rintro ⟨h1, h2, h3, h4, h5, h6, h7, h8⟩
    exact ⟨_, _, ⟨_, _, ⟨_, _, ⟨_, _, ⟨_, _, ⟨_, _, ⟨_, _, ⟨_, h1, rfl⟩, h2, rfl⟩, h3, rfl⟩, h4, rfl⟩,
      h5, rfl⟩, h6, rfl⟩, h7, rfl⟩, h8, rfl⟩

end Settings

end PagePress
