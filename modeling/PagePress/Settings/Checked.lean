import PagePress.Failure

/-!
Checks of values: what a check finds is a value, or the defects that it tells. Two checks tell the
defects of both, so that a record is told all of its defects at once.
-/

set_option autoImplicit false

namespace PagePress

/-- What a check finds: a value, or defects. -/
inductive Checked (α : Type)
  | sound (value : α)
  | defective (defects : List Defect)

namespace Checked

variable {α β : Type}

def both : Checked (α → β) → Checked α → Checked β
  | .sound f, .sound value => .sound (f value)
  | .sound _, .defective defects => .defective defects
  | .defective defects, .sound _ => .defective defects
  | .defective defects, .defective more => .defective (defects ++ more)

instance : Applicative Checked where
  pure := .sound
  seq f value := both f (value ())

def refuse (field type message : String) : Checked α :=
  .defective [⟨field, none, type, message⟩]

def refuseValue (field message : String) : Checked α :=
  refuse field "value_error" ("Value error, " ++ message)

def defects : Checked α → List Defect
  | .sound _ => []
  | .defective defects => defects

@[simp] theorem defects_sound (value : α) : (sound value).defects = [] := rfl

@[simp] theorem defects_defective (ds : List Defect) :
    (defective ds : Checked α).defects = ds := rfl

@[simp] theorem defects_seq (f : Checked (α → β)) (v : Checked α) :
    (f <*> v).defects = f.defects ++ v.defects := by
  cases f <;> cases v <;> simp [Seq.seq, both]

@[simp] theorem defects_map (f : α → β) (v : Checked α) : (f <$> v).defects = v.defects := by
  cases v <;> rfl

@[simp] theorem map_sound (f : α → β) (value : α) : f <$> sound value = .sound (f value) := rfl

theorem seq_eq_sound_iff {f : Checked (α → β)} {v : Checked α} {b : β} :
    f <*> v = .sound b ↔ ∃ g a, f = .sound g ∧ v = .sound a ∧ g a = b := by
  cases f <;> cases v <;> simp [Seq.seq, both]

theorem map_eq_sound_iff {f : α → β} {v : Checked α} {b : β} :
    f <$> v = .sound b ↔ ∃ a, v = .sound a ∧ f a = b := by
  cases v <;> simp [Functor.map, both]

theorem seq_ne_defective_nil {f : Checked (α → β)} {v : Checked α} (left : f ≠ .defective [])
    (right : v ≠ .defective []) : f <*> v ≠ .defective [] := by
  cases f <;> cases v <;> simp_all [Seq.seq, both]

theorem map_ne_defective_nil (f : α → β) {v : Checked α} (told : v ≠ .defective []) :
    f <$> v ≠ .defective [] := by
  cases v <;> simp_all [Functor.map, both]

/-- A check of a field: its defects are about this field, and it has one when it refuses. -/
structure IsAbout (field : String) (c : Checked α) : Prop where
  fields : ∀ d ∈ c.defects, d.field = field
  told : c ≠ .defective []

theorem IsAbout.sound (field : String) (value : α) : (Checked.sound value).IsAbout field :=
  ⟨nofun, nofun⟩

theorem IsAbout.refuse (field type message : String) :
    (Checked.refuse field type message : Checked α).IsAbout field :=
  ⟨by simp [Checked.refuse], by simp [Checked.refuse]⟩

theorem IsAbout.refuseValue (field message : String) :
    (Checked.refuseValue field message : Checked α).IsAbout field :=
  .refuse field _ _

theorem IsAbout.map {field : String} (f : α → β) {v : Checked α} (about : v.IsAbout field) :
    (f <$> v).IsAbout field :=
  ⟨by simpa using about.fields, map_ne_defective_nil f about.told⟩

theorem IsAbout.seq {field : String} {f : Checked (α → β)} {v : Checked α} (left : f.IsAbout field)
    (right : v.IsAbout field) : (f <*> v).IsAbout field := by
  refine ⟨?_, seq_ne_defective_nil left.told right.told⟩
  rw [defects_seq]
  exact fun d member => (List.mem_append.1 member).elim (left.fields d) (right.fields d)

end Checked

end PagePress
