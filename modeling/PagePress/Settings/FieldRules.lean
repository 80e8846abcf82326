import PagePress.Datum.Basic
import PagePress.Settings.Checked

/-!
The rules for the kinds of fields: which values pass as a text, as a list of texts and as a truth
value, and what is told of others. They are left open, as the validation of records is not part of
this development. Whatever is checked goes by the rules at hand, and these let a value of the kind
itself pass as it is.
-/

set_option autoImplicit false

namespace PagePress

/-- Rules for the kinds of fields, each given the name of the field and its value. -/
class FieldRules where
  text : String → Datum → Checked String
  texts : String → Datum → Checked (List String)
  truth : String → Datum → Checked Bool
  text_text : ∀ field s, text field (.text s) = .sound s
  texts_texts : ∀ field items, texts field (.list (items.map .text)) = .sound items
  truth_bool : ∀ field b, truth field (.bool b) = .sound b
  text_isAbout : ∀ field d, (text field d).IsAbout field
  texts_isAbout : ∀ field d, (texts field d).IsAbout field
  truth_isAbout : ∀ field d, (truth field d).IsAbout field

attribute [simp] FieldRules.text_text FieldRules.texts_texts FieldRules.truth_bool

end PagePress
