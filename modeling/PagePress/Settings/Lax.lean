import PagePress.Settings.FieldRules

/-!
The lax rules for fields: a truth value may be written as one or zero, or as a word for it, whatever
the case of its basic letters. Texts are taken as they are and made of nothing else.
-/

set_option autoImplicit false

namespace PagePress.FieldRules

namespace Lax

def checkText (field : String) : Datum → Checked String
  | .text s => .sound s
  | _ => .refuse field "string_type" "Input should be a valid string"

def checkItem (field : String) (position : Nat) : Datum → Checked String
  | .text s => .sound s
  | _ => .defective [⟨field, some position, "string_type", "Input should be a valid string"⟩]

def checkItems (field : String) : Nat → List Datum → Checked (List String)
  | _, [] => pure []
  | position, item :: rest =>
    List.cons <$> checkItem field position item <*> checkItems field (position + 1) rest

def checkTexts (field : String) : Datum → Checked (List String)
  | .list items => checkItems field 0 items
  | _ => .refuse field "list_type" "Input should be a valid list"

def yesWords : List String := ["1", "true", "t", "yes", "y", "on"]

def noWords : List String := ["0", "false", "f", "no", "n", "off"]

def truth? (s : String) : Option Bool :=
  let word := String.ofList (s.toList.map Char.toLower)
  if yesWords.contains word then some true
  else if noWords.contains word then some false
  else none

def fitsWord (n : Int) : Bool := -Int.pow 2 63 ≤ n && n < Int.pow 2 63

/-- The whole number that a number stands for, if it is one and fits into a machine word. -/
def whole? : Datum → Option Int
  | .int n => if fitsWord n then some n else none
  | .real x =>
    x.truncate?.bind fun n => if x.equalsInt n && fitsWord n then some n else none
  | _ => none

def checkTruth (field : String) (d : Datum) : Checked Bool :=
  let unreadable : Checked Bool :=
    .refuse field "bool_parsing" "Input should be a valid boolean, unable to interpret input"
  match d with
  | .bool b => .sound b
  | .text s =>
    match truth? s with
    | some b => .sound b
    | none => unreadable
  | d =>
    match whole? d with
    | some n => if n = 0 then .sound false else if n = 1 then .sound true else unreadable
    | none => .refuse field "bool_type" "Input should be a valid boolean"

private theorem checkItems_texts (field : String) (position : Nat) (texts : List String) :
    checkItems field position (texts.map .text) = .sound texts := by
  induction texts generalizing position with
  | nil => rfl
  | cons text rest ih =>
    rw [List.map_cons, checkItems, ih]
    rfl

private theorem isAbout_checkText (field : String) (d : Datum) :
    (checkText field d).IsAbout field := by
  unfold checkText
  split
  · exact .sound field _
  · exact .refuse field _ _

private theorem isAbout_checkItems (field : String) (position : Nat) (items : List Datum) :
    (checkItems field position items).IsAbout field := by
  induction items generalizing position with
  | nil => exact .sound field []
  | cons item rest ih =>
    unfold checkItems
    refine .seq (.map _ ?_) (ih (position + 1))
    cases item with
    | text s => exact .sound field s
    | _ => exact ⟨by simp [checkItem], by simp [checkItem]⟩

private theorem isAbout_checkTexts (field : String) (d : Datum) :
    (checkTexts field d).IsAbout field := by
  unfold checkTexts
  split
  · exact isAbout_checkItems field 0 _
  · exact .refuse field _ _

private theorem isAbout_checkTruth (field : String) (d : Datum) :
    (checkTruth field d).IsAbout field := by
  unfold checkTruth
  dsimp only
  split
  · exact .sound field _
  · split
    · exact .sound field _
    · exact .refuse field _ _
  · split
    · split
      · exact .sound field _
      · split
        · exact .sound field _
        · exact .refuse field _ _
    · exact .refuse field _ _

end Lax

/-- The rules that the program runs with. -/
instance lax : FieldRules where
  text := Lax.checkText
  texts := Lax.checkTexts
  truth := Lax.checkTruth
  text_text _ _ := rfl
  texts_texts field items := Lax.checkItems_texts field 0 items
  truth_bool _ _ := rfl
  text_isAbout := Lax.isAbout_checkText
  texts_isAbout := Lax.isAbout_checkTexts
  truth_isAbout := Lax.isAbout_checkTruth

end PagePress.FieldRules
