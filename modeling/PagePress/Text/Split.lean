/-!
Cutting a text at a separator and joining it again. Main statement: joining the parts with the
separator gives the text back.
-/

set_option autoImplicit false

namespace PagePress.Text.Split

def attach (c : Char) : List (List Char) → List (List Char)
  | [] => [[c]]
  | part :: rest => (c :: part) :: rest

/-- The parts between the separators; one more than there are separators. -/
def parts (separator : Char) : List Char → List (List Char)
  | [] => [[]]
  | c :: rest =>
    if c = separator then [] :: parts separator rest else attach c (parts separator rest)

def join (separator : Char) : List (List Char) → List Char
  | [] => []
  | [part] => part
  | part :: next :: rest => part ++ separator :: join separator (next :: rest)

def partsText (separator : Char) (s : String) : List String :=
  (parts separator s.toList).map String.ofList

def startsWith (s start : String) : Bool := start.toList.isPrefixOf s.toList

def endsWith (s ending : String) : Bool := ending.toList.reverse.isPrefixOf s.toList.reverse

theorem parts_ne_nil (separator : Char) (cs : List Char) : parts separator cs ≠ [] := by
  cases cs with
  | nil => simp [parts]
  | cons c rest =>
    by_cases h : c = separator
    · simp [parts, h]
    · cases hp : parts separator rest <;> simp [parts, h, hp, attach]

private theorem join_attach (separator c : Char) (ps : List (List Char)) (h : ps ≠ []) :
    join separator (attach c ps) = c :: join separator ps := by
  cases ps with
  | nil => exact absurd rfl h
  | cons part rest => cases rest <;> simp [attach, join]

theorem join_parts (separator : Char) (cs : List Char) :
    join separator (parts separator cs) = cs := by
  induction cs with
  | nil => rfl
  | cons c rest ih =>
    by_cases h : c = separator
    · cases hp : parts separator rest with
      | nil => exact absurd hp (parts_ne_nil separator rest)
      | cons part more =>
        rw [hp] at ih
        simp [parts, h, hp, join, ih]
    · simp [parts, h, join_attach, parts_ne_nil, ih]

example : partsText ':' "a::b" = ["a", "", "b"] ∧ partsText '.' "" = [""] := by decide +kernel

end PagePress.Text.Split
