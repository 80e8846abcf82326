/-!
Tables of named values, in the order in which the names came. Main statements: a name has the value
that was set last for it, and other names keep theirs.
-/

set_option autoImplicit false

namespace PagePress

abbrev NameTable (α : Type) := List (String × α)

namespace NameTable

def get? {α : Type} : NameTable α → String → Option α
  | [], _ => none
  | (key, value) :: rest, name => if key = name then some value else get? rest name

/-- Sets the value of a name: one that is there keeps its place, another comes last. -/
def set {α : Type} : NameTable α → String → α → NameTable α
  | [], name, value => [(name, value)]
  | (key, old) :: rest, name, value =>
    if key = name then (key, value) :: rest else (key, old) :: set rest name value

def erase {α : Type} (t : NameTable α) (name : String) : NameTable α :=
  t.filter fun (key, _) => key != name

theorem get?_set_self {α : Type} (t : NameTable α) (name : String) (value : α) :
    (t.set name value).get? name = some value := by
  induction t with
  | nil => simp [set, get?]
  | cons entry rest ih =>
    by_cases h : entry.1 = name
    · simp [set, get?, h]
    · simp [set, get?, h, ih]

theorem get?_set_of_ne {α : Type} (t : NameTable α) {name other : String} (value : α)
    (h : other ≠ name) : (t.set name value).get? other = t.get? other := by
  induction t with
  | nil => simp [set, get?, h.symm]
  | cons entry rest ih =>
    by_cases hn : entry.1 = name
    · simp [set, get?, hn, h.symm]
    · by_cases ho : entry.1 = other
      · have : other ≠ name := h
        simp [set, get?, ho, this]
      · simp [set, get?, hn, ho, ih]

end NameTable

end PagePress
