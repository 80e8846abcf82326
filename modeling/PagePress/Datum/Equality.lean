import PagePress.Datum.Basic

/-!
Equality of data, decided by going through both side by side. Main statement: what is found to be
the same is equal, and the other way round.
-/

set_option autoImplicit false

namespace PagePress.Datum

mutual

def same : Datum → Datum → Bool
  | .null, .null => true
  | .bool a, .bool b => a == b
  | .int a, .int b => a == b
  | .real a, .real b => a == b
  | .text a, .text b => a == b
  | .list a, .list b => sameItems a b
  | .record a, .record b => sameFields a b
  | _, _ => false

def sameItems : List Datum → List Datum → Bool
  | [], [] => true
  | a :: as, b :: bs => same a b && sameItems as bs
  | _, _ => false

def sameFields : List (String × Datum) → List (String × Datum) → Bool
  | [], [] => true
  | (n, a) :: as, (m, b) :: bs => n == m && same a b && sameFields as bs
  | _, _ => false

end

mutual

theorem same_iff : (a b : Datum) → (same a b = true ↔ a = b)
  | .null, b => by cases b <;> simp [same]
  | .bool _, b => by cases b <;> simp [same]
  | .int _, b => by cases b <;> simp [same]
  | .real _, b => by cases b <;> simp [same]
  | .text _, b => by cases b <;> simp [same]
  | .list a, b => by cases b <;> simp [same, sameItems_iff a]
  | .record a, b => by cases b <;> simp [same, sameFields_iff a]

theorem sameItems_iff : (a b : List Datum) → (sameItems a b = true ↔ a = b)
  | [], b => by cases b <;> simp [sameItems]
  | a :: as, b => by cases b <;> simp [sameItems, same_iff a, sameItems_iff as]

theorem sameFields_iff : (a b : List (String × Datum)) → (sameFields a b = true ↔ a = b)
  | [], b => by cases b <;> simp [sameFields]
  | (n, a) :: as, b => by
    cases b <;> simp [sameFields, same_iff a, sameFields_iff as, Prod.ext_iff]

end

instance : DecidableEq Datum := fun a b => decidable_of_iff _ (same_iff a b)

end PagePress.Datum
