/-!
Clocks: a row of readings, the last of which stays for ever. One dates stored entries, another one
code files.
-/

set_option autoImplicit false

namespace PagePress

/-- The next reading and those behind it. -/
structure Clock where
  now : Int
  later : List Int
  deriving DecidableEq, Repr

namespace Clock

/-- The clock with the given readings; without any it stands. -/
def ofReadings : List Int → Clock
  | [] => ⟨0, []⟩
  | now :: later => ⟨now, later⟩

def tick (c : Clock) : Clock :=
  match c.later with
  | [] => c
  | next :: later => ⟨next, later⟩

def advance : Nat → Clock → Clock
  | 0, c => c
  | n + 1, c => advance n c.tick

theorem advance_advance (m n : Nat) (c : Clock) :
    (c.advance m).advance n = c.advance (m + n) := by
  induction m generalizing c with
  | zero => rw [Nat.zero_add, advance]
  | succ m ih => rw [Nat.succ_add, advance, advance, ih]

end Clock

end PagePress
