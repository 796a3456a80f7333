import Mathlib

/-!
# Chains of checks

A handler that makes its checks in order and answers the first one that fails
is a nest of `if bad then .error e else rest`.  `check_eq_ok` takes one check
off such a nest from the outside, so a proof about an accepted input never
splits the failing branches.
-/

namespace Trpc.Lib

variable {ε α : Type}

/-- A check with an answer of its own passed. -/
theorem check_eq {bad : Prop} [Decidable bad] {e rest x : α} (he : e ≠ x) :
    (if bad then e else rest) = x ↔ ¬ bad ∧ rest = x := by
  by_cases hbad : bad
  · simp [hbad, he]
  · simp [hbad]

/-- A check passed and the rest answered. -/
theorem check_eq_ok {bad : Prop} [Decidable bad] {e : ε} {rest : Except ε α} {x : α} :
    (if bad then .error e else rest) = .ok x ↔ ¬ bad ∧ rest = .ok x :=
  check_eq nofun

/-- An error came from the check or from the rest. -/
theorem check_error {P : ε → Prop} {bad : Prop} [Decidable bad] {e x : ε}
    {rest : Except ε α} (h : (if bad then .error e else rest) = .error x) (he : P e)
    (hrest : rest = .error x → P x) : P x := by
  by_cases hbad : bad
  · rw [if_pos hbad] at h
    cases h
    exact he
  · rw [if_neg hbad] at h
    exact hrest h

end Trpc.Lib
