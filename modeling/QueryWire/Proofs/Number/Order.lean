import Mathlib.Algebra.Order.Field.Rat
import Mathlib.Algebra.Order.Field.Power
import Mathlib.Tactic.Positivity
import QueryWire.Number.Binary64

/-!
How floating point numbers compare with rationals. Finite numbers are rationals themselves, and the
infinities lie on either side of all of them. A NaN compares with nothing: it is not greater than
zero, and it is not zero or less either.
-/

namespace QueryWire.Binary64

/-- The rational that a sign, a significand and an exponent stand for. -/
def rational (negative : Bool) (significand : Nat) (exponent : Int) : ℚ :=
  let size := (significand : ℚ) * 2 ^ exponent
  if negative then -size else size

def Exceeds (bound : ℚ) : Binary64 → Prop
  | .finite negative significand exponent => bound < rational negative significand exponent
  | .infinite negative => negative = false
  | .nan _ => False

def AtMost (bound : ℚ) : Binary64 → Prop
  | .finite negative significand exponent => rational negative significand exponent ≤ bound
  | .infinite negative => negative = true
  | .nan _ => False

def IsNaN (x : Binary64) : Prop := ∃ identity, x = .nan identity

theorem not_atMost_iff (x : Binary64) (bound : ℚ) :
    ¬x.AtMost bound ↔ x.Exceeds bound ∨ x.IsNaN := by
  cases x <;> simp [AtMost, Exceeds, IsNaN]

theorem not_isNaN_of_exceeds {x : Binary64} {bound : ℚ} (exceeds : x.Exceeds bound) :
    ¬x.IsNaN := by
  rintro ⟨identity, rfl⟩
  exact exceeds

theorem rational_le_zero_iff (negative : Bool) (significand : Nat) (exponent : Int) :
    rational negative significand exponent ≤ 0 ↔ (negative || significand == 0) = true := by
  have unit : (0 : ℚ) < 2 ^ exponent := by positivity
  cases negative with
  | true =>
    have least : 0 ≤ (significand : ℚ) * 2 ^ exponent := by positivity
    simpa [rational] using least
  | false => simp [rational, mul_nonpos_iff_pos_imp_nonpos, unit.not_ge]

/-- The check for zero or less is the comparison with zero. -/
theorem isAtMostZero_iff (x : Binary64) : x.isAtMostZero = true ↔ x.AtMost 0 := by
  cases x with
  | finite negative significand exponent =>
    exact (rational_le_zero_iff negative significand exponent).symm
  | infinite negative => rfl
  | nan identity => simp [isAtMostZero, AtMost]

theorem isAtMostZero_eq_false_iff (x : Binary64) :
    x.isAtMostZero = false ↔ x.Exceeds 0 ∨ x.IsNaN := by
  rw [← not_atMost_iff, ← isAtMostZero_iff, Bool.not_eq_true]

theorem exceeds_zero_iff {x : Binary64} (accepted : x.isAtMostZero = false) :
    x.Exceeds 0 ↔ ¬x.IsNaN :=
  ⟨not_isNaN_of_exceeds, (x.isAtMostZero_eq_false_iff.mp accepted).resolve_right⟩

end QueryWire.Binary64
