import Mathlib.Data.Rat.Defs
import Mathlib.Algebra.Order.Field.Rat
import Mathlib.Algebra.Order.Ring.Cast

/-!
# Floating-point numbers

An exact float is a rational, an infinity or a NaN; the range of the double format is
kept, not its precision.  How a sum is rounded, and what a 32-bit field keeps of a number,
are parameters, so that results hold for every rounding; those that assume exact
arithmetic say so.
-/

inductive ExactFloat where
  | finite (value : ℚ)
  | infinite (negative : Bool)
  | nan
  deriving DecidableEq

/-- How the machine rounds: an exact sum to a double, and a double to a 32-bit float. -/
class FloatRounding where
  double : ℚ → ExactFloat
  single : ExactFloat → ExactFloat

namespace FloatRounding

/-- No rounding at all. -/
@[reducible] def exact : FloatRounding where
  double := .finite
  single := id

/-- Sums are not rounded. -/
def ExactSums [FloatRounding] : Prop := ∀ value, double value = .finite value

theorem exactSums_exact : @ExactSums exact := fun _ => rfl

end FloatRounding

namespace ExactFloat

instance : Zero ExactFloat := ⟨.finite 0⟩

@[simp] theorem zero_eq : (0 : ExactFloat) = finite 0 := rfl

section Sums

variable [FloatRounding]

/-- Addition; opposite infinities give NaN. -/
protected def add : ExactFloat → ExactFloat → ExactFloat
  | .finite left, .finite right => FloatRounding.double (left + right)
  | .nan, _ => .nan
  | _, .nan => .nan
  | .infinite left, .infinite right => if left = right then .infinite left else .nan
  | .infinite negative, .finite _ => .infinite negative
  | .finite _, .infinite negative => .infinite negative

instance : Add ExactFloat := ⟨ExactFloat.add⟩

theorem finite_add (exact : FloatRounding.ExactSums) (left right : ℚ) :
    finite left + finite right = finite (left + right) := exact (left + right)

/-- Two amounts may be added in either order when sums are exact. -/
theorem add_right_comm (exact : FloatRounding.ExactSums) (total left right : ExactFloat) :
    total + left + right = total + right + left := by
  have sum : ∀ left right : ℚ, ExactFloat.add (.finite left) (.finite right) =
      .finite (left + right) := fun left right => exact (left + right)
  change (total.add left).add right = (total.add right).add left
  cases total <;> cases left <;> cases right <;> try simp only [sum, finite.injEq]
  all_goals grind [ExactFloat.add]

end Sums

/-- The least magnitude that a conversion to double turns into an infinity. -/
def overflowBound : ℚ := 2 ^ 1024 - 2 ^ 970

/-- The greatest magnitude that a conversion to double turns into zero. -/
def underflowBound : ℚ := 1 / 2 ^ 1075

/-- Conversion of a rational into the range of doubles. -/
def ofRat (value : ℚ) : ExactFloat :=
  if overflowBound ≤ |value| then .infinite (value < 0)
  else if |value| ≤ underflowBound then .finite 0
  else .finite value

/-- An integer is converted to itself or overflows. -/
theorem ofRat_intCast (value : ℤ) :
    ofRat value = .finite value ∨ ∃ negative, ofRat value = .infinite negative := by
  rw [ofRat]
  split_ifs with large small
  · exact .inr ⟨_, rfl⟩
  · -- An integer this close to zero is zero.
    have tiny : underflowBound < 1 := by
      rw [underflowBound, one_div]
      exact inv_lt_one_of_one_lt₀ (one_lt_pow₀ one_lt_two (by decide))
    have bound : ((|value| : ℤ) : ℚ) < (1 : ℤ) := by
      rw [Int.cast_abs, Int.cast_one]
      exact small.trans_lt tiny
    have zero : value = 0 := Int.abs_lt_one_iff.mp (Int.cast_lt.mp bound)
    rw [zero, Int.cast_zero]
    exact .inl rfl
  · exact .inl rfl

/-- `left >= right`; no comparison holds of a NaN. -/
def ge : ExactFloat → ExactFloat → Bool
  | .nan, _ => false
  | _, .nan => false
  | .finite left, .finite right => decide (right ≤ left)
  | .infinite negative, .infinite other => !negative || other
  | .infinite negative, .finite _ => !negative
  | .finite _, .infinite negative => negative

/-- A float that reaches an amount reaches every lower one. -/
theorem ge_of_le {low high : ℚ} (ordered : low ≤ high) {value : ExactFloat}
    (reached : value.ge (.finite high) = true) : value.ge (.finite low) = true := by
  cases value with
  | finite value =>
      rw [ge, decide_eq_true_eq] at reached ⊢
      exact ordered.trans reached
  | infinite negative => exact reached
  | nan => exact reached

/-- `left < right`. -/
def lt (left right : ExactFloat) : Bool := right.ge left && !left.ge right

/-- Every float but zero is true. -/
def truthy : ExactFloat → Bool
  | .finite value => value != 0
  | .infinite _ => true
  | .nan => true

end ExactFloat
