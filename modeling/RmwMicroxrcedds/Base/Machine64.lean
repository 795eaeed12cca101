import Mathlib.Data.Int.Order.Basic

/-!
# Two's-complement arithmetic in 64 bits

Signed 64-bit quantities are integers; `wrap64` is what a register holds after an operation
whose exact result is the argument.
-/

namespace Machine64

/-- `INT64_MAX`. -/
def int64Max : Int := 9223372036854775807

/-- The 64-bit two's-complement value of an exact result. -/
def wrap64 (x : Int) : Int :=
  (x + 9223372036854775808) % 18446744073709551616 - 9223372036854775808

theorem wrap64_eq {x : Int} (lo : -9223372036854775808 ≤ x) (hi : x ≤ int64Max) :
    wrap64 x = x := by
  unfold wrap64 int64Max at *
  omega

theorem wrap64_le (x : Int) : wrap64 x ≤ int64Max := by
  unfold wrap64 int64Max
  omega

theorem le_wrap64 (x : Int) : -9223372036854775808 ≤ wrap64 x := by
  unfold wrap64
  omega

/-- An addition of two register values that leaves the range on the positive side comes back
negative. -/
theorem wrap64_of_overflow {x : Int} (lo : int64Max < x) (hi : x ≤ 2 * int64Max) :
    wrap64 x = x - 18446744073709551616 := by
  unfold wrap64 int64Max at *
  omega

/-- Sharing a total among `m` parties, counted in a register of fewer than `b` values: the shares fit
the total just when the register did not wrap around, or there is nothing to give. -/
theorem shares_le_iff {m b total : Nat} (pos : 0 < b) (counted : m % b ≠ 0) :
    m * (total / (m % b)) ≤ total ↔ m < b ∨ total < m % b := by
  rcases Nat.lt_or_ge m b with small | large
  · rw [Nat.mod_eq_of_lt small]
    constructor
    · intro _
      exact .inl small
    · intro _
      exact Nat.mul_div_le total m
  · constructor
    · intro fits
      by_contra none
      have below : m % b < b := Nat.mod_lt m pos
      have given : 1 ≤ total / (m % b) := (Nat.one_le_div_iff (Nat.pos_of_ne_zero counted)).2 (by omega)
      -- two shares at the size of the quotient are already more than the total
      have more : total < m % b * (total / (m % b) + 1) := Nat.lt_mul_div_succ total (Nat.pos_of_ne_zero counted)
      have twice : m % b * (total / (m % b) + 1) ≤ (m % b + m % b) * (total / (m % b)) := by
        rw [Nat.add_mul, Nat.mul_add, Nat.mul_one]
        exact Nat.add_le_add_left (Nat.le_mul_of_pos_right _ given) _
      have wrapped : m % b + b ≤ m := by
        have parts := Nat.mod_add_div m b
        have once : b ≤ b * (m / b) := Nat.le_mul_of_pos_right b (Nat.div_pos large pos)
        omega
      have enough : (m % b + m % b) * (total / (m % b)) ≤ m * (total / (m % b)) :=
        Nat.mul_le_mul_right _ (by omega)
      omega
    · rintro (small | less)
      · omega
      · rw [Nat.div_eq_of_lt less]
        omega

end Machine64
