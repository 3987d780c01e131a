import Dispatch.Json.Basic
import Mathlib.Algebra.Group.Nat.Defs

namespace Dispatch.Double

theorem divideToEven_le (num den : Nat) : divideToEven num den ≤ num / den + 1 := by
  simp only [divideToEven]
  split <;> omega

/-- In units that leave it 54 bits a number is less than the power of two of so many bits. -/
theorem scaled_lt (num : Nat) {power : Int} (enough : (num.log2 : Int) - 53 ≤ power) :
    (scale num 1 (-power)).1 / (scale num 1 (-power)).2 < 2 ^ 54 := by
  have below : num < 2 ^ (num.log2 + 1) := Nat.lt_log2_self
  unfold scale
  split
  · have bits : num.log2 + 1 + (-power).toNat ≤ 54 := by omega
    have scaled : num * 2 ^ (-power).toNat < 2 ^ (num.log2 + 1) * 2 ^ (-power).toNat :=
      Nat.mul_lt_mul_of_pos_right below (Nat.two_pow_pos _)
    rw [← Nat.pow_add] at scaled
    rw [Nat.div_one]
    exact Nat.lt_of_lt_of_le scaled (Nat.pow_le_pow_right (by decide) bits)
  · have bits : num.log2 + 1 ≤ (- -power).toNat + 54 := by omega
    have scaled : num < 2 ^ (- -power).toNat * 2 ^ 54 := by
      rw [← Nat.pow_add]
      exact Nat.lt_of_lt_of_le below (Nat.pow_le_pow_right (by decide) bits)
    rw [Nat.one_mul]
    exact Nat.div_lt_of_lt_mul scaled

/-- Numbers of 64 bits round to finite doubles. -/
theorem nearestBits_lt {num : Nat} (small : num < 2 ^ 64) : nearestBits num 1 < 2047 * Nat.pow 2 52 := by
  unfold nearestBits
  split
  · decide
  · rename_i positive
    have bits : num.log2 < 64 := (Nat.log2_lt positive).mpr small
    have unit : Nat.log2 1 = 0 := by decide
    extract_lets low first power scaled
    have near : (num.log2 : Int) - 53 ≤ power ∧ power ≤ 11 := by
      have high : low ≤ 10 ∧ (num.log2 : Int) - 53 ≤ low := by
        simp only [low, unit]
        omega
      simp only [power]
      split <;> omega
    have quotient : scaled.1 / scaled.2 < 2 ^ 54 := scaled_lt num near.1
    have rounded := divideToEven_le scaled.1 scaled.2
    have shifted : (power + 1074).toNat ≤ 1085 := by omega
    change (power + 1074).toNat * 2 ^ 52 + divideToEven scaled.1 scaled.2 < 2047 * 2 ^ 52
    omega

/-- Every integer that fits into 64 bits has a nearest double. -/
theorem ofInt?_of_intRange {n : Int} (fits : Json.intRange n = true) : ∃ d, ofInt? n = some d := by
  have bounds : -(2 ^ 63) ≤ n ∧ n < 2 ^ 64 := by
    simp only [Json.intRange, Bool.and_eq_true, decide_eq_true_eq] at fits
    exact fits
  have small : n.natAbs < 2 ^ 64 := by omega
  exact ⟨_, dif_pos (nearestBits_lt small)⟩

theorem ofInt?_one : ofInt? 1 = some one := by decide +kernel

end Dispatch.Double
