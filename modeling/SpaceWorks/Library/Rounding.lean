import SpaceWorks.Library.Python

/-!
# Rounding half up

Rounding a quotient to the nearest integer is within half of the divisor, bounded and monotone.
-/

namespace Python

section Rounding

variable {num den : Int}

theorem roundHalfUp_bounds (num : Int) (hden : 0 < den) :
    2 * num - den ≤ 2 * (den * roundHalfUp num den) ∧
      2 * (den * roundHalfUp num den) ≤ 2 * num + den := by
  have hdivision := Int.mul_ediv_add_emod num den
  have hleast := Int.emod_nonneg num (Int.ne_of_gt hden)
  have hmost := Int.emod_lt_of_pos num hden
  have hnext : den * (num / den + 1) = den * (num / den) + den := by
    rw [Int.mul_add, Int.mul_one]
  simp only [roundHalfUp]
  split <;> omega

theorem lt_roundHalfUp (hden : 0 < den) (hnum : 0 ≤ num) :
    2 * num - den < 2 * (den * roundHalfUp num den) := by
  have hdivision := Int.mul_ediv_add_emod num den
  have hmost := Int.emod_lt_of_pos num hden
  have hnext : den * (num / den + 1) = den * (num / den) + den := by
    rw [Int.mul_add, Int.mul_one]
  simp only [roundHalfUp]
  split <;> omega

theorem roundHalfUp_le {n : Int} (hden : 0 < den) (h : num ≤ den * n) :
    roundHalfUp num den ≤ n := by
  refine Int.not_lt.mp fun hlarger => ?_
  have hstep : den * (n + 1) ≤ den * roundHalfUp num den :=
    Int.mul_le_mul_of_nonneg_left (by omega) (Int.le_of_lt hden)
  rw [Int.mul_add, Int.mul_one] at hstep
  have hbound := (roundHalfUp_bounds num hden).2
  omega

theorem le_roundHalfUp {n : Int} (hden : 0 < den) (h : den * n ≤ num) :
    n ≤ roundHalfUp num den := by
  refine Int.not_lt.mp fun hsmaller => ?_
  have hstep : den * (roundHalfUp num den + 1) ≤ den * n :=
    Int.mul_le_mul_of_nonneg_left (by omega) (Int.le_of_lt hden)
  rw [Int.mul_add, Int.mul_one] at hstep
  have hbound := (roundHalfUp_bounds num hden).1
  omega

theorem roundHalfUp_nonneg (hden : 0 < den) (hnum : 0 ≤ num) : 0 ≤ roundHalfUp num den :=
  le_roundHalfUp hden (by omega)

theorem roundHalfUp_mono {num' : Int} (hden : 0 < den) (hnum : 0 ≤ num) (h : num ≤ num') :
    roundHalfUp num den ≤ roundHalfUp num' den := by
  refine Int.not_lt.mp fun hsmaller => ?_
  have hstep : den * (roundHalfUp num' den + 1) ≤ den * roundHalfUp num den :=
    Int.mul_le_mul_of_nonneg_left (by omega) (Int.le_of_lt hden)
  rw [Int.mul_add, Int.mul_one] at hstep
  have hupper := (roundHalfUp_bounds num hden).2
  have hlower := lt_roundHalfUp hden (Int.le_trans hnum h)
  omega

end Rounding

end Python
