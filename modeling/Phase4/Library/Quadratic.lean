import Mathlib

namespace Phase4.Library

/-! ## Quadratics with their roots inside the unit circle -/

variable {a b : ℝ}

def RootsInside (a b : ℝ) : Prop := ∀ z : ℂ, z ^ 2 + a * z + b = 0 → ‖z‖ < 1

/-- Jury's conditions on `z ^ 2 + a * z + b`. -/
structure Jury (a b : ℝ) : Prop where
  plus : 0 < 1 + a + b
  minus : 0 < 1 - a + b
  product : 0 < 1 - b

theorem re_im_of_root {z : ℂ} (root : z ^ 2 + a * z + b = 0) :
    z.re * z.re - z.im * z.im + a * z.re + b = 0 ∧ z.im * (2 * z.re + a) = 0 := by
  rw [sq] at root
  constructor
  · have real := congrArg Complex.re root
    simp at real
    linarith
  · have imaginary := congrArg Complex.im root
    simp at imaginary
    linarith

theorem Jury.real_root (jury : Jury a b) {x : ℝ} (root : x * x + a * x + b = 0) : |x| < 1 := by
  obtain ⟨plus, minus, product⟩ := jury
  -- With the other root `-a - x`, the first two are products of the distances from 1 and from -1.
  have ones : 1 + a + b = (1 - x) * (1 + a + x) := by linarith
  have minus_ones : 1 - a + b = (1 + x) * (1 - a - x) := by linarith
  have roots : b = x * (-a - x) := by linarith
  rw [ones] at plus
  rw [minus_ones] at minus
  rw [abs_lt]
  constructor
  · by_contra far
    have low : x ≤ -1 := not_lt.mp far
    nlinarith
  · by_contra far
    have high : 1 ≤ x := not_lt.mp far
    nlinarith

theorem Jury.rootsInside (jury : Jury a b) : RootsInside a b := by
  intro z root
  obtain ⟨real, imaginary⟩ := re_im_of_root root
  rcases mul_eq_zero.mp imaginary with flat | conjugate
  · rw [flat, mul_zero, sub_zero] at real
    have inside := jury.real_root real
    rwa [← Complex.re_add_im z, flat, Complex.ofReal_zero, zero_mul, add_zero, Complex.norm_real,
      Real.norm_eq_abs]
  · -- The other root is the conjugate, so the product of both is the square of the modulus.
    have square : ‖z‖ ^ 2 = b := by
      rw [Complex.sq_norm, Complex.normSq_apply]
      linear_combination (-1) * real + z.re * conjugate
    have below : ‖z‖ ^ 2 < 1 := by
      rw [square]
      exact sub_pos.mp jury.product
    exact lt_of_pow_lt_pow_left₀ 2 zero_le_one (by rwa [one_pow])

theorem root_of_square {s : ℝ} (square : s * s = a * a - 4 * b) :
    (((-a + s) / 2 : ℝ) : ℂ) ^ 2 + a * (((-a + s) / 2 : ℝ) : ℂ) + b = 0 := by
  have real : ((-a + s) / 2) ^ 2 + a * ((-a + s) / 2) + b = 0 := by
    linear_combination square / 4
  exact_mod_cast congrArg (fun x : ℝ => (x : ℂ)) real

/-- Where the quadratic is not positive at 1 it has a real root from 1 on. -/
theorem RootsInside.plus (inside : RootsInside a b) : 0 < 1 + a + b := by
  by_contra low
  have wide : (a + 2) * (a + 2) ≤ a * a - 4 * b := by linarith
  have positive : 0 ≤ a * a - 4 * b := (mul_self_nonneg _).trans wide
  have bound := inside _ (root_of_square (Real.mul_self_sqrt positive))
  rw [Complex.norm_real, Real.norm_eq_abs, abs_lt] at bound
  have large : |a + 2| ≤ Real.sqrt (a * a - 4 * b) := Real.abs_le_sqrt (by rwa [sq])
  have reaches : a + 2 ≤ Real.sqrt (a * a - 4 * b) := (le_abs_self _).trans large
  linarith [bound.2]

theorem RootsInside.neg (inside : RootsInside a b) : RootsInside (-a) b := by
  intro z root
  rw [← norm_neg]
  apply inside
  rw [← root, Complex.ofReal_neg]
  ring

theorem RootsInside.product (inside : RootsInside a b) : 0 < 1 - b := by
  by_contra high
  obtain ⟨s, square⟩ := IsAlgClosed.exists_pow_nat_eq ((a : ℂ) * a - 4 * b) two_pos
  have first := inside ((-a + s) / 2) (by linear_combination square / 4)
  have second := inside ((-a - s) / 2) (by linear_combination square / 4)
  have roots : ‖((-a + s) / 2 : ℂ)‖ * ‖((-a - s) / 2 : ℂ)‖ = |b| := by
    rw [← norm_mul, ← Real.norm_eq_abs, ← Complex.norm_real]
    congr 1
    linear_combination -square / 4
  have less := mul_lt_one_of_nonneg_of_lt_one_left (norm_nonneg _) first second.le
  rw [roots] at less
  linarith [le_abs_self b]

theorem jury_iff_rootsInside : Jury a b ↔ RootsInside a b := by
  constructor
  · exact Jury.rootsInside
  · intro inside
    have reflected := inside.neg.plus
    rw [← sub_eq_add_neg] at reflected
    exact ⟨inside.plus, reflected, inside.product⟩

end Phase4.Library
