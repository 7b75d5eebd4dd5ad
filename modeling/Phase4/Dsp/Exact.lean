import Phase4.Dsp.F64

namespace Phase4.Dsp

/-! ## The numbers behind the bits

Of a number that is not finite the value means nothing. -/

def signed (negative : Bool) (significand : Nat) (exponent : Int) : ℚ :=
  (if negative then -1 else 1) * (significand * 2 ^ exponent)

namespace F32

def exponent (x : F32) : Nat := x.magnitude / 2 ^ 23

def fraction (x : F32) : Nat := x.magnitude % 2 ^ 23

def significand (x : F32) : Nat := if x.exponent = 0 then x.fraction else 2 ^ 23 + x.fraction

def value (x : F32) : ℚ := signed x.isNegative x.significand (max x.exponent 1 - 150)

theorem exponent_lt {x : F32} (finite : x.isFinite = true) : x.exponent < 255 := by
  rw [isFinite, decide_eq_true_eq, infiniteMagnitude] at finite
  unfold exponent
  omega

end F32

def F64.value (x : F64) : ℚ := signed x.isNegative x.significand (max x.exponent 1 - 1075)

theorem F64.value_ofFields {negative : Bool} {exponent fraction : Nat} (small : exponent < 2 ^ 11)
    (part : fraction < 2 ^ 52) : (F64.ofFields negative exponent fraction).value =
      signed negative (if exponent = 0 then fraction else 2 ^ 52 + fraction)
        (max exponent 1 - 1075) := by
  rw [F64.value, F64.significand, F64.isNegative_ofFields small part,
    F64.exponent_ofFields small part, F64.fraction_ofFields small part]

theorem signed_shift (negative : Bool) (significand shift : Nat) (exponent : Int) :
    signed negative (significand * 2 ^ shift) exponent =
      signed negative significand (exponent + shift) := by
  unfold signed
  rw [zpow_add₀ two_ne_zero, Nat.cast_mul, Nat.cast_pow, Nat.cast_ofNat, zpow_natCast]
  ring

theorem F32.value_toF64 {x : F32} (finite : x.isFinite = true) : x.toF64.value = x.value := by
  have small := x.exponent_lt finite
  have part : x.fraction < 2 ^ 23 := Nat.mod_lt _ (by norm_num)
  unfold F32.toF64 F32.value F32.significand
  rw [← F32.exponent, ← F32.fraction]
  dsimp only
  rw [if_neg (by omega)]
  by_cases subnormal : x.exponent = 0
  · rw [if_neg (not_not.mpr subnormal), if_pos subnormal, subnormal]
    by_cases zero : x.fraction = 0
    · rw [if_pos zero, F64.value_ofFields (by norm_num) (by norm_num), zero]
      simp [signed]
    · -- The leading bit moves up to the place of the hidden one.
      have low : 2 ^ x.fraction.log2 ≤ x.fraction := Nat.log2_self_le zero
      have high : x.fraction < 2 ^ (x.fraction.log2 + 1) := Nat.lt_log2_self
      have top : x.fraction.log2 < 23 := (Nat.log2_lt zero).mpr part
      generalize x.fraction.log2 = size at low high top
      have leading : 2 ^ 52 = 2 ^ size * 2 ^ (52 - size) := by
        rw [← pow_add]
        congr 1
        omega
      have up : 2 ^ 52 ≤ x.fraction * 2 ^ (52 - size) := by
        rw [leading]
        exact Nat.mul_le_mul_right _ low
      have below : x.fraction * 2 ^ (52 - size) < 2 ^ 53 := by
        have doubled := Nat.mul_lt_mul_of_pos_right high (Nat.two_pow_pos (52 - size))
        rwa [← pow_add, show size + 1 + (52 - size) = 53 by omega] at doubled
      rw [if_neg zero, F64.value_ofFields (by omega) (by omega), if_neg (by omega),
        Nat.add_sub_cancel' up, signed_shift]
      exact congrArg (signed _ _) (by omega)
  · have wide : 2 ^ 52 + x.fraction * 2 ^ 29 = (2 ^ 23 + x.fraction) * 2 ^ 29 := by ring
    rw [if_pos subnormal, if_neg subnormal, F64.value_ofFields (by omega) (by omega),
      if_neg (by omega), wide, signed_shift]
    exact congrArg (signed _ _) (by omega)

/-- The largest `f32`, and the smallest above 0. -/
example : (⟨0x7F7FFFFF⟩ : F32).value = 2 ^ 128 - 2 ^ 104 ∧
    (⟨0x00000001⟩ : F32).value = 1 / 2 ^ 149 := by decide +kernel

end Phase4.Dsp
