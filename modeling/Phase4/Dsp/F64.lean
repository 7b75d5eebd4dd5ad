import Phase4.Dsp.F32

namespace Phase4.Dsp

/-! ## Double precision numbers

An `f64` is its bit pattern. All that is done with one is to narrow it. -/

@[ext] structure F64 where
  bits : BitVec 64
deriving DecidableEq, Repr, Inhabited

/-- `n / 2 ^ shift` rounded to the nearest integer, ties to even. -/
def roundShift (n shift : Nat) : Nat :=
  let quotient := n / 2 ^ shift
  let rest := n % 2 ^ shift
  if 2 ^ shift < 2 * rest ∨ (2 ^ shift = 2 * rest ∧ quotient % 2 = 1) then quotient + 1
  else quotient

namespace F64

def isNegative (x : F64) : Bool := decide (2 ^ 63 ≤ x.bits.toNat)

def exponent (x : F64) : Nat := x.bits.toNat / 2 ^ 52 % 2 ^ 11

def fraction (x : F64) : Nat := x.bits.toNat % 2 ^ 52

def significand (x : F64) : Nat := if x.exponent = 0 then x.fraction else 2 ^ 52 + x.fraction

def narrowExponent : Nat := 897

/-- The bits of the `f32` nearest to the absolute value. A NaN stays one, and is quiet. -/
def narrowMagnitude (x : F64) : Nat :=
  if x.exponent = 2 ^ 11 - 1 then
    if x.fraction = 0 then F32.infiniteMagnitude else 0x7FC00000 ||| x.fraction / 2 ^ 29
  else if narrowExponent ≤ x.exponent then
    min ((x.exponent - narrowExponent) * 2 ^ 23 + roundShift x.significand 29)
      F32.infiniteMagnitude
  else roundShift x.significand (29 + (narrowExponent - max x.exponent 1))

def toF32 (x : F64) : F32 :=
  ⟨BitVec.ofNat 32 (x.narrowMagnitude + if x.isNegative then 2 ^ 31 else 0)⟩

end F64

def F64.ofFields (negative : Bool) (exponent fraction : Nat) : F64 :=
  ⟨BitVec.ofNat 64 ((if negative then 2 ^ 63 else 0) + exponent * 2 ^ 52 + fraction)⟩

/-- `f64::from(x)`, which is exact. -/
def F32.toF64 (x : F32) : F64 :=
  let exponent := x.magnitude / 2 ^ 23
  let fraction := x.magnitude % 2 ^ 23
  let size := Nat.log2 fraction
  if exponent = 2 ^ 8 - 1 then .ofFields x.isNegative (2 ^ 11 - 1) (fraction * 2 ^ 29)
  else if exponent ≠ 0 then .ofFields x.isNegative (exponent + 896) (fraction * 2 ^ 29)
  else if fraction = 0 then .ofFields x.isNegative 0 0
  -- The leading bit of a subnormal number is at `size`, and hidden in the `f64`.
  else .ofFields x.isNegative (size + 874) (fraction * 2 ^ (52 - size) - 2 ^ 52)

theorem roundShift_exact (n shift : Nat) : roundShift (n * 2 ^ shift) shift = n := by
  have positive : 0 < 2 ^ shift := by positivity
  simp [roundShift, Nat.mul_div_cancel _ positive]

namespace F64

section
variable {negative : Bool} {exponent fraction : Nat}

theorem bits_ofFields (small : exponent < 2 ^ 11) (part : fraction < 2 ^ 52) :
    (ofFields negative exponent fraction).bits.toNat =
      (if negative then 2 ^ 63 else 0) + exponent * 2 ^ 52 + fraction := by
  rw [ofFields, BitVec.toNat_ofNat]
  split <;> omega

theorem exponent_ofFields (small : exponent < 2 ^ 11) (part : fraction < 2 ^ 52) :
    (ofFields negative exponent fraction).exponent = exponent := by
  rw [F64.exponent, bits_ofFields small part]
  split <;> omega

theorem fraction_ofFields (small : exponent < 2 ^ 11) (part : fraction < 2 ^ 52) :
    (ofFields negative exponent fraction).fraction = fraction := by
  rw [F64.fraction, bits_ofFields small part]
  split <;> omega

theorem isNegative_ofFields (small : exponent < 2 ^ 11) (part : fraction < 2 ^ 52) :
    (ofFields negative exponent fraction).isNegative = negative := by
  rw [F64.isNegative, bits_ofFields small part]
  cases negative
  · simp
    omega
  · simp
    omega

end
end F64

theorem F32.bits_eq (x : F32) :
    x.bits.toNat = x.magnitude + if x.isNegative then 2 ^ 31 else 0 := by
  have bound := x.bits.isLt
  simp only [F32.magnitude, F32.isNegative, decide_eq_true_eq]
  split <;> omega

/-- Narrowing gives back every number that is not a NaN. -/
theorem F32.toF32_toF64 {x : F32} (number : x.isNan = false) : x.toF64.toF32 = x := by
  have bound := x.magnitude_lt
  have finite : x.magnitude ≤ F32.infiniteMagnitude := by simpa [F32.isNan] using number
  have narrows (wide : F64) (same : wide.isNegative = x.isNegative)
      (magnitude : wide.narrowMagnitude = x.magnitude) : wide.toF32 = x := by
    ext1
    apply BitVec.eq_of_toNat_eq
    rw [F64.toF32, magnitude, same, BitVec.toNat_ofNat, ← x.bits_eq]
    exact Nat.mod_eq_of_lt x.bits.isLt
  have parts : x.magnitude = x.magnitude / 2 ^ 23 * 2 ^ 23 + x.magnitude % 2 ^ 23 := by omega
  rw [F32.toF64]
  split_ifs with infinite subnormal zero
  · have fraction : x.magnitude % 2 ^ 23 = 0 := by
      simp only [F32.infiniteMagnitude] at finite
      omega
    apply narrows
    · exact F64.isNegative_ofFields (by norm_num) (by omega)
    · rw [F64.narrowMagnitude, F64.exponent_ofFields (by norm_num) (by omega),
        F64.fraction_ofFields (by norm_num) (by omega), if_pos rfl, fraction, if_pos (by norm_num),
        F32.infiniteMagnitude]
      omega
  · have small : x.magnitude / 2 ^ 23 + 896 < 2 ^ 11 := by omega
    have part : x.magnitude % 2 ^ 23 * 2 ^ 29 < 2 ^ 52 := by omega
    apply narrows
    · exact F64.isNegative_ofFields small part
    · have significand : 2 ^ 52 + x.magnitude % 2 ^ 23 * 2 ^ 29 =
          (2 ^ 23 + x.magnitude % 2 ^ 23) * 2 ^ 29 := by omega
      rw [F64.narrowMagnitude, F64.significand, F64.exponent_ofFields small part,
        F64.fraction_ofFields small part, if_neg (by omega),
        if_pos (by rw [F64.narrowExponent]; omega), if_neg (by omega), significand,
        roundShift_exact, F64.narrowExponent]
      omega
  · have empty : x.magnitude = 0 := by omega
    apply narrows
    · exact F64.isNegative_ofFields (by norm_num) (by norm_num)
    · rw [F64.narrowMagnitude, F64.significand, F64.exponent_ofFields (by norm_num) (by norm_num),
        F64.fraction_ofFields (by norm_num) (by norm_num), if_neg (by norm_num),
        if_neg (by norm_num [F64.narrowExponent]), if_pos rfl, empty]
      simpa using roundShift_exact 0 _
  · set fraction := x.magnitude % 2 ^ 23
    set size := Nat.log2 fraction
    have least : 2 ^ size ≤ fraction := Nat.log2_self_le zero
    have most : fraction < 2 ^ (size + 1) := Nat.lt_log2_self
    have bounded : size < 23 := (Nat.log2_lt zero).mpr (by omega)
    have whole : 2 ^ size * 2 ^ (52 - size) = 2 ^ 52 := by
      rw [← pow_add]
      congr 1
      omega
    have above : 2 ^ 52 ≤ fraction * 2 ^ (52 - size) := by
      rw [← whole]
      exact Nat.mul_le_mul_right _ least
    have below : fraction * 2 ^ (52 - size) < 2 ^ 53 := by
      calc fraction * 2 ^ (52 - size) < 2 ^ (size + 1) * 2 ^ (52 - size) :=
            Nat.mul_lt_mul_of_pos_right most (by positivity)
        _ = 2 ^ 53 := by rw [pow_succ, mul_right_comm, whole]; norm_num
    have small : size + 874 < 2 ^ 11 := by omega
    have part : fraction * 2 ^ (52 - size) - 2 ^ 52 < 2 ^ 52 := by omega
    have shift : 29 + (F64.narrowExponent - max (size + 874) 1) = 52 - size := by
      rw [F64.narrowExponent]
      omega
    apply narrows
    · exact F64.isNegative_ofFields small part
    · rw [F64.narrowMagnitude, F64.significand, F64.exponent_ofFields small part,
        F64.fraction_ofFields small part, if_neg (by omega),
        if_neg (by rw [F64.narrowExponent]; omega), if_neg (by omega), shift,
        Nat.add_sub_cancel' above, roundShift_exact]
      omega

example : (⟨0x3690000000000000⟩ : F64).toF32 = ⟨0⟩ ∧ (⟨0x3690000000000001⟩ : F64).toF32 = ⟨1⟩ := by
  decide

end Phase4.Dsp
