import Mathlib

namespace Phase4.Dsp

/-! ## Single precision numbers

An `f32` is its bit pattern. Classes, comparisons and absolute value are read off the bits.
Sums and products are not modelled here: what rests on them takes them as parameters. -/

@[ext] structure F32 where
  bits : BitVec 32
deriving DecidableEq, Repr, Inhabited

namespace F32

def toBits (x : F32) : BitVec 32 := x.bits

def fromBits (bits : BitVec 32) : F32 := ⟨bits⟩

@[simp] theorem fromBits_toBits (x : F32) : fromBits x.toBits = x := rfl

@[simp] theorem toBits_fromBits (bits : BitVec 32) : (fromBits bits).toBits = bits := rfl

def zero : F32 := ⟨0⟩

/-- The bits below the sign bit, which order the absolute values. -/
def magnitude (x : F32) : Nat := x.bits.toNat % 2 ^ 31

def isNegative (x : F32) : Bool := decide (2 ^ 31 ≤ x.bits.toNat)

def infiniteMagnitude : Nat := 0x7F800000

def isFinite (x : F32) : Bool := decide (x.magnitude < infiniteMagnitude)

def isInfinite (x : F32) : Bool := decide (x.magnitude = infiniteMagnitude)

def isNan (x : F32) : Bool := decide (infiniteMagnitude < x.magnitude)

/-- The place of a number in the order, with both zeros at 0. -/
def key (x : F32) : Int := if x.isNegative then -(x.magnitude : Int) else x.magnitude

/-- `a > b`, false as soon as either side is NaN. -/
def gt (a b : F32) : Bool := !a.isNan && !b.isNan && decide (b.key < a.key)

def ge (a b : F32) : Bool := !a.isNan && !b.isNan && decide (b.key ≤ a.key)

def abs (x : F32) : F32 := ⟨BitVec.ofNat 32 x.magnitude⟩

theorem magnitude_lt (x : F32) : x.magnitude < 2 ^ 31 := Nat.mod_lt _ (by norm_num)

@[simp] theorem magnitude_abs (x : F32) : x.abs.magnitude = x.magnitude := by
  have := x.magnitude_lt
  simp only [abs, magnitude, BitVec.toNat_ofNat] at this ⊢
  omega

@[simp] theorem isNegative_abs (x : F32) : x.abs.isNegative = false := by
  have := x.magnitude_lt
  simp only [abs, isNegative, BitVec.toNat_ofNat, decide_eq_false_iff_not, not_le]
  omega

@[simp] theorem key_abs (x : F32) : x.abs.key = x.magnitude := by simp [key]

@[simp] theorem isNan_abs (x : F32) : x.abs.isNan = x.isNan := by simp [isNan]

theorem isFinite_zero : zero.isFinite = true := by decide

theorem isFinite_iff (x : F32) :
    x.isFinite = true ↔ x.isNan = false ∧ x.isInfinite = false := by
  simp only [isFinite, isNan, isInfinite, decide_eq_true_eq, decide_eq_false_iff_not]
  omega

end F32
end Phase4.Dsp
