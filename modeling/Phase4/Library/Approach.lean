import Mathlib

namespace Phase4.Library

/-! ## One-pole steps

A step covers a fraction of the way to its target, and the whole way at most. -/

section
variable {K : Type*} [Field K]

def approach (coeff value target : K) : K := value + coeff * (target - value)

theorem approach_eq_mix (coeff value target : K) :
    approach coeff value target = (1 - coeff) * value + coeff * target := by
  unfold approach
  ring

theorem approach_neg (coeff value target : K) :
    approach coeff (-value) (-target) = -approach coeff value target := by
  unfold approach
  ring

theorem approach_self (coeff target : K) : approach coeff target target = target := by
  rw [approach, sub_self, mul_zero, add_zero]

end

variable {K : Type*} [Field K] [LinearOrder K] [IsStrictOrderedRing K]

section
variable {coeff value other target : K}

theorem lt_approach (positive : 0 < coeff) (below : value < target) :
    value < approach coeff value target :=
  lt_add_of_pos_right value (mul_pos positive (sub_pos.mpr below))

theorem approach_le (most : coeff ≤ 1) (below : value ≤ target) :
    approach coeff value target ≤ target := by
  have part := mul_le_of_le_one_left (sub_nonneg.mpr below) most
  unfold approach
  linarith

theorem approach_lt (positive : 0 < coeff) (above : target < value) :
    approach coeff value target < value := by
  have step := lt_approach positive (neg_lt_neg above)
  rw [approach_neg] at step
  exact neg_lt_neg_iff.mp step

theorem le_approach (most : coeff ≤ 1) (above : target ≤ value) :
    target ≤ approach coeff value target := by
  have step := approach_le most (neg_le_neg above)
  rw [approach_neg] at step
  exact neg_le_neg_iff.mp step

theorem approach_mono (most : coeff ≤ 1) (le : value ≤ other) :
    approach coeff value target ≤ approach coeff other target := by
  rw [approach_eq_mix, approach_eq_mix]
  exact add_le_add_left (mul_le_mul_of_nonneg_left le (sub_nonneg.mpr most)) _

end

/-- A step that rises and falls with coefficients of its own. -/
def follow (rise fall : Set.Ioc (0 : K) 1) (value target : K) : K :=
  approach (if value < target then rise else fall : Set.Ioc (0 : K) 1) value target

section
variable (rise fall : Set.Ioc (0 : K) 1) {value other target : K}

theorem follow_of_lt (below : value < target) :
    value < follow rise fall value target ∧ follow rise fall value target ≤ target := by
  rw [follow, if_pos below]
  exact ⟨lt_approach rise.2.1 below, approach_le rise.2.2 below.le⟩

theorem follow_of_gt (above : target < value) :
    target ≤ follow rise fall value target ∧ follow rise fall value target < value := by
  rw [follow, if_neg above.not_gt]
  exact ⟨le_approach fall.2.2 above.le, approach_lt fall.2.1 above⟩

theorem follow_nonneg (value_nonneg : 0 ≤ value) (target_nonneg : 0 ≤ target) :
    0 ≤ follow rise fall value target := by
  rcases lt_trichotomy value target with below | rfl | above
  · exact value_nonneg.trans (follow_of_lt rise fall below).1.le
  · rwa [follow, approach_self]
  · exact target_nonneg.trans (follow_of_gt rise fall above).1

theorem follow_le {bound : K} (value_le : value ≤ bound) (target_le : target ≤ bound) :
    follow rise fall value target ≤ bound := by
  rcases lt_trichotomy value target with below | rfl | above
  · exact (follow_of_lt rise fall below).2.trans target_le
  · rwa [follow, approach_self]
  · exact (follow_of_gt rise fall above).2.le.trans value_le

/-- Where the coefficients differ the target lies in between. -/
theorem follow_mono (le : value ≤ other) :
    follow rise fall value target ≤ follow rise fall other target := by
  by_cases low : value < target
  · by_cases high : other < target
    · rw [follow, follow, if_pos low, if_pos high]
      exact approach_mono rise.2.2 le
    · rw [follow, follow, if_pos low, if_neg high]
      exact (approach_le rise.2.2 low.le).trans (le_approach fall.2.2 (not_lt.mp high))
  · have high : ¬ other < target := fun below => low (le.trans_lt below)
    rw [follow, follow, if_neg low, if_neg high]
    exact approach_mono fall.2.2 le

end

end Phase4.Library
