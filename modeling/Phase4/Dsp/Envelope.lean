import Phase4.Library.Approach
import Phase4.Dsp.Vocoder

namespace Phase4.Dsp
open Library

/-! ## One round of an envelope follower

The same code over any numbers: over the bits of `f32`, and over exact ones. -/

structure Arithmetic (V : Type) where
  zero : V
  gt : V → V → Bool
  add : V → V → V
  sub : V → V → V
  mul : V → V → V
  abs : V → V
  isFinite : V → Bool

namespace Arithmetic
variable {V : Type} (numbers : Arithmetic V)

def processSample (value rectified attack release : V) : V :=
  let coeff := if numbers.gt rectified value then attack else release
  numbers.add value (numbers.mul coeff (numbers.sub rectified value))

def round (attack release value filtered : V) : V :=
  if !numbers.isFinite filtered then numbers.zero
  else
    let next := numbers.processSample value (numbers.abs filtered) attack release
    if !numbers.isFinite next then numbers.zero else next

end Arithmetic

def Primitives.arithmetic {Filter : Type} (ops : Primitives Filter) : Arithmetic F32 where
  zero := F32.zero
  gt := F32.gt
  add := ops.add
  sub := ops.sub
  mul := ops.mul
  abs := F32.abs
  isFinite := F32.isFinite

/-! ## What a band's bin shows -/

section
variable {Filter : Type} (ops : Primitives Filter)

theorem EnvelopeFollower.processSample_value (follower : EnvelopeFollower)
    (rectified attack release : F32) :
    (follower.processSample ops rectified attack release).value =
      ops.arithmetic.processSample follower.value rectified attack release := rfl

theorem Band.process_round (attack release : F32) (band : Band Filter) (sample : F32) :
    (band.process ops attack release sample).envelope.value =
        ops.arithmetic.round attack release band.envelope.value (ops.run band.filter sample).1 ∧
      (band.process ops attack release sample).bin =
        ops.arithmetic.round attack release band.envelope.value
          (ops.run band.filter sample).1 := by
  unfold Band.process Arithmetic.round
  dsimp only
  have test : ops.arithmetic.isFinite = F32.isFinite := rfl
  have rectify : ops.arithmetic.abs = F32.abs := rfl
  rw [test, rectify, ← EnvelopeFollower.processSample_value]
  cases finite : (ops.run band.filter sample).1.isFinite with
  | false => exact ⟨rfl, rfl⟩
  | true =>
      cases settled : (band.envelope.processSample ops (ops.run band.filter sample).1.abs attack
        release).value.isFinite with
      | false => exact ⟨rfl, rfl⟩
      | true => exact ⟨rfl, rfl⟩

def Band.outputs (attack release : F32) : Band Filter → List F32 → List F32
  | _, [] => []
  | band, sample :: rest =>
      (ops.run band.filter sample).1 ::
        Band.outputs attack release (band.process ops attack release sample) rest

theorem Band.bin_follows_rounds (attack release : F32) (samples : List F32) {band : Band Filter}
    (settled : band.bin = band.envelope.value) :
    (samples.foldl (Band.process ops attack release) band).bin =
      (band.outputs ops attack release samples).foldl (ops.arithmetic.round attack release)
        band.bin := by
  induction samples generalizing band with
  | nil => rfl
  | cons sample rest ih =>
      obtain ⟨value, bin⟩ := band.process_round ops attack release sample
      rw [List.foldl_cons, ih (bin.trans value.symm), Band.outputs, List.foldl_cons, bin, settled]

theorem VocoderAnalyser.mono_bin_follows_rounds (setup : VocoderSetup Filter)
    (samples : List F32) (index : Fin bandCount) :
    (mono ops setup samples).bins index =
      (Band.outputs ops setup.attackCoeff setup.releaseCoeff
        ⟨setup.filters index, .new, F32.zero⟩ (samples.filter F32.isFinite)).foldl
          (ops.arithmetic.round setup.attackCoeff setup.releaseCoeff) F32.zero := by
  rw [mono_band]
  exact Band.bin_follows_rounds ops _ _ _ rfl

end

/-! ## Exact numbers -/

/-- Rational numbers, and `none` for what is not finite. -/
def exact : Arithmetic (Option ℚ) where
  zero := some 0
  gt := fun a b => (Option.map₂ (fun a b => decide (b < a)) a b).getD false
  add := Option.map₂ (· + ·)
  sub := Option.map₂ (· - ·)
  mul := Option.map₂ (· * ·)
  abs := Option.map abs
  isFinite := Option.isSome

section
variable (attack release : Set.Ioc (0 : ℚ) 1)

/-- The bin after these filter outputs, each of which moves the envelope or resets it. -/
def envelope (start : ℚ) (outputs : List (Option ℚ)) : Option ℚ :=
  outputs.foldl (exact.round (some attack) (some release)) (some start)

/-- The filter outputs since the last one that was not finite. -/
def sinceReset (outputs : List (Option ℚ)) : List ℚ :=
  (outputs.reverse.takeWhile Option.isSome).reduceOption

def largestRectified (outputs : List ℚ) : ℚ := (outputs.map abs).foldr max 0

/-- From `value` to `next` is some way to the target, and not past it. -/
structure Towards (target value next : ℚ) : Prop where
  rising : value < target → value < next ∧ next ≤ target
  falling : target < value → target ≤ next ∧ next < value
  resting : value = target → next = target

theorem round_output (value filtered : ℚ) :
    exact.round (some attack) (some release) (some value) (some filtered) =
      some (follow attack release value |filtered|) := by
  unfold Arithmetic.round Arithmetic.processSample follow approach
  by_cases below : value < |filtered|
  · simp [exact, below]
  · simp [exact, below]

theorem round_reset (value : ℚ) :
    exact.round (some attack) (some release) (some value) none = some 0 := rfl

theorem envelope_snoc {start value : ℚ} {outputs : List (Option ℚ)}
    (reached : envelope attack release start outputs = some value) (output : Option ℚ) :
    envelope attack release start (outputs ++ [output]) =
      exact.round (some attack) (some release) (some value) output := by
  unfold envelope at reached ⊢
  rw [List.foldl_append, reached]
  rfl

theorem sinceReset_output (outputs : List (Option ℚ)) (filtered : ℚ) :
    sinceReset (outputs ++ [some filtered]) = filtered :: sinceReset outputs := by
  simp [sinceReset]

theorem sinceReset_reset (outputs : List (Option ℚ)) : sinceReset (outputs ++ [none]) = [] := by
  simp [sinceReset]

theorem towards_follow (value target : ℚ) :
    Towards target value (follow attack release value target) where
  rising := follow_of_lt attack release
  falling := follow_of_gt attack release
  resting := by
    rintro rfl
    rw [follow, approach_self]

theorem envelope_bounded (outputs : List (Option ℚ)) :
    ∃ bin, envelope attack release 0 outputs = some bin ∧ 0 ≤ bin ∧
      bin ≤ largestRectified (sinceReset outputs) := by
  induction outputs using List.reverseRecOn with
  | nil => exact ⟨0, rfl, le_rfl, le_rfl⟩
  | append_singleton outputs output ih =>
      obtain ⟨bin, reached, nonneg, bounded⟩ := ih
      rw [envelope_snoc attack release reached]
      cases output with
      | none =>
          rw [round_reset, sinceReset_reset]
          exact ⟨0, rfl, le_rfl, le_rfl⟩
      | some filtered =>
          rw [round_output, sinceReset_output]
          refine ⟨_, rfl, follow_nonneg attack release nonneg (abs_nonneg filtered), ?_⟩
          apply follow_le
          · exact bounded.trans (le_max_right _ _)
          · exact le_max_left _ _

theorem envelope_ordered {low high : ℚ} (le : low ≤ high) (outputs : List (Option ℚ)) :
    ∃ lower higher, envelope attack release low outputs = some lower ∧
      envelope attack release high outputs = some higher ∧ lower ≤ higher := by
  induction outputs using List.reverseRecOn with
  | nil => exact ⟨low, high, rfl, rfl, le⟩
  | append_singleton outputs output ih =>
      obtain ⟨lower, higher, below, above, ordered⟩ := ih
      rw [envelope_snoc attack release below, envelope_snoc attack release above]
      cases output with
      | none => exact ⟨0, 0, rfl, rfl, le_rfl⟩
      | some filtered =>
          rw [round_output, round_output]
          exact ⟨_, _, rfl, rfl, follow_mono attack release ordered⟩

end

theorem envelopes_stay_in_bounds (attack release : Set.Ioc (0 : ℚ) 1)
    (outputs : List (Option ℚ)) :
    (∃ bin, envelope attack release 0 outputs = some bin ∧ 0 ≤ bin ∧
      bin ≤ largestRectified (sinceReset outputs)) ∧
    (∀ value filtered, ∃ next, envelope attack release value [some filtered] = some next ∧
      Towards |filtered| value next) ∧
    ∀ low high, low ≤ high → ∃ lower higher, envelope attack release low outputs = some lower ∧
      envelope attack release high outputs = some higher ∧ lower ≤ higher := by
  refine ⟨envelope_bounded attack release outputs, ?_, ?_⟩
  · intro value filtered
    exact ⟨_, round_output attack release value filtered, towards_follow attack release _ _⟩
  · intro low high le
    exact envelope_ordered attack release le outputs

theorem two_envelopes_stay_ordered : ∃ lower higher,
    envelope ⟨1 / 2, by norm_num, by norm_num⟩ ⟨1 / 4, by norm_num, by norm_num⟩ 0
      [some 1, some (-3), none, some (1 / 2)] = some lower ∧
    envelope ⟨1 / 2, by norm_num, by norm_num⟩ ⟨1 / 4, by norm_num, by norm_num⟩ 2
      [some 1, some (-3), none, some (1 / 2)] = some higher ∧ lower ≤ higher :=
  (envelopes_stay_in_bounds _ _ _).2.2 0 2 (by norm_num)

end Phase4.Dsp
