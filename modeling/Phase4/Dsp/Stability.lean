import Phase4.Library.Overlay
import Phase4.Library.Quadratic
import Phase4.Dsp.Exact
import Phase4.Dsp.Payload
import Phase4.Config.Types

namespace Phase4.Dsp
open Library Config

/-! ## Stable filters -/

structure Coefficients where
  a1 : F32
  a2 : F32
  b0 : F32
  b1 : F32
  b2 : F32
deriving DecidableEq, Repr

namespace Coefficients

def zero : Coefficients := ⟨F32.zero, F32.zero, F32.zero, F32.zero, F32.zero⟩

def all (coefficients : Coefficients) : List F32 :=
  [coefficients.a1, coefficients.a2, coefficients.b0, coefficients.b1, coefficients.b2]

def Finite (coefficients : Coefficients) : Prop := ∀ x ∈ coefficients.all, x.isFinite = true

def PolesInside (coefficients : Coefficients) : Prop :=
  RootsInside coefficients.a1.value coefficients.a2.value

end Coefficients

def coefficientsAreStable (coefficients : Coefficients) : Bool :=
  let finite := coefficients.all.all F32.isFinite
  -- The widened sums are exact here.
  let a1 := coefficients.a1.toF64.value
  let a2 := coefficients.a2.toF64.value
  finite && decide (1 + a1 + a2 > 0) && decide (1 - a1 + a2 > 0) && decide (1 - a2 > 0)

theorem coefficientsAreStable_iff_jury (coefficients : Coefficients) :
    coefficientsAreStable coefficients = true ↔
      coefficients.Finite ∧ Jury coefficients.a1.value coefficients.a2.value := by
  unfold coefficientsAreStable
  rw [Bool.and_eq_true, Bool.and_eq_true, Bool.and_eq_true, List.all_eq_true, decide_eq_true_eq,
    decide_eq_true_eq, decide_eq_true_eq, and_assoc, and_assoc]
  apply and_congr_right
  intro finite
  rw [F32.value_toF64 (finite coefficients.a1 (by simp [Coefficients.all])),
    F32.value_toF64 (finite coefficients.a2 (by simp [Coefficients.all]))]
  constructor
  · rintro ⟨plus, minus, product⟩
    exact ⟨by exact_mod_cast plus, by exact_mod_cast minus, by exact_mod_cast product⟩
  · rintro ⟨plus, minus, product⟩
    exact ⟨by exact_mod_cast plus, by exact_mod_cast minus, by exact_mod_cast product⟩

theorem coefficientsAreStable_iff (coefficients : Coefficients) :
    coefficientsAreStable coefficients = true ↔
      coefficients.Finite ∧ coefficients.PolesInside := by
  rw [coefficientsAreStable_iff_jury, jury_iff_rootsInside, Coefficients.PolesInside]

/-! ## The filter bank -/

/-- The functions on f32 that place the bands, and the filter design of the library: `none` where
it gives an error. -/
structure FilterDesign where
  ofNat : Nat → F32
  add : F32 → F32 → F32
  sub : F32 → F32 → F32
  mul : F32 → F32 → F32
  div : F32 → F32 → F32
  ln : F32 → F32
  exp : F32 → F32
  fromParams : Nat → F32 → F32 → Option Coefficients

section
variable (design : FilterDesign) (sampleRate : Nat) (config : VocoderConfig)

def bandFrequency (band : Fin bandCount) : F32 :=
  let logLow := design.ln config.freqLow
  let logHigh := design.ln config.freqHigh
  let position :=
    design.div (design.ofNat band) (design.sub (design.ofNat bandCount) (design.ofNat 1))
  design.exp (design.add logLow (design.mul position (design.sub logHigh logLow)))

def bandCoefficients (band : Fin bandCount) : Except AppConfigError Coefficients :=
  let frequencyHz := bandFrequency design config band
  let invalidCoefficients := .invalidVocoderBandCoefficients band frequencyHz sampleRate
  match design.fromParams sampleRate frequencyHz config.filterQ with
  | none => .error invalidCoefficients
  | some candidate =>
      if !coefficientsAreStable candidate then .error invalidCoefficients else .ok candidate

def bandpassCoefficients : Except AppConfigError (Fin bandCount → Coefficients) :=
  fill (bandCoefficients design sampleRate config) (fun _ => .zero) bands

variable {design sampleRate config}

theorem bandCoefficients_eq_ok_iff {band : Fin bandCount} {coefficients : Coefficients} :
    bandCoefficients design sampleRate config band = .ok coefficients ↔
      design.fromParams sampleRate (bandFrequency design config band) config.filterQ =
        some coefficients ∧ coefficientsAreStable coefficients = true := by
  unfold bandCoefficients
  dsimp only
  cases designed : design.fromParams sampleRate (bandFrequency design config band)
      config.filterQ with
  | none => simp
  | some candidate =>
      rw [Option.some.injEq]
      cases stable : coefficientsAreStable candidate with
      | false =>
          simp only [stable, Bool.not_false, if_true, reduceCtorEq, false_iff, not_and]
          rintro rfl
          rw [stable]
          exact Bool.false_ne_true
      | true =>
          simp only [stable, Bool.not_true, Bool.false_eq_true, if_false, Except.ok.injEq,
            iff_self_and]
          rintro rfl
          exact stable

end

/-- A bank is accepted exactly when it is what the library designs for the bands, and all of it
is finite with its poles inside the unit circle. -/
theorem stability_check_is_exact (design : FilterDesign) (sampleRate : Nat)
    (config : VocoderConfig) :
    (∀ coefficients, coefficientsAreStable coefficients = true ↔
      coefficients.Finite ∧ coefficients.PolesInside) ∧
    ∀ bank, bandpassCoefficients design sampleRate config = .ok bank ↔
      ∀ band, design.fromParams sampleRate (bandFrequency design config band) config.filterQ =
          some (bank band) ∧ (bank band).Finite ∧ (bank band).PolesInside := by
  constructor
  · exact coefficientsAreStable_iff
  · intro bank
    have every (band : Fin bandCount) : band ∈ bands := List.mem_finRange band
    rw [bandpassCoefficients, fill_eq_ok_iff (List.nodup_finRange _)]
    simp only [bandCoefficients_eq_ok_iff, coefficientsAreStable_iff]
    constructor
    · rintro ⟨filled, -⟩ band
      exact filled band (every band)
    · intro filled
      exact ⟨fun band _ => filled band, fun band outside => absurd (every band) outside⟩

/-- A double pole at 1, two poles on the circle, and a pole outside beside one inside. -/
example : [(0xC0000000, 0x3F800000), (0x00000000, 0xBF800000), (0xBFC00000, 0x3ECCCCCD)].all
    (fun (a1, a2) => !coefficientsAreStable ⟨⟨a1⟩, ⟨a2⟩, ⟨0x3F800000⟩, .zero, .zero⟩) = true := by
  decide +kernel

/-- The f32 results that matter at 44.1 and 48 kHz, and one stable filter for all bands. -/
def steadyDesign : FilterDesign where
  ofNat n := if n = 44100 then ⟨0x472C4400⟩ else ⟨0x473B8000⟩
  add x _ := x
  sub x _ := x
  mul x _ := if x = ⟨0x472C4400⟩ then ⟨0x469B0A00⟩ else ⟨0x46A8C000⟩
  -- Halves.
  div x _ := ⟨x.bits - 0x00800000⟩
  ln x := x
  exp x := x
  fromParams _ _ _ := some ⟨⟨0x3F000000⟩, ⟨0x3F000000⟩, F32.zero, F32.zero, F32.zero⟩

end Phase4.Dsp
