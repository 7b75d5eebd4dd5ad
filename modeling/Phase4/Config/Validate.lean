import Phase4.Dsp.Stability

namespace Phase4.Config
open Dsp

section
variable {ε α β : Type}

@[simp] theorem ok_bind (value : α) (rest : α → Except ε β) :
    ((.ok value : Except ε α) >>= rest) = rest value := rfl

@[simp] theorem error_bind (error : ε) (rest : α → Except ε β) :
    ((.error error : Except ε α) >>= rest) = .error error := rfl

@[simp] theorem map_ok (f : α → β) (value : α) :
    (.ok value : Except ε α).map f = .ok (f value) := rfl

@[simp] theorem map_error (f : α → β) (error : ε) :
    (.error error : Except ε α).map f = .error error := rfl

theorem bind_eq_ok {computation : Except ε α} {rest : α → Except ε β} {result : β} :
    (computation >>= rest) = .ok result ↔ ∃ value, computation = .ok value ∧
      rest value = .ok result := by
  cases computation <;> simp

end

/-- What validation asks of the platform: floating point results, whether an instant can be
moved by a duration in nanoseconds, and the bound of the runtime's semaphore. -/
structure Platform where
  maximumBiquadAlpha : F32 → F32
  clockInterval : F32 → Option Nat
  instantHolds : Nat → Bool
  maxPermits : Nat

/-- The platform at the default filter Q and at 120 beats per minute. -/
def defaultPlatform : Platform where
  maximumBiquadAlpha _ := ⟨0x3D800000⟩
  clockInterval _ := some 20833333
  instantHolds _ := true
  maxPermits := 2 ^ 61 - 1

def isStrictlyPositive (value : F32) : Bool := value.isFinite && value.gt F32.zero

def isWhitespace (c : Char) : Bool :=
  (0x9 ≤ c.toNat && c.toNat ≤ 0xD) || c.toNat == 0x20 || c.toNat == 0x85 || c.toNat == 0xA0 ||
    c.toNat == 0x1680 || (0x2000 ≤ c.toNat && c.toNat ≤ 0x200A) || c.toNat == 0x2028 ||
    c.toNat == 0x2029 || c.toNat == 0x202F || c.toNat == 0x205F || c.toNat == 0x3000

def isBlank (name : String) : Bool := name.toList.all isWhitespace

section
variable (platform : Platform)

def nonZeroDuration (interval : Option Nat) : Option Nat := interval.filter (· ≠ 0)

def midiTickInterval (bpm : F32) : Except AppConfigError Nat :=
  if !isStrictlyPositive bpm then .error (.invalidMidiTempo bpm)
  else
    match nonZeroDuration (platform.clockInterval bpm) with
    | none => .error (.invalidMidiTempo bpm)
    | some interval =>
        if platform.instantHolds interval then .ok interval else .error (.invalidMidiTempo bpm)

def validateTestSignal : TestSignal → Except AppConfigError Unit
  | .fixedTone value =>
      if !isStrictlyPositive value || value.gt calibrationMaxFrequencyHz then
        .error (.invalidTestFrequency value)
      else .ok ()
  | .sweep value =>
      if !isStrictlyPositive value || value.gt calibrationMaxFrequencyHz then
        .error (.invalidTestSweepRate value)
      else .ok ()

def validateMaxClients (maxClients : Nat) : Except AppConfigError Unit :=
  if maxClients = 0 ∨ platform.maxPermits < maxClients then .error .invalidMaxClients else .ok ()

def validateBindAddr (addr : SocketAddr) : Except AppConfigError Unit :=
  if addr.ip.isLoopback then .ok () else .error (.nonLoopbackBindAddress addr)

def validateVocoderFields (fields : VocoderConfig) : Except AppConfigError Unit :=
  if !isStrictlyPositive fields.attackMs then .error (.invalidAttackTime fields.attackMs)
  else if !isStrictlyPositive fields.releaseMs then .error (.invalidReleaseTime fields.releaseMs)
  else if !isStrictlyPositive fields.freqLow then .error (.invalidFreqLow fields.freqLow)
  else if !isStrictlyPositive fields.freqHigh then .error (.invalidFreqHigh fields.freqHigh)
  else if fields.freqLow.ge fields.freqHigh then
    .error (.invalidFreqRange fields.freqLow fields.freqHigh)
  else if !isStrictlyPositive fields.filterQ ||
      !(platform.maximumBiquadAlpha fields.filterQ).isFinite then
    .error (.invalidFilterQ fields.filterQ)
  else .ok ()

def validateInput : ConfigInput → Except AppConfigError Unit
  | .calibration signal => validateTestSignal signal
  | .device name analyseChannels =>
      if isBlank name then .error .missingDevice
      else if analyseChannels = some [] then .error .emptyChannelSelection
      else .ok ()

def validateMidiInput : Option ConfigMidiInput → Except AppConfigError Unit
  | some (.testClock bpm) => do
      let _ ← midiTickInterval platform bpm
      return ()
  | some (.device name) => if isBlank name then .error .invalidMidiDeviceName else .ok ()
  | none => .ok ()

def validateOutput : OutputConfig → Except AppConfigError Unit
  | .webSocket addr maxClients _ => do
      validateBindAddr addr
      validateMaxClients platform maxClients
  | _ => .ok ()

def validateOutputs : List OutputConfig → Except AppConfigError Unit
  | [] => .ok ()
  | output :: rest => do
      validateOutput platform output
      validateOutputs rest

def validateAppConfig (config : AppConfig) : Except AppConfigError Unit := do
  validateInput config.input
  validateMidiInput platform config.midiInput
  validateOutputs platform config.outputs.outputs
  validateVocoderFields platform config.vocoderConfig

end

/-- The literals are 2.0 and 0.45. -/
def validateVocoderSampleRate (design : FilterDesign) (freqHigh : F32) (sampleRate : Nat) :
    Except AppConfigError Unit :=
  let sampleRateHz := design.ofNat sampleRate
  let nyquistHz := design.div sampleRateHz ⟨0x40000000⟩
  if freqHigh.ge nyquistHz then
    .error (.invalidFreqAboveNyquist sampleRate freqHigh nyquistHz)
  else
    let maxSafeHz := design.mul sampleRateHz ⟨0x3EE66666⟩
    if freqHigh.gt maxSafeHz then
      .error (.invalidFreqAboveSafetyCeiling sampleRate freqHigh maxSafeHz)
    else .ok ()

theorem andThen_ok {ε : Type} {first second : Except ε Unit} :
    (do first; second) = .ok () ↔ first = .ok () ∧ second = .ok () := by
  cases first <;> simp

theorem validateOutputs_ok {platform : Platform} {outputs : List OutputConfig} :
    validateOutputs platform outputs = .ok () ↔
      ∀ output ∈ outputs, validateOutput platform output = .ok () := by
  induction outputs with
  | nil => simp [validateOutputs]
  | cons output rest ih => simp [validateOutputs, andThen_ok, ih]

theorem validateAppConfig_ok {platform : Platform} {config : AppConfig} :
    validateAppConfig platform config = .ok () ↔ validateInput config.input = .ok () ∧
      validateMidiInput platform config.midiInput = .ok () ∧
      validateOutputs platform config.outputs.outputs = .ok () ∧
      validateVocoderFields platform config.vocoderConfig = .ok () := by
  simp only [validateAppConfig, andThen_ok]

theorem midiTickInterval_error {platform : Platform} {bpm : F32} {error : AppConfigError}
    (rejected : midiTickInterval platform bpm = .error error) : error = .invalidMidiTempo bpm := by
  unfold midiTickInterval at rejected
  split_ifs at rejected with positive
  · exact (Except.error.inj rejected).symm
  · split at rejected
    · exact (Except.error.inj rejected).symm
    · split_ifs at rejected with holds
      exact (Except.error.inj rejected).symm

end Phase4.Config
