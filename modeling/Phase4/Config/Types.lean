import Phase4.Dsp.F32

namespace Phase4.Config
open Dsp

/-! ## Configuration values -/

def defaultMaxClients : Nat := 8

def calibrationMaxFrequencyHz : F32 := ⟨0x469B0A00⟩

inductive TestSignal where
  | fixedTone (hz : F32)
  | sweep (rate : F32)
deriving DecidableEq, Repr

abbrev ChannelIndex := Fin 65536

instance neZero_portCount : NeZero 65536 := ⟨by decide⟩

/-- A resolved channel selection: sorted, without repeats, and at least one channel. -/
structure ChannelSelection where
  indices : List ChannelIndex
  sorted : indices.Pairwise (· < ·)
  nonempty : indices ≠ []
deriving DecidableEq, Repr

inductive ConfigInput where
  | calibration (signal : TestSignal)
  | device (name : String) (analyseChannels : Option (List ChannelIndex))
deriving DecidableEq, Repr

inductive ConfigMidiInput where
  | testClock (bpm : F32)
  | device (name : String)
deriving DecidableEq, Repr

inductive IpAddr where
  | v4 (bits : BitVec 32)
  | v6 (bits : BitVec 128)
deriving DecidableEq, Repr

def IpAddr.isLoopback : IpAddr → Bool
  | .v4 bits => bits.toNat / 2 ^ 24 == 127
  | .v6 bits => bits == 1

structure SocketAddr where
  ip : IpAddr
  port : Fin 65536
deriving DecidableEq, Repr

/-- A slot is equal to its own clones only, so its address stands for it. -/
structure FrameRegionSlot where
  address : Nat
deriving DecidableEq, Repr

inductive OutputConfig where
  | webSocket (addr : SocketAddr) (maxClients : Nat) (noBrowserOrigin : Bool)
  | osc (addr : SocketAddr)
  | frameRegion (slot : FrameRegionSlot)
deriving DecidableEq, Repr

def OutputConfig.transport : OutputConfig → String
  | .webSocket .. => "WebSocket"
  | .osc .. => "OSC"
  | .frameRegion .. => "Frame region"

inductive AppConfigError where
  | missingDevice
  | noOutputConfigured
  | nonLoopbackBindAddress (addr : SocketAddr)
  | invalidAttackTime (value : F32)
  | invalidReleaseTime (value : F32)
  | invalidFreqLow (value : F32)
  | invalidFreqHigh (value : F32)
  | invalidFreqRange (freqLow freqHigh : F32)
  | invalidFilterQ (value : F32)
  | invalidMidiTempo (value : F32)
  | invalidTestFrequency (value : F32)
  | invalidTestSweepRate (value : F32)
  | invalidMaxClients
  | emptyChannelSelection
  | invalidMidiDeviceName
  | duplicateOutputTransport (transport : String)
  | configFileParseError (text : String)
  | configFileNotFound (path : String)
  | invalidVocoderBandCoefficients (band : Nat) (frequencyHz : F32) (sampleRate : Nat)
  | channelIndexOutOfRange (idx channels : Nat)
  | invalidFreqAboveNyquist (sampleRate : Nat) (freqHigh nyquistHz : F32)
  | invalidFreqAboveSafetyCeiling (sampleRate : Nat) (freqHigh maxSafeHz : F32)
deriving DecidableEq, Repr

structure Displays where
  addr : SocketAddr → String
  float : F32 → String

namespace AppConfigError

def text (displays : Displays) : AppConfigError → String
  | missingDevice => "To start the app, run with: --audio-device <ID>"
  | noOutputConfigured =>
      "To start the app, configure at least one output: --ws-addr <ADDR> or --osc-addr <ADDR>"
  | nonLoopbackBindAddress addr =>
      s!"WebSocket server bind address must be loopback, got {displays.addr addr}"
  | invalidAttackTime value =>
      "Invalid vocoder configuration: attack time must be a finite value greater than 0 ms, " ++
        s!"got {displays.float value}"
  | invalidReleaseTime value =>
      "Invalid vocoder configuration: release time must be a finite value greater than 0 ms, " ++
        s!"got {displays.float value}"
  | invalidFreqLow value =>
      "Invalid vocoder configuration: low frequency must be greater than 0 Hz, " ++
        s!"got {displays.float value}"
  | invalidFreqHigh value =>
      "Invalid vocoder configuration: high frequency must be greater than 0 Hz, " ++
        s!"got {displays.float value}"
  | invalidFreqRange freqLow freqHigh =>
      s!"Invalid vocoder configuration: high frequency ({displays.float freqHigh}Hz) must be " ++
        s!"greater than low frequency ({displays.float freqLow}Hz)"
  | invalidFilterQ value =>
      "Invalid vocoder configuration: filter Q must be finite, greater than 0, and produce " ++
        s!"finite coefficients, got {displays.float value}"
  | invalidVocoderBandCoefficients band frequencyHz sampleRate =>
      s!"Invalid vocoder configuration: band {band} at {displays.float frequencyHz} Hz does not " ++
        s!"produce finite, stable f32 coefficients at {sampleRate} Hz. Increase the lowest band " ++
        "frequency or reduce the filter Q."
  | invalidMidiTempo value =>
      "Invalid MIDI test tempo: must be finite, greater than 0 bpm, and produce a representable " ++
        s!"non-zero clock interval, got {displays.float value}"
  | invalidTestFrequency value =>
      "Invalid --test-hz value: must be finite, greater than 0 Hz, and within the calibration " ++
        s!"sample-rate ceiling, got {displays.float value}"
  | invalidTestSweepRate value =>
      "Invalid --test-sweep value: must be finite, greater than 0 Hz, and within the calibration " ++
        s!"sample-rate ceiling, got {displays.float value}"
  | invalidMaxClients =>
      "Invalid max clients: must be at least 1 and fit the runtime semaphore capacity"
  | emptyChannelSelection => "Channel selection must not be empty"
  | invalidMidiDeviceName => "MIDI device name must not be empty"
  | duplicateOutputTransport transport =>
      s!"Output transport may only be configured once: {transport}"
  | channelIndexOutOfRange idx channels =>
      s!"Selected audio channel index {idx} is unavailable on this {channels}-channel device"
  | configFileParseError text => s!"Failed to parse config file: {text}"
  | configFileNotFound path => s!"Config file not found: {path}"
  | invalidFreqAboveNyquist sampleRate freqHigh nyquistHz =>
      s!"Invalid vocoder configuration: Sample rate {sampleRate}Hz: high frequency must be below " ++
        s!"Nyquist ({displays.float nyquistHz}Hz), got {displays.float freqHigh}Hz"
  | invalidFreqAboveSafetyCeiling sampleRate freqHigh maxSafeHz =>
      s!"Invalid vocoder configuration: Sample rate {sampleRate}Hz: high frequency must be at or " ++
        s!"below 0.45 of the sample rate ({displays.float maxSafeHz}Hz), got " ++
        s!"{displays.float freqHigh}Hz"

end AppConfigError

structure ConfigOutputs where
  outputs : List OutputConfig
  nonempty : outputs ≠ []
  distinct : (outputs.map OutputConfig.transport).Nodup
deriving DecidableEq, Repr

def repeatedTransport : List String → List OutputConfig → Option String
  | _, [] => none
  | configured, output :: rest =>
      if output.transport ∈ configured then some output.transport
      else repeatedTransport (output.transport :: configured) rest

theorem repeatedTransport_eq_none {configured : List String} {outputs : List OutputConfig}
    (distinct : configured.Nodup) (none_repeated : repeatedTransport configured outputs = none) :
    (outputs.map OutputConfig.transport).Nodup ∧
      ∀ output ∈ outputs, output.transport ∉ configured := by
  induction outputs generalizing configured with
  | nil => simp
  | cons output rest ih =>
      rw [repeatedTransport] at none_repeated
      split_ifs at none_repeated with seen
      obtain ⟨restDistinct, restFresh⟩ := ih (List.nodup_cons.2 ⟨seen, distinct⟩) none_repeated
      refine ⟨?_, ?_⟩
      · refine List.nodup_cons.2 ⟨fun member => ?_, restDistinct⟩
        obtain ⟨other, otherMember, sameTransport⟩ := List.mem_map.1 member
        exact restFresh other otherMember (by simp [sameTransport])
      · intro other member
        rcases List.mem_cons.1 member with rfl | member
        · exact seen
        · exact fun known => restFresh other member (List.mem_cons_of_mem _ known)

theorem repeatedTransport_of_nodup {configured : List String} {outputs : List OutputConfig}
    (distinct : (outputs.map OutputConfig.transport).Nodup)
    (fresh : ∀ output ∈ outputs, output.transport ∉ configured) :
    repeatedTransport configured outputs = none := by
  induction outputs generalizing configured with
  | nil => rfl
  | cons output rest ih =>
      obtain ⟨first, restDistinct⟩ := List.nodup_cons.1 distinct
      rw [repeatedTransport, if_neg (fresh output (by simp))]
      refine ih restDistinct fun other member known => ?_
      rcases List.mem_cons.1 known with same | known
      · exact first (List.mem_map.2 ⟨other, member, same⟩)
      · exact fresh other (List.mem_cons_of_mem _ member) known

def ConfigOutputs.new (outputs : List OutputConfig) : Except AppConfigError ConfigOutputs :=
  if empty : outputs = [] then .error .noOutputConfigured
  else
    match repeats : repeatedTransport [] outputs with
    | some transport => .error (.duplicateOutputTransport transport)
    | none => .ok ⟨outputs, empty, (repeatedTransport_eq_none List.nodup_nil repeats).1⟩

@[simp] theorem ConfigOutputs.new_singleton (output : OutputConfig) :
    ConfigOutputs.new [output] = .ok ⟨[output], by simp, by simp⟩ := rfl

theorem ConfigOutputs.new_ok {outputs : List OutputConfig} (nonempty : outputs ≠ [])
    (distinct : (outputs.map OutputConfig.transport).Nodup) :
    ConfigOutputs.new outputs = .ok ⟨outputs, nonempty, distinct⟩ := by
  have noRepeat : repeatedTransport [] outputs = none :=
    repeatedTransport_of_nodup distinct (by simp)
  rw [ConfigOutputs.new, dif_neg nonempty]
  split
  · simp_all
  · rfl

theorem ConfigOutputs.outputs_of_new {outputs : List OutputConfig} {built : ConfigOutputs}
    (accepted : ConfigOutputs.new outputs = .ok built) : built.outputs = outputs := by
  unfold ConfigOutputs.new at accepted
  split_ifs at accepted
  split at accepted
  · cases accepted
  · rw [← Except.ok.inj accepted]

structure VocoderConfig where
  attackMs : F32
  releaseMs : F32
  freqLow : F32
  freqHigh : F32
  filterQ : F32
deriving DecidableEq, Repr

def VocoderConfig.default : VocoderConfig where
  attackMs := ⟨0x41C00000⟩
  releaseMs := ⟨0x42C00000⟩
  freqLow := ⟨0x42700000⟩
  freqHigh := ⟨0x45BB8000⟩
  filterQ := ⟨0x41000000⟩

structure AppConfig where
  outputs : ConfigOutputs
  input : ConfigInput
  midiInput : Option ConfigMidiInput
  vocoderConfig : VocoderConfig
deriving DecidableEq, Repr

/-! ## The config file -/

structure FileNetworkConfig where
  wsAddr : Option SocketAddr := none
  maxClients : Option Nat := none
  oscAddr : Option SocketAddr := none
deriving DecidableEq, Repr

structure FileAudioConfig where
  deviceNameMatch : Option String := none
  analyseChannels : Option (List ChannelIndex) := none
deriving DecidableEq, Repr

structure FileMidiConfig where
  deviceNameMatch : Option String := none
deriving DecidableEq, Repr

structure FileVocoderConfig where
  attackMs : Option F32 := none
  releaseMs : Option F32 := none
  freqLow : Option F32 := none
  freqHigh : Option F32 := none
  filterQ : Option F32 := none
deriving DecidableEq, Repr

structure FileConfig where
  network : FileNetworkConfig := {}
  audio : FileAudioConfig := {}
  midi : FileMidiConfig := {}
  vocoder : FileVocoderConfig := {}
deriving DecidableEq, Repr

/-! ## The command line -/

structure NetworkArgs where
  wsAddr : Option SocketAddr := none
  maxClients : Option Nat := none
  noBrowserOrigin : Bool := false
  oscAddr : Option SocketAddr := none

structure InputArgs where
  audioDevice : Option String := none
  audioAnalyseChannels : Option (List ChannelIndex) := none

structure MidiArgs where
  midiDevice : Option String := none

structure CalibrationArgs where
  testHz : Option F32 := none
  testSweep : Option F32 := none
  testMidiClock : Option F32 := none

structure VocoderArgs where
  attackMs : Option F32 := none
  releaseMs : Option F32 := none
  freqLow : Option F32 := none
  freqHigh : Option F32 := none
  filterQ : Option F32 := none

structure Args where
  calibration : CalibrationArgs := {}
  input : InputArgs := {}
  midi : MidiArgs := {}
  network : NetworkArgs := {}
  vocoder : VocoderArgs := {}

end Phase4.Config
