import Phase4.Config.Validate
import Mathlib.Data.List.Destutter

namespace Phase4.Config
open Dsp

/-- `from_str` is the YAML reader, which gives the text of its own error. -/
def parseFileConfig (fromStr : String → Except String FileConfig) (text : String) :
    Except AppConfigError FileConfig :=
  (fromStr text).mapError .configFileParseError

/-! ## Channel selections -/

def sortedChannels (raw : List ChannelIndex) : List ChannelIndex :=
  (raw.mergeSort (fun a b => decide (a ≤ b))).destutter (· ≠ ·)

theorem pairwise_lt_of_isChain_ne {channels : List ChannelIndex}
    (ordered : channels.Pairwise (· ≤ ·)) (distinct : channels.IsChain (· ≠ ·)) :
    channels.Pairwise (· < ·) := by
  induction channels with
  | nil => exact List.Pairwise.nil
  | cons first rest ih =>
      obtain ⟨firstLeast, restOrdered⟩ := List.pairwise_cons.1 ordered
      have restSorted := ih restOrdered distinct.tail
      refine List.pairwise_cons.2 ⟨fun channel member => ?_, restSorted⟩
      cases rest with
      | nil => cases member
      | cons second rest =>
          have below : first < second :=
            lt_of_le_of_ne (firstLeast second (by simp)) (distinct.rel_head? (by simp))
          rcases List.mem_cons.1 member with rfl | member
          · exact below
          · exact below.trans ((List.pairwise_cons.1 restSorted).1 channel member)

theorem sortedChannels_sorted (raw : List ChannelIndex) :
    (sortedChannels raw).Pairwise (· < ·) := by
  have ordered : (raw.mergeSort (fun a b => decide (a ≤ b))).Pairwise (· ≤ ·) := by
    simpa using @List.pairwise_mergeSort _ (fun a b : ChannelIndex => decide (a ≤ b))
      (fun _ _ _ => by simpa using le_trans) (fun a b => by simpa using le_total a b) raw
  exact pairwise_lt_of_isChain_ne (ordered.sublist (List.destutter_sublist _ _))
    (List.isChain_destutter _ _)

theorem sortedChannels_nonempty {raw : List ChannelIndex} (nonempty : raw ≠ []) :
    sortedChannels raw ≠ [] := by
  have sortedNonempty : raw.mergeSort (fun a b => decide (a ≤ b)) ≠ [] := by
    rwa [← List.length_pos_iff, List.length_mergeSort, List.length_pos_iff]
  rwa [sortedChannels, ne_eq, List.destutter_eq_nil]

def normaliseChannelSelection :
    Option (List ChannelIndex) → Except AppConfigError (Option ChannelSelection)
  | none => .ok none
  | some raw =>
      if empty : raw = [] then .error .emptyChannelSelection
      else .ok (some ⟨sortedChannels raw, sortedChannels_sorted raw, sortedChannels_nonempty empty⟩)

theorem normaliseChannelSelection_ok {raw : Option (List ChannelIndex)} (given : raw ≠ some []) :
    ∃ selection, normaliseChannelSelection raw = .ok selection := by
  cases raw with
  | none => exact ⟨none, rfl⟩
  | some raw =>
      have nonempty : raw ≠ [] := fun empty => given (by rw [empty])
      exact ⟨_, dif_neg nonempty⟩

/-! ## The three layers -/

section
variable (platform : Platform)

def calibrationSignal (args : CalibrationArgs) : Except AppConfigError (Option TestSignal) :=
  match args.testSweep, args.testHz with
  | some rate, _ => do
      validateTestSignal (.sweep rate)
      pure (some (.sweep rate))
  | none, some frequency => do
      validateTestSignal (.fixedTone frequency)
      pure (some (.fixedTone frequency))
  | none, none => pure none

def resolveInput (args : Args) (rawDevice : Option String) (rawChannels : Option (List ChannelIndex)) :
    Except AppConfigError ConfigInput := do
  let analyseChannels ← normaliseChannelSelection rawChannels
  let signal ← calibrationSignal args.calibration
  match signal with
  | some signal => pure (.calibration signal)
  | none =>
      match rawDevice with
      | some name => pure (.device name (analyseChannels.map (·.indices)))
      | none => .error .missingDevice

def namedDevice (device : Option String) : Option String := device.filter fun name => !isBlank name

@[simp] theorem namedDevice_some (name : String) :
    namedDevice (some name) = if isBlank name then none else some name := by
  cases blank : isBlank name <;> simp [namedDevice, blank]

@[simp] theorem namedDevice_none : namedDevice none = none := rfl

def resolveMidiInput (args : Args) (fileMidi : FileMidiConfig) :
    Except AppConfigError (Option ConfigMidiInput) :=
  match args.calibration.testMidiClock with
  | some bpm => do
      let _ ← midiTickInterval platform bpm
      pure (some (.testClock bpm))
  | none =>
      let rawDevice := namedDevice (args.midi.midiDevice.or fileMidi.deviceNameMatch)
      pure (rawDevice.map .device)

def resolveVocoder (args : VocoderArgs) (file : FileVocoderConfig) : VocoderConfig where
  attackMs := (args.attackMs.or file.attackMs).getD VocoderConfig.default.attackMs
  releaseMs := (args.releaseMs.or file.releaseMs).getD VocoderConfig.default.releaseMs
  freqLow := (args.freqLow.or file.freqLow).getD VocoderConfig.default.freqLow
  freqHigh := (args.freqHigh.or file.freqHigh).getD VocoderConfig.default.freqHigh
  filterQ := (args.filterQ.or file.filterQ).getD VocoderConfig.default.filterQ

def resolveWebSocket (args : NetworkArgs) (file : FileNetworkConfig) :
    Except AppConfigError (List OutputConfig) :=
  let maxClients := (args.maxClients.or file.maxClients).getD defaultMaxClients
  match args.wsAddr.or file.wsAddr with
  | some addr => do
      validateBindAddr addr
      validateMaxClients platform maxClients
      pure [.webSocket addr maxClients args.noBrowserOrigin]
  | none => pure []

def resolveWithOutputs (args : Args) (file : FileConfig) (extraOutputs : List OutputConfig) :
    Except AppConfigError AppConfig := do
  let rawDevice := namedDevice (args.input.audioDevice.or file.audio.deviceNameMatch)
  let rawChannels := args.input.audioAnalyseChannels.or file.audio.analyseChannels
  let vocoderConfig := resolveVocoder args.vocoder file.vocoder
  let input ← resolveInput args rawDevice rawChannels
  let midiInput ← resolveMidiInput platform args file.midi
  validateVocoderFields platform vocoderConfig
  let webSocket ← resolveWebSocket platform args.network file.network
  let osc := (args.network.oscAddr.or file.network.oscAddr).toList.map OutputConfig.osc
  let outputs ← ConfigOutputs.new (webSocket ++ osc ++ extraOutputs)
  pure { outputs, input, midiInput, vocoderConfig }

end
end Phase4.Config
