import Phase4.Config.Resolve

namespace Phase4.Xpc
open Dsp Config

/-! ## The fields of a start request -/

inductive Source where
  | device (name : String) (channels : Option (List ChannelIndex))
  | testTone (hz : F32)
  | testSweep (rateHz : F32)
deriving DecidableEq, Repr

inductive MidiRequest where
  | device (name : String)
  | testClock (bpm : F32)
deriving DecidableEq, Repr

structure StartRequest where
  source : Source
  midi : Option MidiRequest
  configYaml : Option String
deriving DecidableEq, Repr

def StartRequest.args (start : StartRequest) : Args where
  calibration :=
    { testHz := match start.source with | .testTone hz => some hz | _ => none
      testSweep := match start.source with | .testSweep rateHz => some rateHz | _ => none
      testMidiClock := match start.midi with | some (.testClock bpm) => some bpm | _ => none }
  input :=
    { audioDevice := match start.source with | .device name _ => some name | _ => none
      audioAnalyseChannels := match start.source with | .device _ channels => channels | _ => none }
  midi := { midiDevice := match start.midi with | some (.device name) => some name | _ => none }

section
variable (platform : Platform) (fromStr : String → Except String FileConfig)

def StartRequest.file (start : StartRequest) : Except AppConfigError FileConfig := do
  let file ←
    match start.configYaml with
    | some text => parseFileConfig fromStr text
    | none => pure {}
  pure { file with network := {} }

def toAppConfig (start : StartRequest) (slot : FrameRegionSlot) :
    Except AppConfigError AppConfig := do
  let file ← start.file fromStr
  resolveWithOutputs platform start.args file [.frameRegion slot]

end

/-! ## What a request says by itself

Everything a start request resolves to comes from its own fields and the config text, through
one channel selection, one MIDI device name and the vocoder section of the text. -/

namespace Source

def channels : Source → Option (List ChannelIndex)
  | .device _ channels => channels
  | _ => none

def input (analyseChannels : Option ChannelSelection) :
    Source → Except AppConfigError ConfigInput
  | .device name _ =>
      if isBlank name then .error .missingDevice else .ok (.device name (analyseChannels.map (·.indices)))
  | .testTone hz => (validateTestSignal (.fixedTone hz)).map fun _ => .calibration (.fixedTone hz)
  | .testSweep rateHz => (validateTestSignal (.sweep rateHz)).map fun _ => .calibration (.sweep rateHz)

end Source

def midiInput (platform : Platform) (fileMidi : FileMidiConfig) :
    Option MidiRequest → Except AppConfigError (Option ConfigMidiInput)
  | some (.testClock bpm) => (midiTickInterval platform bpm).map fun _ => some (.testClock bpm)
  | some (.device name) => .ok ((namedDevice (some name)).map .device)
  | none => .ok ((namedDevice fileMidi.deviceNameMatch).map .device)

def AppConfig.decided (config : AppConfig) : ConfigInput × Option ConfigMidiInput :=
  (config.input, config.midiInput)

section
variable {platform : Platform} {start : StartRequest} {file : FileConfig} {slot : FrameRegionSlot}

theorem resolveInput_args :
    resolveInput start.args
      (namedDevice (start.args.input.audioDevice.or file.audio.deviceNameMatch))
      (start.args.input.audioAnalyseChannels.or file.audio.analyseChannels) =
    normaliseChannelSelection (start.source.channels.or file.audio.analyseChannels) >>=
      fun analyseChannels => start.source.input analyseChannels := by
  obtain ⟨source, midi, configYaml⟩ := start
  cases source with
  | device name channels =>
      cases blank : isBlank name with
      | false =>
          simp [resolveInput, calibrationSignal, StartRequest.args, Source.channels, Source.input,
            blank]
          rfl
      | true =>
          simp [resolveInput, calibrationSignal, StartRequest.args, Source.channels, Source.input,
            blank]
  | testTone hz =>
      cases accepted : validateTestSignal (.fixedTone hz) with
      | error error =>
          simp [resolveInput, calibrationSignal, StartRequest.args, Source.channels, Source.input,
            accepted]
      | ok _ =>
          simp [resolveInput, calibrationSignal, StartRequest.args, Source.channels, Source.input,
            accepted]
          rfl
  | testSweep rateHz =>
      cases accepted : validateTestSignal (.sweep rateHz) with
      | error error =>
          simp [resolveInput, calibrationSignal, StartRequest.args, Source.channels, Source.input,
            accepted]
      | ok _ =>
          simp [resolveInput, calibrationSignal, StartRequest.args, Source.channels, Source.input,
            accepted]
          rfl

theorem resolveMidiInput_args :
    resolveMidiInput platform start.args file.midi = midiInput platform file.midi start.midi := by
  obtain ⟨source, midi, configYaml⟩ := start
  cases midi with
  | none => simp [resolveMidiInput, StartRequest.args, midiInput]; rfl
  | some midi =>
      cases midi with
      | device name => simp [resolveMidiInput, StartRequest.args, midiInput]; rfl
      | testClock bpm =>
          cases accepted : midiTickInterval platform bpm <;>
            simp [resolveMidiInput, StartRequest.args, midiInput, accepted]

/-- What a request resolves to, or its error, as steps over the request's own fields. -/
def decision (platform : Platform) (start : StartRequest) (file : FileConfig) :
    Except AppConfigError (ConfigInput × Option ConfigMidiInput) := do
  let analyseChannels ←
    normaliseChannelSelection (start.source.channels.or file.audio.analyseChannels)
  let input ← start.source.input analyseChannels
  let midi ← midiInput platform file.midi start.midi
  validateVocoderFields platform (resolveVocoder {} file.vocoder)
  return (input, midi)

theorem resolveWithOutputs_decided (silent : file.network = {}) :
    (resolveWithOutputs platform start.args file [.frameRegion slot]).map AppConfig.decided =
      decision platform start file := by
  have noWebSocket : resolveWebSocket platform start.args.network file.network = .ok [] := by
    rw [silent]; rfl
  have noOsc : start.args.network.oscAddr.or file.network.oscAddr = none := by
    rw [silent]; rfl
  have ownVocoder : start.args.vocoder = {} := rfl
  simp only [resolveWithOutputs, decision, resolveInput_args, resolveMidiInput_args, noWebSocket,
    noOsc, ownVocoder, bind_assoc]
  cases normaliseChannelSelection (start.source.channels.or file.audio.analyseChannels) with
  | error error => rfl
  | ok analyseChannels =>
      simp only [ok_bind]
      cases start.source.input analyseChannels with
      | error error => rfl
      | ok input =>
          cases midiInput platform file.midi start.midi with
          | error error => rfl
          | ok midi =>
              cases validateVocoderFields platform (resolveVocoder {} file.vocoder) with
              | error error => rfl
              | ok _ => rfl

end

/-! ## When the request decides alone -/

namespace Source

def Rejected : Source → Prop
  | .device name channels => channels = some [] ∨ isBlank name = true
  | .testTone hz => validateTestSignal (.fixedTone hz) ≠ .ok ()
  | .testSweep rateHz => validateTestSignal (.sweep rateHz) ≠ .ok ()

def accepted (analyseChannels : Option ChannelSelection) : Source → ConfigInput
  | .device name _ => .device name (analyseChannels.map (·.indices))
  | .testTone hz => .calibration (.fixedTone hz)
  | .testSweep rateHz => .calibration (.sweep rateHz)

def NamesChannels : Source → Prop
  | .device _ channels => channels ≠ none
  | _ => True

theorem input_accepted {source : Source} {analyseChannels : Option ChannelSelection}
    (valid : ¬ source.Rejected) : source.input analyseChannels = .ok (source.accepted analyseChannels) := by
  cases source with
  | device name channels => simp_all [Rejected, input, accepted]
  | testTone hz => simp_all [Rejected, input, accepted]
  | testSweep rateHz => simp_all [Rejected, input, accepted]

theorem input_rejected {source : Source} (invalid : source.Rejected)
    (some_channel : source.channels ≠ some []) :
    ∃ error ≠ AppConfigError.emptyChannelSelection,
      ∀ analyseChannels, source.input analyseChannels = .error error := by
  cases source with
  | device name channels =>
      have blank : isBlank name = true := invalid.resolve_left some_channel
      exact ⟨.missingDevice, by decide, fun _ => by simp [input, blank]⟩
  | testTone hz =>
      refine ⟨.invalidTestFrequency hz, by simp, fun _ => ?_⟩
      have outside : (!isStrictlyPositive hz || hz.gt calibrationMaxFrequencyHz) = true := by
        by_contra inside
        exact invalid (by simp [validateTestSignal, inside])
      simp [input, validateTestSignal, outside]
  | testSweep rateHz =>
      refine ⟨.invalidTestSweepRate rateHz, by simp, fun _ => ?_⟩
      have outside : (!isStrictlyPositive rateHz || rateHz.gt calibrationMaxFrequencyHz) = true := by
        by_contra inside
        exact invalid (by simp [validateTestSignal, inside])
      simp [input, validateTestSignal, outside]

end Source

section
variable (platform : Platform)

def MidiRejected : Option MidiRequest → Prop
  | some (.testClock bpm) => midiTickInterval platform bpm = .error (.invalidMidiTempo bpm)
  | _ => False

def VocoderRejected (vocoder : FileVocoderConfig) : Prop :=
  validateVocoderFields platform (resolveVocoder {} vocoder) ≠ .ok ()

/-- The request is turned down on its own fields or on the vocoder section. -/
def StartRequest.Rejected (start : StartRequest) (vocoder : FileVocoderConfig) : Prop :=
  start.source.Rejected ∨ MidiRejected platform start.midi ∨ VocoderRejected platform vocoder

/-- No field the request leaves out is filled in from the config text. -/
def StartRequest.DecidesAlone (start : StartRequest) (file : FileConfig) : Prop :=
  (start.source.channels ≠ none ∨ file.audio.analyseChannels ≠ some []) ∧
  (start.Rejected platform file.vocoder ∨
    (start.source.NamesChannels ∨ file.audio.analyseChannels = none) ∧
    (start.midi ≠ none ∨ namedDevice file.midi.deviceNameMatch = none))

end

section
variable {platform : Platform} {start : StartRequest} {file : FileConfig}

def acceptedMidi (fileMidi : FileMidiConfig) : Option MidiRequest → Option ConfigMidiInput
  | some (.testClock bpm) => some (.testClock bpm)
  | some (.device name) => (namedDevice (some name)).map .device
  | none => (namedDevice fileMidi.deviceNameMatch).map .device

theorem midiInput_accepted {fileMidi : FileMidiConfig} {midi : Option MidiRequest}
    (valid : ¬ MidiRejected platform midi) :
    midiInput platform fileMidi midi = .ok (acceptedMidi fileMidi midi) := by
  cases midi with
  | none => rfl
  | some midi =>
      cases midi with
      | device name => rfl
      | testClock bpm =>
          cases tempo : midiTickInterval platform bpm with
          | error error =>
              rw [midiTickInterval_error tempo] at tempo
              exact absurd tempo valid
          | ok interval => simp [midiInput, acceptedMidi, tempo]

theorem midiInput_rejected {midi : Option MidiRequest} (invalid : MidiRejected platform midi) :
    ∃ error ≠ AppConfigError.emptyChannelSelection,
      ∀ fileMidi, midiInput platform fileMidi midi = .error error := by
  cases midi with
  | none => exact invalid.elim
  | some midi =>
      cases midi with
      | device name => exact invalid.elim
      | testClock bpm =>
          have tempo : midiTickInterval platform bpm = .error (.invalidMidiTempo bpm) := invalid
          exact ⟨.invalidMidiTempo bpm, by simp, fun _ => by simp [midiInput, tempo]⟩

theorem vocoder_rejected {vocoder : FileVocoderConfig}
    (invalid : VocoderRejected platform vocoder) :
    ∃ error ≠ AppConfigError.emptyChannelSelection,
      validateVocoderFields platform (resolveVocoder {} vocoder) = .error error := by
  cases checked : validateVocoderFields platform (resolveVocoder {} vocoder) with
  | ok _ => exact absurd checked invalid
  | error error =>
      refine ⟨error, ?_, rfl⟩
      rintro rfl
      unfold validateVocoderFields at checked
      split_ifs at checked <;> simp_all

theorem decision_accepted {analyseChannels : Option ChannelSelection}
    (selected : normaliseChannelSelection
      (start.source.channels.or file.audio.analyseChannels) = .ok analyseChannels)
    (valid : ¬ start.Rejected platform file.vocoder) :
    decision platform start file =
      .ok (start.source.accepted analyseChannels, acceptedMidi file.midi start.midi) := by
  simp only [StartRequest.Rejected, VocoderRejected, not_or, not_not] at valid
  obtain ⟨source, midi, vocoder⟩ := valid
  simp only [decision, selected, ok_bind, Source.input_accepted source, midiInput_accepted midi,
    vocoder]
  rfl

theorem decision_rejected (invalid : start.Rejected platform file.vocoder)
    (some_channel : start.source.channels ≠ some []) :
    ∃ error ≠ AppConfigError.emptyChannelSelection, ∀ file' : FileConfig,
      file'.vocoder = file.vocoder → ∀ analyseChannels,
      normaliseChannelSelection (start.source.channels.or file'.audio.analyseChannels) =
        .ok analyseChannels →
      decision platform start file' = .error error := by
  by_cases source : start.source.Rejected
  · obtain ⟨error, other, rejects⟩ := Source.input_rejected source some_channel
    refine ⟨error, other, fun other' _ analyseChannels selected => ?_⟩
    simp [decision, selected, rejects]
  by_cases midi : MidiRejected platform start.midi
  · obtain ⟨error, other, rejects⟩ := midiInput_rejected midi
    refine ⟨error, other, fun other' _ analyseChannels selected => ?_⟩
    simp [decision, selected, Source.input_accepted source, rejects]
  · have vocoder := (invalid.resolve_left source).resolve_left midi
    obtain ⟨error, other, rejects⟩ := vocoder_rejected vocoder
    refine ⟨error, other, fun other' same analyseChannels selected => ?_⟩
    simp [decision, selected, Source.input_accepted source, midiInput_accepted midi, same, rejects]

theorem decision_ne_emptyChannelSelection {analyseChannels : Option ChannelSelection}
    (some_channel : start.source.channels ≠ some [])
    (selected : normaliseChannelSelection
      (start.source.channels.or file.audio.analyseChannels) = .ok analyseChannels) :
    decision platform start file ≠ .error .emptyChannelSelection := by
  by_cases invalid : start.Rejected platform file.vocoder
  · obtain ⟨error, other, rejects⟩ := decision_rejected invalid some_channel
    rw [rejects file rfl analyseChannels selected]
    exact fun same => other (Except.error.inj same)
  · rw [decision_accepted selected invalid]
    simp

theorem Source.accepted_eq_iff {source : Source} {fileChannels : Option (List ChannelIndex)}
    {selection bare : Option ChannelSelection}
    (selected : normaliseChannelSelection (source.channels.or fileChannels) = .ok selection)
    (alone : normaliseChannelSelection source.channels = .ok bare) :
    source.accepted selection = source.accepted bare ↔
      source.NamesChannels ∨ fileChannels = none := by
  cases source with
  | testTone hz => simp [Source.accepted, Source.NamesChannels]
  | testSweep rateHz => simp [Source.accepted, Source.NamesChannels]
  | device name channels =>
      simp only [Source.accepted, Source.NamesChannels, Source.channels, ConfigInput.device.injEq,
        true_and] at selected alone ⊢
      cases channels with
      | some channels =>
          rw [Option.some_or] at selected
          simp [Except.ok.inj (selected.symm.trans alone)]
      | none =>
          have unselected : bare = none := (Except.ok.inj alone).symm
          cases fileChannels with
          | none => simp_all [normaliseChannelSelection]
          | some raw =>
              rw [Option.none_or, normaliseChannelSelection] at selected
              split_ifs at selected with empty
              simp [← Except.ok.inj selected, unselected]

theorem acceptedMidi_eq_iff {fileMidi : FileMidiConfig} {midi : Option MidiRequest} :
    acceptedMidi fileMidi midi = acceptedMidi {} midi ↔
      midi ≠ none ∨ namedDevice fileMidi.deviceNameMatch = none := by
  cases midi with
  | none => simp [acceptedMidi]
  | some midi => cases midi <;> simp [acceptedMidi]

theorem decision_eq_iff : decision platform start file =
    decision platform start { vocoder := file.vocoder } ↔ start.DecidesAlone platform file := by
  set bareFile : FileConfig := { vocoder := file.vocoder } with bareFile_eq
  by_cases empty : start.source.channels = some []
  · have rejects : ∀ file', decision platform start file' = .error .emptyChannelSelection := by
      intro file'
      simp [decision, empty, normaliseChannelSelection]
    have invalid : start.source.Rejected := by
      cases shape : start.source <;> simp_all [Source.channels, Source.Rejected]
    simp [rejects, StartRequest.DecidesAlone, StartRequest.Rejected, invalid, empty]
  obtain ⟨bare, alone⟩ := normaliseChannelSelection_ok empty
  have bareSelected : normaliseChannelSelection
      (start.source.channels.or bareFile.audio.analyseChannels) = .ok bare := by
    rw [← alone, bareFile_eq, Option.or_none]
  by_cases filled : start.source.channels = none ∧ file.audio.analyseChannels = some []
  · have rejects : decision platform start file = .error .emptyChannelSelection := by
      simp [decision, filled, normaliseChannelSelection]
    have others : decision platform start bareFile ≠ .error .emptyChannelSelection :=
      decision_ne_emptyChannelSelection empty bareSelected
    simp [rejects, others.symm, StartRequest.DecidesAlone, filled]
  have merged : start.source.channels.or file.audio.analyseChannels ≠ some [] := by
    cases channels : start.source.channels <;> simp_all
  obtain ⟨selection, selected⟩ := normaliseChannelSelection_ok merged
  have offered : start.source.channels ≠ none ∨ file.audio.analyseChannels ≠ some [] :=
    not_and_or.1 filled
  by_cases invalid : start.Rejected platform file.vocoder
  · obtain ⟨error, -, rejects⟩ := decision_rejected invalid empty
    rw [rejects file rfl selection selected, rejects bareFile rfl bare bareSelected]
    simp [StartRequest.DecidesAlone, offered, invalid]
  · rw [decision_accepted selected invalid, decision_accepted bareSelected invalid]
    simp only [Except.ok.injEq, Prod.mk.injEq, StartRequest.DecidesAlone, offered, invalid,
      true_and, false_or, Source.accepted_eq_iff selected alone]
    exact and_congr_right fun _ => acceptedMidi_eq_iff

/-! ## Two config texts -/

section
variable (platform : Platform) (fromStr : String → Except String FileConfig)
  (slot : FrameRegionSlot)

def StartRequest.withText (start : StartRequest) (text : String) : StartRequest :=
  { start with configYaml := some text }

def outcome (start : StartRequest) : Except AppConfigError (ConfigInput × Option ConfigMidiInput) :=
  (toAppConfig platform fromStr start slot).map AppConfig.decided

/-- The request decides the input and the MIDI input under two texts, which then agree with
each other and with a config that has a vocoder section only. -/
structure DecidesInput (start : StartRequest) (text₁ text₂ : String) : Prop where
  same : outcome platform fromStr slot (start.withText text₁) =
    outcome platform fromStr slot (start.withText text₂)
  sections : ∀ text ∈ [text₁, text₂], ∀ file, parseFileConfig fromStr text = .ok file →
    outcome platform fromStr slot (start.withText text) =
      (resolveWithOutputs platform start.args { vocoder := file.vocoder }
        [.frameRegion slot]).map AppConfig.decided
  noMidi : start.midi = none → ∀ text ∈ [text₁, text₂], ∀ config,
    toAppConfig platform fromStr (start.withText text) slot = .ok config → config.midiInput = none
  everyChannel : ∀ name, start.source = .device name none → ∀ text ∈ [text₁, text₂], ∀ config,
    toAppConfig platform fromStr (start.withText text) slot = .ok config →
      config.input = .device name none

end

section
variable {fromStr : String → Except String FileConfig} {text text₁ text₂ : String}
  {file file₁ file₂ : FileConfig} {slot : FrameRegionSlot}

theorem outcome_withText (parsed : parseFileConfig fromStr text = .ok file) :
    outcome platform fromStr slot (start.withText text) = decision platform start file := by
  have resolved : toAppConfig platform fromStr (start.withText text) slot =
      resolveWithOutputs platform start.args { file with network := {} } [.frameRegion slot] := by
    simp only [toAppConfig, StartRequest.file, StartRequest.withText, parsed, ok_bind]
    rfl
  rw [outcome, resolved, resolveWithOutputs_decided rfl]
  rfl

theorem decision_ok {input : ConfigInput} {midi : Option ConfigMidiInput}
    (decided : decision platform start file = .ok (input, midi)) :
    (∃ analyseChannels,
      normaliseChannelSelection (start.source.channels.or file.audio.analyseChannels) =
        .ok analyseChannels ∧
      start.source.input analyseChannels = .ok input) ∧
    midiInput platform file.midi start.midi = .ok midi := by
  obtain ⟨analyseChannels, selected, decided⟩ := bind_eq_ok.1 decided
  obtain ⟨input', resolved, decided⟩ := bind_eq_ok.1 decided
  obtain ⟨midi', attached, decided⟩ := bind_eq_ok.1 decided
  obtain ⟨⟨⟩, -, made⟩ := bind_eq_ok.1 decided
  cases made
  exact ⟨⟨analyseChannels, selected, resolved⟩, attached⟩

theorem decision_of_toAppConfig (parsed : parseFileConfig fromStr text = .ok file)
    (alone : start.DecidesAlone platform file) {config : AppConfig}
    (resolved : toAppConfig platform fromStr (start.withText text) slot = .ok config) :
    decision platform start { vocoder := file.vocoder } = .ok (config.input, config.midiInput) := by
  have decided : outcome platform fromStr slot (start.withText text) =
      .ok (config.input, config.midiInput) := by
    rw [outcome, resolved]
    rfl
  rwa [outcome_withText parsed, decision_eq_iff.2 alone] at decided

/-- A start request decides the input and MIDI under two texts with one vocoder section exactly
when neither text fills in a field the request leaves out. -/
theorem start_decides_iff_texts_fill_nothing (platform : Platform)
    (fromStr : String → Except String FileConfig) (slot : FrameRegionSlot) (start : StartRequest)
    (text₁ text₂ : String) (file₁ file₂ : FileConfig)
    (parsed₁ : parseFileConfig fromStr text₁ = .ok file₁)
    (parsed₂ : parseFileConfig fromStr text₂ = .ok file₂)
    (vocoder : file₁.vocoder = file₂.vocoder) :
    DecidesInput platform fromStr slot start text₁ text₂ ↔
      start.DecidesAlone platform file₁ ∧ start.DecidesAlone platform file₂ := by
  constructor
  · intro decides
    have silent : ∀ text ∈ [text₁, text₂], ∀ file, parseFileConfig fromStr text = .ok file →
        start.DecidesAlone platform file := by
      intro text member file parsed
      have sections := decides.sections text member file parsed
      rw [outcome_withText parsed, resolveWithOutputs_decided rfl] at sections
      exact decision_eq_iff.1 sections
    exact ⟨silent text₁ (by simp) file₁ parsed₁, silent text₂ (by simp) file₂ parsed₂⟩
  · rintro ⟨alone₁, alone₂⟩
    have either : ∀ text ∈ [text₁, text₂], ∃ file, parseFileConfig fromStr text = .ok file ∧
        start.DecidesAlone platform file := by
      intro text member
      rcases List.mem_pair.1 member with rfl | rfl
      · exact ⟨file₁, parsed₁, alone₁⟩
      · exact ⟨file₂, parsed₂, alone₂⟩
    refine ⟨?_, ?_, ?_, ?_⟩
    · rw [outcome_withText parsed₁, outcome_withText parsed₂, decision_eq_iff.2 alone₁,
        decision_eq_iff.2 alone₂, vocoder]
    · intro text member file parsed
      obtain ⟨file', parsed', alone⟩ := either text member
      obtain rfl : file' = file := Except.ok.inj (parsed'.symm.trans parsed)
      rw [outcome_withText parsed, resolveWithOutputs_decided rfl, decision_eq_iff.2 alone]
    · intro noMidi text member config resolved
      obtain ⟨file, parsed, alone⟩ := either text member
      obtain ⟨-, midi⟩ := decision_ok (decision_of_toAppConfig parsed alone resolved)
      rw [noMidi] at midi
      exact (Except.ok.inj midi).symm
    · intro name device text member config resolved
      obtain ⟨file, parsed, alone⟩ := either text member
      obtain ⟨⟨analyseChannels, selected, input⟩, -⟩ :=
        decision_ok (decision_of_toAppConfig parsed alone resolved)
      rw [device] at selected input
      obtain rfl : none = analyseChannels := Except.ok.inj selected
      rw [Source.input] at input
      split_ifs at input
      exact (Except.ok.inj input).symm

end
end

/-! ## A device request beside a tuning text -/

def tuningText : String := "audio:\n  analyse_channels: [0]\nmidi:\n  device_name_match: Loopback\n"

def tuningFile : FileConfig where
  audio := { analyseChannels := some [0] }
  midi := { deviceNameMatch := some "Loopback" }

def twoTexts (text : String) : Except String FileConfig :=
  if text = "\x7b\x7d" then .ok {}
  else if text = tuningText then .ok tuningFile
  else .error "not read here"

def clockRequest : StartRequest :=
  ⟨.device "Duet 3" (some [3, 1]), some (.testClock ⟨0x42F00000⟩), none⟩

def bareRequest : StartRequest := ⟨.device "Duet 3" none, none, none⟩

theorem clock_request_decides_alone :
    DecidesInput defaultPlatform twoTexts ⟨0⟩ clockRequest "\x7b\x7d" tuningText :=
  (start_decides_iff_texts_fill_nothing defaultPlatform twoTexts ⟨0⟩ clockRequest "\x7b\x7d"
    tuningText {} tuningFile (by decide) (by decide) rfl).2
    ⟨⟨.inl (by decide), .inr ⟨.inl (by simp [clockRequest, Source.NamesChannels]), .inl (by decide)⟩⟩,
      ⟨.inl (by decide), .inr ⟨.inl (by simp [clockRequest, Source.NamesChannels]), .inl (by decide)⟩⟩⟩

theorem tuning_text_fills_channels_and_midi :
    parseFileConfig twoTexts "\x7b\x7d" = .ok {} ∧
    parseFileConfig twoTexts tuningText = .ok tuningFile ∧
    tuningFile.vocoder = ({} : FileConfig).vocoder ∧
    ¬ DecidesInput defaultPlatform twoTexts ⟨0⟩ bareRequest "\x7b\x7d" tuningText := by
  refine ⟨by decide, by decide, rfl, fun decides => ?_⟩
  have differ : outcome defaultPlatform twoTexts ⟨0⟩ (bareRequest.withText "\x7b\x7d") ≠
      outcome defaultPlatform twoTexts ⟨0⟩ (bareRequest.withText tuningText) := by
    decide +kernel
  exact differ decides.same

end Phase4.Xpc
