import Phase4.Config.Resolve

namespace Phase4.Config
open Dsp

/-! ## Resolved configurations are valid -/

section
variable {platform : Platform} {args : Args} {file : FileConfig} {extra : List OutputConfig}
  {config : AppConfig}

def ConfigInput.Sorted : ConfigInput → Prop
  | .device _ (some channels) => channels.Pairwise (· < ·)
  | _ => True

theorem namedDevice_not_blank {device : Option String} {name : String}
    (named : namedDevice device = some name) : isBlank name = false := by
  obtain ⟨-, kept⟩ := Option.filter_eq_some_iff.1 named
  simpa using kept

theorem resolveInput_valid {device : Option String} {rawChannels : Option (List ChannelIndex)}
    {input : ConfigInput}
    (resolved : resolveInput args (namedDevice device) rawChannels = .ok input) :
    validateInput input = .ok () ∧ input.Sorted := by
  obtain ⟨selection, -, resolved⟩ := bind_eq_ok.1 resolved
  obtain ⟨signal, calibrated, resolved⟩ := bind_eq_ok.1 resolved
  unfold calibrationSignal at calibrated
  cases signal with
  | some signal =>
      obtain rfl : ConfigInput.calibration signal = input := Except.ok.inj resolved
      refine ⟨?_, trivial⟩
      split at calibrated
      · obtain ⟨⟨⟩, accepted, made⟩ := bind_eq_ok.1 calibrated
        cases made
        exact accepted
      · obtain ⟨⟨⟩, accepted, made⟩ := bind_eq_ok.1 calibrated
        cases made
        exact accepted
      · cases calibrated
  | none =>
      cases named : namedDevice device with
      | none => simp [named] at resolved
      | some name =>
          simp only [named] at resolved
          obtain rfl := Except.ok.inj resolved
          cases selection with
          | none => simp [validateInput, namedDevice_not_blank named, ConfigInput.Sorted]
          | some selection =>
              simp [validateInput, namedDevice_not_blank named, ConfigInput.Sorted,
                selection.nonempty, selection.sorted]

theorem resolveMidiInput_valid {fileMidi : FileMidiConfig} {midiInput : Option ConfigMidiInput}
    (resolved : resolveMidiInput platform args fileMidi = .ok midiInput) :
    validateMidiInput platform midiInput = .ok () := by
  unfold resolveMidiInput at resolved
  split at resolved
  · obtain ⟨interval, ticks, made⟩ := bind_eq_ok.1 resolved
    cases made
    simp [validateMidiInput, ticks]
  · cases named : namedDevice (args.midi.midiDevice.or fileMidi.deviceNameMatch) with
    | none =>
        rw [named] at resolved
        cases resolved
        rfl
    | some name =>
        rw [named] at resolved
        cases resolved
        simp [validateMidiInput, namedDevice_not_blank named]

theorem resolveWebSocket_valid {network : NetworkArgs} {fileNetwork : FileNetworkConfig}
    {outputs : List OutputConfig}
    (resolved : resolveWebSocket platform network fileNetwork = .ok outputs) :
    validateOutputs platform outputs = .ok () := by
  unfold resolveWebSocket at resolved
  split at resolved
  · obtain ⟨⟨⟩, loopback, rest⟩ := bind_eq_ok.1 resolved
    obtain ⟨⟨⟩, permitted, made⟩ := bind_eq_ok.1 rest
    cases made
    exact andThen_ok.2 ⟨andThen_ok.2 ⟨loopback, permitted⟩, rfl⟩
  · cases resolved
    rfl

theorem resolveWithOutputs_ok (resolved : resolveWithOutputs platform args file extra = .ok config) :
    resolveInput args (namedDevice (args.input.audioDevice.or file.audio.deviceNameMatch))
      (args.input.audioAnalyseChannels.or file.audio.analyseChannels) = .ok config.input ∧
    resolveMidiInput platform args file.midi = .ok config.midiInput ∧
    validateVocoderFields platform config.vocoderConfig = .ok () ∧
    ∃ webSocket, resolveWebSocket platform args.network file.network = .ok webSocket ∧
      config.outputs.outputs = webSocket ++
        (args.network.oscAddr.or file.network.oscAddr).toList.map OutputConfig.osc ++ extra := by
  obtain ⟨input, inputResolved, resolved⟩ := bind_eq_ok.1 resolved
  obtain ⟨midiInput, midiResolved, resolved⟩ := bind_eq_ok.1 resolved
  obtain ⟨⟨⟩, vocoder, resolved⟩ := bind_eq_ok.1 resolved
  obtain ⟨webSocket, network, resolved⟩ := bind_eq_ok.1 resolved
  obtain ⟨outputs, built, made⟩ := bind_eq_ok.1 resolved
  cases made
  exact ⟨inputResolved, midiResolved, vocoder, webSocket, network,
    ConfigOutputs.outputs_of_new built⟩

theorem resolved_valid (resolved : resolveWithOutputs platform args file extra = .ok config)
    (extraValid : validateOutputs platform extra = .ok ()) :
    validateAppConfig platform config = .ok () ∧ config.input.Sorted := by
  obtain ⟨input, midi, vocoder, webSocket, network, outputs⟩ := resolveWithOutputs_ok resolved
  obtain ⟨inputValid, sorted⟩ := resolveInput_valid input
  refine ⟨validateAppConfig_ok.2 ⟨inputValid, resolveMidiInput_valid midi, ?_, vocoder⟩, sorted⟩
  rw [outputs, validateOutputs_ok]
  intro output member
  rcases List.mem_append.1 member with network' | own
  · rcases List.mem_append.1 network' with webSocketMember | oscMember
    · exact validateOutputs_ok.1 (resolveWebSocket_valid network) output webSocketMember
    · obtain ⟨addr, -, rfl⟩ := List.mem_map.1 oscMember
      rfl
  · exact validateOutputs_ok.1 extraValid output own

end

/-! ## Valid configurations can be asked for -/

def OutputConfig.IsNetwork : OutputConfig → Prop
  | .frameRegion _ => False
  | _ => True

def webSocketOf : List OutputConfig → Option (SocketAddr × Nat × Bool)
  | [] => none
  | .webSocket addr maxClients noBrowserOrigin :: _ => some (addr, maxClients, noBrowserOrigin)
  | _ :: rest => webSocketOf rest

def oscOf : List OutputConfig → Option SocketAddr
  | [] => none
  | .osc addr :: _ => some addr
  | _ :: rest => oscOf rest

theorem webSocketOf_eq_none {outputs : List OutputConfig}
    (absent : "WebSocket" ∉ outputs.map OutputConfig.transport) : webSocketOf outputs = none := by
  induction outputs with
  | nil => rfl
  | cons output rest ih =>
      obtain ⟨other, restAbsent⟩ := not_or.1 (List.mem_cons.not.1 absent)
      cases output with
      | webSocket addr maxClients noBrowserOrigin => exact absurd rfl other
      | osc addr => exact ih restAbsent
      | frameRegion slot => exact ih restAbsent

theorem webSocketOf_mem {outputs : List OutputConfig} {addr : SocketAddr} {maxClients : Nat}
    {noBrowserOrigin : Bool}
    (found : webSocketOf outputs = some (addr, maxClients, noBrowserOrigin)) :
    OutputConfig.webSocket addr maxClients noBrowserOrigin ∈ outputs := by
  induction outputs with
  | nil => cases found
  | cons output rest ih =>
      cases output with
      | webSocket addr maxClients noBrowserOrigin =>
          cases found
          exact List.mem_cons_self
      | osc addr => exact List.mem_cons_of_mem _ (ih found)
      | frameRegion slot => exact List.mem_cons_of_mem _ (ih found)

theorem oscOf_eq_none {outputs : List OutputConfig}
    (absent : "OSC" ∉ outputs.map OutputConfig.transport) : oscOf outputs = none := by
  induction outputs with
  | nil => rfl
  | cons output rest ih =>
      obtain ⟨other, restAbsent⟩ := not_or.1 (List.mem_cons.not.1 absent)
      cases output with
      | webSocket addr maxClients noBrowserOrigin => exact ih restAbsent
      | osc addr => exact absurd rfl other
      | frameRegion slot => exact ih restAbsent

/-- The transports in the order resolution lists them. -/
def networkOutputs (outputs : List OutputConfig) : List OutputConfig :=
  ((webSocketOf outputs).map fun ⟨addr, maxClients, noBrowserOrigin⟩ =>
    OutputConfig.webSocket addr maxClients noBrowserOrigin).toList ++
  (oscOf outputs).toList.map OutputConfig.osc

theorem networkOutputs_perm {outputs : List OutputConfig}
    (network : ∀ output ∈ outputs, output.IsNetwork)
    (distinct : (outputs.map OutputConfig.transport).Nodup) :
    (networkOutputs outputs).Perm outputs := by
  induction outputs with
  | nil => rfl
  | cons output rest ih =>
      obtain ⟨first, restDistinct⟩ := List.nodup_cons.1 distinct
      have restPerm := ih (fun other member => network other (List.mem_cons_of_mem _ member))
        restDistinct
      cases output with
      | frameRegion slot => exact (network (.frameRegion slot) (by simp)).elim
      | webSocket addr maxClients noBrowserOrigin =>
          have noOther : webSocketOf rest = none := webSocketOf_eq_none first
          simp only [networkOutputs, noOther, Option.map_none, Option.toList_none,
            List.nil_append] at restPerm
          exact restPerm.cons _
      | osc addr =>
          have noOther : oscOf rest = none := oscOf_eq_none first
          simp only [networkOutputs, noOther, Option.toList_none, List.map_nil,
            List.append_nil] at restPerm
          exact (List.perm_append_singleton _ _).trans (restPerm.cons _)

def AppConfig.args (config : AppConfig) : Args where
  calibration :=
    { testHz := match config.input with | .calibration (.fixedTone hz) => some hz | _ => none
      testSweep := match config.input with | .calibration (.sweep rate) => some rate | _ => none
      testMidiClock := match config.midiInput with | some (.testClock bpm) => some bpm | _ => none }
  input :=
    { audioDevice := match config.input with | .device name _ => some name | _ => none
      audioAnalyseChannels :=
        match config.input with | .device _ analyseChannels => analyseChannels | _ => none }
  midi := { midiDevice := match config.midiInput with | some (.device name) => some name | _ => none }
  network :=
    { wsAddr := (webSocketOf config.outputs.outputs).map fun ⟨addr, _, _⟩ => addr
      maxClients := (webSocketOf config.outputs.outputs).map fun ⟨_, maxClients, _⟩ => maxClients
      noBrowserOrigin := ((webSocketOf config.outputs.outputs).map
        fun ⟨_, _, noBrowserOrigin⟩ => noBrowserOrigin).getD false
      oscAddr := oscOf config.outputs.outputs }
  vocoder :=
    { attackMs := some config.vocoderConfig.attackMs
      releaseMs := some config.vocoderConfig.releaseMs
      freqLow := some config.vocoderConfig.freqLow
      freqHigh := some config.vocoderConfig.freqHigh
      filterQ := some config.vocoderConfig.filterQ }

theorem sortedChannels_of_sorted {channels : List ChannelIndex}
    (sorted : channels.Pairwise (· < ·)) : sortedChannels channels = channels := by
  have ordered : channels.Pairwise fun a b => decide (a ≤ b) = true :=
    sorted.imp fun below => by simpa using below.le
  have distinct : channels.IsChain (· ≠ ·) := (sorted.imp fun below => below.ne).isChain
  rw [sortedChannels, List.mergeSort_of_pairwise ordered, List.destutter_of_isChain _ _ distinct]

section
variable {platform : Platform} {config : AppConfig}

theorem resolveInput_of_valid (valid : validateInput config.input = .ok ())
    (sorted : config.input.Sorted) :
    resolveInput config.args (namedDevice config.args.input.audioDevice)
      config.args.input.audioAnalyseChannels = .ok config.input := by
  obtain ⟨outputs, input, midiInput, vocoderConfig⟩ := config
  cases input with
  | calibration signal =>
      cases signal with
      | fixedTone hz =>
          replace valid : validateTestSignal (.fixedTone hz) = .ok () := valid
          simp [resolveInput, calibrationSignal, AppConfig.args, normaliseChannelSelection, valid]
      | sweep rate =>
          replace valid : validateTestSignal (.sweep rate) = .ok () := valid
          simp [resolveInput, calibrationSignal, AppConfig.args, normaliseChannelSelection, valid]
  | device name analyseChannels =>
      rw [validateInput] at valid
      split_ifs at valid with blank empty
      cases analyseChannels with
      | none =>
          simp [resolveInput, calibrationSignal, AppConfig.args, normaliseChannelSelection, blank]
      | some channels =>
          have nonempty : channels ≠ [] := fun none_left => empty (by rw [none_left])
          simp [resolveInput, calibrationSignal, AppConfig.args, normaliseChannelSelection, blank,
            nonempty, sortedChannels_of_sorted sorted]

theorem resolveMidiInput_of_valid (valid : validateMidiInput platform config.midiInput = .ok ()) :
    resolveMidiInput platform config.args {} = .ok config.midiInput := by
  obtain ⟨outputs, input, midiInput, vocoderConfig⟩ := config
  cases midiInput with
  | none => rfl
  | some midiInput =>
      cases midiInput with
      | testClock bpm =>
          obtain ⟨interval, ticks, -⟩ := bind_eq_ok.1 valid
          simp [resolveMidiInput, AppConfig.args, ticks]
      | device name =>
          rw [validateMidiInput] at valid
          split_ifs at valid with blank
          simp [resolveMidiInput, AppConfig.args, blank]
          rfl

theorem resolveWebSocket_of_valid
    (valid : validateOutputs platform config.outputs.outputs = .ok ()) :
    resolveWebSocket platform config.args.network {} =
      .ok ((webSocketOf config.outputs.outputs).map fun ⟨addr, maxClients, noBrowserOrigin⟩ =>
        OutputConfig.webSocket addr maxClients noBrowserOrigin).toList := by
  cases found : webSocketOf config.outputs.outputs with
  | none => simp [resolveWebSocket, AppConfig.args, found]; rfl
  | some settings =>
      obtain ⟨addr, maxClients, noBrowserOrigin⟩ := settings
      have accepted := validateOutputs_ok.1 valid _ (webSocketOf_mem found)
      obtain ⟨loopback, permitted⟩ := andThen_ok.1 accepted
      simp [resolveWebSocket, AppConfig.args, found, loopback, permitted]

structure AppConfig.SameUpToOrder (config other : AppConfig) : Prop where
  input : config.input = other.input
  midiInput : config.midiInput = other.midiInput
  vocoderConfig : config.vocoderConfig = other.vocoderConfig
  outputs : config.outputs.outputs.Perm other.outputs.outputs

variable (platform config) in
def Resolvable : Prop :=
  ∃ args file resolved, resolveWithOutputs platform args file [] = .ok resolved ∧
    resolved.SameUpToOrder config

theorem resolvable_of_valid (network : ∀ output ∈ config.outputs.outputs, output.IsNetwork)
    (valid : validateAppConfig platform config = .ok ()) (sorted : config.input.Sorted) :
    Resolvable platform config := by
  obtain ⟨inputValid, midiValid, outputsValid, vocoderValid⟩ := validateAppConfig_ok.1 valid
  have sameOutputs := networkOutputs_perm network config.outputs.distinct
  have nonempty : networkOutputs config.outputs.outputs ≠ [] := by
    intro empty
    rw [empty] at sameOutputs
    exact config.outputs.nonempty sameOutputs.nil_eq.symm
  have distinct : ((networkOutputs config.outputs.outputs).map OutputConfig.transport).Nodup :=
    (sameOutputs.map _).nodup_iff.2 config.outputs.distinct
  have vocoder : resolveVocoder config.args.vocoder {} = config.vocoderConfig := rfl
  refine ⟨config.args, {}, { config with outputs := ⟨_, nonempty, distinct⟩ }, ?_,
    ⟨rfl, rfl, rfl, sameOutputs⟩⟩
  simp only [resolveWithOutputs, Option.or_none, resolveInput_of_valid inputValid sorted,
    resolveMidiInput_of_valid midiValid, resolveWebSocket_of_valid outputsValid, vocoder,
    vocoderValid, ok_bind, List.append_nil]
  exact bind_eq_ok.2 ⟨_, ConfigOutputs.new_ok nonempty distinct, rfl⟩

theorem valid_of_resolvable (resolvable : Resolvable platform config) :
    validateAppConfig platform config = .ok () ∧ config.input.Sorted := by
  obtain ⟨args, file, resolved, resolution, same⟩ := resolvable
  obtain ⟨valid, sorted⟩ := resolved_valid resolution rfl
  obtain ⟨input, midi, outputs, vocoder⟩ := validateAppConfig_ok.1 valid
  rw [same.input] at input sorted
  rw [same.midiInput] at midi
  rw [same.vocoderConfig] at vocoder
  refine ⟨validateAppConfig_ok.2 ⟨input, midi, ?_, vocoder⟩, sorted⟩
  rw [validateOutputs_ok] at outputs ⊢
  exact fun output member => outputs output (same.outputs.mem_iff.2 member)

variable (platform config) in
def AppConfig.BreaksRule : Prop :=
  (∃ name analyseChannels, config.input = .device name analyseChannels ∧ isBlank name = true) ∨
  validateMidiInput platform config.midiInput ≠ .ok () ∨
  (∃ output ∈ config.outputs.outputs, validateOutput platform output ≠ .ok ()) ∨
  validateVocoderFields platform config.vocoderConfig ≠ .ok ()

theorem validateAppConfig_of_unsorted (unsorted : ¬ config.input.Sorted) :
    validateAppConfig platform config = .ok () ↔ ¬ config.BreaksRule platform := by
  have inputValid : validateInput config.input = .ok () ↔
      ¬ ∃ name analyseChannels, config.input = .device name analyseChannels ∧
        isBlank name = true := by
    cases shape : config.input with
    | calibration signal => exact absurd (by rw [shape]; trivial) unsorted
    | device name analyseChannels =>
        have nonempty : analyseChannels ≠ some [] := by
          rintro rfl
          exact unsorted (by rw [shape]; exact List.Pairwise.nil)
        cases blank : isBlank name <;> simp [validateInput, nonempty, blank]
  rw [validateAppConfig_ok, inputValid, validateOutputs_ok]
  simp only [AppConfig.BreaksRule, not_or, not_not, not_exists, not_and]

end

/-- Checking a configuration and resolving one agree on a configuration with network outputs
exactly when its channel selection is in order or it breaks another rule. -/
theorem validation_agrees_iff (platform : Platform) (config : AppConfig)
    (network : ∀ output ∈ config.outputs.outputs, output.IsNetwork) :
    (validateAppConfig platform config = .ok () ↔ Resolvable platform config) ↔
      config.input.Sorted ∨ config.BreaksRule platform := by
  by_cases sorted : config.input.Sorted
  · simp only [sorted, true_or, iff_true]
    exact ⟨fun valid => resolvable_of_valid network valid sorted,
      fun resolvable => (valid_of_resolvable resolvable).1⟩
  · have unresolvable : ¬ Resolvable platform config :=
      fun resolvable => sorted (valid_of_resolvable resolvable).2
    simp only [sorted, unresolvable, false_or, iff_false, validateAppConfig_of_unsorted sorted,
      not_not]

/-- A configuration as a library caller can build it: one device, its channels as given, and
WebSocket output on 127.0.0.1:8889. -/
def handBuilt (channels : List ChannelIndex) : AppConfig where
  outputs := ⟨[.webSocket ⟨.v4 0x7F000001, 8889⟩ defaultMaxClients false], by decide, by decide⟩
  input := .device "Duet 3" (some channels)
  midiInput := none
  vocoderConfig := .default

theorem ordered_selection_agrees :
    validateAppConfig defaultPlatform (handBuilt [1, 3]) = .ok () ↔
      Resolvable defaultPlatform (handBuilt [1, 3]) :=
  (validation_agrees_iff defaultPlatform (handBuilt [1, 3])
    (by simp [handBuilt, OutputConfig.IsNetwork])).2
    (.inl (by simp [handBuilt, ConfigInput.Sorted]))

theorem unordered_selection_passes_validation :
    (∀ output ∈ (handBuilt [3, 1, 3]).outputs.outputs, output.IsNetwork) ∧
    validateAppConfig defaultPlatform (handBuilt [3, 1, 3]) = .ok () ∧
    ¬ Resolvable defaultPlatform (handBuilt [3, 1, 3]) := by
  refine ⟨by simp [handBuilt, OutputConfig.IsNetwork], by decide, fun resolvable => ?_⟩
  have sorted := (valid_of_resolvable resolvable).2
  simp [handBuilt, ConfigInput.Sorted] at sorted

end Phase4.Config
