import Phase4.Bootstrap

namespace Phase4.App
open Library Config Managers Headless Bootstrap

/-! ## Building an engine -/

section
variable {Port : Type} (host : Host Port)

/-- `App::build` without a terminal controller. -/
def build (config : AppConfig) : Boot Port ReadyReport := do
  let bootstrapped ← bootstrap host config
  let osc := config.outputs.outputs.findSome? fun
    | .osc addr => some addr
    | _ => none
  let midiDevice :=
    match config.midiInput with
    | some (.device name) => some name
    | _ => none
  pure {
    audio := bootstrapped.audio
    midiDevice
    outputs := ⟨bootstrapped.wsBoundAddr, osc⟩ }

end

section
variable {Port : Type} {host : Host Port}

theorem build_holds (host : Host Port) (config : AppConfig) :
    Attempt.Holds Engine.Drained (build host config) (fun _ => Engine.Accounted)
      fun _ => Engine.Drained :=
  .bind (bootstrap_holds config) fun _ => .pure fun _ accounted => accounted

/-! ## The devices an engine opened -/

def OpensNothing {α : Type} (step : Boot Port α) : Prop :=
  ∀ opened : Option Audio.Device → Option Port → Prop,
    Attempt.Holds (fun engine => opened engine.stream engine.connected) step
      (fun _ engine => opened engine.stream engine.connected) fun _ _ => True

theorem opensNothing_of_keeps {α : Type} {step : Boot Port α}
    (keeps : ∀ opened : Option Audio.Device → Option Port → Prop,
      Attempt.Keeps (fun engine : Engine Port => opened engine.stream engine.connected) step) :
    OpensNothing step :=
  fun opened => (keeps opened).forget

theorem opensNothing_lift {α : Type} (result : Except StartError α) :
    OpensNothing (Attempt.lift result : Boot Port α) :=
  opensNothing_of_keeps fun _ => .lift result

theorem opensNothing_resolveAudioHardware (config : AppConfig) :
    OpensNothing (resolveAudioHardware host config) :=
  opensNothing_of_keeps fun _ => keeps_resolveAudioHardware config

-- A worker and a region are handles of their own, beside the stream and the port.
theorem stable_opened (opened : Option Audio.Device → Option Port → Prop) :
    Stable fun engine : Engine Port => opened engine.stream engine.connected where
  register _ _ held := held
  region _ _ held := held

theorem opensNothing_spawnPipeline (midiSource : Option MidiInputSource) :
    OpensNothing (spawnPipeline midiSource : Boot Port PUnit) :=
  fun opened => spawnPipeline_keeps (stable_opened opened).register midiSource

theorem opensNothing_spawnOutputs (sources : OutputSources) (wsBoundAddr : Option SocketAddr)
    (outputs : List OutputConfig) :
    OpensNothing (spawnOutputs host sources wsBoundAddr outputs) :=
  opensNothing_of_keeps fun opened =>
    keeps_spawnOutputs (stable_opened opened) sources wsBoundAddr outputs

def Connects (host : Host Port) (config : AppConfig) (connected : Option Port) : Prop :=
  match config.midiInput with
  | some (.device name) => ∃ ports port, host.midiPorts = .ok ports ∧
      Midi.findMatchingMidiDevice host.portName host.toLowercase ports name = some port ∧
      connected = some port
  | _ => connected = none

theorem resolveMidiHardware_connects (config : AppConfig) :
    Attempt.Holds (fun engine => engine.stream = none ∧ engine.connected = none)
      (resolveMidiHardware host config)
      (fun _ engine => engine.stream = none ∧ Connects host config engine.connected)
      fun _ _ => True := by
  rw [resolveMidiHardware]
  split
  next off =>
    refine .pure fun engine opened => ?_
    simpa [Connects, off] using opened
  next bpm clock =>
    refine .bind (opensNothing_lift _ fun stream connected => stream = none ∧ connected = none)
      fun _ => .pure fun engine opened => ?_
    simpa [Connects, clock] using opened
  next name device =>
    refine .bind ?_ fun _ => .pure fun engine opened => opened
    have listing : Attempt.Holds
        (fun engine : Engine Port => engine.stream = none ∧ engine.connected = none)
        (Attempt.lift (host.midiPorts.mapError fun message => .midi (.midiUnavailable message)))
        (fun ports engine => engine.stream = none ∧ host.midiPorts = .ok ports)
        (fun (_ : StartError) _ => True) := by
      refine .lift (fun engine opened ports given => ⟨opened.1, ?_⟩) fun _ _ _ _ => trivial
      cases listed : host.midiPorts with
      | error message => simp [listed, Except.mapError] at given
      | ok found => simpa [listed, Except.mapError] using given
    refine .bind listing fun ports => ?_
    split
    next unmatched => exact .fail fun _ _ => trivial
    next port picked =>
      refine .bind (.lift (fun engine opened _ _ => opened) fun _ _ _ _ => trivial) fun _ =>
        .bind (.update fun engine opened => ?_) fun _ => .pure fun engine opened => opened
      obtain ⟨closed, listed⟩ := opened
      exact ⟨closed, by rw [Connects, device]; exact ⟨ports, port, listed, picked, rfl⟩⟩

theorem spawnAudioInput_opens (source : InputSource) (connects : Option Port → Prop) :
    Attempt.Holds (fun engine => engine.stream = none ∧ connects engine.connected)
      (spawnAudioInput host source)
      (fun _ engine => source.name = engine.stream.bind (·.description) ∧
        connects engine.connected) fun _ _ => True := by
  cases source with
  | calibration signal =>
      exact .update fun engine opened =>
        ⟨by simp [Engine.register, opened.1, InputSource.name], opened.2⟩
  | hardware device config =>
      rw [spawnAudioInput, startStream]
      split
      · exact .fail fun _ _ => trivial
      · exact .bind (opensNothing_lift _ fun stream connected => stream = none ∧ connects connected)
          fun _ => .update fun engine opened => ⟨rfl, opened.2⟩

theorem bootstrap_opens (config : AppConfig) :
    Attempt.Holds (fun engine => engine.stream = none ∧ engine.connected = none)
      (bootstrap host config)
      (fun bootstrapped engine => bootstrapped.audio.device = engine.stream.bind (·.description) ∧
        Connects host config engine.connected) fun _ _ => True := by
  let fresh : Option Audio.Device → Option Port → Prop :=
    fun stream connected => stream = none ∧ connected = none
  let connected : Option Audio.Device → Option Port → Prop :=
    fun stream port => stream = none ∧ Connects host config port
  refine .bind (opensNothing_lift _ fresh) fun _ =>
    .bind (opensNothing_resolveAudioHardware config fresh) fun resolved =>
    .bind (resolveMidiHardware_connects config) fun midiSource =>
    .bind (opensNothing_lift _ connected) fun _ => .bind (opensNothing_lift _ connected) fun _ =>
    .bind (opensNothing_lift _ connected) fun _ =>
    .bind (spawnAudioInput_opens resolved.source (Connects host config)) fun _ => ?_
  let opened : Option Audio.Device → Option Port → Prop := fun stream port =>
    resolved.source.name = stream.bind (·.description) ∧ Connects host config port
  refine .bind (opensNothing_spawnPipeline midiSource opened) fun _ =>
    .bind (.onError (opensNothing_spawnOutputs _ _ _ opened) fun _ _ _ => trivial) fun _ =>
    .pure fun engine held => held

/-- What a report says beside what its engine opened. -/
structure Reports (host : Host Port) (config : AppConfig) (report : ReadyReport)
    (engine : Engine Port) : Prop where
  audio : report.audio.device = engine.stream.bind (·.description)
  connects : Connects host config engine.connected
  midi : report.midiDevice =
    match config.midiInput with
    | some (.device name) => some name
    | _ => none

theorem build_reports {config : AppConfig} {report : ReadyReport} {engine : Engine Port}
    (built : build host config {} = (.ok report, engine)) : Reports host config report engine := by
  obtain ⟨bootstrapped, last, booted, made⟩ := Attempt.run_bind_ok.1 built
  cases made
  obtain ⟨audio, connects⟩ := bootstrap_opens config {} ⟨rfl, rfl⟩ (.ok bootstrapped) _ booted
  exact ⟨audio, connects, rfl⟩

end
end Phase4.App
