import Phase4.Library.Attempt
import Phase4.Frames.Region
import Phase4.Headless
import Phase4.Managers.OscPayload

namespace Phase4.Bootstrap
open Library Dsp Config Managers Headless Frames

/-! ## The machine and a running engine -/

inductive WorkerKind where
  | generator | analyser | mapper | midiInput | webSocket | osc | frameWriter
deriving DecidableEq, Repr

inductive JoinOutcome where
  | joined | timedOut | panicked
deriving DecidableEq, Repr

inductive ListenerError where
  | bind (message : String)
  | setNonblocking (message : String)
  | localAddr (message : String)
deriving DecidableEq, Repr

def ListenerError.text (address : String) : ListenerError → String
  | bind message => withContext s!"Failed to bind WebSocket server to {address}" message
  | setNonblocking message => withContext "Failed to set listener to non-blocking" message
  | localAddr message =>
      withContext "Failed to read the bound WebSocket listener address" message

inductive UdpError where
  | new (message : String)
  | setSendBufferSize (message : String)
  | bind (message : String)
deriving DecidableEq, Repr

def UdpError.text : UdpError → String
  | new message => withContext "Failed to create UDP socket for OSC output" message
  | setSendBufferSize message =>
      withContext "Failed to set UDP send buffer size for OSC output" message
  | bind message => withContext "Failed to bind UDP socket for OSC output" message

def bundleErrorText : OscSender.StartError String → String
  | .context context cause => withContext context cause
  | .ensure text => text

/-- What the operating system, its devices and its libraries answer during a start. -/
structure Host (Port : Type) where
  platform : Platform
  toLowercase : String → String
  inputDevices : Except String (List Audio.Device)
  displayFormat : String → String
  playStream : Audio.Device → Except String Unit
  midiPorts : Except String (List Port)
  portName : Port → Option String
  connectPort : Port → Except String Unit
  design : FilterDesign
  bindWebSocket : SocketAddr → Except ListenerError SocketAddr
  encodeOsc : OscPacket → Except String (List UInt8)
  /-- An unbound socket with a send buffer of so many bytes. -/
  openUdp : SocketAddr → Nat → Except UdpError Unit
  pageSize : Nat
  grantsMapping : Bool
  mappingError : String
  displays : Displays
  join : WorkerKind → JoinOutcome

/-- The engine's handles, and a record of the workers it started and waited for. -/
structure Engine (Port : Type) where
  keepRunning : Bool := true
  stream : Option Audio.Device := none
  connected : Option Port := none
  region : Option FrameRegion := none
  registered : List WorkerKind := []
  spawned : List WorkerKind := []
  ended : List (WorkerKind × JoinOutcome) := []

abbrev Boot (Port : Type) := Attempt (Engine Port) StartError

namespace Engine
variable {Port : Type}

def register (engine : Engine Port) (kind : WorkerKind) : Engine Port :=
  { engine with registered := engine.registered ++ [kind], spawned := engine.spawned ++ [kind] }

def shutdownWorkers (host : Host Port) (engine : Engine Port) : Engine Port :=
  { engine with
    registered := []
    ended := engine.ended ++ engine.registered.map fun kind => (kind, host.join kind) }

/-- Closes the input, tells every worker to stop and waits for them. -/
def shutdown (host : Host Port) (engine : Engine Port) : Engine Port :=
  ({ engine with stream := none, keepRunning := false } : Engine Port).shutdownWorkers host

/-- Every worker that was started is either registered or has been waited for. -/
def Accounted (engine : Engine Port) : Prop :=
  engine.spawned = engine.ended.map Prod.fst ++ engine.registered

structure Drained (engine : Engine Port) : Prop where
  registered : engine.registered = []
  ended : engine.spawned = engine.ended.map Prod.fst
  stream : engine.stream = none

theorem accounted_register {engine : Engine Port} (accounted : engine.Accounted)
    (kind : WorkerKind) : (engine.register kind).Accounted := by
  unfold Accounted at accounted ⊢
  simp [register, accounted]

theorem drained_shutdown {engine : Engine Port} (accounted : engine.Accounted)
    (host : Host Port) : (engine.shutdown host).Drained := by
  unfold Accounted at accounted
  exact ⟨rfl, by simp [shutdown, shutdownWorkers, accounted, Function.comp_def], rfl⟩

end Engine

/-! ## Resolving hardware -/

inductive InputSource where
  | calibration (signal : TestSignal)
  | hardware (device : Audio.Device) (config : Audio.SupportedStreamConfig)

structure ResolvedInput where
  hwSpecs : Audio.Specs
  source : InputSource
  analyseChannels : Option (List ChannelIndex)

inductive MidiInputSource where
  | testClock (bpm : F32) (tickInterval : Nat)
  | hardware

def calibrationSampleRateHz : Nat := 44100

section
variable {Port : Type} (host : Host Port)

def liftConfig {α : Type} (result : Except AppConfigError α) : Boot Port α :=
  Attempt.lift (result.mapError .config)

def liftOther {α : Type} (result : Except String α) : Boot Port α :=
  Attempt.lift (result.mapError .untyped)

def getDevice (name : String) :
    Boot Port (Audio.Device × Audio.SupportedStreamConfig × Audio.Specs) :=
  if isBlank name then Attempt.fail (.device .emptyQuery)
  else do
    let devices ← liftOther
      (host.inputDevices.mapError (withContext "Failed to enumerate input devices"))
    Attempt.lift ((Audio.getDevice host.toLowercase devices name).mapError .device)

def resolveAudioHardware (config : AppConfig) : Boot Port ResolvedInput :=
  match config.input with
  | .calibration signal => pure ⟨⟨2, calibrationSampleRateHz⟩, .calibration signal, none⟩
  | .device name analyseChannels => do
      let (device, streamConfig, specs) ← getDevice host name
      pure ⟨specs, .hardware device streamConfig, analyseChannels⟩

def connectMidiDevice (nameQuery : String) : Boot Port MidiInputSource := do
  let ports ← Attempt.lift (host.midiPorts.mapError fun message => .midi (.midiUnavailable message))
  match Midi.findMatchingMidiDevice host.portName host.toLowercase ports nameQuery with
  | none => Attempt.fail (.midi (.midiNoMatch nameQuery))
  | some port => do
      let portName := (host.portName port).getD nameQuery
      Attempt.lift ((host.connectPort port).mapError fun message =>
        .midi (.midiConnectFailed portName message))
      Attempt.update fun engine => { engine with connected := some port }
      pure .hardware

def resolveMidiHardware (config : AppConfig) : Boot Port (Option MidiInputSource) :=
  match config.midiInput with
  | none => pure none
  | some (.testClock bpm) => do
      let tickInterval ← liftConfig (midiTickInterval host.platform bpm)
      pure (some (.testClock bpm tickInterval))
  | some (.device name) => do
      let source ← connectMidiDevice host name
      pure (some source)

def validateChannelSelection (selection : Option (List ChannelIndex)) (hwSpecs : Audio.Specs) :
    Except AppConfigError Unit :=
  match selection.bind List.max? with
  | some idx =>
      if hwSpecs.channels ≤ idx then .error (.channelIndexOutOfRange idx hwSpecs.channels)
      else .ok ()
  | none => .ok ()

/-! ## Starting workers -/

def spawnWorker (kind : WorkerKind) : Boot Port PUnit :=
  Attempt.update fun engine => engine.register kind

def startStream (device : Audio.Device) (config : Audio.SupportedStreamConfig) :
    Boot Port PUnit :=
  if config.sampleFormat ≠ "F32" then
    Attempt.fail (.device (.unsupportedFormat (host.displayFormat config.sampleFormat)))
  else do
    liftOther (host.playStream device)
    Attempt.update fun engine => { engine with stream := some device }

def spawnAudioInput : InputSource → Boot Port PUnit
  | .calibration _ => spawnWorker .generator
  | .hardware device config => startStream host device config

structure OutputSources where
  displayChannels : Nat
  sampleRate : Nat
  midiEnabled : Bool

def spawnFrameWriter (sources : OutputSources) : Boot Port PUnit := do
  let region ← Attempt.lift
    ((FrameRegion.new host.pageSize host.grantsMapping sources.displayChannels
      (BitVec.ofNat 32 sources.sampleRate) sources.midiEnabled).mapError fun error =>
        .untyped (withContext "Failed to map the frame region" (error.text host.mappingError)))
  let engine ← Attempt.read
  if engine.region.isSome then
    Attempt.fail (.untyped "The frame region slot was already filled")
  else do
    Attempt.update fun engine => { engine with region := some region }
    spawnWorker .frameWriter

def spawnOutput (sources : OutputSources) : OutputConfig → Boot Port (Option SocketAddr)
  | .webSocket addr _ _ => do
      let boundAddr ← liftOther
        ((host.bindWebSocket addr).mapError (·.text (host.displays.addr addr)))
      spawnWorker .webSocket
      pure (some boundAddr)
  | .osc addr => do
      let _ ← liftOther ((OscSender.spawn host.encodeOsc sources.displayChannels
        sources.midiEnabled).mapError bundleErrorText)
      liftOther ((host.openUdp addr (OscSender.sendBufferSize sources.displayChannels
        sources.midiEnabled)).mapError UdpError.text)
      spawnWorker .osc
      pure none
  | .frameRegion _ => do
      spawnFrameWriter host sources
      pure none

def spawnOutputs (sources : OutputSources) (wsBoundAddr : Option SocketAddr) :
    List OutputConfig → Boot Port (Option SocketAddr)
  | [] => pure wsBoundAddr
  | output :: rest => do
      let boundAddr ← spawnOutput host sources output
      spawnOutputs sources (boundAddr.or wsBoundAddr) rest

def spawnPipeline (midiSource : Option MidiInputSource) : Boot Port PUnit := do
  spawnWorker .analyser
  spawnWorker .mapper
  if midiSource.isSome then spawnWorker .midiInput else pure ⟨⟩

/-! ## Bootstrap -/

structure Bootstrapped where
  wsBoundAddr : Option SocketAddr
  audio : ReadyAudio

def InputSource.name : InputSource → Option String
  | .calibration _ => none
  | .hardware device _ => device.description

def ResolvedInput.readyAudio (resolved : ResolvedInput) : ReadyAudio where
  device := resolved.source.name
  sampleRate := resolved.hwSpecs.sampleRate
  channels :=
    match resolved.analyseChannels with
    | some channels => channels.map Fin.val
    | none => List.range resolved.hwSpecs.channels

/-- The analysed channels, counted in a `u16`. -/
def ResolvedInput.displayChannels (resolved : ResolvedInput) : Nat :=
  match resolved.analyseChannels with
  | some channels => channels.length % 2 ^ 16
  | none => resolved.hwSpecs.channels

def bootstrap (config : AppConfig) : Boot Port Bootstrapped := do
  liftConfig (validateAppConfig host.platform config)
  let resolved ← resolveAudioHardware host config
  let midiSource ← resolveMidiHardware host config
  liftConfig (validateVocoderSampleRate host.design config.vocoderConfig.freqHigh
    resolved.hwSpecs.sampleRate)
  let _ ← liftConfig
    (bandpassCoefficients host.design resolved.hwSpecs.sampleRate config.vocoderConfig)
  liftConfig (validateChannelSelection resolved.analyseChannels resolved.hwSpecs)
  spawnAudioInput host resolved.source
  spawnPipeline midiSource
  let sources : OutputSources :=
    ⟨resolved.displayChannels, resolved.hwSpecs.sampleRate, midiSource.isSome⟩
  -- The only failure with workers running, which it waits for before it returns.
  let wsBoundAddr ← (spawnOutputs host sources none config.outputs.outputs).onError
    fun engine => engine.shutdown host
  pure ⟨wsBoundAddr, resolved.readyAudio⟩

end

/-! ## Steps that keep an invariant of the engine -/

structure Stable {Port : Type} (invariant : Engine Port → Prop) : Prop where
  register : ∀ engine kind, invariant engine → invariant (engine.register kind)
  region : ∀ (engine : Engine Port) region, invariant engine →
    invariant { engine with region := some region }

section
variable {Port : Type} {host : Host Port} {invariant : Engine Port → Prop}

theorem keeps_getDevice (name : String) : Attempt.Keeps invariant (getDevice host name) := by
  unfold getDevice
  split
  · exact .fail _
  · exact .bind (.lift _) fun devices => .lift _

theorem keeps_resolveAudioHardware (config : AppConfig) :
    Attempt.Keeps invariant (resolveAudioHardware host config) := by
  unfold resolveAudioHardware
  split
  · exact .pure _
  · exact .bind (keeps_getDevice _) fun _ => .pure _

theorem spawnWorker_keeps {failed : StartError → Engine Port → Prop}
    (register : ∀ engine kind, invariant engine → invariant (engine.register kind))
    (kind : WorkerKind) : Attempt.Holds invariant (spawnWorker kind : Boot Port PUnit)
      (fun _ => invariant) failed :=
  .update fun engine kept => register engine kind kept

-- Starting a worker never fails, so nothing is asked of `failed`.
theorem spawnPipeline_keeps {failed : StartError → Engine Port → Prop}
    (register : ∀ engine kind, invariant engine → invariant (engine.register kind))
    (midiSource : Option MidiInputSource) :
    Attempt.Holds invariant (spawnPipeline midiSource : Boot Port PUnit)
      (fun _ => invariant) failed := by
  refine .bind (spawnWorker_keeps register _) fun _ =>
    .bind (spawnWorker_keeps register _) fun _ => ?_
  split
  · exact spawnWorker_keeps register _
  · exact .pure fun _ kept => kept

theorem keeps_spawnFrameWriter (stable : Stable invariant) (sources : OutputSources) :
    Attempt.Keeps invariant (spawnFrameWriter host sources) := by
  refine .bind (.lift _) fun region => .bind .read fun engine => ?_
  split
  · exact .fail _
  · exact .bind (.update fun engine kept => stable.region engine region kept)
      fun _ => spawnWorker_keeps stable.register _

theorem keeps_spawnOutput (stable : Stable invariant) (sources : OutputSources)
    (output : OutputConfig) : Attempt.Keeps invariant (spawnOutput host sources output) := by
  cases output with
  | webSocket addr maxClients noBrowserOrigin =>
      exact .bind (.lift _) fun _ => .bind (spawnWorker_keeps stable.register _) fun _ => .pure _
  | osc addr =>
      exact .bind (.lift _) fun _ => .bind (.lift _) fun _ =>
        .bind (spawnWorker_keeps stable.register _) fun _ => .pure _
  | frameRegion slot =>
      exact .bind (keeps_spawnFrameWriter stable sources) fun _ => .pure _

theorem keeps_spawnOutputs (stable : Stable invariant) (sources : OutputSources)
    (wsBoundAddr : Option SocketAddr) (outputs : List OutputConfig) :
    Attempt.Keeps invariant (spawnOutputs host sources wsBoundAddr outputs) := by
  induction outputs generalizing wsBoundAddr with
  | nil => exact .pure _
  | cons output rest ih => exact .bind (keeps_spawnOutput stable sources output) fun _ => ih _

end

/-! ## A failed start leaves no worker behind -/

section
variable {Port : Type} {host : Host Port}

abbrev Early {α : Type} (step : Boot Port α) : Prop :=
  Attempt.Holds Engine.Drained step (fun _ => Engine.Drained) fun _ => Engine.Drained

abbrev Late {α : Type} (step : Boot Port α) : Prop :=
  Attempt.Holds Engine.Accounted step (fun _ => Engine.Accounted) fun _ => Engine.Accounted

theorem early_lift {α : Type} (result : Except StartError α) :
    Early (Attempt.lift result : Boot Port α) :=
  Attempt.Keeps.lift result

theorem early_connectMidiDevice (nameQuery : String) :
    Early (connectMidiDevice host nameQuery) := by
  refine .bind (early_lift _) fun ports => ?_
  split
  · exact .fail fun _ drained => drained
  · refine .bind (early_lift _) fun _ => .bind (.update fun _ drained => ?_) fun _ =>
      .pure fun _ drained => drained
    exact ⟨drained.registered, drained.ended, drained.stream⟩

theorem early_resolveMidiHardware (config : AppConfig) :
    Early (resolveMidiHardware host config) := by
  unfold resolveMidiHardware
  split
  · exact .pure fun _ drained => drained
  · exact .bind (early_lift _) fun _ => .pure fun _ drained => drained
  · exact .bind (early_connectMidiDevice _) fun _ => .pure fun _ drained => drained

theorem Engine.Drained.accounted {engine : Engine Port} (drained : engine.Drained) :
    engine.Accounted := by
  rw [Engine.Accounted, drained.registered, drained.ended, List.append_nil]

theorem stable_accounted : Stable (@Engine.Accounted Port) where
  register _ kind accounted := Engine.accounted_register accounted kind
  region _ _ accounted := accounted

theorem spawnAudioInput_holds (source : InputSource) :
    Attempt.Holds Engine.Drained (spawnAudioInput host source) (fun _ => Engine.Accounted)
      fun _ => Engine.Drained := by
  cases source with
  | calibration signal =>
      exact .update fun _ drained => Engine.accounted_register drained.accounted _
  | hardware device config =>
      rw [spawnAudioInput, startStream]
      split
      · exact .fail fun _ drained => drained
      · exact .bind (early_lift _) fun _ => .update fun _ drained => drained.accounted

theorem late_spawnOutputs (sources : OutputSources) (wsBoundAddr : Option SocketAddr)
    (outputs : List OutputConfig) : Late (spawnOutputs host sources wsBoundAddr outputs) :=
  keeps_spawnOutputs stable_accounted sources wsBoundAddr outputs

theorem bootstrap_holds (config : AppConfig) :
    Attempt.Holds Engine.Drained (bootstrap host config) (fun _ => Engine.Accounted)
      fun _ => Engine.Drained := by
  refine .bind (early_lift _) fun _ => .bind (keeps_resolveAudioHardware config) fun resolved =>
    .bind (early_resolveMidiHardware config) fun midiSource => .bind (early_lift _) fun _ =>
    .bind (early_lift _) fun _ => .bind (early_lift _) fun _ =>
    .bind (spawnAudioInput_holds _) fun _ =>
    .bind (spawnPipeline_keeps stable_accounted.register _) fun _ => ?_
  refine .bind (.onError (late_spawnOutputs _ _ _) fun _ _ accounted => ?_) fun _ =>
    .pure fun _ accounted => accounted
  exact Engine.drained_shutdown accounted host

end
end Phase4.Bootstrap
