import Phase4.App
import Phase4.Xpc.Dictionary
import Phase4.Xpc.Protocol

namespace Phase4.Xpc
open Library Config Managers Headless Bootstrap App Frames

/-! ## Requests and replies -/

def contractVersion : Int := 1

inductive LinkError where
  | contractMismatch (requested supported : Int)
  | invalidRequest (reason : String)
  | alreadyRunning
deriving DecidableEq, Repr

namespace LinkError

def eventCode : LinkError → String
  | .contractMismatch .. => "ContractMismatch"
  | .invalidRequest _ => "InvalidRequest"
  | .alreadyRunning => "AlreadyRunning"

def text : LinkError → String
  | .contractMismatch requested supported =>
      s!"This engine speaks link contract version {supported}, and the request used version {requested}"
  | .invalidRequest reason => s!"Invalid request: {reason}"
  | .alreadyRunning => "The engine is already running. Send stop before start."

end LinkError

inductive Request where
  | hello
  | listAudioDevices
  | listMidiDevices
  | start (start : StartRequest)
  | stop
deriving DecidableEq, Repr

structure XpcHost (Port : Type) extends Host Port where
  fromStr : String → Except String FileConfig
  sharesRegion : FrameRegion → Bool
  packageVersion : String

def fail (reply : Dictionary) (code message : String) : Dictionary :=
  (reply.setBool "ok" false).setValue "error"
    (.dictionary ((Dictionary.setStr [] "code" code).setStr "message" message))

def contractInt (value : Nat) : Int := min value (2 ^ 63 - 1)

def setOptional (reply : Dictionary) (key : String) : Option String → Dictionary
  | some text => reply.setStr key text
  | none => reply

def startedReply (reply : Dictionary) (ready : ReadyReport) (region : FrameRegion) : Dictionary :=
  let channels := ready.audio.channels.map fun channel => Value.int64 channel
  let reply := ((((reply.setBool "ok" true).setI64 "sample_rate" ready.audio.sampleRate).setValue
    "channels" (.array channels)).setValue "frames" (.shmem region)).setI64 "frame_bytes"
      (contractInt (frameBytes region.channelCount))
  setOptional (setOptional reply "audio_device" ready.audio.device) "midi_device" ready.midiDevice

/-! ## The service -/

structure Running (Port : Type) where
  report : ReadyReport
  engine : Engine Port
  region : FrameRegion

structure Service (Port : Type) where
  peer : Option Nat
  run : Option (Running Port)
  transactions : Nat
  monitors : Nat

structure Started (Port : Type) where
  service : Service Port
  reply : Dictionary
  engine : Engine Port := {}

section
variable {Port : Type} (host : XpcHost Port)

def start (slot : FrameRegionSlot) (request : StartRequest) (service : Service Port)
    (reply : Dictionary) : Started Port :=
  match service.run with
  | some _ =>
      { service, reply := fail reply LinkError.alreadyRunning.eventCode LinkError.alreadyRunning.text }
  | none =>
      match toAppConfig host.platform host.fromStr request slot with
      | .error error =>
          { service, reply := fail reply (configEventCode error) (error.text host.displays) }
      | .ok config =>
          match build host.toHost config {} with
          | (.error error, engine) =>
              { service, reply := fail reply (errorCode error) (error.text host.displays), engine }
          | (.ok ready, engine) =>
              match engine.region with
              | none =>
                  { service
                    reply := fail reply unknownEventCode "The frame region was not created"
                    engine := engine.shutdown host.toHost }
              | some region =>
                  if host.sharesRegion region then
                    { service := { service with
                        run := some ⟨ready, engine, region⟩
                        transactions := service.transactions + 1
                        monitors := service.monitors + 1 }
                      reply := startedReply reply ready region
                      engine }
                  else
                    { service
                      reply := fail reply unknownEventCode "The frame region could not be shared"
                      engine := engine.shutdown host.toHost }

inductive AfterReply where
  | nothing | stopped
deriving DecidableEq, Repr

def endRun (service : Service Port) : Option (Running Port) × Service Port :=
  (service.run, { service with run := none })

def audioEntry (entry : Audio.DeviceInfo) : Value :=
  let device := (Dictionary.setStr [] "name" entry.name).setBool "supported" entry.supported
  let device := entry.sampleRate.elim device fun rate => device.setI64 "sample_rate" rate
  .dictionary (entry.channels.elim device fun channels => device.setI64 "channels" channels)

def listAudioDevices (reply : Dictionary) : Dictionary :=
  match host.inputDevices with
  | .ok devices => (reply.setBool "ok" true).setValue "devices"
      (.array ((Audio.enumerateDevices devices).map audioEntry))
  | .error message =>
      fail reply unknownEventCode (withContext "Failed to query input devices" message)

def listMidiDevices (reply : Dictionary) : Dictionary :=
  match host.midiPorts with
  | .ok ports => (reply.setBool "ok" true).setValue "devices"
      (.array ((Midi.enumerateDevices host.portName ports).map fun entry =>
        .dictionary (Dictionary.setStr [] "name" entry.name)))
  | .error message =>
      fail reply unknownEventCode (withContext "Failed to initialise MIDI input" message)

def handleRequest (slot : FrameRegionSlot) (request : Request) (service : Service Port)
    (reply : Dictionary) : Service Port × Dictionary × AfterReply :=
  match request with
  | .hello =>
      (service, (((reply.setBool "ok" true).setStr "engine_version" host.packageVersion).setI64
        "contract_version" contractVersion).setI64 "band_count" (contractInt Dsp.bandCount), .nothing)
  | .listAudioDevices => (service, listAudioDevices host reply, .nothing)
  | .listMidiDevices => (service, listMidiDevices host reply, .nothing)
  | .start request =>
      let started := start host slot request service reply
      (started.service, started.reply, .nothing)
  | .stop =>
      let (running, service) := endRun service
      (service, reply.setBool "ok" true, if running.isSome then .stopped else .nothing)

def newReply : Dictionary := Dictionary.setI64 [] "v" contractVersion

def stoppedEvent (reason : String) : Dictionary :=
  ((Dictionary.setI64 [] "v" contractVersion).setStr "type" "stopped").setStr "reason" reason

/-- Serves one message, with no other thread taking a step: the service afterwards and what was
sent to whom. -/
def handleMessage (slot : FrameRegionSlot) (message : Except LinkError Request)
    (service : Service Port) : Service Port × List (Nat × Dictionary) :=
  let (service, reply, after) :=
    match message with
    | .ok request => handleRequest host slot request service newReply
    | .error error => (service, fail newReply error.eventCode error.text, .nothing)
  let send (message : Dictionary) := service.peer.toList.map fun peer => (peer, message)
  match after with
  | .nothing => (service, send reply)
  | .stopped =>
      ({ service with transactions := service.transactions - 1 },
        send reply ++ send (stoppedEvent "requested"))

end

/-! ## The devices a report names -/

section
variable {Port : Type}

theorem getValue_setOptional_self {reply : Dictionary} {key : String}
    (absent : reply.getValue key = none) (text : Option String) :
    (setOptional reply key text).getValue key = text.map fun text => .string (cString text) := by
  cases text with
  | none => exact absent
  | some text => exact Dictionary.getValue_setValue_self _ _ _

theorem getValue_setOptional_other {key other : String} (different : other ≠ key)
    (reply : Dictionary) (text : Option String) :
    (setOptional reply key text).getValue other = reply.getValue other := by
  cases text with
  | none => rfl
  | some text => exact Dictionary.getValue_setValue_other different _ _

theorem startedReply_midiDevice (ready : ReadyReport) (region : FrameRegion) :
    (startedReply newReply ready region).getValue "midi_device" =
      ready.midiDevice.map fun name => .string (cString name) := by
  refine getValue_setOptional_self ?_ _
  rw [getValue_setOptional_other (by decide)]
  rfl

/-- The report, the ready event and the start reply name the devices the engine opened. -/
structure NamesDevices (display : SocketAddr → String) (host : Host Port) (ready : ReadyReport)
    (engine : Engine Port) : Prop where
  audio : ready.audio.device = engine.stream.bind (·.description)
  midi : ready.midiDevice = engine.connected.bind host.portName
  event : (readyEvent display ready).field "midi_device" =
    some (.optional (engine.connected.bind host.portName))
  reply : ∀ region, (startedReply newReply ready region).getValue "midi_device" =
    (engine.connected.bind host.portName).map fun name => .string (cString name)

theorem namesDevices_iff {display : SocketAddr → String} {host : Host Port} {ready : ReadyReport}
    {engine : Engine Port}
    (audio : ready.audio.device = engine.stream.bind (·.description)) :
    NamesDevices display host ready engine ↔
      ready.midiDevice = engine.connected.bind host.portName := by
  constructor
  · exact fun names => names.midi
  · intro midi
    exact ⟨audio, midi, by rw [← midi]; rfl, fun region => by rw [startedReply_midiDevice, midi]⟩

/-- An engine's report names the devices it opened exactly when a MIDI device was not asked
for, or was asked for by the very name of the first port that agrees with it up to ASCII case. -/
theorem report_names_devices_iff (display : SocketAddr → String) (host : Host Port)
    (config : AppConfig) (ready : ReadyReport) (engine : Engine Port)
    (built : build host config {} = (.ok ready, engine)) :
    NamesDevices display host ready engine ↔
      ∀ name, config.midiInput = some (.device name) → ∀ ports, host.midiPorts = .ok ports →
        Midi.NamedFirst host.portName ports name := by
  obtain ⟨audio, connects, midi⟩ := build_reports built
  rw [namesDevices_iff audio, midi]
  unfold Connects at connects
  split at connects
  next name asked =>
    obtain ⟨ports, port, listed, picked, connected⟩ := connects
    rw [asked, connected]
    simp only [Option.bind_some]
    constructor
    · rintro named _ ⟨⟩ ports' listed'
      obtain rfl := Except.ok.inj (listed.symm.trans listed')
      exact (Midi.findMatchingMidiDevice_exact_iff host.toLowercase).1 ⟨port, picked, named.symm⟩
    · intro first
      obtain ⟨other, picked', named⟩ := (Midi.findMatchingMidiDevice_exact_iff host.toLowercase).2
        (first name rfl ports listed)
      obtain rfl := Option.some.inj (picked.symm.trans picked')
      exact named.symm
  next other =>
    rw [connects, Option.bind_none]
    cases asked : config.midiInput with
    | none => simp
    | some midiInput =>
        cases midiInput with
        | testClock bpm => simp
        | device name => exact absurd asked (other name)

end

/-! ## A failed start -/

section
variable {Port : Type} {host : XpcHost Port}

variable (host) in
/-- The points at which a start fails: a run is active, the config does not resolve, the engine
cannot be built, its region slot is empty, or its region cannot be shared. -/
inductive FailsAt (slot : FrameRegionSlot) (request : StartRequest) (service : Service Port) :
    Prop where
  | running (active : service.run.isSome)
  | config {error : AppConfigError}
      (unresolved : toAppConfig host.platform host.fromStr request slot = .error error)
  | engine {config : AppConfig} {error : StartError} {engine : Engine Port}
      (resolved : toAppConfig host.platform host.fromStr request slot = .ok config)
      (failed : build host.toHost config {} = (.error error, engine))
  | region {config : AppConfig} {ready : ReadyReport} {engine : Engine Port}
      (resolved : toAppConfig host.platform host.fromStr request slot = .ok config)
      (built : build host.toHost config {} = (.ok ready, engine)) (missing : engine.region = none)
  | unshared {config : AppConfig} {ready : ReadyReport} {engine : Engine Port}
      {region : FrameRegion}
      (resolved : toAppConfig host.platform host.fromStr request slot = .ok config)
      (built : build host.toHost config {} = (.ok ready, engine))
      (created : engine.region = some region) (unshared : host.sharesRegion region = false)

/-- A start that failed: the service as it was, the error alone in the reply, and no worker
left of the engine it built. -/
structure FailedStart (service : Service Port) (reply : Dictionary) (started : Started Port) :
    Prop where
  service : started.service = service
  reply : ∃ code message, started.reply = fail reply code message
  drained : started.engine.Drained

structure SuccessfulStart (service : Service Port) (reply : Dictionary)
    (started : Started Port) : Prop where
  idle : service.run = none
  accounted : started.engine.Accounted
  run : ∃ ready region, started.reply = startedReply reply ready region ∧
    started.service = { service with
      run := some ⟨ready, started.engine, region⟩
      transactions := service.transactions + 1
      monitors := service.monitors + 1 }

theorem fresh_drained : ({} : Engine Port).Drained := ⟨rfl, rfl, rfl⟩

theorem start_cases (slot : FrameRegionSlot) (request : StartRequest) (service : Service Port)
    (reply : Dictionary) :
    FailsAt host slot request service ∧
        FailedStart service reply (start host slot request service reply) ∨
      ¬ FailsAt host slot request service ∧
        SuccessfulStart service reply (start host slot request service reply) := by
  unfold start
  split
  next running active =>
    exact .inl ⟨.running (by simp [active]), ⟨rfl, ⟨_, _, rfl⟩, fresh_drained⟩⟩
  next idle =>
    split
    next error unresolved =>
      exact .inl ⟨.config unresolved, ⟨rfl, ⟨_, _, rfl⟩, fresh_drained⟩⟩
    next config resolved =>
      have holds := build_holds host.toHost config {} fresh_drained
      split
      next error engine failed =>
        exact .inl ⟨.engine resolved failed, ⟨rfl, ⟨_, _, rfl⟩, holds _ _ failed⟩⟩
      next ready engine built =>
        have accounted : engine.Accounted := holds _ _ built
        have drained := Engine.drained_shutdown accounted host.toHost
        split
        next missing => exact .inl ⟨.region resolved built missing, ⟨rfl, ⟨_, _, rfl⟩, drained⟩⟩
        next region created =>
          split
          next shared =>
            refine .inr ⟨?_, ⟨idle, accounted, ready, region, rfl, rfl⟩⟩
            rintro (active | unresolved | ⟨resolved', failed⟩ | ⟨resolved', built', missing⟩ |
              ⟨resolved', built', created', unshared⟩)
            · simp [idle] at active
            · simp [resolved] at unresolved
            · obtain rfl := Except.ok.inj (resolved.symm.trans resolved')
              simp [built] at failed
            · obtain rfl := Except.ok.inj (resolved.symm.trans resolved')
              obtain ⟨-, rfl⟩ := Prod.mk.inj (built.symm.trans built')
              simp [created] at missing
            · obtain rfl := Except.ok.inj (resolved.symm.trans resolved')
              obtain ⟨-, rfl⟩ := Prod.mk.inj (built.symm.trans built')
              obtain rfl := Option.some.inj (created.symm.trans created')
              simp [shared] at unshared
          next refused =>
            exact .inl ⟨.unshared resolved built created (by simpa using refused),
              ⟨rfl, ⟨_, _, rfl⟩, drained⟩⟩

theorem fail_newReply (code message : String) : fail newReply code message =
    [("v", .int64 contractVersion), ("ok", .bool false), ("error", .dictionary
      [("code", .string (cString code)), ("message", .string (cString message))])] := rfl

theorem failed_start_changes_nothing (host : XpcHost Port) (slot : FrameRegionSlot)
    (request : StartRequest) (service : Service Port) (fails : FailsAt host slot request service) :
    (start host slot request service newReply).service = service ∧
    (∃ code message, (start host slot request service newReply).reply =
      [("v", .int64 contractVersion), ("ok", .bool false), ("error", .dictionary
        [("code", .string code), ("message", .string message)])]) ∧
    (start host slot request service newReply).engine.Drained ∧
    ∀ nextSlot next,
      handleMessage host nextSlot next (handleMessage host slot (.ok (.start request)) service).1 =
        handleMessage host nextSlot next service := by
  have failed : FailedStart service newReply (start host slot request service newReply) := by
    rcases start_cases slot request service newReply with ⟨-, failed⟩ | ⟨never, -⟩
    · exact failed
    · exact absurd fails never
  obtain ⟨code, message, reply⟩ := failed.reply
  refine ⟨failed.service, ⟨_, _, reply.trans (fail_newReply code message)⟩, failed.drained, ?_⟩
  intro nextSlot next
  have unchanged : (handleMessage host slot (.ok (.start request)) service).1 = service :=
    failed.service
  rw [unchanged]

end

/-- A machine with one interface and two MIDI ports, which refuses to map a frame region. -/
def studioHost (grantsMapping : Bool) : XpcHost (Option String) where
  platform := defaultPlatform
  toLowercase := asciiLowercase
  inputDevices := .ok studioDevices
  displayFormat := asciiLowercase
  playStream _ := .ok ()
  midiPorts := .ok [some "Loopback USB", none, some "Loopback"]
  portName := id
  connectPort _ := .ok ()
  design := Dsp.steadyDesign
  bindWebSocket addr := .ok addr
  encodeOsc _ := .ok []
  openUdp _ _ := .ok ()
  pageSize := 16384
  grantsMapping
  mappingError := "Cannot allocate memory (os error 12)"
  displays := ⟨fun _ => "", fun _ => ""⟩
  join _ := .joined
  fromStr _ := .ok {}
  sharesRegion _ := true
  packageVersion := "0.0.21"

def toneRequest : StartRequest := ⟨.testTone ⟨0x43DC0000⟩, none, none⟩

def toneConfig : AppConfig where
  outputs := ⟨[.frameRegion ⟨0⟩], by decide, by decide⟩
  input := .calibration (.fixedTone ⟨0x43DC0000⟩)
  midiInput := none
  vocoderConfig := .default

theorem unmapped_region_changes_nothing :
    (start (studioHost false) ⟨0⟩ toneRequest ⟨some 7, none, 0, 0⟩ newReply).service =
      ⟨some 7, none, 0, 0⟩ := by
  have resolved : toAppConfig (studioHost false).platform (studioHost false).fromStr toneRequest ⟨0⟩ =
      .ok toneConfig := rfl
  have refused : (build (studioHost false).toHost toneConfig {}).1.isOk = false := by
    decide +kernel
  obtain ⟨error, failed⟩ := Attempt.run_error refused
  exact (failed_start_changes_nothing (studioHost false) ⟨0⟩ toneRequest ⟨some 7, none, 0, 0⟩
    (.engine resolved failed)).1

def midiConfig (name : String) : AppConfig where
  outputs := ⟨[.frameRegion ⟨0⟩], by decide, by decide⟩
  input := .calibration (.fixedTone ⟨0x43DC0000⟩)
  midiInput := some (.device name)
  vocoderConfig := .default

theorem whole_port_name_is_reported : ∃ ready engine,
    build (studioHost true).toHost (midiConfig "Loopback") {} = (.ok ready, engine) ∧
    NamesDevices (fun _ => "") (studioHost true).toHost ready engine := by
  have starts : (build (studioHost true).toHost (midiConfig "Loopback") {}).1.isOk = true := by
    decide +kernel
  obtain ⟨ready, built⟩ := Attempt.run_ok starts
  refine ⟨ready, _, built, (report_names_devices_iff (fun _ => "") (studioHost true).toHost
    (midiConfig "Loopback") ready _ built).2 ?_⟩
  rintro _ ⟨⟩ _ ⟨⟩
  refine ⟨[some "Loopback USB", none], some "Loopback", [], rfl, rfl, ?_⟩
  simp only [List.mem_cons, List.not_mem_nil, or_false]
  rintro other (rfl | rfl) otherName ⟨⟩
  decide

theorem part_of_a_port_name_is_reported_as_given : ∃ ready engine,
    build (studioHost true).toHost (midiConfig "usb") {} = (.ok ready, engine) ∧
    engine.connected = some (some "Loopback USB") ∧ ready.midiDevice = some "usb" ∧
    ¬ NamesDevices (fun _ => "") (studioHost true).toHost ready engine := by
  have starts : (build (studioHost true).toHost (midiConfig "usb") {}).1.isOk = true := by
    decide +kernel
  obtain ⟨ready, built⟩ := Attempt.run_ok starts
  have connected : (build (studioHost true).toHost (midiConfig "usb") {}).2.connected =
      some (some "Loopback USB") := by decide +kernel
  have reported : ready.midiDevice = some "usb" := (build_reports built).midi
  refine ⟨ready, _, built, connected, reported, fun names => ?_⟩
  have named := names.midi
  rw [connected, reported] at named
  exact absurd named (by decide)

end Phase4.Xpc
