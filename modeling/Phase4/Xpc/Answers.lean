import Phase4.Xpc.RunHistory

namespace Phase4.Xpc
open Library Config Managers Headless Bootstrap App Frames

/-! ## What a client reads

The client's side of the link contract: the fields a reply to its request and an event have. -/

namespace Value

def asInt64 : Value → Option Int
  | .int64 value => some value
  | _ => none

def asBool : Value → Option Bool
  | .bool value => some value
  | _ => none

def asString : Value → Option String
  | .string text => some text
  | _ => none

def asShmem : Value → Option FrameRegion
  | .shmem region => some region
  | _ => none

def asArray : Value → Option (List Value)
  | .array values => some values
  | _ => none

def asDictionary : Value → Option Dictionary
  | .dictionary entries => some entries
  | _ => none

end Value

namespace Dictionary

def field {α : Type} (dictionary : Dictionary) (key : String) (read : Value → Option α) : Option α :=
  (dictionary.getValue key).bind read

/-- A field of the wrong type is an error, a field that is left out is not. -/
def optionalField {α : Type} (dictionary : Dictionary) (key : String) (read : Value → Option α) :
    Option (Option α) :=
  match dictionary.getValue key with
  | none => some none
  | some value => (read value).map some

end Dictionary

namespace Heard

structure Listed where
  name : String
  sampleRate : Option Int
  channels : Option Int
  supported : Bool

structure Started where
  audioDevice : Option String
  sampleRate : Int
  channels : List Int
  midiDevice : Option String
  frames : FrameRegion
  frameBytes : Int

inductive Reply where
  | hello (engineVersion : String) (contractVersion bandCount : Int)
  | audioDevices (devices : List Listed)
  | midiDevices (names : List String)
  | started (started : Started)
  | stopped
  | failed (code message : String)

inductive Event where
  | error (code message : String)
  | stopped (reason : String)

def Listed.read (value : Value) : Option Listed := do
  let device ← value.asDictionary
  let name ← device.field "name" Value.asString
  let sampleRate ← device.optionalField "sample_rate" Value.asInt64
  let channels ← device.optionalField "channels" Value.asInt64
  let supported ← device.field "supported" Value.asBool
  return ⟨name, sampleRate, channels, supported⟩

def readName (value : Value) : Option String := do
  let device ← value.asDictionary
  device.field "name" Value.asString

def Started.read (reply : Dictionary) : Option Started := do
  let audioDevice ← reply.optionalField "audio_device" Value.asString
  let sampleRate ← reply.field "sample_rate" Value.asInt64
  let channels ← reply.field "channels" Value.asArray
  let channels ← channels.mapM Value.asInt64
  let midiDevice ← reply.optionalField "midi_device" Value.asString
  let frames ← reply.field "frames" Value.asShmem
  let frameBytes ← reply.field "frame_bytes" Value.asInt64
  return ⟨audioDevice, sampleRate, channels, midiDevice, frames, frameBytes⟩

def readSuccess (asked : Request) (reply : Dictionary) : Option Reply :=
  match asked with
  | .hello => do
      let engineVersion ← reply.field "engine_version" Value.asString
      let version ← reply.field "contract_version" Value.asInt64
      let bandCount ← reply.field "band_count" Value.asInt64
      return .hello engineVersion version bandCount
  | .listAudioDevices => do
      let devices ← reply.field "devices" Value.asArray
      return .audioDevices (← devices.mapM Listed.read)
  | .listMidiDevices => do
      let devices ← reply.field "devices" Value.asArray
      return .midiDevices (← devices.mapM readName)
  | .start _ => do return .started (← Started.read reply)
  | .stop => some .stopped

def Reply.read (asked : Except LinkError Request) (reply : Dictionary) : Option Reply := do
  let version ← reply.field "v" Value.asInt64
  guard (version = contractVersion)
  let ok ← reply.field "ok" Value.asBool
  if ok then
    match asked with
    | .ok request => readSuccess request reply
    | .error _ => none
  else
    let error ← reply.field "error" Value.asDictionary
    let code ← error.field "code" Value.asString
    let message ← error.field "message" Value.asString
    return .failed code message

def Event.read (event : Dictionary) : Option Event := do
  let version ← event.field "v" Value.asInt64
  guard (version = contractVersion)
  match ← event.field "type" Value.asString with
  | "error" => do
      let code ← event.field "code" Value.asString
      let message ← event.field "message" Value.asString
      return .error code message
  | "stopped" => do
      let reason ← event.field "reason" Value.asString
      return .stopped reason
  | _ => none

end Heard

/-! ## What a reply says -/

section
variable {Port : Type}

def listed (entry : Audio.DeviceInfo) : Heard.Listed where
  name := cString entry.name
  sampleRate := entry.sampleRate.map Int.ofNat
  channels := entry.channels.map Int.ofNat
  supported := entry.supported

def started (ready : ReadyReport) (region : FrameRegion) : Heard.Started where
  audioDevice := ready.audio.device.map cString
  sampleRate := ready.audio.sampleRate
  channels := ready.audio.channels.map Int.ofNat
  midiDevice := ready.midiDevice.map cString
  frames := region
  frameBytes := contractInt (frameBytes region.channelCount)

theorem mapM_written {α β : Type} {read : Value → Option β} {write : α → Value} {meant : α → β}
    (reads : ∀ item, read (write item) = some (meant item)) (items : List α) :
    (items.map write).mapM read = some (items.map meant) := by
  induction items with
  | nil => rfl
  | cons item rest ih =>
      rw [List.map_cons, List.mapM_cons, reads, ih]
      rfl

theorem read_fail (asked : Except LinkError Request) (code message : String) :
    Heard.Reply.read asked (fail newReply code message) =
      some (.failed (cString code) (cString message)) :=
  rfl

theorem read_startedReply (request : StartRequest) (ready : ReadyReport) (region : FrameRegion) :
    Heard.Reply.read (.ok (.start request)) (startedReply newReply ready region) =
      some (.started (started ready region)) := by
  obtain ⟨⟨device, sampleRate, channels⟩, midiDevice, outputs⟩ := ready
  have counted : (do let channel ← channels; pure (channel : Int)) = channels.map Int.ofNat := by
    induction channels with
    | nil => rfl
    | cons channel rest ih => exact congrArg (Int.ofNat channel :: ·) ih
  have numbers := mapM_written
    (fun value => (rfl : Value.asInt64 (.int64 value) = some (id value))) (channels.map Int.ofNat)
  rw [List.map_id'] at numbers
  cases device <;> cases midiDevice
  all_goals
    rw [startedReply, counted]
    exact Option.bind_eq_some_iff.mpr ⟨_, Option.bind_eq_some_iff.mpr ⟨_, numbers, rfl⟩, rfl⟩

theorem read_audioEntry (entry : Audio.DeviceInfo) :
    Heard.Listed.read (audioEntry entry) = some (listed entry) := by
  obtain ⟨index, name, sampleRate, channels, format, supported⟩ := entry
  cases sampleRate <;> cases channels <;> rfl

end

inductive Tells {Port : Type} (host : XpcHost Port) (slot : FrameRegionSlot) :
    Except LinkError Request → Heard.Reply → Prop where
  | misunderstood (error : LinkError) :
      Tells host slot (.error error) (.failed error.eventCode (cString error.text))
  | hello : Tells host slot (.ok .hello)
      (.hello (cString host.packageVersion) contractVersion Dsp.bandCount)
  | audioDevices {devices : List Audio.Device} (found : host.inputDevices = .ok devices) :
      Tells host slot (.ok .listAudioDevices)
        (.audioDevices ((Audio.enumerateDevices devices).map listed))
  | noAudioDevices {message : String} (failed : host.inputDevices = .error message) :
      Tells host slot (.ok .listAudioDevices) (.failed unknownEventCode
        (cString (withContext "Failed to query input devices" message)))
  | midiDevices {ports : List Port} (found : host.midiPorts = .ok ports) :
      Tells host slot (.ok .listMidiDevices) (.midiDevices
        ((Midi.enumerateDevices host.portName ports).map fun entry => cString entry.name))
  | noMidiDevices {message : String} (failed : host.midiPorts = .error message) :
      Tells host slot (.ok .listMidiDevices) (.failed unknownEventCode
        (cString (withContext "Failed to initialise MIDI input" message)))
  | active (request : StartRequest) : Tells host slot (.ok (.start request))
      (.failed LinkError.alreadyRunning.eventCode (cString LinkError.alreadyRunning.text))
  | unresolved {request : StartRequest} {error : AppConfigError}
      (failed : toAppConfig host.platform host.fromStr request slot = .error error) :
      Tells host slot (.ok (.start request))
        (.failed (configEventCode error) (cString (error.text host.displays)))
  | unbuilt {request : StartRequest} {config : AppConfig} {error : StartError} {engine : Engine Port}
      (resolved : toAppConfig host.platform host.fromStr request slot = .ok config)
      (failed : build host.toHost config {} = (.error error, engine)) :
      Tells host slot (.ok (.start request))
        (.failed (errorCode error) (cString (error.text host.displays)))
  | unmapped {request : StartRequest} {config : AppConfig} {ready : ReadyReport}
      {engine : Engine Port}
      (resolved : toAppConfig host.platform host.fromStr request slot = .ok config)
      (built : build host.toHost config {} = (.ok ready, engine)) (missing : engine.region = none) :
      Tells host slot (.ok (.start request))
        (.failed unknownEventCode "The frame region was not created")
  | unshared {request : StartRequest} {config : AppConfig} {ready : ReadyReport}
      {engine : Engine Port} {region : FrameRegion}
      (resolved : toAppConfig host.platform host.fromStr request slot = .ok config)
      (built : build host.toHost config {} = (.ok ready, engine))
      (created : engine.region = some region) (unshared : host.sharesRegion region = false) :
      Tells host slot (.ok (.start request))
        (.failed unknownEventCode "The frame region could not be shared")
  | started {request : StartRequest} {config : AppConfig} {ready : ReadyReport}
      {engine : Engine Port} {region : FrameRegion}
      (resolved : toAppConfig host.platform host.fromStr request slot = .ok config)
      (built : build host.toHost config {} = (.ok ready, engine))
      (created : engine.region = some region) (shared : host.sharesRegion region = true) :
      Tells host slot (.ok (.start request)) (.started (started ready region))
  | stopped : Tells host slot (.ok .stop) .stopped

section
variable {Port : Type} {host : XpcHost Port} {slot : FrameRegionSlot}

theorem cString_of_plain {text : String} (plain : '\x00' ∉ text.toList) : cString text = text := by
  rw [cString, ← String.toList_inj, String.toList_map]
  conv_rhs => rw [← List.map_id text.toList]
  apply List.map_congr_left
  intro c member
  have other : c ≠ '\x00' := fun zero => plain (zero ▸ member)
  exact if_neg other

theorem cString_configEventCode (error : AppConfigError) :
    cString (configEventCode error) = configEventCode error := by
  apply cString_of_plain
  cases error
  all_goals
    dsimp only [configEventCode]
    decide

theorem cString_errorCode (error : StartError) : cString (errorCode error) = errorCode error := by
  cases error with
  | config error => exact cString_configEventCode error
  | device error =>
      apply cString_of_plain
      cases error
      all_goals
        dsimp only [errorCode, deviceEventCode]
        decide
  | midi error =>
      apply cString_of_plain
      cases error
      all_goals
        dsimp only [errorCode, midiEventCode]
        decide
  | untyped message =>
      show cString unknownEventCode = _
      exact cString_of_plain (by decide)

theorem cString_eventCode (error : LinkError) : cString error.eventCode = error.eventCode := by
  apply cString_of_plain
  cases error
  all_goals
    dsimp only [LinkError.eventCode]
    decide

end

namespace ServiceRun
variable {Port : Type} {host : XpcHost Port} {slot : FrameRegionSlot}

def Suits (host : XpcHost Port) (slot : FrameRegionSlot) (asked : Except LinkError Request) :
    Answer → Prop
  | .started _ body => ∃ started, Tells host slot asked (.started started) ∧
      Heard.Reply.read asked body = some (.started started)
  | .stopped body => asked = .ok .stop ∧ Heard.Reply.read asked body = some .stopped
  | .other body => ∃ reply, Tells host slot asked reply ∧
      (∀ started, reply ≠ .started started) ∧ Heard.Reply.read asked body = some reply

theorem suits_fail {asked : Except LinkError Request} {code message : String}
    (tells : Tells host slot asked (.failed code (cString message))) (plain : cString code = code) :
    Suits host slot asked (.other (fail newReply code message)) :=
  ⟨_, tells, by rintro _ ⟨⟩, by rw [read_fail, plain]⟩

def Outcome.Suits (host : XpcHost Port) (slot : FrameRegionSlot) (request : StartRequest) :
    Outcome → Prop
  | .refused reply | .dropped reply => ServiceRun.Suits host slot (.ok (.start request)) (.other reply)
  | .kept reply => ∀ app, ServiceRun.Suits host slot (.ok (.start request)) (.started app reply)

theorem suits_outcome (request : StartRequest) :
    (outcome host slot request newReply).Suits host slot request := by
  have unknown : cString unknownEventCode = unknownEventCode := cString_of_plain (by decide)
  unfold outcome
  cases resolved : toAppConfig host.platform host.fromStr request slot with
  | error error => exact suits_fail (.unresolved resolved) (cString_configEventCode error)
  | ok config =>
      dsimp only
      rcases built : build host.toHost config {} with ⟨error | ready, engine⟩
      · exact suits_fail (.unbuilt resolved built) (cString_errorCode error)
      · dsimp only
        cases created : engine.region with
        | none =>
            refine suits_fail ?_ unknown
            rw [cString_of_plain (by decide)]
            exact .unmapped resolved built created
        | some region =>
            dsimp only
            cases shared : host.sharesRegion region with
            | true => exact fun app => ⟨_, .started resolved built created shared,
                read_startedReply request ready region⟩
            | false =>
                refine suits_fail ?_ unknown
                rw [cString_of_plain (by decide)]
                exact .unshared resolved built created shared

theorem suits_handleRequest {request : Request} (service : Service Port)
    (start : ∀ asked, request ≠ .start asked) (stop : request ≠ .stop) :
    Suits host slot (.ok request) (.other (handleRequest host slot request service newReply).2.1) := by
  have unknown : cString unknownEventCode = unknownEventCode := cString_of_plain (by decide)
  cases request with
  | start asked => exact absurd rfl (start asked)
  | stop => exact absurd rfl stop
  | hello => exact ⟨_, .hello, by rintro _ ⟨⟩, rfl⟩
  | listAudioDevices =>
      simp only [handleRequest, listAudioDevices]
      cases found : host.inputDevices with
      | error message => exact suits_fail (.noAudioDevices found) unknown
      | ok devices =>
          refine ⟨_, .audioDevices found, by rintro _ ⟨⟩, ?_⟩
          exact Option.bind_eq_some_iff.mpr ⟨_, mapM_written read_audioEntry _, rfl⟩
  | listMidiDevices =>
      simp only [handleRequest, listMidiDevices]
      cases found : host.midiPorts with
      | error message => exact suits_fail (.noMidiDevices found) unknown
      | ok ports =>
          refine ⟨_, .midiDevices found, by rintro _ ⟨⟩, ?_⟩
          have name (entry : Midi.MidiDeviceInfo) : Heard.readName
              (.dictionary (Dictionary.setStr [] "name" entry.name)) = some (cString entry.name) := rfl
          exact Option.bind_eq_some_iff.mpr ⟨_, mapM_written name _, rfl⟩

/-! ## Requests and their replies over a run -/

def asked (connection : Nat) (schedule : List (Action Port)) : List (Except LinkError Request) :=
  schedule.filterMap fun
    | .deliver other (.message request) => if other = connection then some request else none
    | _ => none

def replies (connection : Nat) (sent : List (Nat × Message)) : List Answer :=
  sent.filterMap fun
    | (_, .reply asker answer) => if asker = connection then some answer else none
    | _ => none

def Given (connection : Nat) (schedule : List (Action Port)) (message : Except LinkError Request)
    (answer : Answer) : Prop :=
  ∃ host slot, Action.handle connection host slot ∈ schedule ∧ Suits host slot message answer

/-- The message a handler has taken and not replied to yet. -/
def Handler.Owes (told : Except LinkError Request → Answer → Prop) :
    Handler → Option (Except LinkError Request) → Prop
  | .received message, owed => owed = some message
  | .locking request, owed | .building request, owed => owed = some (.ok (.start request))
  | .dropping _ reply, owed =>
      ∃ request, owed = some (.ok (.start request)) ∧ told (.ok (.start request)) (.other reply)
  | .keeping app reply, owed =>
      ∃ request, owed = some (.ok (.start request)) ∧
        told (.ok (.start request)) (.started app reply)
  | .taking .stop, owed | .signalling .stop _, owed | .joining .stop _, owed
  | .draining .stop _, owed => owed = some (.ok .stop)
  | .replying answer _, owed => ∃ message, owed = some message ∧ told message answer
  | _, owed => owed = none

def HasPeer (connection : Nat) (state : State) : Action Port → State → Prop
  | .handle other _ _, _ => other = connection → state.peer.isSome = true
  | _, _ => True

structure Served (connection : Nat) (schedule : List (Action Port)) (state : State)
    (served : List (Except LinkError Request)) (owed : Option (Except LinkError Request)) :
    Prop where
  taken : ∃ before, asked connection schedule = before ++ owed.toList ∧ served.Sublist before ∧
    (AllSteps step (HasPeer connection) {} schedule → served = before)
  matched : List.Forall₂ (Given connection schedule) served (replies connection state.sent)
  owes : (state.handlers connection).Owes (Given connection schedule) owed

section
variable {connection : Nat} {state next : State} {schedule : List (Action Port)}
  {action : Action Port}

theorem asked_snoc : asked connection (schedule ++ [action]) =
    asked connection schedule ++ asked connection [action] :=
  List.filterMap_append

theorem replies_append (before after : List (Nat × Message)) :
    replies connection (before ++ after) = replies connection before ++ replies connection after :=
  List.filterMap_append

theorem replies_sent {message : Message} (sent : List (Nat × Message)) (peer : Option Nat)
    (other : ∀ answer, message ≠ .reply connection answer) :
    replies connection (sent ++ peer.toList.map fun peer => (peer, message)) =
      replies connection sent := by
  have nothing : replies connection (peer.toList.map fun peer => (peer, message)) = [] := by
    cases peer with
    | none => rfl
    | some peer =>
        cases message with
        | error | stopped => rfl
        | reply asker answer =>
            have apart : asker ≠ connection := by
              rintro rfl
              exact other answer rfl
            simp [replies, apart]
  rw [replies_append, nothing, List.append_nil]

theorem replies_own (sent : List (Nat × Message)) (peer : Option Nat) (answer : Answer) :
    replies connection (sent ++ peer.toList.map fun peer => (peer, .reply connection answer)) =
      replies connection sent ++ peer.toList.map fun _ => answer := by
  rw [replies_append]
  cases peer with
  | none => rfl
  | some peer => simp [replies]

theorem Given.mono {more : List (Action Port)} {message : Except LinkError Request} {answer : Answer}
    (told : Given connection schedule message answer) :
    Given connection (schedule ++ more) message answer := by
  obtain ⟨host, slot, member, fits⟩ := told
  exact ⟨host, slot, List.mem_append_left more member, fits⟩

theorem Handler.Owes.mono {told more : Except LinkError Request → Answer → Prop} {point : Handler}
    {owed : Option (Except LinkError Request)} (owes : point.Owes told owed)
    (weaker : ∀ message answer, told message answer → more message answer) :
    point.Owes more owed := by
  cases point with
  | dropping app reply =>
      obtain ⟨request, same, holds⟩ := owes
      exact ⟨request, same, weaker _ _ holds⟩
  | keeping app reply =>
      obtain ⟨request, same, holds⟩ := owes
      exact ⟨request, same, weaker _ _ holds⟩
  | replying answer stopped =>
      obtain ⟨message, same, holds⟩ := owes
      exact ⟨message, same, weaker _ _ holds⟩
  | taking purpose | signalling purpose | joining purpose | draining purpose =>
      cases purpose <;> exact owes
  | idle | received | locking | building | reporting | closing | clearing => exact owes

theorem owes_of_handlerStep {told : Except LinkError Request → Answer → Prop}
    {owed : Option (Except LinkError Request)}
    (fresh : ∀ message answer, Suits host slot message answer → told message answer)
    (owes : (state.handlers connection).Owes told owed)
    (moved : handlerStep host slot connection state = some next) :
    (∃ answer message, owed = some message ∧ told message answer ∧
        next.sent = state.sent ++ state.peer.toList.map (fun peer =>
          (peer, .reply connection answer)) ∧ (next.handlers connection).Owes told none) ∨
      (replies connection next.sent = replies connection state.sent ∧
        (next.handlers connection).Owes told owed) := by
  have here {moved : State} {point : Handler} :
      (moved.setHandler connection point).handlers connection = point := Function.update_self ..
  simp only [handlerStep] at moved
  split at moved
  next => cases moved
  next error at_point =>
    cases moved
    rw [at_point] at owes
    rw [here]
    exact .inr ⟨rfl, _, owes, fresh _ _ (suits_fail (.misunderstood error) (cString_eventCode error))⟩
  next request at_point =>
    cases moved
    rw [at_point] at owes
    rw [here]
    exact .inr ⟨rfl, owes⟩
  next at_point =>
    cases moved
    rw [at_point] at owes
    rw [here]
    exact .inr ⟨rfl, owes⟩
  next request start stop at_point =>
    cases moved
    rw [at_point] at owes
    rw [here]
    exact .inr ⟨rfl, _, owes, fresh _ _ (suits_handleRequest _ start stop)⟩
  next request at_point =>
    rw [at_point] at owes
    split_ifs at moved with locked active
    all_goals
      cases moved
      rw [here]
    · exact .inr ⟨rfl, _, owes, fresh _ _ (suits_fail (.active request) (cString_eventCode _))⟩
    · exact .inr ⟨rfl, owes⟩
  next request at_point =>
    rw [at_point] at owes
    have suits : (outcome host slot request newReply).Suits host slot request :=
      suits_outcome request
    split at moved
    next reply built =>
      cases moved
      rw [built] at suits
      rw [here]
      exact .inr ⟨rfl, _, owes, fresh _ _ suits⟩
    next reply built =>
      cases moved
      rw [built] at suits
      rw [here]
      exact .inr ⟨rfl, request, owes, fresh _ _ suits⟩
    next reply built =>
      cases moved
      rw [built] at suits
      rw [here]
      exact .inr ⟨rfl, request, owes, fresh _ _ (suits _)⟩
  next app reply at_point =>
    cases moved
    rw [at_point] at owes
    obtain ⟨request, same, given⟩ := owes
    rw [here]
    exact .inr ⟨rfl, _, same, given⟩
  next app reply at_point =>
    cases moved
    rw [at_point] at owes
    obtain ⟨request, same, given⟩ := owes
    rw [here]
    exact .inr ⟨rfl, _, same, given⟩
  next purpose at_point =>
    rw [at_point] at owes
    have signals (run : Nat) : (Handler.signalling purpose run).Owes told owed := by
      cases purpose <;> exact owes
    split_ifs at moved with locked
    split at moved
    next =>
      cases moved
      rw [here]
      exact .inr ⟨rfl, _, owes, fresh _ _ ⟨rfl, rfl⟩⟩
    next =>
      cases moved
      rw [here]
      exact .inr ⟨rfl, owes⟩
    next run stored =>
      cases moved
      rw [here]
      exact .inr ⟨rfl, signals run⟩
  next purpose run at_point =>
    cases moved
    rw [at_point] at owes
    rw [here]
    cases purpose <;> exact .inr ⟨rfl, owes⟩
  next purpose run at_point =>
    rw [at_point] at owes
    split_ifs at moved
    cases moved
    rw [here]
    cases purpose <;> exact .inr ⟨rfl, owes⟩
  next purpose run at_point =>
    rw [at_point] at owes
    cases purpose
    all_goals
      cases moved
      rw [here]
    · exact .inr ⟨rfl, _, owes, fresh _ _ ⟨rfl, rfl⟩⟩
    · exact .inr ⟨rfl, owes⟩
  next answer stopped at_point =>
    cases moved
    rw [at_point] at owes
    obtain ⟨message, same, given⟩ := owes
    rw [here]
    refine .inl ⟨answer, message, same, given, rfl, ?_⟩
    cases stopped <;> rfl
  next run at_point =>
    cases moved
    rw [at_point] at owes
    rw [here]
    exact .inr ⟨replies_sent _ _ (by rintro _ ⟨⟩), owes⟩
  next purpose run at_point =>
    rw [at_point] at owes
    cases purpose
    all_goals
      cases moved
      rw [here]
      exact .inr ⟨rfl, owes⟩
  next at_point =>
    cases moved
    rw [at_point] at owes
    rw [here]
    exact .inr ⟨rfl, owes⟩

theorem kept_elsewhere (moved : step state action = some next)
    (handle : ∀ host slot, action ≠ .handle connection host slot)
    (deliver : ∀ event, action ≠ .deliver connection event) :
    next.handlers connection = state.handlers connection ∧
      replies connection next.sent = replies connection state.sent := by
  have moves := moves_of_step moved
  constructor
  · cases action with
    | accept =>
        cases moves
        rw [acceptPeer_handlers]
    | deliver other event =>
        have apart : connection ≠ other := fun same => deliver event (same ▸ rfl)
        cases moves
        cases event with
        | error error =>
            cases error
            all_goals first
              | rfl
              | exact Function.update_of_ne apart _ _
        | message request => exact Function.update_of_ne apart _ _
        | oneWay | other => rfl
    | handle other host slot =>
        have apart : connection ≠ other := fun same => handle host slot (same ▸ rfl)
        obtain ⟨_, ⟨point, same⟩, _⟩ := handle_frame moves
        rw [same]
        exact Function.update_of_ne apart _ _
    | monitor index => rw [(monitor_frame moves).2.1]
    | engineFails app failure =>
        cases moves
        rfl
  · rcases sent_of_moves moves with ⟨same, _⟩ | ⟨message, sends, same⟩
    · rw [same]
    · rw [same]
      apply replies_sent
      rintro answer rfl
      cases sends with
      | reply => exact handle _ _ rfl

theorem allSteps_of_append {law : State → Action Port → State → Prop} {start : State}
    {before after : List (Action Port)} (lawful : AllSteps step law start (before ++ after)) :
    AllSteps step law start before :=
  ((allSteps_append start before after).mp lawful).1

theorem Served.elsewhere {served : List (Except LinkError Request)}
    {owed : Option (Except LinkError Request)}
    (before : Served connection schedule state served owed) (unasked : asked connection [action] = [])
    (handlers : next.handlers connection = state.handlers connection)
    (sent : replies connection next.sent = replies connection state.sent) :
    Served connection (schedule ++ [action]) next served owed := by
  obtain ⟨⟨taken, same, included, whole⟩, matched, owes⟩ := before
  refine ⟨⟨taken, ?_, included, fun lawful => whole (allSteps_of_append lawful)⟩, ?_, ?_⟩
  · rw [asked_snoc, unasked, List.append_nil, same]
  · rw [sent]
    exact matched.imp fun _ _ => Given.mono
  · rw [handlers]
    exact owes.mono fun _ _ => Given.mono

theorem served_handle {served : List (Except LinkError Request)}
    {owed : Option (Except LinkError Request)} (reached : exec step {} schedule = some state)
    (before : Served connection schedule state served owed)
    (moved : step state (.handle connection host slot) = some next) :
    ∃ served owed, Served connection (schedule ++ [.handle connection host slot]) next served owed := by
  obtain ⟨⟨taken, same, included, whole⟩, matched, owes⟩ := before
  have unasked : asked connection (schedule ++ [.handle connection host slot]) =
      taken ++ owed.toList := by
    rw [asked_snoc, same]
    exact List.append_nil _
  have fresh (message : Except LinkError Request) (answer : Answer)
      (suits : Suits host slot message answer) :
      Given connection (schedule ++ [.handle connection host slot]) message answer :=
    ⟨host, slot, List.mem_append_right _ (List.mem_singleton_self _), suits⟩
  have earlier : List.Forall₂ (Given connection (schedule ++ [.handle connection host slot])) served
      (replies connection state.sent) := matched.imp fun _ _ => Given.mono
  rcases owes_of_handlerStep fresh (owes.mono fun _ _ => Given.mono) moved with
    ⟨answer, message, owing, given, sent, done⟩ | ⟨sent, owes⟩
  · subst owing
    cases peer : state.peer with
    | none =>
        refine ⟨served, none, ⟨taken ++ [message], ?_, ?_, ?_⟩, ?_, done⟩
        · rw [unasked]
          exact (List.append_nil _).symm
        · exact included.trans (List.sublist_append_left _ _)
        · intro lawful
          have present := ((allSteps_snoc reached).mp lawful).2 next moved rfl
          rw [peer] at present
          cases present
        · rw [sent, replies_own, peer]
          simpa using earlier
    | some client =>
        refine ⟨served ++ [message], none, ⟨taken ++ [message], ?_, ?_, ?_⟩, ?_, done⟩
        · rw [unasked]
          exact (List.append_nil _).symm
        · exact included.append (List.Sublist.refl _)
        · intro lawful
          rw [whole (allSteps_of_append lawful)]
        · rw [sent, replies_own, peer]
          exact List.rel_append earlier (.cons given .nil)
  · refine ⟨served, owed, ⟨taken, unasked, included, fun lawful =>
      whole (allSteps_of_append lawful)⟩, ?_, owes⟩
    rw [sent]
    exact earlier

theorem served_deliver {served : List (Except LinkError Request)}
    {owed : Option (Except LinkError Request)} {event : Event}
    (before : Served connection schedule state served owed)
    (moved : step state (.deliver connection event : Action Port) = some next) :
    ∃ owed, Served connection (schedule ++ [.deliver connection event]) next served owed := by
  have moves := moves_of_step moved
  cases moves with
  | deliver active idle =>
  obtain ⟨⟨taken, same, included, whole⟩, matched, owes⟩ := before
  rw [idle] at owes
  subst owes
  have earlier : List.Forall₂ (Given connection (schedule ++ [.deliver connection event])) served
      (replies connection state.sent) := matched.imp fun _ _ => Given.mono
  have whole' (lawful : AllSteps step (HasPeer connection) {}
      (schedule ++ [.deliver connection event])) : served = taken :=
    whole (allSteps_of_append lawful)
  rw [Option.toList_none, List.append_nil] at same
  have here {moved : State} {point : Handler} :
      (moved.setHandler connection point).handlers connection = point := Function.update_self ..
  cases event with
  | message request =>
      refine ⟨some request, ⟨taken, ?_, included, whole'⟩, earlier, ?_⟩
      · rw [asked_snoc, same]
        simp [asked]
      · show (State.handlers (State.setHandler _ _ _) _).Owes _ _
        rw [here]
        rfl
  | oneWay | other =>
      refine ⟨none, ⟨taken, ?_, included, whole'⟩, earlier, ?_⟩
      · rw [asked_snoc, same]
        rfl
      · show (state.handlers connection).Owes _ _
        rw [idle]
        rfl
  | error error =>
      refine ⟨none, ⟨taken, ?_, included, whole'⟩, ?_, ?_⟩
      · rw [asked_snoc, same]
        rfl
      · cases error <;> exact earlier
      · cases error with
        | interrupted | other =>
            show (state.handlers connection).Owes _ _
            rw [idle]
            rfl
        | invalid | terminationImminent =>
            show (State.handlers (State.setHandler _ _ _) _).Owes _ _
            rw [here]
            rfl

theorem served_of_run (run : exec step {} schedule = some state) :
    ∃ served owed, Served connection schedule state served owed := by
  refine exec_induction (motive := fun before state =>
    exec step {} before = some state ∧ ∃ served owed, Served connection before state served owed)
    ⟨rfl, [], none, ⟨[], rfl, .refl _, fun _ => rfl⟩, .nil, rfl⟩ ?_ schedule state run |>.2
  rintro before state action next reached ⟨_, served, owed, holds⟩ moved
  refine ⟨by rw [exec_snoc, reached]; exact moved, ?_⟩
  by_cases handle : ∃ host slot, action = .handle connection host slot
  · obtain ⟨host, slot, rfl⟩ := handle
    exact served_handle reached holds moved
  by_cases deliver : ∃ event, action = .deliver connection event
  · obtain ⟨event, rfl⟩ := deliver
    exact ⟨served, served_deliver holds moved⟩
  have kept := kept_elsewhere moved (fun host slot same => handle ⟨host, slot, same⟩)
    fun event same => deliver ⟨event, same⟩
  refine ⟨served, owed, holds.elsewhere ?_ kept.1 kept.2⟩
  cases action with
  | deliver other event =>
      have apart : other ≠ connection := fun same => deliver ⟨event, same ▸ rfl⟩
      cases event <;> simp [asked, apart]
  | accept | handle | monitor | engineFails => rfl

end

/-! ## The link contract over a run -/

def Message.event : Message → Option Heard.Event
  | .reply _ _ => none
  | .error _ failure => some (.error failure.code (cString failure.text))
  | .stopped _ reason => some (.stopped reason.text)

theorem read_errorEvent (failure : EngineFailure) :
    Heard.Event.read (errorEvent failure) =
      some (.error failure.code (cString failure.text)) := by
  have version : (errorEvent failure).field "v" Value.asInt64 = some contractVersion := rfl
  have kind : (errorEvent failure).field "type" Value.asString = some "error" :=
    congrArg some (cString_of_plain (by decide))
  have code : (errorEvent failure).field "code" Value.asString = some failure.code := by
    cases failure with
    | none => exact congrArg some (cString_of_plain (by decide))
    | some message =>
        show some (cString "HardwareStreamError") = some "HardwareStreamError"
        exact congrArg some (cString_of_plain (by decide))
  have message : (errorEvent failure).field "message" Value.asString =
      some (cString failure.text) := rfl
  simp [Heard.Event.read, version, kind, code, message]

theorem read_stoppedEvent (reason : Reason) :
    Heard.Event.read (stoppedEvent reason.text) = some (.stopped reason.text) := by
  have version : (stoppedEvent reason.text).field "v" Value.asInt64 = some contractVersion := rfl
  have kind : (stoppedEvent reason.text).field "type" Value.asString = some "stopped" :=
    congrArg some (cString_of_plain (by decide))
  have told : (stoppedEvent reason.text).field "reason" Value.asString = some reason.text := by
    cases reason <;> exact congrArg some (cString_of_plain (by decide))
  simp [Heard.Event.read, version, kind, told]

theorem read_message {message : Message} {event : Heard.Event} (meant : message.event = some event) :
    Heard.Event.read message.body = some event := by
  cases message with
  | reply => cases meant
  | error run failure =>
      cases meant
      exact read_errorEvent failure
  | stopped run reason =>
      cases meant
      exact read_stoppedEvent reason

/-- The replies of a connection's handler are for its messages, in their order, none has two, and
none is without while the client stays; a client can read every reply and every event. -/
structure KeepsContract (connection : Nat) (schedule : List (Action Port)) (state : State) :
    Prop where
  replies : ∃ served, served.Sublist (asked connection schedule) ∧
    List.Forall₂ (Given connection schedule) served (replies connection state.sent) ∧
    (AllSteps step (HasPeer connection) {} schedule → state.handlers connection = .idle →
      served = asked connection schedule)
  events : ∀ peer message event, (peer, message) ∈ state.sent → message.event = some event →
    Heard.Event.read message.body = some event

theorem replies_keep_the_contract {schedule : List (Action Port)} {last : State}
    (run : exec step {} schedule = some last) (connection : Nat) :
    KeepsContract connection schedule last := by
  obtain ⟨served, owed, ⟨taken, same, included, whole⟩, matched, owes⟩ :
      ∃ served owed, Served connection schedule last served owed := served_of_run run
  refine ⟨⟨served, ?_, matched, ?_⟩, fun _ _ _ _ meant => read_message meant⟩
  · rw [same]
    exact included.trans (List.sublist_append_left _ _)
  · intro lawful idle
    rw [idle] at owes
    rw [same, whole lawful, show owed = none from owes]
    exact (List.append_nil _).symm

def helloRun : List (Action (Option String)) :=
  [.accept, .deliver 0 (.message (.ok .hello)), .handle 0 (studioHost true) ⟨0⟩,
    .handle 0 (studioHost true) ⟨0⟩]

theorem hello_is_answered : ∃ last, exec step {} helloRun = some last ∧
    (replies 0 last.sent).length = 1 ∧ KeepsContract 0 helloRun last := by
  have reached : (exec step {} helloRun).map (fun last => (replies 0 last.sent).length) = some 1 := by
    decide +kernel
  obtain ⟨last, run, answered⟩ := Option.map_eq_some_iff.mp reached
  exact ⟨last, run, answered, replies_keep_the_contract run 0⟩

end ServiceRun
end Phase4.Xpc
