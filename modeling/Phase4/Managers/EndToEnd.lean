import Phase4.Library.Relay
import Phase4.Managers.Capture
import Phase4.Managers.Mapper
import Phase4.Managers.Broadcast

namespace Phase4.Managers.EndToEnd
open Library Dsp Capture

/-! ## From the sound card to the clients

The threads of the capture, the pipeline and the server run side by side. The analyser is one
thread of two of them, and so is the mapper, whose send is the server's `publish`. -/

structure State (Filter : Type) where
  capture : Capture.State Filter
  pipeline : Mapper.Pipeline
  server : Server.State
  mapperGone : Bool

inductive Action where
  | push (data : List F32)
  | produce (observed : Nat)
  | analyse (count : Nat) (mapperGone : Bool)
  | thread (action : Mapper.Action)
  | publish
  | server (action : Server.Action)
  | stop

/-- What mono analysers of the channels show that heard all of these buffers, with the peaks of
the last one. -/
def reference {Filter : Type} (ops : Primitives Filter) (setup : VocoderSetup Filter)
    (width : Nat) (buffers : List (List F32)) : List ChannelLevel :=
  (List.range width).map fun ch =>
    ⟨Analyser.loudest (channelSamples width (buffers.getLast?.getD []) ch),
      (VocoderAnalyser.mono ops setup
        ((channelSamples width buffers.flatten ch).filter F32.isFinite)).currentBins⟩

section
variable {Filter : Type} (ops : Primitives Filter) (source : Source)

def results (mapperGone : Bool) (analyser : Analyser.State Filter) : RawPayload :=
  if mapperGone then analyser.frameData else analyser.rawTx.payload

def levelOf (payload : RawPayload) (ch : Nat) : ChannelLevel :=
  (payload.channels[ch]?).getD default

namespace State

def new (toJson : DisplayPayload → Option String) (capacity bufferLen maxClients : Nat)
    (setup : VocoderSetup Filter) : State Filter where
  capture := .init source capacity bufferLen setup
  pipeline := .new source.width
  server := .new toJson maxClients (.new (.new source.width))
  mapperGone := false

def analyse (count : Nat) (mapperGone : Bool) (state : State Filter) : Option (State Filter) := do
  let active := state.capture.analyser.activeBuffer (state.capture.ring.popSlice count).1
  let capture ← state.capture.consume ops count mapperGone
  let level := levelOf (results mapperGone capture.analyser)
  let written := if active = [] then some state.pipeline
    else Mapper.step .recycled source.width state.pipeline (.write level)
  let pipeline ← written
  return { state with capture, pipeline, mapperGone }

/-- After its results the analyser sends, or drops them if the mapper is gone. It leaves its
loop with an empty ring only. -/
def thread (action : Mapper.Action) (state : State Filter) : Option (State Filter) :=
  let moved := (Mapper.step .recycled source.width state.pipeline action).map fun pipeline =>
    { state with pipeline }
  match action with
  | .write _ | .replaceDisplay | .stop => none
  | .closed => if state.mapperGone then moved else none
  | .takeRaw => if state.mapperGone then none else moved
  | .analyserExits => if state.capture.ring.items = [] then moved else none
  | _ => moved

def publish (toJson : DisplayPayload → Option String) (state : State Filter) :
    Option (State Filter) :=
  match state.pipeline.mapper with
  | .taken payload => do
      let pipeline ← Mapper.step .recycled source.width state.pipeline .replaceDisplay
      let server ← Server.step toJson state.server (.publish payload)
      return { state with pipeline, server }
  | _ => none

def serve (toJson : DisplayPayload → Option String) (action : Server.Action)
    (state : State Filter) : Option (State Filter) :=
  let moved := (Server.step toJson state.server action).map fun server => { state with server }
  match action with
  | .publish _ | .stop => none
  | .mapperEnds => if state.pipeline.mapper = .exited then moved else none
  | _ => moved

end State

def step (toJson : DisplayPayload → Option String) (state : State Filter) :
    Action → Option (State Filter)
  | .push data => (state.capture.callPush source data).map fun capture => { state with capture }
  | .produce observed => (state.capture.produce observed).map fun capture => { state with capture }
  | .analyse count mapperGone =>
      if state.pipeline.analyser = .idle ∧
          (mapperGone = true → state.pipeline.mapper = .exited) then
        State.analyse ops source count mapperGone state
      else none
  | .thread action => state.thread source action
  | .publish => state.publish source toJson
  | .server action => state.serve toJson action
  | .stop => some { state with
      pipeline := { state.pipeline with keepRunning := false }
      server := { state.server with keepRunning := false } }

end

/-! ## What the analyser's rounds send -/

section
variable {Filter : Type} {ops : Primitives Filter} {source : Source} {setup : VocoderSetup Filter}
  {bufferLen : Nat}

theorem reference_nil (width : Nat) :
    reference ops setup width [] = List.replicate width default := by
  refine List.eq_replicate_iff.mpr ⟨by simp [reference], ?_⟩
  intro level member
  simp only [reference, List.getLast?_nil, Option.getD_none, List.flatten_nil, List.mem_map,
    List.mem_range] at member
  obtain ⟨ch, inside, rfl⟩ := member
  have silent : channelSamples width [] ch = [] := by
    rw [channelSamples, chunksExact_short (by simpa using Nat.zero_lt_of_lt inside)]
    rfl
  rw [silent, VocoderAnalyser.mono_eq]
  rfl

theorem reference_of_publishes {stream call : List F32} {payload : RawPayload} {width : Nat}
    (publishes : Analyser.Publishes ops setup width stream call payload) (positive : 0 < width)
    {before : List (List F32)}
    (all : before.flatten ++ call.take (aligned width call) = stream.take (aligned width stream)) :
    payload.channels = reference ops setup width (before ++ [call.take (aligned width call)]) := by
  obtain ⟨length, levels⟩ := publishes
  apply List.ext_getElem?
  intro ch
  by_cases inside : ch < width
  · rw [levels ch inside]
    simp only [reference, List.getLast?_concat, Option.getD_some, List.flatten_append,
      List.flatten_singleton, all, channelSamples_take_aligned positive, List.getElem?_map,
      List.getElem?_range inside, Option.map_some, VocoderAnalyser.mono_eq,
      ← VocoderAnalyser.foldl_processSample_finite]
    rfl
  · rw [List.getElem?_eq_none (by omega), List.getElem?_eq_none (by simp [reference]; omega)]

theorem take_aligned_eq_nil {width : Nat} (positive : 0 < width) (samples : List F32) :
    samples.take (aligned width samples) = [] ↔ samples.length < width := by
  rw [← List.length_eq_zero_iff, List.length_take_of_le (aligned_le width samples), aligned,
    Nat.mul_eq_zero, Nat.div_eq_zero_iff]
  omega

/-- A round that analyses whole frames adds one buffer, and sends the reference unless the mapper
is gone. -/
inductive Rounds (ops : Primitives Filter) (setup : VocoderSetup Filter) (width : Nat)
    (active : List F32) (mapperGone : Bool) (state next : Capture.State Filter) : Prop where
  | idle (empty : active = []) (analysed : next.analysed = state.analysed)
      (rawTx : next.analyser.rawTx = state.analyser.rawTx)
  | dropped (some_frame : active ≠ []) (gone : mapperGone = true)
      (analysed : next.analysed = state.analysed ++ [active])
      (rawTx : next.analyser.rawTx = state.analyser.rawTx)
  | sent (some_frame : active ≠ []) (listens : mapperGone = false)
      (analysed : next.analysed = state.analysed ++ [active])
      (version : next.analyser.rawTx.version = state.analyser.rawTx.version + 1)
      (payload : next.analyser.rawTx.payload.channels = reference ops setup width next.analysed)

theorem consume_rounds {state next : Capture.State Filter} {consumed pushed : List F32}
    {count : Nat} {mapperGone : Bool}
    (here : Invariant ops source setup bufferLen state consumed pushed)
    (moved : state.consume ops count mapperGone = some next) :
    Rounds ops setup source.width
      (state.analyser.activeBuffer (state.ring.popSlice count).1) mapperGone state next := by
  have positive := source.width_positive
  rw [State.consume] at moved
  obtain ⟨analyser, drained, rfl⟩ := Option.map_eq_some_iff.mp moved
  set samples := (state.ring.popSlice count).1
  obtain ⟨after, reached, _, sent⟩ := Analyser.drain_spec positive here.follows
    (Analyser.drain_fits here.follows drained) mapperGone
  rw [drained] at reached
  cases reached
  have active := Analyser.activeBuffer_eq here.follows samples
  have all := take_aligned_append positive consumed samples
  rw [← here.analysed] at all
  have few := take_aligned_eq_nil positive (Analyser.waiting source.width consumed samples)
  rw [← active] at few
  rcases sent with ⟨reason, same⟩ | ⟨listens, whole, version, publishes⟩
  · by_cases empty : state.analyser.activeBuffer samples = []
    · exact .idle empty (if_pos empty) same
    · have gone := reason.resolve_right fun short => empty (few.mpr short)
      exact .dropped empty gone (if_neg empty) same
  · have some_frame : state.analyser.activeBuffer samples ≠ [] := by
      intro empty
      have short := few.mp empty
      omega
    have told := reference_of_publishes publishes positive all.symm
    rw [← active] at told
    refine .sent some_frame listens (if_neg some_frame) version (told.trans ?_)
    exact congrArg (reference ops setup source.width) (if_neg some_frame).symm

/-! ## What each stage holds -/

/-- What the reference shows after the first `stage` of these buffers. -/
def Shown (ops : Primitives Filter) (setup : VocoderSetup Filter) (width : Nat)
    (buffers : List (List F32)) (stage : Nat) (channels : List ChannelLevel) : Prop :=
  stage ≤ buffers.length ∧ channels = reference ops setup width (buffers.take stage)

/-- The text of such a payload. Before the serialiser has sent any, the text is the empty payload's
if not even silence can be serialised. -/
def Tells (toJson : DisplayPayload → Option String) (ops : Primitives Filter)
    (setup : VocoderSetup Filter) (width : Nat) (buffers : List (List F32)) (stage : Nat)
    (entry : Nat × String) : Prop :=
  (∃ payload, Server.AllFinite payload ∧ toJson payload = some entry.2 ∧
    Shown ops setup width buffers stage payload.channels) ∨
  entry.1 = 0 ∧ toJson (.new width) = none ∧ entry.2 = Server.emptyDisplayPayloadJson

theorem Shown.more {width stage : Nat} {buffers : List (List F32)} {channels : List ChannelLevel}
    (shown : Shown ops setup width buffers stage channels) (later : List (List F32)) :
    Shown ops setup width (buffers ++ later) stage channels := by
  obtain ⟨bound, same⟩ := shown
  refine ⟨bound.trans (by simp), ?_⟩
  rw [same, List.take_append_of_le_length bound]

theorem Tells.more {toJson : DisplayPayload → Option String} {width stage : Nat}
    {buffers : List (List F32)} {entry : Nat × String}
    (tells : Tells toJson ops setup width buffers stage entry) (later : List (List F32)) :
    Tells toJson ops setup width (buffers ++ later) stage entry := by
  rcases tells with ⟨payload, finite, json, shown⟩ | seed
  · exact .inl ⟨payload, finite, json, shown.more later⟩
  · exact .inr seed

def Agrees (pipeline : Mapper.Pipeline) (mapperGone : Bool) (rawTx : Analyser.Watch) : Prop :=
  match pipeline.analyser with
  | .idle | .exited => rawTx = ⟨pipeline.rawTx.value, pipeline.rawTx.version⟩
  | .written =>
      if mapperGone then rawTx = ⟨pipeline.rawTx.value, pipeline.rawTx.version⟩
      else rawTx = ⟨pipeline.frameData, pipeline.rawTx.version + 1⟩
  | .taken payload => rawTx = ⟨payload, pipeline.rawTx.version + 1⟩

/-- How many buffers had been analysed for what each of the five hands holds now. -/
structure Stages where
  latest : Nat
  raw : Nat
  hand : Nat
  display : Nat
  serialised : Nat

structure Stages.Rising (stages : Stages) : Prop where
  raw : stages.raw ≤ stages.latest
  hand : stages.hand ≤ stages.raw
  display : stages.display ≤ stages.hand
  serialised : stages.serialised ≤ stages.display

structure Carries (shown : Nat → List ChannelLevel → Prop) (tells : Nat → Nat × String → Prop)
    (width : Nat) (rawTx : Analyser.Watch) (mapperGone : Bool) (pipeline : Mapper.Pipeline)
    (server : Server.State) (stages : Stages) : Prop where
  sized : Mapper.Sized width pipeline
  agrees : Agrees pipeline mapperGone rawTx
  latest : shown stages.latest rawTx.payload.channels
  raw : shown stages.raw pipeline.rawTx.value.channels
  hand : ∀ frame ∈ pipeline.inHand, shown stages.hand frame.channels
  display : shown stages.display pipeline.displayTx.value.channels
  same : server.display = pipeline.displayTx
  serialised : tells stages.serialised (server.serialised.version, server.serialised.value)
  clients : ∀ client ∈ server.clients, InOrder tells stages.serialised client.sent
  rising : stages.Rising

variable {toJson : DisplayPayload → Option String} {capacity maxClients width : Nat}

theorem allFinite_new (width : Nat) : Server.AllFinite (.new width) := by
  refine List.all_eq_true.mpr fun channel member => ?_
  have silent : channel = default := List.eq_of_mem_replicate member
  rw [silent]
  decide

theorem tells_initial (toJson : DisplayPayload → Option String) {stage : Nat}
    {buffers : List (List F32)}
    (shown : Shown ops setup width buffers stage (DisplayPayload.new width).channels) :
    Tells toJson ops setup width buffers stage
      (0, (Server.initialSerialisedSnapshot toJson (.new width) false).json) := by
  have finite := allFinite_new width
  have json := Server.serialiseDisplayPayload_json toJson (.new width) false
  rw [if_pos finite] at json
  rw [Server.initialSerialisedSnapshot, json]
  cases text : toJson (.new width) with
  | none => exact .inr ⟨rfl, text, rfl⟩
  | some text' => exact .inl ⟨.new width, finite, text, shown⟩

def State.Carried (toJson : DisplayPayload → Option String) (ops : Primitives Filter)
    (source : Source) (setup : VocoderSetup Filter) (state : State Filter) (stages : Stages) :
    Prop :=
  Carries (Shown ops setup source.width state.capture.analysed)
    (Tells toJson ops setup source.width state.capture.analysed) source.width
    state.capture.analyser.rawTx state.mapperGone state.pipeline state.server stages

theorem carried_new : (State.new source toJson capacity bufferLen maxClients setup).Carried toJson
    ops source setup ⟨0, 0, 0, 0, 0⟩ := by
  have silence : Shown ops setup source.width [] 0 (List.replicate source.width default) :=
    ⟨le_rfl, (reference_nil source.width).symm⟩
  exact {
    sized := Mapper.sized_new source.width
    agrees := rfl
    latest := silence
    raw := silence
    hand := by simp [State.new, Mapper.Pipeline.new, Mapper.Pipeline.inHand]
    display := silence
    same := rfl
    serialised := tells_initial toJson silence
    clients := by simp [State.new, Server.State.new]
    rising := ⟨le_rfl, le_rfl, le_rfl, le_rfl⟩ }

section
variable {shown later : Nat → List ChannelLevel → Prop} {tells hears : Nat → Nat × String → Prop}
  {rawTx : Analyser.Watch} {mapperGone : Bool} {pipeline next : Mapper.Pipeline}
  {server : Server.State} {stages : Stages}

theorem Carries.imp (carries : Carries shown tells width rawTx mapperGone pipeline server stages)
    (shows : ∀ stage channels, shown stage channels → later stage channels)
    (speaks : ∀ stage entry, tells stage entry → hears stage entry) :
    Carries later hears width rawTx mapperGone pipeline server stages where
  sized := carries.sized
  agrees := carries.agrees
  latest := shows _ _ carries.latest
  raw := shows _ _ carries.raw
  hand := fun frame member => shows _ _ (carries.hand frame member)
  display := shows _ _ carries.display
  same := carries.same
  serialised := speaks _ _ carries.serialised
  clients := fun client member => (carries.clients client member).imp speaks
  rising := carries.rising

theorem Carries.write (carries : Carries shown tells width rawTx mapperGone pipeline server stages)
    {level : Nat → ChannelLevel} {gone : Bool} {told : Analyser.Watch}
    (idle : pipeline.analyser = .idle)
    (moves : Mapper.Moves width pipeline (.write level) next)
    (writes : gone = true ∧ told = rawTx ∨
      gone = false ∧ told = ⟨⟨(List.range width).map level⟩, rawTx.version + 1⟩)
    {stage : Nat} (risen : stages.latest ≤ stage) (shows : shown stage told.payload.channels) :
    Carries shown tells width told gone next server { stages with latest := stage } := by
  have agrees := carries.agrees
  rw [Agrees, idle] at agrees
  have sized := carries.sized.moves moves
  cases moves
  refine { carries with
    sized, latest := shows
    agrees := ?_
    rising := { carries.rising with raw := carries.rising.raw.trans risen } }
  rcases writes with ⟨rfl, rfl⟩ | ⟨rfl, rfl⟩
  · exact agrees
  · rw [agrees]
    rfl

theorem Carries.thread (carries : Carries shown tells width rawTx mapperGone pipeline server stages)
    {action : Mapper.Action} (moves : Mapper.Moves width pipeline action next)
    (within : (∀ level, action ≠ .write level) ∧ action ≠ .replaceDisplay)
    (drops : action = .closed → mapperGone = true)
    (sends : action = .takeRaw → mapperGone = false) :
    ∃ after, Carries shown tells width rawTx mapperGone next server after ∧
      stages.raw ≤ after.raw := by
  have agrees := carries.agrees
  have hand := carries.hand
  have sized := carries.sized.moves moves
  rw [Agrees] at agrees
  rw [Mapper.Pipeline.inHand] at hand
  cases moves with
  | write level => exact absurd rfl (within.1 level)
  | replaceDisplay => exact absurd rfl within.2
  | closed written =>
      rw [written, drops rfl] at agrees
      exact ⟨stages, { carries with sized, agrees }, le_rfl⟩
  | takeRaw written =>
      rw [written, sends rfl] at agrees
      exact ⟨stages, { carries with sized, agrees }, le_rfl⟩
  | @replaceRaw payload taken =>
      rw [taken] at agrees
      have shows := carries.latest
      rw [agrees] at shows
      refine ⟨{ stages with raw := stages.latest }, { carries with
        sized, raw := shows
        agrees := ?_
        rising := { carries.rising with
          raw := le_rfl, hand := carries.rising.hand.trans carries.rising.raw } },
        carries.rising.raw⟩
      rw [agrees]
      rfl
  | analyserExits idle _ =>
      rw [idle] at agrees
      exact ⟨stages, { carries with sized, agrees }, le_rfl⟩
  | await here _ | skip here _ | select here _ | leave here _ | idleTick here _ =>
      rw [here] at hand
      exact ⟨stages, { carries with sized, hand }, le_rfl⟩
  | changed waiting _ after =>
      refine ⟨stages, { carries with sized, hand := ?_ }, le_rfl⟩
      rcases after with rfl | rfl <;> exact fun frame none_held => by cases none_held
  | senderGone waiting =>
      exact ⟨stages, { carries with sized, hand := fun frame none_held => by cases none_held },
        le_rfl⟩
  | copy midi selecting available =>
      refine ⟨{ stages with hand := stages.raw }, { carries with
        sized
        hand := fun frame member => ?_
        rising := { carries.rising with
          hand := le_rfl, display := carries.rising.display.trans carries.rising.hand } }, le_rfl⟩
      rw [List.mem_singleton.mp member]
      exact carries.raw
  | readMidi midi here =>
      rw [here] at hand
      refine ⟨stages, { carries with sized, hand := fun frame member => ?_ }, le_rfl⟩
      rw [List.mem_singleton.mp member]
      exact hand pipeline.displayData (List.mem_singleton_self _)
  | takeDisplay here =>
      rw [here] at hand
      exact ⟨stages, { carries with sized, hand }, le_rfl⟩
  | writeFrame => exact ⟨stages, { carries with sized }, le_rfl⟩
  | stop => exact ⟨stages, { carries with sized }, le_rfl⟩

theorem Carries.publish
    (carries : Carries shown tells width rawTx mapperGone pipeline server stages)
    {payload : DisplayPayload} (taken : pipeline.mapper = .taken payload)
    (moves : Mapper.Moves width pipeline .replaceDisplay next) {after : Server.State}
    (display : after.display = server.display.send payload)
    (serialised : after.serialised = server.serialised) (clients : after.clients = server.clients) :
    Carries shown tells width rawTx mapperGone next after
      { stages with display := stages.hand } := by
  have hand := carries.hand
  rw [Mapper.Pipeline.inHand, taken] at hand
  have sized := carries.sized.moves moves
  cases moves with
  | @replaceDisplay held here =>
      obtain rfl : held = payload := Mapper.MapperAt.taken.inj (here.symm.trans taken)
      refine { carries with
        sized
        hand := fun frame none_held => by cases none_held
        display := hand held (List.mem_singleton_self held)
        same := ?_
        serialised := ?_
        clients := ?_
        rising := { carries.rising with
          display := le_rfl, serialised := carries.rising.serialised.trans carries.rising.display } }
      · rw [display, carries.same]
        rfl
      · rw [serialised]
        exact carries.serialised
      · rw [clients]
        exact carries.clients

theorem Carries.serve (carries : Carries shown tells width rawTx mapperGone pipeline server stages)
    (writes : ∀ stage payload version text, Server.AllFinite payload →
      toJson payload = some text → shown stage payload.channels → tells stage (version, text))
    {action : Server.Action} {after : Server.State}
    (within : ∀ payload, action ≠ .publish payload)
    (moved : Server.step toJson server action = some after) :
    ∃ later, Carries shown tells width rawTx mapperGone pipeline after later ∧
      stages.raw ≤ later.raw := by
  have same : after.display = pipeline.displayTx := by
    rcases Server.display_of_step moved with same | ⟨payload, publishes, _⟩
    · rw [same, carries.same]
    · exact absurd publishes (within payload)
  have clients : ∀ client ∈ after.clients, InOrder tells stages.serialised client.sent := by
    intro client' member
    obtain ⟨index, found⟩ := List.mem_iff_getElem?.mp member
    rcases Server.clients_of_step moved found with
      ⟨client, here, carried⟩ | ⟨_, rfl⟩ | ⟨client, act, _, here, stepped⟩
    · rw [carried.sent]
      exact carries.clients client (List.mem_of_getElem? here)
    · exact .nil tells stages.serialised
    · have ordered := carries.clients client (List.mem_of_getElem? here)
      rcases Server.Client.step_cases stepped with ⟨rfl, _⟩ | ⟨sent, _⟩
      · exact ordered.snoc carries.serialised
      · rw [sent]
        exact ordered
  rcases Server.serialised_of_step moved with kept | ⟨json, sent, finite, text⟩
  · refine ⟨stages, { carries with same, clients, serialised := ?_ }, le_rfl⟩
    rw [kept]
    exact carries.serialised
  · have shows := carries.display
    rw [← carries.same] at shows
    refine ⟨{ stages with serialised := stages.display }, { carries with
      same
      serialised := ?_
      clients := fun client member => (clients client member).later carries.rising.serialised
      rising := { carries.rising with serialised := le_rfl } }, le_rfl⟩
    rw [sent]
    exact writes _ _ _ _ finite text shows

end

/-! ## Whole runs -/

theorem push_keeps {capture next : Capture.State Filter} {data : List F32}
    (moved : capture.callPush source data = some next) :
    next.analyser = capture.analyser ∧ next.analysed = capture.analysed := by
  unfold Capture.State.callPush at moved
  split_ifs at moved
  split at moved
  all_goals cases moved
  exact ⟨rfl, rfl⟩

theorem produce_keeps {capture next : Capture.State Filter} {observed : Nat}
    (moved : capture.produce observed = some next) :
    next.analyser = capture.analyser ∧ next.analysed = capture.analysed := by
  unfold Capture.State.produce at moved
  split at moved
  all_goals try split_ifs at moved
  all_goals cases moved
  all_goals exact ⟨rfl, rfl⟩

theorem thread_cases {state next : State Filter} {action : Mapper.Action}
    (moved : state.thread source action = some next) :
    ∃ pipeline, Mapper.step .recycled source.width state.pipeline action = some pipeline ∧
      next = { state with pipeline } ∧
      ((∀ level, action ≠ .write level) ∧ action ≠ .replaceDisplay) ∧
      (action = .closed → state.mapperGone = true) ∧
      (action = .takeRaw → state.mapperGone = false) ∧
      (action = .analyserExits → state.capture.ring.items = []) := by
  cases action with
  | write | replaceDisplay | stop => cases moved
  | closed | takeRaw | analyserExits =>
      simp only [State.thread] at moved
      split_ifs at moved with here
      obtain ⟨pipeline, stepped, rfl⟩ := Option.map_eq_some_iff.mp moved
      exact ⟨pipeline, stepped, rfl, by simp, by simp [here], by simp [here], by simp [here]⟩
  | replaceRaw | mapperChecks | rawChanged | tick | readMidi | takeDisplay | writeFrame =>
      obtain ⟨pipeline, stepped, rfl⟩ := Option.map_eq_some_iff.mp moved
      exact ⟨pipeline, stepped, rfl, by simp, by simp, by simp, by simp⟩

theorem serve_cases {state next : State Filter} {action : Server.Action}
    (moved : state.serve toJson action = some next) :
    ∃ server, Server.step toJson state.server action = some server ∧
      next = { state with server } ∧ (∀ payload, action ≠ .publish payload) ∧ action ≠ .stop ∧
      (action = .mapperEnds → state.pipeline.mapper = .exited) := by
  cases action with
  | publish | stop => cases moved
  | mapperEnds =>
      simp only [State.serve] at moved
      split_ifs at moved with exited
      obtain ⟨server, stepped, rfl⟩ := Option.map_eq_some_iff.mp moved
      exact ⟨server, stepped, rfl, by simp, by simp, fun _ => exited⟩
  | check | acceptTimeout | accept | request | spawn | serialiseChange | serialiseRefresh
  | serialiserEnds | client | joined =>
      obtain ⟨server, stepped, rfl⟩ := Option.map_eq_some_iff.mp moved
      exact ⟨server, stepped, rfl, by simp, by simp, by simp⟩

theorem analyse_cases {state next : State Filter} {count : Nat} {mapperGone : Bool}
    (moved : state.analyse ops source count mapperGone = some next) :
    ∃ capture pipeline, state.capture.consume ops count mapperGone = some capture ∧
      next = { state with capture, pipeline, mapperGone } ∧
      (state.capture.analyser.activeBuffer (state.capture.ring.popSlice count).1 = [] ∧
          pipeline = state.pipeline ∨
        state.capture.analyser.activeBuffer (state.capture.ring.popSlice count).1 ≠ [] ∧
          Mapper.step .recycled source.width state.pipeline
            (.write (levelOf (results mapperGone capture.analyser))) = some pipeline) := by
  simp only [State.analyse, Option.bind_eq_bind, Option.pure_def, Option.bind_eq_some_iff] at moved
  obtain ⟨capture, popped, pipeline, written, same⟩ := moved
  cases same
  refine ⟨capture, pipeline, popped, rfl, ?_⟩
  by_cases idle : state.capture.analyser.activeBuffer (state.capture.ring.popSlice count).1 = []
  · rw [if_pos idle] at written
    cases written
    exact .inl ⟨idle, rfl⟩
  · rw [if_neg idle] at written
    exact .inr ⟨idle, written⟩

theorem publish_cases {state next : State Filter}
    (moved : state.publish source toJson = some next) :
    ∃ payload pipeline server, state.pipeline.mapper = .taken payload ∧
      Mapper.step .recycled source.width state.pipeline .replaceDisplay = some pipeline ∧
      Server.step toJson state.server (.publish payload) = some server ∧
      next = { state with pipeline, server } := by
  simp only [State.publish] at moved
  split at moved
  next payload taken =>
    simp only [Option.bind_eq_bind, Option.pure_def, Option.bind_eq_some_iff] at moved
    obtain ⟨pipeline, stepped, server, published, same⟩ := moved
    cases same
    exact ⟨payload, pipeline, server, taken, stepped, published, rfl⟩
  next => cases moved

def Holds (toJson : DisplayPayload → Option String) (ops : Primitives Filter) (source : Source)
    (setup : VocoderSetup Filter) (bufferLen : Nat) (state : State Filter) : Prop :=
  (∃ consumed pushed, Invariant ops source setup bufferLen state.capture consumed pushed) ∧
    ∃ stages, state.Carried toJson ops source setup stages

theorem State.Carried.grown {state : State Filter} {stages : Stages}
    (carried : state.Carried toJson ops source setup stages) (more : List (List F32)) :
    Carries (Shown ops setup source.width (state.capture.analysed ++ more))
      (Tells toJson ops setup source.width (state.capture.analysed ++ more)) source.width
      state.capture.analyser.rawTx state.mapperGone state.pipeline state.server stages :=
  carried.imp (fun _ _ shown => shown.more more) (fun _ _ tells => tells.more more)

theorem carried_analyse {state next : State Filter} {stages : Stages} {count : Nat}
    {mapperGone : Bool} {consumed pushed : List F32}
    (here : Invariant ops source setup bufferLen state.capture consumed pushed)
    (carried : state.Carried toJson ops source setup stages)
    (idle : state.pipeline.analyser = .idle)
    (moved : state.analyse ops source count mapperGone = some next) :
    ∃ after, next.Carried toJson ops source setup after ∧ stages.raw ≤ after.raw := by
  obtain ⟨capture, pipeline, popped, rfl, written⟩ := analyse_cases moved
  obtain ⟨later, after⟩ := invariant_consume here popped
  rcases consume_rounds here popped with
    ⟨empty, analysed, rawTx⟩ | ⟨some_frame, gone, analysed, rawTx⟩ |
      ⟨some_frame, listens, analysed, version, payload⟩
  · obtain ⟨-, rfl⟩ := written.resolve_right fun wrote => wrote.1 empty
    refine ⟨stages, ?_, le_rfl⟩
    have agrees := carried.agrees
    rw [State.Carried, analysed, rawTx]
    refine { carried with agrees := ?_ }
    rw [Agrees, idle] at agrees ⊢
    exact agrees
  · have wrote := (written.resolve_left fun idles => some_frame idles.1).2
    have moves := Mapper.moves_of_step carried.sized wrote
    have grown := carried.grown [state.capture.analyser.activeBuffer
      (state.capture.ring.popSlice count).1]
    refine ⟨{ stages with latest := stages.latest }, ?_, le_rfl⟩
    rw [State.Carried, analysed]
    exact grown.write idle moves (.inl ⟨gone, rawTx⟩) le_rfl (by rw [rawTx]; exact grown.latest)
  · have wrote := (written.resolve_left fun idles => some_frame idles.1).2
    have moves := Mapper.moves_of_step carried.sized wrote
    have length : capture.analyser.rawTx.payload.channels.length = source.width := by
      rw [after.follows.sized.rawTx, after.follows.width]
    have all : capture.analyser.rawTx.payload =
        ⟨(List.range source.width).map (levelOf (results mapperGone capture.analyser))⟩ := by
      have same := Mapper.levels_of_payload capture.analyser.rawTx.payload
      rw [length] at same
      rw [results, listens]
      exact same
    have told : capture.analyser.rawTx = ⟨⟨(List.range source.width).map
        (levelOf (results mapperGone capture.analyser))⟩, state.capture.analyser.rawTx.version + 1⟩ := by
      rw [← all, ← version]
    have shows : Shown ops setup source.width capture.analysed capture.analysed.length
        capture.analyser.rawTx.payload.channels :=
      ⟨le_rfl, by rw [List.take_length, payload]⟩
    have risen : stages.latest ≤ capture.analysed.length := by
      rw [analysed, List.length_append]
      exact carried.latest.1.trans (Nat.le_add_right _ _)
    refine ⟨{ stages with latest := capture.analysed.length }, ?_, le_rfl⟩
    rw [State.Carried]
    have grown := carried.grown [state.capture.analyser.activeBuffer
      (state.capture.ring.popSlice count).1]
    rw [← analysed] at grown
    exact grown.write idle moves (.inr ⟨listens, told⟩) risen shows

theorem captured_step {state next : State Filter} {action : Action} {consumed pushed : List F32}
    (here : Invariant ops source setup bufferLen state.capture consumed pushed)
    (moved : step ops source toJson state action = some next) :
    ∃ consumed pushed, Invariant ops source setup bufferLen next.capture consumed pushed := by
  cases action with
  | push data =>
      obtain ⟨after, pushes, rfl⟩ := Option.map_eq_some_iff.mp moved
      exact ⟨consumed, pushed, invariant_push here pushes⟩
  | produce observed =>
      obtain ⟨after, produces, rfl⟩ := Option.map_eq_some_iff.mp moved
      obtain ⟨more, later⟩ := invariant_produce here produces
      exact ⟨consumed, more, later⟩
  | analyse count mapperGone =>
      simp only [step] at moved
      split_ifs at moved with ready
      obtain ⟨capture, pipeline, popped, rfl, -⟩ := analyse_cases moved
      obtain ⟨later, after⟩ := invariant_consume here popped
      exact ⟨later, pushed, after⟩
  | thread action =>
      obtain ⟨pipeline, -, rfl, -⟩ := thread_cases moved
      exact ⟨consumed, pushed, here⟩
  | publish =>
      obtain ⟨payload, pipeline, server, -, -, -, rfl⟩ := publish_cases moved
      exact ⟨consumed, pushed, here⟩
  | server action =>
      obtain ⟨server, -, rfl, -⟩ := serve_cases moved
      exact ⟨consumed, pushed, here⟩
  | stop =>
      cases moved
      exact ⟨consumed, pushed, here⟩

theorem carried_step {state next : State Filter} {stages : Stages} {action : Action}
    {consumed pushed : List F32}
    (here : Invariant ops source setup bufferLen state.capture consumed pushed)
    (carried : state.Carried toJson ops source setup stages)
    (moved : step ops source toJson state action = some next) :
    ∃ after, next.Carried toJson ops source setup after ∧ stages.raw ≤ after.raw := by
  cases action with
  | push data =>
      obtain ⟨after, pushes, rfl⟩ := Option.map_eq_some_iff.mp moved
      obtain ⟨analyser, analysed⟩ := push_keeps pushes
      refine ⟨stages, ?_, le_rfl⟩
      rw [State.Carried, analyser, analysed]
      exact carried
  | produce observed =>
      obtain ⟨after, produces, rfl⟩ := Option.map_eq_some_iff.mp moved
      obtain ⟨analyser, analysed⟩ := produce_keeps produces
      refine ⟨stages, ?_, le_rfl⟩
      rw [State.Carried, analyser, analysed]
      exact carried
  | analyse count mapperGone =>
      simp only [step] at moved
      split_ifs at moved with ready
      exact carried_analyse here carried ready.1 moved
  | thread action =>
      obtain ⟨pipeline, stepped, rfl, within, drops, sends, -⟩ := thread_cases moved
      have moves := Mapper.moves_of_step carried.sized stepped
      exact carried.thread moves within drops sends
  | publish =>
      obtain ⟨payload, pipeline, server, taken, stepped, published, rfl⟩ := publish_cases moved
      have moves := Mapper.moves_of_step carried.sized stepped
      simp only [Server.step] at published
      split_ifs at published
      cases published
      exact ⟨_, carried.publish taken moves rfl rfl rfl, le_rfl⟩
  | server action =>
      obtain ⟨server, stepped, rfl, within, -⟩ := serve_cases moved
      exact carried.serve (fun stage payload version text finite json shown =>
        .inl ⟨payload, finite, json, shown⟩) within stepped
  | stop =>
      cases moved
      have moves : Mapper.Moves source.width state.pipeline .stop _ := .stop
      exact ⟨stages, { carried with sized := carried.sized.moves moves }, le_rfl⟩

theorem holds_step {state next : State Filter} {action : Action}
    (holds : Holds toJson ops source setup bufferLen state)
    (moved : step ops source toJson state action = some next) :
    Holds toJson ops source setup bufferLen next := by
  obtain ⟨⟨consumed, pushed, here⟩, stages, carried⟩ := holds
  obtain ⟨after, later, -⟩ := carried_step here carried moved
  exact ⟨captured_step here moved, after, later⟩

theorem holds_run {schedule : List Action} {last : State Filter}
    (run : exec (step ops source toJson)
      (.new source toJson capacity bufferLen maxClients setup) schedule = some last) :
    Holds toJson ops source setup bufferLen last :=
  exec_invariant (motive := Holds toJson ops source setup bufferLen)
    ⟨⟨[], [], invariant_init⟩, _, carried_new⟩ (fun _ _ _ => holds_step) run

theorem ordered_step {state next : State Filter} {action : Action}
    (ordered : Server.OrderedClients state.server)
    (moved : step ops source toJson state action = some next) :
    Server.OrderedClients next.server := by
  cases action with
  | push data =>
      obtain ⟨after, -, rfl⟩ := Option.map_eq_some_iff.mp moved
      exact ordered
  | produce observed =>
      obtain ⟨after, -, rfl⟩ := Option.map_eq_some_iff.mp moved
      exact ordered
  | analyse count mapperGone =>
      simp only [step] at moved
      split_ifs at moved
      obtain ⟨capture, pipeline, -, rfl, -⟩ := analyse_cases moved
      exact ordered
  | thread action =>
      obtain ⟨pipeline, -, rfl, -⟩ := thread_cases moved
      exact ordered
  | publish =>
      obtain ⟨payload, pipeline, server, -, -, published, rfl⟩ := publish_cases moved
      exact Server.orderedClients_step ordered published
  | server action =>
      obtain ⟨server, stepped, rfl, -⟩ := serve_cases moved
      exact Server.orderedClients_step ordered stepped
  | stop =>
      cases moved
      exact ordered

theorem ordered_run {schedule : List Action} {last : State Filter}
    (run : exec (step ops source toJson)
      (.new source toJson capacity bufferLen maxClients setup) schedule = some last) :
    Server.OrderedClients last.server :=
  exec_invariant (motive := fun state => Server.OrderedClients state.server)
    (by simp [Server.OrderedClients, State.new, Server.State.new]) (fun _ _ _ => ordered_step) run

/-- However the threads interleave, what a client is told are the texts of what reference
analysers show that heard the accepted frames up to some buffer, and it never goes back. Versions
rise, so only its first text can be from before the serialiser had sent any. -/
theorem clients_are_told_the_reference (ops : Primitives Filter) (source : Source)
    (toJson : DisplayPayload → Option String) (capacity bufferLen maxClients : Nat)
    (setup : VocoderSetup Filter) {schedule : List Action} {last : State Filter}
    (run : exec (step ops source toJson)
      (.new source toJson capacity bufferLen maxClients setup) schedule = some last) :
    (∀ client ∈ last.server.clients,
      InOrder (Tells toJson ops setup source.width last.capture.analysed)
        last.capture.analysed.length client.sent ∧
      (client.sent.map Prod.fst).Pairwise (· < ·)) ∧
    last.capture.analysed.flatten <+: (accepted source last.capture).flatten ∧
    (∀ buffer ∈ last.capture.analysed, buffer.length % source.width = 0 ∧ buffer ≠ []) ∧
    last.pipeline.panicked = false := by
  obtain ⟨⟨consumed, pushed, here⟩, stages, carried⟩ := holds_run run
  refine ⟨fun client member => ⟨(carried.clients client member).later ?_, ?_⟩, ?_, here.whole,
    carried.sized.calm⟩
  · have rising := carried.rising
    have bound := carried.latest.1
    exact rising.serialised.trans (rising.display.trans (rising.hand.trans (rising.raw.trans bound)))
  · obtain ⟨index, found⟩ := List.mem_iff_getElem?.mp member
    exact (ordered_run run index client found).increasing
  · refine List.IsPrefix.trans ?_ here.samples_prefix
    rw [List.append_assoc]
    exact List.prefix_append _ _

end

def oneBuffer : List Action :=
  [.push [⟨0x3F800000⟩], .produce 4, .produce 0, .produce 0,
    .server .check, .server .accept, .server .request, .server .serialiseRefresh, .server .spawn,
    .server (.client 0 .handshake), .analyse 4 false, .thread .takeRaw, .thread .replaceRaw,
    .thread .mapperChecks, .thread .rawChanged, .thread .mapperChecks, .thread .tick,
    .thread (.readMidi (some ⟨none, 1⟩)), .thread .takeDisplay, .publish, .server .serialiseChange,
    .server (.client 0 .written), .server (.client 0 .changed)]

def mono : Source := .sink 1 (by decide) .all

theorem one_buffer_reaches_a_client : ∃ last client,
    exec (step Analyser.atRest mono Server.plainJson)
      (.new mono Server.plainJson 4 4 8 Analyser.restSetup) oneBuffer = some last ∧
    last.server.clients[0]? = some client ∧
    client.sent = [(0, Server.displayJson Server.plainNumber (.new 1)),
      (1, Server.displayJson Server.plainNumber { Server.loudPayload with midi := some ⟨none, 1⟩ })] ∧
    InOrder (Tells Server.plainJson Analyser.atRest Analyser.restSetup mono.width
      last.capture.analysed) last.capture.analysed.length client.sent := by
  have reached : ((exec (step Analyser.atRest mono Server.plainJson)
      (.new mono Server.plainJson 4 4 8 Analyser.restSetup) oneBuffer).bind
        fun last => last.server.clients[0]?.map fun client => client.sent) =
      some [(0, Server.displayJson Server.plainNumber (.new 1)), (1, Server.displayJson
        Server.plainNumber { Server.loudPayload with midi := some ⟨none, 1⟩ })] := by
    decide +kernel
  obtain ⟨last, run, rest⟩ := Option.bind_eq_some_iff.mp reached
  obtain ⟨client, found, sent⟩ := Option.map_eq_some_iff.mp rest
  exact ⟨last, client, run, found, sent,
    ((clients_are_told_the_reference Analyser.atRest mono Server.plainJson 4 4 8
      Analyser.restSetup run).1 client (List.mem_of_getElem? found)).1⟩

end Phase4.Managers.EndToEnd
