import Phase4.Library.Handover
import Phase4.Library.Schedule
import Phase4.Xpc.Start

namespace Phase4.Xpc.ServiceRun
open Library Config Managers Headless Bootstrap App Frames

variable {Port : Type}

/-! ## Events and messages -/

inductive ConnectionError where
  | invalid | interrupted | terminationImminent | other
deriving DecidableEq, Repr

inductive Event where
  | message (request : Except LinkError Request)
  | oneWay
  | error (error : ConnectionError)
  | other

inductive Reason where
  | requested | failed
deriving DecidableEq, Repr

def Reason.text : Reason → String
  | .requested => "requested"
  | .failed => "failed"

/-- Why an engine stopped itself: a recorded hardware stream error, or none. -/
abbrev EngineFailure := Option String

def EngineFailure.code : EngineFailure → String
  | some message => deviceEventCode (.hardwareStreamError message)
  | none => unknownEventCode

def EngineFailure.text : EngineFailure → String
  | some message => (Audio.DeviceError.hardwareStreamError message).text
  | none => "The engine stopped without a shutdown request."

def errorEvent (failure : EngineFailure) : Dictionary :=
  (((Dictionary.setI64 [] "v" contractVersion).setStr "type" "error").setStr "code"
    failure.code).setStr "message" failure.text

/-- A reply, with the run it starts if it is the reply of a successful start. -/
inductive Answer where
  | started (run : Nat) (body : Dictionary)
  | stopped (body : Dictionary)
  | other (body : Dictionary)

def Answer.body : Answer → Dictionary
  | .started _ body | .stopped body | .other body => body

inductive Message where
  | reply (asker : Nat) (answer : Answer)
  | error (run : Nat) (failure : EngineFailure)
  | stopped (run : Nat) (reason : Reason)

def Message.body : Message → Dictionary
  | .reply _ answer => answer.body
  | .error _ failure => errorEvent failure
  | .stopped _ reason => stoppedEvent reason.text

/-! ## Who ends a run -/

inductive Party where
  | handler (connection : Nat)
  | monitor (run : Nat)
deriving DecidableEq, Repr

inductive Duty where
  | sendError | shutdown | transactionEnd
deriving DecidableEq, Repr

def duties : Party → List Duty
  | .handler _ => [.shutdown, .transactionEnd]
  | .monitor _ => [.sendError, .shutdown, .transactionEnd]

/-! ## Threads -/

/-- Whether `stop` ends the run or `end_run_silently` does. -/
inductive Purpose where
  | stop | disconnect
deriving DecidableEq, Repr

/-- What a connection's handler does next. From `building` to `keeping` it holds the run. -/
inductive Handler where
  | idle
  | received (message : Except LinkError Request)
  | locking (request : StartRequest)
  | building (request : StartRequest)
  | dropping (app : Nat) (reply : Dictionary)
  | keeping (app : Nat) (reply : Dictionary)
  | taking (purpose : Purpose)
  | signalling (purpose : Purpose) (run : Nat)
  | joining (purpose : Purpose) (run : Nat)
  | draining (purpose : Purpose) (run : Nat)
  | replying (answer : Answer) (stopped : Option Nat)
  | reporting (run : Nat)
  | closing (purpose : Purpose) (run : Nat)
  | clearing

inductive Monitor where
  | unspawned | polling | woken | checking
  | failing (run : Nat) (failure : EngineFailure)
  | draining (run : Nat)
  | reporting (run : Nat)
  | closing (run : Nat)
  | returned
deriving DecidableEq, Repr

def Handler.hand : Handler → Option (Nat × List Duty)
  | .signalling _ run | .joining _ run | .draining _ run => some (run, [.shutdown, .transactionEnd])
  | .replying _ (some run) | .reporting run | .closing _ run => some (run, [.transactionEnd])
  | _ => none

def Monitor.hand : Monitor → Option (Nat × List Duty)
  | .failing run _ => some (run, [.sendError, .shutdown, .transactionEnd])
  | .draining run => some (run, [.shutdown, .transactionEnd])
  | .reporting run | .closing run => some (run, [.transactionEnd])
  | _ => none

def Handler.making : Handler → Option Nat
  | .dropping app _ | .keeping app _ => some app
  | _ => none

def Handler.holdsRun : Handler → Bool
  | .building _ | .dropping .. | .keeping .. => true
  | _ => false

/-! ## The service -/

inductive Status where
  | unknown | refused | active | invalid
deriving DecidableEq, Repr

/-- An App that `start` built: whose start it was, its shared flags and what was done to it. -/
structure AppState where
  owner : Nat := 0
  keepRunning : Bool := true
  streamError : Option String := none
  drained : Bool := false
  monitorStop : Bool := false
  history : List (Deed Party Duty) := []

structure State where
  peer : Option Nat := none
  run : Option Nat := none
  locked : Bool := false
  transactions : Int := 0
  connections : Nat := 0
  status : Nat → Status := fun _ => .unknown
  handlers : Nat → Handler := fun _ => .idle
  made : Nat := 0
  apps : Nat → AppState := fun _ => {}
  monitors : Nat → Monitor := fun _ => .unspawned
  sent : List (Nat × Message) := []

namespace AppState

def record (app : AppState) (deed : Deed Party Duty) : AppState :=
  { app with history := app.history ++ [deed] }

def shutdown (app : AppState) : AppState := { app with keepRunning := false, drained := true }

def engineFailure (app : AppState) : Option EngineFailure :=
  if app.keepRunning then none else some app.streamError

end AppState

namespace State

def handover (state : State) : Handover Party Nat Duty where
  slot := state.run
  hand
    | .handler connection => (state.handlers connection).hand
    | .monitor run => (state.monitors run).hand
  history run := (state.apps run).history

def setHandler (state : State) (connection : Nat) (point : Handler) : State :=
  { state with handlers := Function.update state.handlers connection point }

def setMonitor (state : State) (run : Nat) (point : Monitor) : State :=
  { state with monitors := Function.update state.monitors run point }

def setApp (state : State) (app : Nat) (change : AppState → AppState) : State :=
  { state with apps := Function.update state.apps app (change (state.apps app)) }

def sendToPeer (state : State) (message : Message) : State :=
  { state with sent := state.sent ++ state.peer.toList.map fun peer => (peer, message) }

def acceptPeer (state : State) : State :=
  match state.peer with
  | some _ =>
      { state with
        connections := state.connections + 1
        status := Function.update state.status state.connections .refused }
  | none =>
      { state with
        connections := state.connections + 1
        status := Function.update state.status state.connections .active
        peer := some state.connections }

def handleEvent (state : State) (connection : Nat) : Event → State
  | .message request => state.setHandler connection (.received request)
  | .error .invalid =>
      { state with status := Function.update state.status connection .invalid }.setHandler connection
        (.taking .disconnect)
  | .error .terminationImminent => state.setHandler connection (.taking .disconnect)
  | .oneWay | .error _ | .other => state

end State

inductive Outcome where
  | refused (reply : Dictionary)
  | dropped (reply : Dictionary)
  | kept (reply : Dictionary)

def outcome (host : XpcHost Port) (slot : FrameRegionSlot) (request : StartRequest)
    (reply : Dictionary) : Outcome :=
  match toAppConfig host.platform host.fromStr request slot with
  | .error error => .refused (fail reply (configEventCode error) (error.text host.displays))
  | .ok config =>
      match build host.toHost config {} with
      | (.error error, _) => .refused (fail reply (errorCode error) (error.text host.displays))
      | (.ok ready, engine) =>
          match engine.region with
          | none => .dropped (fail reply unknownEventCode "The frame region was not created")
          | some region =>
              if host.sharesRegion region then .kept (startedReply reply ready region)
              else .dropped (fail reply unknownEventCode "The frame region could not be shared")

def handlerStep (host : XpcHost Port) (slot : FrameRegionSlot) (connection : Nat) (state : State) :
    Option State :=
  let goTo (state : State) (point : Handler) := some (state.setHandler connection point)
  match state.handlers connection with
  | .idle => none
  | .received (.error error) =>
      goTo state (.replying (.other (fail newReply error.eventCode error.text)) none)
  | .received (.ok (.start request)) => goTo state (.locking request)
  | .received (.ok .stop) => goTo state (.taking .stop)
  | .received (.ok request) =>
      goTo state (.replying (.other
        (handleRequest host slot request ⟨state.peer, none, 0, 0⟩ newReply).2.1) none)
  | .locking request =>
      if state.locked then none
      else if state.run.isSome then
        goTo state (.replying (.other
          (fail newReply LinkError.alreadyRunning.eventCode LinkError.alreadyRunning.text)) none)
      else goTo { state with locked := true } (.building request)
  | .building request =>
      let built (point : Handler) := goTo { state.setApp state.made fun _ => { owner := connection }
        with made := state.made + 1 } point
      match outcome host slot request newReply with
      | .refused reply => goTo { state with locked := false } (.replying (.other reply) none)
      | .dropped reply => built (.dropping state.made reply)
      | .kept reply => built (.keeping state.made reply)
  | .dropping app reply =>
      goTo { state.setApp app .shutdown with locked := false } (.replying (.other reply) none)
  | .keeping app reply =>
      goTo { (state.setApp app (·.record .put)).setMonitor app .polling with
        transactions := state.transactions + 1
        run := some app
        locked := false } (.replying (.started app reply) none)
  | .taking purpose =>
      if state.locked then none
      else
        match state.run, purpose with
        | none, .stop => goTo state (.replying (.stopped (newReply.setBool "ok" true)) none)
        | none, .disconnect => goTo state .clearing
        | some run, _ =>
            goTo { state.setApp run (·.record (.took (.handler connection))) with run := none }
              (.signalling purpose run)
  | .signalling purpose run =>
      goTo (state.setApp run ({ · with monitorStop := true })) (.joining purpose run)
  | .joining purpose run =>
      if state.monitors run = .returned then goTo state (.draining purpose run) else none
  | .draining purpose run =>
      goTo (state.setApp run (·.shutdown.record (.did (.handler connection) .shutdown)))
        (match purpose with
        | .stop => .replying (.stopped (newReply.setBool "ok" true)) (some run)
        | .disconnect => .closing purpose run)
  | .replying answer stopped =>
      goTo (state.sendToPeer (.reply connection answer)) (stopped.elim .idle .reporting)
  | .reporting run => goTo (state.sendToPeer (.stopped run .requested)) (.closing .stop run)
  | .closing purpose run =>
      goTo { state.setApp run (·.record (.did (.handler connection) .transactionEnd)) with
        transactions := state.transactions - 1 }
        (match purpose with
        | .stop => .idle
        | .disconnect => .clearing)
  | .clearing => goTo { state with peer := none } .idle

def monitorStep (index : Nat) (state : State) : Option State :=
  let goTo (state : State) (point : Monitor) := some (state.setMonitor index point)
  match state.monitors index with
  | .unspawned | .returned => none
  | .polling => goTo state (if (state.apps index).monitorStop then .returned else .woken)
  | .woken => goTo state (if (state.apps index).monitorStop then .returned else .checking)
  | .checking =>
      if state.locked then none
      else
        match state.run with
        | none => goTo state .returned
        | some run =>
            match (state.apps run).engineFailure with
            | none => goTo state .polling
            | some failure =>
                goTo { state.setApp run fun app => { app.record (.took (.monitor index)) with
                  streamError := none } with run := none } (.failing run failure)
  | .failing run failure =>
      goTo ((state.sendToPeer (.error run failure)).setApp run
        (·.record (.did (.monitor index) .sendError))) (.draining run)
  | .draining run =>
      goTo (state.setApp run (·.shutdown.record (.did (.monitor index) .shutdown))) (.reporting run)
  | .reporting run => goTo (state.sendToPeer (.stopped run .failed)) (.closing run)
  | .closing run =>
      goTo { state.setApp run (·.record (.did (.monitor index) .transactionEnd)) with
        transactions := state.transactions - 1 } .returned

inductive Action (Port : Type) where
  | accept
  | deliver (connection : Nat) (event : Event)
  | handle (connection : Nat) (host : XpcHost Port) (slot : FrameRegionSlot)
  | monitor (index : Nat)
  | engineFails (app : Nat) (failure : EngineFailure)

def step (state : State) : Action Port → Option State
  | .accept => some state.acceptPeer
  | .deliver connection event =>
      match state.status connection, state.handlers connection with
      | .active, .idle => some (state.handleEvent connection event)
      | _, _ => none
  | .handle connection host slot => handlerStep host slot connection state
  | .monitor index => monitorStep index state
  | .engineFails app failure =>
      if app < state.made ∧ (state.apps app).drained = false then
        some (state.setApp app fun app => { app with
          keepRunning := false
          streamError := app.streamError <|> failure })
      else none

/-! ## What a step does -/

def Monitor.watching : Monitor → Bool
  | .polling | .woken | .checking => true
  | _ => false

inductive Moves (state : State) : Action Port → State → Prop where
  | accept : Moves state .accept state.acceptPeer
  | deliver {c : Nat} {event : Event} (active : state.status c = .active)
      (idle : state.handlers c = .idle) :
      Moves state (.deliver c event) (state.handleEvent c event)
  | asks {c : Nat} {host : XpcHost Port} {slot : FrameRegionSlot} {request : Request}
      {point : Handler} (here : state.handlers c = .received (.ok request))
      (there : (∃ start, point = .locking start) ∨ point = .taking .stop) :
      Moves state (.handle c host slot) (state.setHandler c point)
  | answers {c : Nat} {host : XpcHost Port} {slot : FrameRegionSlot} {body : Dictionary}
      (here : (∃ message, state.handlers c = .received message) ∨
        ∃ request, state.handlers c = .locking request ∧ state.run.isSome) :
      Moves state (.handle c host slot) (state.setHandler c (.replying (.other body) none))
  | locks {c : Nat} {host : XpcHost Port} {slot : FrameRegionSlot} {request : StartRequest}
      (here : state.handlers c = .locking request) (unlocked : state.locked = false)
      (empty : state.run = none) :
      Moves state (.handle c host slot)
        ({ state with locked := true }.setHandler c (.building request))
  | refuses {c : Nat} {host : XpcHost Port} {slot : FrameRegionSlot} {request : StartRequest}
      {body : Dictionary} (here : state.handlers c = .building request) :
      Moves state (.handle c host slot)
        ({ state with locked := false }.setHandler c (.replying (.other body) none))
  | builds {c : Nat} {host : XpcHost Port} {slot : FrameRegionSlot} {request : StartRequest}
      {body : Dictionary} {point : Handler} (here : state.handlers c = .building request)
      (there : point = .dropping state.made body ∨ point = .keeping state.made body) :
      Moves state (.handle c host slot)
        ({ state.setApp state.made fun _ => { owner := c } with made := state.made + 1 }.setHandler c
          point)
  | drops {c : Nat} {host : XpcHost Port} {slot : FrameRegionSlot} {app : Nat} {body : Dictionary}
      (here : state.handlers c = .dropping app body) :
      Moves state (.handle c host slot)
        ({ state.setApp app .shutdown with locked := false }.setHandler c
          (.replying (.other body) none))
  | keeps {c : Nat} {host : XpcHost Port} {slot : FrameRegionSlot} {app : Nat} {body : Dictionary}
      (here : state.handlers c = .keeping app body) :
      Moves state (.handle c host slot)
        ({ (state.setApp app (·.record .put)).setMonitor app .polling with
          transactions := state.transactions + 1
          run := some app
          locked := false }.setHandler c (.replying (.started app body) none))
  | findsNothing {c : Nat} {host : XpcHost Port} {slot : FrameRegionSlot} {purpose : Purpose}
      {point : Handler} (here : state.handlers c = .taking purpose)
      (unlocked : state.locked = false) (empty : state.run = none)
      (there : (purpose = .stop ∧ ∃ body, point = .replying (.stopped body) none) ∨
        (purpose = .disconnect ∧ point = .clearing)) :
      Moves state (.handle c host slot) (state.setHandler c point)
  | takes {c : Nat} {host : XpcHost Port} {slot : FrameRegionSlot} {purpose : Purpose} {run : Nat}
      (here : state.handlers c = .taking purpose) (unlocked : state.locked = false)
      (stored : state.run = some run) :
      Moves state (.handle c host slot)
        ({ state.setApp run (·.record (.took (.handler c))) with run := none }.setHandler c
          (.signalling purpose run))
  | signals {c : Nat} {host : XpcHost Port} {slot : FrameRegionSlot} {purpose : Purpose} {run : Nat}
      (here : state.handlers c = .signalling purpose run) :
      Moves state (.handle c host slot)
        ((state.setApp run ({ · with monitorStop := true })).setHandler c (.joining purpose run))
  | joins {c : Nat} {host : XpcHost Port} {slot : FrameRegionSlot} {purpose : Purpose} {run : Nat}
      (here : state.handlers c = .joining purpose run) (ended : state.monitors run = .returned) :
      Moves state (.handle c host slot) (state.setHandler c (.draining purpose run))
  | drains {c : Nat} {host : XpcHost Port} {slot : FrameRegionSlot} {purpose : Purpose} {run : Nat}
      {point : Handler} (here : state.handlers c = .draining purpose run)
      (there : (purpose = .stop ∧ ∃ body, point = .replying (.stopped body) (some run)) ∨
        (purpose = .disconnect ∧ point = .closing .disconnect run)) :
      Moves state (.handle c host slot)
        ((state.setApp run (·.shutdown.record (.did (.handler c) .shutdown))).setHandler c point)
  | replies {c : Nat} {host : XpcHost Port} {slot : FrameRegionSlot} {answer : Answer}
      {stopped : Option Nat} (here : state.handlers c = .replying answer stopped) :
      Moves state (.handle c host slot)
        ((state.sendToPeer (.reply c answer)).setHandler c (stopped.elim .idle .reporting))
  | reports {c : Nat} {host : XpcHost Port} {slot : FrameRegionSlot} {run : Nat}
      (here : state.handlers c = .reporting run) :
      Moves state (.handle c host slot)
        ((state.sendToPeer (.stopped run .requested)).setHandler c (.closing .stop run))
  | closes {c : Nat} {host : XpcHost Port} {slot : FrameRegionSlot} {purpose : Purpose} {run : Nat}
      {point : Handler} (here : state.handlers c = .closing purpose run)
      (there : (purpose = .stop ∧ point = .idle) ∨ (purpose = .disconnect ∧ point = .clearing)) :
      Moves state (.handle c host slot)
        ({ state.setApp run (·.record (.did (.handler c) .transactionEnd)) with
          transactions := state.transactions - 1 }.setHandler c point)
  | clears {c : Nat} {host : XpcHost Port} {slot : FrameRegionSlot}
      (here : state.handlers c = .clearing) :
      Moves state (.handle c host slot) ({ state with peer := none }.setHandler c .idle)
  | watches {m : Nat} {point : Monitor} (here : (state.monitors m).watching = true)
      (there : point.watching = true ∨ point = .returned) :
      Moves state (.monitor m) (state.setMonitor m point)
  | detects {m run : Nat} {failure : EngineFailure} (here : state.monitors m = .checking)
      (unlocked : state.locked = false) (stored : state.run = some run)
      (failed : (state.apps run).engineFailure = some failure) :
      Moves state (.monitor m)
        ({ state.setApp run fun app => { app.record (.took (.monitor m)) with streamError := none }
          with run := none }.setMonitor m (.failing run failure))
  | sendsError {m run : Nat} {failure : EngineFailure} (here : state.monitors m = .failing run failure) :
      Moves state (.monitor m)
        (((state.sendToPeer (.error run failure)).setApp run
          (·.record (.did (.monitor m) .sendError))).setMonitor m (.draining run))
  | drainsFailed {m run : Nat} (here : state.monitors m = .draining run) :
      Moves state (.monitor m)
        ((state.setApp run (·.shutdown.record (.did (.monitor m) .shutdown))).setMonitor m
          (.reporting run))
  | reportsFailed {m run : Nat} (here : state.monitors m = .reporting run) :
      Moves state (.monitor m)
        ((state.sendToPeer (.stopped run .failed)).setMonitor m (.closing run))
  | closesFailed {m run : Nat} (here : state.monitors m = .closing run) :
      Moves state (.monitor m)
        ({ state.setApp run (·.record (.did (.monitor m) .transactionEnd)) with
          transactions := state.transactions - 1 }.setMonitor m .returned)
  | engineFails {app : Nat} {failure : EngineFailure} (live : app < state.made)
      (undrained : (state.apps app).drained = false) :
      Moves state (.engineFails app failure)
        (state.setApp app fun app => { app with
          keepRunning := false
          streamError := app.streamError <|> failure })

section
variable {state next : State} {action : Action Port}

theorem moves_of_handlerStep {host : XpcHost Port} {slot : FrameRegionSlot} {connection : Nat}
    (moved : handlerStep host slot connection state = some next) :
    Moves state (.handle connection host slot) next := by
  simp only [handlerStep] at moved
  split at moved
  next => cases moved
  next error here =>
    cases moved
    exact .answers (.inl ⟨_, here⟩)
  next request here =>
    cases moved
    exact .asks here (.inl ⟨request, rfl⟩)
  next here =>
    cases moved
    exact .asks here (.inr rfl)
  next request _ _ here =>
    cases moved
    exact .answers (.inl ⟨_, here⟩)
  next request here =>
    split_ifs at moved with locked active
    · cases moved
      exact .answers (.inr ⟨request, here, active⟩)
    · cases moved
      exact .locks here (by simpa using locked) (by simpa using active)
  next request here =>
    split at moved
    all_goals cases moved
    · exact .refuses here
    · exact .builds here (.inl rfl)
    · exact .builds here (.inr rfl)
  next app reply here =>
    cases moved
    exact .drops here
  next app reply here =>
    cases moved
    exact .keeps here
  next purpose here =>
    split_ifs at moved with locked
    have unlocked : state.locked = false := by simpa using locked
    split at moved
    next empty =>
      cases moved
      exact .findsNothing here unlocked empty (.inl ⟨rfl, _, rfl⟩)
    next empty =>
      cases moved
      exact .findsNothing here unlocked empty (.inr ⟨rfl, rfl⟩)
    next run stored =>
      cases moved
      exact .takes here unlocked stored
  next purpose run here =>
    cases moved
    exact .signals here
  next purpose run here =>
    split_ifs at moved with ended
    cases moved
    exact .joins here ended
  next purpose run here =>
    cases purpose
    all_goals cases moved
    · exact .drains here (.inl ⟨rfl, _, rfl⟩)
    · exact .drains here (.inr ⟨rfl, rfl⟩)
  next answer stopped here =>
    cases moved
    exact .replies here
  next run here =>
    cases moved
    exact .reports here
  next purpose run here =>
    cases purpose
    all_goals cases moved
    · exact .closes here (.inl ⟨rfl, rfl⟩)
    · exact .closes here (.inr ⟨rfl, rfl⟩)
  next here =>
    cases moved
    exact .clears here

theorem moves_of_monitorStep {index : Nat} (moved : monitorStep index state = some next) :
    Moves state (.monitor index : Action Port) next := by
  simp only [monitorStep] at moved
  split at moved
  next => cases moved
  next => cases moved
  next here =>
    cases moved
    exact .watches (by rw [here]; rfl) (by split_ifs <;> simp [Monitor.watching])
  next here =>
    cases moved
    exact .watches (by rw [here]; rfl) (by split_ifs <;> simp [Monitor.watching])
  next here =>
    split_ifs at moved with locked
    split at moved
    next =>
      cases moved
      exact .watches (by rw [here]; rfl) (.inr rfl)
    next run stored =>
      split at moved
      next =>
        cases moved
        exact .watches (by rw [here]; rfl) (.inl rfl)
      next failure failed =>
        cases moved
        exact .detects here (by simpa using locked) stored failed
  next run failure here =>
    cases moved
    exact .sendsError here
  next run here =>
    cases moved
    exact .drainsFailed here
  next run here =>
    cases moved
    exact .reportsFailed here
  next run here =>
    cases moved
    exact .closesFailed here

theorem moves_of_step (moved : step state action = some next) : Moves state action next := by
  cases action with
  | accept =>
      cases moved
      exact .accept
  | deliver connection event =>
      simp only [step] at moved
      split at moved
      next active idle =>
        cases moved
        exact .deliver active idle
      next => cases moved
  | handle connection host slot => exact moves_of_handlerStep moved
  | monitor index => exact moves_of_monitorStep moved
  | engineFails app failure =>
      simp only [step] at moved
      split_ifs at moved with live
      cases moved
      exact .engineFails live.1 live.2

theorem handle_frame {c : Nat} {host : XpcHost Port} {slot : FrameRegionSlot}
    (moves : Moves state (.handle c host slot) next) :
    state.handlers c ≠ .idle ∧ (∃ point, next.handlers = Function.update state.handlers c point) ∧
      next.status = state.status ∧ next.connections = state.connections := by
  cases moves with
  | answers here =>
      refine ⟨?_, ⟨_, rfl⟩, rfl, rfl⟩
      rcases here with ⟨_, here⟩ | ⟨_, here, _⟩ <;> simp [here]
  | asks here | locks here | refuses here | builds here | drops here | keeps here
  | findsNothing here | takes here | signals here | joins here | drains here | replies here
  | reports here | closes here | clears here =>
      exact ⟨by simp [here], ⟨_, rfl⟩, rfl, rfl⟩

theorem monitor_frame {m : Nat} (moves : Moves state (.monitor m : Action Port) next) :
    (∃ point, next.monitors = Function.update state.monitors m point) ∧
      next.handlers = state.handlers ∧ next.status = state.status ∧
      next.connections = state.connections ∧ next.peer = state.peer ∧ next.made = state.made := by
  cases moves with
  | watches | detects | sendsError | drainsFailed | reportsFailed | closesFailed =>
      exact ⟨⟨_, rfl⟩, rfl, rfl, rfl, rfl, rfl⟩

inductive Sends (state : State) : Action Port → Message → Prop where
  | reply {c : Nat} {host : XpcHost Port} {slot : FrameRegionSlot} {answer : Answer}
      {stopped : Option Nat} (here : state.handlers c = .replying answer stopped) :
      Sends state (.handle c host slot) (.reply c answer)
  | requested {c : Nat} {host : XpcHost Port} {slot : FrameRegionSlot} {run : Nat}
      (here : state.handlers c = .reporting run) :
      Sends state (.handle c host slot) (.stopped run .requested)
  | error {m run : Nat} {failure : EngineFailure} (here : state.monitors m = .failing run failure) :
      Sends state (.monitor m) (.error run failure)
  | failed {m run : Nat} (here : state.monitors m = .reporting run) :
      Sends state (.monitor m) (.stopped run .failed)

theorem sent_of_moves (moves : Moves state action next) :
    (next.sent = state.sent ∧ ∀ message, ¬Sends state action message) ∨
      ∃ message, Sends state action message ∧
        next.sent = state.sent ++ state.peer.toList.map fun peer => (peer, message) := by
  cases moves with
  | replies here => exact .inr ⟨_, .reply here, rfl⟩
  | reports here => exact .inr ⟨_, .requested here, rfl⟩
  | sendsError here => exact .inr ⟨_, .error here, rfl⟩
  | reportsFailed here => exact .inr ⟨_, .failed here, rfl⟩
  | accept =>
      refine .inl ⟨?_, by rintro _ ⟨⟩⟩
      unfold State.acceptPeer
      split <;> rfl
  | @deliver c event active idle =>
      refine .inl ⟨?_, by rintro _ ⟨⟩⟩
      cases event with
      | error error => cases error <;> rfl
      | message | oneWay | other => rfl
  | engineFails => exact .inl ⟨rfl, by rintro _ ⟨⟩⟩
  | answers here =>
      refine .inl ⟨rfl, ?_⟩
      rcases here with ⟨_, here⟩ | ⟨_, here, _⟩
      all_goals
        rintro _ (there | there | there | there)
        all_goals simp [here] at there
  | asks here | locks here | refuses here | builds here | drops here | keeps here
  | findsNothing here | takes here | signals here | joins here | drains here | closes here
  | clears here | detects here | drainsFailed here | closesFailed here =>
      refine .inl ⟨rfl, ?_⟩
      rintro _ (there | there | there | there)
      all_goals simp [here] at there
  | watches here =>
      refine .inl ⟨rfl, ?_⟩
      rintro _ (there | there | there | there)
      all_goals simp [there, Monitor.watching] at here

end

end Phase4.Xpc.ServiceRun
