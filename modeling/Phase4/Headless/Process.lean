import Phase4.App
import Phase4.Headless.Events
import Phase4.Library.Schedule

namespace Phase4.Headless
open Library Config Managers Bootstrap StreamFailure Xpc.ServiceRun

/-! ## A headless process

The main thread runs beside threads that may panic and a host that may leave. Each of them writes
its events under the lock of stdout. -/

inductive ErrorKind where
  | brokenPipe | other
deriving DecidableEq, Repr

inductive Signal where
  | int | term
deriving DecidableEq, Repr

def Signal.number : Signal → Nat
  | int => 2
  | term => 15

inductive WatchError where
  | signal (signal : Signal) (message : String)
  | stdin (message : String)
deriving DecidableEq, Repr

def WatchError.text : WatchError → String
  | .signal unregistered message =>
      withContext s!"Failed to register signal handler for {unregistered.number}" message
  | .stdin message => withContext "Failed to start the stdin watcher" message

inductive RunError where
  | start (error : StartError)
  | watch (error : WatchError)
  | engine (failure : EngineFailure)
  | write (kind : ErrorKind)

def RunError.code : RunError → String
  | .start error => errorCode error
  | .engine failure => failure.code
  | .watch _ | .write _ => unknownEventCode

def RunError.text (displays : Displays) (writeText : ErrorKind → String) : RunError → String
  | start error => error.text displays
  | watch error => error.text
  | engine failure => failure.text
  | write kind => writeText kind

inductive Status where
  | success | failure | aborted
deriving DecidableEq, Repr

inductive MainAt where
  | starting
  | announcing (report : ReadyReport)
  | watching
  | polling
  | sawSignal (received : Bool)
  | sawStdin (received closed : Bool)
  | stopping (reason : ShutdownReason)
  | failing
  | draining (outcome : Except RunError ShutdownReason)
  | departing (reason : ShutdownReason)
  | reporting (error : RunError)
  | panicked
  | exited (status : Status)

/-- Where a thread is with its panic. The main thread is number 0. -/
inductive PanicAt where
  | calm
  | hooked (message : String)
  | reported
deriving DecidableEq

inductive Writer where
  | main
  | hook (thread : Nat)
deriving DecidableEq

structure Stdout where
  text : List Char
  lines : List Event
  /-- Who holds the lock, with its event and what is left to write of it. -/
  held : Option (Writer × Event × List Char)
  broken : Option ErrorKind

structure State (Port : Type) where
  engine : Engine Port
  hardwareStreamError : Option String
  signalReceived : Bool
  stdinClosed : Bool
  main : MainAt
  panics : Nat → PanicAt
  stdout : Stdout

def State.new (Port : Type) : State Port where
  engine := {}
  hardwareStreamError := none
  signalReceived := false
  stdinClosed := false
  main := .starting
  panics := fun _ => .calm
  stdout := ⟨[], [], none, none⟩

structure Launch (Port : Type) where
  host : Host Port
  config : Except AppConfigError AppConfig
  writeText : ErrorKind → String
  parseAddr : String → Option SocketAddr
  parse_display : ∀ addr, parseAddr (host.displays.addr addr) = some addr

def Launch.addresses {Port : Type} (launch : Launch Port) : Addresses where
  display := launch.host.displays.addr
  parse := launch.parseAddr
  parse_display := launch.parse_display

inductive Action where
  /-- The next step of the main thread that writes nothing. -/
  | advance
  | watch (failure : Option WatchError)
  | lock (writer : Writer)
  | write (count : Nat)
  | finish
  | fail
  | hostLeaves (kind : ErrorKind)
  | signal
  | closeStdin
  | recordError (message : String)
  | clearKeepRunning
  | panic (thread : Nat) (message : String)
  | abort (thread : Nat)

section
variable {Port : Type} (launch : Launch Port)

def fromAnyhow (error : RunError) : Event :=
  .error error.code (error.text launch.host.displays launch.writeText)

def panicEvent (message : String) : Event := .error panicEventCode message

def MainAt.event : MainAt → Option Event
  | .announcing report => some (.ready report)
  | .departing reason => some (.shutdown reason)
  | .reporting error => some (fromAnyhow launch error)
  | _ => none

def MainAt.wrote : MainAt → MainAt
  | .announcing _ => .watching
  | .departing _ => .exited .success
  | .reporting _ => .exited .failure
  | main => main

def MainAt.failed (kind : ErrorKind) : MainAt → MainAt
  | .announcing _ => .draining (.error (.write kind))
  | .departing _ => if kind = .brokenPipe then .exited .success else .reporting (.write kind)
  | .reporting _ => .exited .failure
  | main => main

namespace State

def eventOf (state : State Port) : Writer → Option Event
  | .main => state.main.event launch
  | .hook thread =>
      match state.panics thread with
      | .hooked message => some (panicEvent message)
      | _ => none

/-- A write of `writer` has ended, and `main` is where the main thread goes on if it was its own. -/
def release (writer : Writer) (main : MainAt) (state : State Port) : State Port :=
  let unlocked := { state with stdout := { state.stdout with held := none } }
  match writer with
  | .main => { unlocked with main }
  | .hook thread => { unlocked with panics := Function.update state.panics thread .reported }

def start (state : State Port) : State Port :=
  match launch.config with
  | .error error => { state with main := .reporting (.start (.config error)) }
  | .ok config =>
      match App.build launch.host config {} with
      | (.ok report, engine) => { state with engine, main := .announcing report }
      | (.error error, engine) => { state with engine, main := .reporting (.start error) }

def advance (state : State Port) : Option (State Port) :=
  match state.main with
  | .starting => some (state.start launch)
  | .polling => some { state with main := .sawSignal state.signalReceived }
  | .sawSignal received => some { state with main := .sawStdin received state.stdinClosed }
  | .sawStdin received closed => some { state with
      main :=
        match headlessStop received closed state.engine.keepRunning with
        | some (.requested reason) => .stopping reason
        | some .engine => .failing
        | none => .polling }
  | .stopping reason => some { state with
      engine := { state.engine with keepRunning := false }
      main := .draining (.ok reason) }
  | .failing =>
      if state.engine.keepRunning then
        some { state with main := .draining (.error (.engine none)) }
      else some { state with
        hardwareStreamError := none
        main := .draining (.error (.engine state.hardwareStreamError)) }
  | .draining outcome => some { state with
      engine := state.engine.shutdown launch.host
      main :=
        match outcome with
        | .ok reason => .departing reason
        | .error error => .reporting error }
  | .announcing _ | .watching | .departing _ | .reporting _ | .panicked | .exited _ => none

end State

def step (state : State Port) (action : Action) : Option (State Port) :=
  match state.main, action with
  -- Nothing runs on once the process has ended.
  | .exited _, _ => none
  | _, .advance => state.advance launch
  | .watching, .watch failure => some { state with
      main :=
        match failure with
        | some error => .draining (.error (.watch error))
        | none => .polling }
  | _, .watch _ => none
  | _, .lock writer =>
      match state.stdout.held, state.eventOf launch writer with
      | none, some event => some { state with stdout := { state.stdout with
          held := some (writer, event, event.text launch.addresses.display) } }
      | _, _ => none
  | _, .write count =>
      match state.stdout.held, state.stdout.broken with
      | some (writer, event, c :: left), none => some { state with stdout := { state.stdout with
          text := state.stdout.text ++ (c :: left).take (count + 1)
          held := some (writer, event, (c :: left).drop (count + 1)) } }
      | _, _ => none
  | main, .finish =>
      match state.stdout.held, state.stdout.broken with
      | some (writer, event, []), none => some (State.release writer main.wrote
          { state with stdout := { state.stdout with
            text := state.stdout.text ++ ['\n']
            lines := state.stdout.lines ++ [event] } })
      | _, _ => none
  | main, .fail =>
      match state.stdout.held, state.stdout.broken with
      | some (writer, _, _), some kind => some (State.release writer (main.failed kind) state)
      | _, _ => none
  | _, .hostLeaves kind => some { state with stdout := { state.stdout with
      broken := state.stdout.broken <|> some kind } }
  | _, .signal => some { state with signalReceived := true }
  | _, .closeStdin => some { state with stdinClosed := true }
  | _, .recordError message => some { state with
      hardwareStreamError := state.hardwareStreamError <|> some message }
  | _, .clearKeepRunning => some { state with
      engine := { state.engine with keepRunning := false } }
  | _, .panic thread message =>
      match state.panics thread with
      | .calm =>
          let hooked := { state with
            panics := Function.update state.panics thread (.hooked message) }
          if thread = 0 then
            -- A thread in the middle of a write does not panic.
            if state.stdout.held.map Prod.fst = some .main then none
            else some { hooked with main := .panicked }
          else some hooked
      | _ => none
  | _, .abort thread =>
      match state.panics thread with
      | .reported => some { state with main := .exited .aborted }
      | _ => none

/-! ## What a step may change -/

structure Elsewhere (state next : State Port) : Prop where
  registered : next.engine.registered = state.engine.registered
  spawned : next.engine.spawned = state.engine.spawned
  ended : next.engine.ended = state.engine.ended
  stream : next.engine.stream = state.engine.stream
  signal : state.signalReceived = true → next.signalReceived = true
  stdin : state.stdinClosed = true → next.stdinClosed = true

inductive Moves (action : Action) (state : State Port) : State Port → Prop
  | start (here : state.main = .starting) : Moves action state (state.start launch)
  | sawSignal (here : state.main = .polling) :
      Moves action state { state with main := .sawSignal state.signalReceived }
  | sawStdin {received : Bool} (here : state.main = .sawSignal received) :
      Moves action state { state with main := .sawStdin received state.stdinClosed }
  | decided {received closed : Bool} {main : MainAt} (here : state.main = .sawStdin received closed)
      (next : main = .polling ∨ main = .failing ∨ main = .stopping .signal ∧ received = true ∨
        main = .stopping .stdinClosed ∧ closed = true) :
      Moves action state { state with main }
  | stopped {reason : ShutdownReason} (here : state.main = .stopping reason) :
      Moves action state { state with
        engine := { state.engine with keepRunning := false }
        main := .draining (.ok reason) }
  | failed {hardwareStreamError : Option String} {failure : EngineFailure}
      (here : state.main = .failing) :
      Moves action state { state with hardwareStreamError, main := .draining (.error (.engine failure)) }
  | drained {reason : ShutdownReason} (here : state.main = .draining (.ok reason)) :
      Moves action state { state with
        engine := state.engine.shutdown launch.host
        main := .departing reason }
  | gaveUp {error : RunError} (here : state.main = .draining (.error error)) :
      Moves action state { state with
        engine := state.engine.shutdown launch.host
        main := .reporting error }
  | watched (here : state.main = .watching) : Moves action state { state with main := .polling }
  | unwatched {error : WatchError} (here : state.main = .watching) :
      Moves action state { state with main := .draining (.error (.watch error)) }
  | lock {writer : Writer} {event : Event} (free : state.stdout.held = none)
      (due : state.eventOf launch writer = some event) :
      Moves action state { state with stdout := { state.stdout with
        held := some (writer, event, event.text launch.addresses.display) } }
  | write {writer : Writer} {event : Event} {left : List Char} (count : Nat)
      (held : state.stdout.held = some (writer, event, left))
      (works : state.stdout.broken = none) :
      Moves action state { state with stdout := { state.stdout with
        text := state.stdout.text ++ left.take count
        held := some (writer, event, left.drop count) } }
  | finish {writer : Writer} {event : Event} (held : state.stdout.held = some (writer, event, []))
      (works : state.stdout.broken = none) :
      Moves action state (State.release writer state.main.wrote
        { state with stdout := { state.stdout with
          text := state.stdout.text ++ ['\n']
          lines := state.stdout.lines ++ [event] } })
  | fail {writer : Writer} {event : Event} {left : List Char} {kind : ErrorKind}
      (held : state.stdout.held = some (writer, event, left))
      (broken : state.stdout.broken = some kind) :
      Moves action state (State.release writer (state.main.failed kind) state)
  | hostLeaves (kind : ErrorKind) :
      Moves action state { state with stdout := { state.stdout with
        broken := state.stdout.broken <|> some kind } }
  | elsewhere {engine : Engine Port} {hardwareStreamError : Option String}
      {signalReceived stdinClosed : Bool}
      (kept : Elsewhere state
        { state with engine, hardwareStreamError, signalReceived, stdinClosed }) :
      Moves action state { state with engine, hardwareStreamError, signalReceived, stdinClosed }
  | panic {thread : Nat} {message : String} (cause : action = .panic thread message)
      (calm : state.panics thread = .calm) (other : thread ≠ 0) :
      Moves action state { state with panics := Function.update state.panics thread (.hooked message) }
  | mainPanics {message : String} (cause : action = .panic 0 message)
      (calm : state.panics 0 = .calm)
      (unlocked : state.stdout.held.map Prod.fst ≠ some .main) :
      Moves action state { state with
        panics := Function.update state.panics 0 (.hooked message)
        main := .panicked }
  | abort {thread : Nat} (reported : state.panics thread = .reported) :
      Moves action state { state with main := .exited .aborted }

variable {launch} {state next : State Port} {action : Action}

theorem headlessStop_requested {received closed keepRunning : Bool} {reason : ShutdownReason}
    (stops : headlessStop received closed keepRunning = some (.requested reason)) :
    reason = .signal ∧ received = true ∨ reason = .stdinClosed ∧ closed = true := by
  unfold headlessStop at stops
  split_ifs at stops with signalled ended running
  · cases stops
    exact .inl ⟨rfl, signalled⟩
  · cases stops
    exact .inr ⟨rfl, ended⟩
  · cases stops

theorem moves_of_advance (moved : state.advance launch = some next) : Moves launch action state next := by
  unfold State.advance at moved
  split at moved
  next here =>
    cases moved
    exact .start here
  next here =>
    cases moved
    exact .sawSignal here
  next here =>
    cases moved
    exact .sawStdin here
  next received closed here =>
    cases moved
    refine .decided here ?_
    cases stops : headlessStop received closed state.engine.keepRunning with
    | none => exact .inl rfl
    | some stop =>
        cases stop with
        | engine => exact .inr (.inl rfl)
        | requested reason =>
            rcases headlessStop_requested stops with ⟨rfl, saw⟩ | ⟨rfl, saw⟩
            · exact .inr (.inr (.inl ⟨rfl, saw⟩))
            · exact .inr (.inr (.inr ⟨rfl, saw⟩))
  next here =>
    cases moved
    exact .stopped here
  next here =>
    split_ifs at moved
    all_goals
      cases moved
      exact .failed here
  next outcome here =>
    cases moved
    cases outcome with
    | ok reason => exact .drained here
    | error error => exact .gaveUp here
  all_goals cases moved

theorem moves_of_step (moved : step launch state action = some next) :
    (∀ status, state.main ≠ .exited status) ∧ Moves launch action state next := by
  have alive : ∀ status, state.main ≠ .exited status := by
    intro status ended
    simp [step, ended] at moved
  refine ⟨alive, ?_⟩
  unfold step at moved
  split at moved
  next ended => exact absurd ended (alive _)
  next => exact moves_of_advance moved
  next failure here =>
    cases moved
    cases failure with
    | none => exact .watched here
    | some error => exact .unwatched here
  next => cases moved
  next =>
    split at moved
    next free due =>
      cases moved
      exact .lock free due
    next => cases moved
  next count _ =>
    split at moved
    next held works =>
      cases moved
      exact .write (count + 1) held works
    next => cases moved
  next =>
    split at moved
    next held works =>
      cases moved
      exact .finish held works
    next => cases moved
  next =>
    split at moved
    next held broken =>
      cases moved
      exact .fail held broken
    next => cases moved
  next =>
    cases moved
    exact .hostLeaves _
  next =>
    cases moved
    exact .elsewhere ⟨rfl, rfl, rfl, rfl, fun _ => rfl, id⟩
  next =>
    cases moved
    exact .elsewhere ⟨rfl, rfl, rfl, rfl, id, fun _ => rfl⟩
  next =>
    cases moved
    exact .elsewhere ⟨rfl, rfl, rfl, rfl, id, id⟩
  next =>
    cases moved
    exact .elsewhere ⟨rfl, rfl, rfl, rfl, id, id⟩
  next thread message _ =>
    split at moved
    next calm =>
      split_ifs at moved with zero locked
      · cases moved
        subst zero
        exact .mainPanics rfl calm locked
      · cases moved
        exact .panic rfl calm zero
    next => cases moved
  next thread _ =>
    split at moved
    next reported =>
      cases moved
      exact .abort reported
    next => cases moved

end
end Phase4.Headless
