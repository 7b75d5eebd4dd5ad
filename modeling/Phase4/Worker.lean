import Phase4.Bootstrap
import Phase4.Library.Parking
import Phase4.Library.Schedule

namespace Phase4.Worker
open Library Bootstrap Config

/-! ## What is known of each kind of worker

Times are in nanoseconds. -/

def fromMillis (millis : Nat) : Nat := millis * 1000000

def shutdownPollMs : Nat := 10
def generatorShutdownTimeoutMs : Nat := 250
def analyserShutdownTimeoutMs : Nat := 1000
def mapperShutdownTimeoutMs : Nat := 1000
def midiInputShutdownTimeoutMs : Nat := 250
def serverShutdownTimeoutMs : Nat := 1500
def oscSenderShutdownTimeoutMs : Nat := 1500
def frameWriterShutdownTimeoutMs : Nat := 1000

structure WorkerSpec where
  name : String
  successMessage : String
  timeoutMs : Nat

def WorkerSpec.timeout (spec : WorkerSpec) : Nat := fromMillis spec.timeoutMs

def spec : WorkerKind → WorkerSpec
  | .generator => ⟨"generator", "- Generator shutdown complete", generatorShutdownTimeoutMs⟩
  | .analyser => ⟨"analyser", "- Analyser shutdown complete", analyserShutdownTimeoutMs⟩
  | .mapper => ⟨"mapper", "- Mapper shutdown complete", mapperShutdownTimeoutMs⟩
  | .midiInput => ⟨"midi-input", "- MIDI input shutdown complete", midiInputShutdownTimeoutMs⟩
  | .webSocket =>
      ⟨"websocket-server", "- WebSocket server shutdown complete", serverShutdownTimeoutMs⟩
  | .osc => ⟨"osc-sender", "- OSC sender shutdown complete", oscSenderShutdownTimeoutMs⟩
  | .frameWriter =>
      ⟨"frame-writer", "- Frame writer shutdown complete", frameWriterShutdownTimeoutMs⟩

inductive LogLine where
  | info (text : String)
  | error (text : String)
deriving DecidableEq, Repr

def outcomeLine (kind : WorkerKind) : JoinOutcome → LogLine
  | .joined => .info (spec kind).successMessage
  | .panicked =>
      .error ("Worker thread '" ++ (spec kind).name ++ "' panicked during shutdown")
  | .timedOut =>
      .error ("Worker thread '" ++ (spec kind).name ++ "' did not stop within " ++
        toString (spec kind).timeoutMs ++ " ms, detaching")

/-! ## Shutdown

The main thread closes the input, clears `keep_running` and waits for the workers one after
another. They go on meanwhile, and so does the clock. -/

/-- The holder of a MIDI connection only parks. Any other worker may end at any time. -/
inductive Thread where
  | running
  | holding (waiter : Waiter)
  | returned
  | panicked
deriving DecidableEq, Repr

inductive ThreadAction where
  | returns
  | panics
  | waiter (action : WaiterAction)
deriving DecidableEq, Repr

namespace Thread

def ended : Thread → Option JoinOutcome
  | .running => none
  | .holding waiter => if waiter.position = .left then some .joined else none
  | .returned => some .joined
  | .panicked => some .panicked

def unpark : Thread → Thread
  | .holding waiter => .holding waiter.unpark
  | thread => thread

def step (keepRunning : Bool) : Thread → ThreadAction → Option Thread
  | .running, .returns => some .returned
  | .running, .panics => some .panicked
  | .holding waiter, .waiter action => (waiter.step keepRunning action).map .holding
  | _, _ => none

end Thread

structure Registered where
  kind : WorkerKind
  handle : Nat
deriving DecidableEq, Repr

def Registered.timeout (worker : Registered) : Nat := (spec worker.kind).timeout

inductive MainAt where
  | elsewhere
  | closing
  | signalling
  | draining
  | polling (worker : Registered) (deadline : Nat)
  | timing (worker : Registered) (deadline : Nat)
  | waking (worker : Registered) (deadline now : Nat)
  | sleeping (worker : Registered) (deadline wakes : Nat)
deriving DecidableEq, Repr

/-- `slept` sums up what the main thread has asked to sleep. -/
structure State where
  clock : Nat
  keepRunning : Bool
  shutdownStarted : Bool
  stream : Bool
  threads : Nat → Thread
  registered : List Registered
  main : MainAt
  ended : List (Registered × JoinOutcome)
  lines : List LogLine
  slept : Nat

inductive Action where
  | elapse (span : Nat)
  | thread (handle : Nat) (action : ThreadAction)
  | stop
  /-- A call of `shutdown`, by the main path or by `Drop`. -/
  | call
  | close
  | signal
  | next
  | poll
  | time
  | unpark
  | resume
deriving DecidableEq

namespace State

def log (line : LogLine) (state : State) : State := { state with lines := state.lines ++ [line] }

def judge (worker : Registered) (outcome : JoinOutcome) (state : State) : State :=
  { state.log (outcomeLine worker.kind outcome) with
    main := .draining
    ended := state.ended ++ [(worker, outcome)] }

def next (state : State) : State :=
  match state.registered with
  | [] => { state.log (.info "Shutdown complete") with main := .elsewhere }
  | worker :: rest =>
      { state with registered := rest, main := .polling worker (state.clock + worker.timeout) }

def poll (worker : Registered) (deadline : Nat) (state : State) : State :=
  match (state.threads worker.handle).ended with
  | some outcome => state.judge worker outcome
  | none => { state with main := .timing worker deadline }

def time (worker : Registered) (deadline : Nat) (state : State) : State :=
  if deadline ≤ state.clock then state.judge worker .timedOut
  else { state with main := .waking worker deadline state.clock }

/-- A sleep may take longer than it was asked to, never less. -/
def unpark (worker : Registered) (deadline now : Nat) (state : State) : State :=
  let span := min (deadline - now) (fromMillis shutdownPollMs)
  { state with
    threads := Function.update state.threads worker.handle (state.threads worker.handle).unpark
    main := .sleeping worker deadline (state.clock + span)
    slept := state.slept + span }

end State

def step (state : State) : Action → Option State
  | .elapse span => some { state with clock := state.clock + span }
  | .thread handle action =>
      ((state.threads handle).step state.keepRunning action).map fun thread =>
        { state with threads := Function.update state.threads handle thread }
  | .stop => some { state with keepRunning := false }
  | .call =>
      match state.main with
      | .elsewhere =>
          if state.shutdownStarted then some state
          else
            some { state.log (.info "Shutdown started") with
              shutdownStarted := true
              main := .closing }
      | _ => none
  | .close =>
      match state.main with
      | .closing =>
          some { state.log (.info "- Device shutdown complete") with
            stream := false
            main := .signalling }
      | _ => none
  | .signal =>
      match state.main with
      | .signalling => some { state with keepRunning := false, main := .draining }
      | _ => none
  | .next =>
      match state.main with
      | .draining => some state.next
      | _ => none
  | .poll =>
      match state.main with
      | .polling worker deadline => some (state.poll worker deadline)
      | _ => none
  | .time =>
      match state.main with
      | .timing worker deadline => some (state.time worker deadline)
      | _ => none
  | .unpark =>
      match state.main with
      | .waking worker deadline now => some (state.unpark worker deadline now)
      | _ => none
  | .resume =>
      match state.main with
      | .sleeping worker deadline wakes =>
          if wakes ≤ state.clock then some { state with main := .polling worker deadline }
          else none
      | _ => none

/-- An engine whose main thread has not begun to shut it down. A handle is the place in which
its worker was registered. -/
def State.new {Port : Type} (engine : Engine Port) (clock : Nat) (threads : Nat → Thread) :
    State where
  clock
  keepRunning := engine.keepRunning
  shutdownStarted := false
  stream := engine.stream.isSome
  threads
  registered := engine.registered.zipIdx.map fun entry => ⟨entry.1, entry.2⟩
  main := .elsewhere
  ended := []
  lines := []
  slept := 0

/-! ## What a step does -/

inductive Moves (state : State) : Action → State → Prop
  | elapses (span : Nat) : Moves state (.elapse span) { state with clock := state.clock + span }
  | thread {handle : Nat} {action : ThreadAction} {thread : Thread}
      (moved : (state.threads handle).step state.keepRunning action = some thread) :
      Moves state (.thread handle action)
        { state with threads := Function.update state.threads handle thread }
  | stops : Moves state .stop { state with keepRunning := false }
  | again (here : state.main = .elsewhere) (started : state.shutdownStarted = true) :
      Moves state .call state
  | begins (here : state.main = .elsewhere) (fresh : state.shutdownStarted = false) :
      Moves state .call { state.log (.info "Shutdown started") with
        shutdownStarted := true
        main := .closing }
  | closes (here : state.main = .closing) :
      Moves state .close { state.log (.info "- Device shutdown complete") with
        stream := false
        main := .signalling }
  | signals (here : state.main = .signalling) :
      Moves state .signal { state with keepRunning := false, main := .draining }
  | finishes (here : state.main = .draining) (none_left : state.registered = []) :
      Moves state .next { state.log (.info "Shutdown complete") with main := .elsewhere }
  | takes {worker : Registered} {rest : List Registered} (here : state.main = .draining)
      (first : state.registered = worker :: rest) :
      Moves state .next { state with
        registered := rest
        main := .polling worker (state.clock + worker.timeout) }
  | judges {worker : Registered} {deadline : Nat} {outcome : JoinOutcome}
      (here : state.main = .polling worker deadline)
      (ended : (state.threads worker.handle).ended = some outcome) :
      Moves state .poll (state.judge worker outcome)
  | unfinished {worker : Registered} {deadline : Nat} (here : state.main = .polling worker deadline)
      (runs : (state.threads worker.handle).ended = none) :
      Moves state .poll { state with main := .timing worker deadline }
  | detaches {worker : Registered} {deadline : Nat} (here : state.main = .timing worker deadline)
      (late : deadline ≤ state.clock) : Moves state .time (state.judge worker .timedOut)
  | looks {worker : Registered} {deadline : Nat} (here : state.main = .timing worker deadline)
      (early : state.clock < deadline) :
      Moves state .time { state with main := .waking worker deadline state.clock }
  | unparks {worker : Registered} {deadline now : Nat}
      (here : state.main = .waking worker deadline now) :
      Moves state .unpark (state.unpark worker deadline now)
  | resumes {worker : Registered} {deadline wakes : Nat}
      (here : state.main = .sleeping worker deadline wakes) (slept : wakes ≤ state.clock) :
      Moves state .resume { state with main := .polling worker deadline }

section
variable {state next : State} {action : Action}

theorem moves_of_step (moved : step state action = some next) : Moves state action next := by
  cases action with
  | elapse span =>
      cases moved
      exact .elapses span
  | thread handle act =>
      obtain ⟨thread, stepped, same⟩ := Option.map_eq_some_iff.mp moved
      cases same
      exact .thread stepped
  | stop =>
      cases moved
      exact .stops
  | call =>
      cases here : state.main with
      | elsewhere =>
          simp only [step, here] at moved
          split_ifs at moved with started
          all_goals cases moved
          · exact .again here started
          · exact .begins here (Bool.eq_false_of_not_eq_true started)
      | _ => simp [step, here] at moved
  | close =>
      cases here : state.main with
      | closing =>
          simp only [step, here] at moved
          cases moved
          exact .closes here
      | _ => simp [step, here] at moved
  | signal =>
      cases here : state.main with
      | signalling =>
          simp only [step, here] at moved
          cases moved
          exact .signals here
      | _ => simp [step, here] at moved
  | next =>
      cases here : state.main with
      | draining =>
          simp only [step, here, State.next] at moved
          cases left : state.registered with
          | nil =>
              simp only [left] at moved
              cases moved
              exact .finishes here left
          | cons worker rest =>
              simp only [left] at moved
              cases moved
              exact .takes here left
      | _ => simp [step, here] at moved
  | poll =>
      cases here : state.main with
      | polling worker deadline =>
          simp only [step, here, State.poll] at moved
          cases ended : (state.threads worker.handle).ended with
          | none =>
              simp only [ended] at moved
              cases moved
              exact .unfinished here ended
          | some outcome =>
              simp only [ended] at moved
              cases moved
              exact .judges here ended
      | _ => simp [step, here] at moved
  | time =>
      cases here : state.main with
      | timing worker deadline =>
          simp only [step, here, State.time] at moved
          split_ifs at moved with late
          all_goals cases moved
          · exact .detaches here late
          · exact .looks here (Nat.lt_of_not_le late)
      | _ => simp [step, here] at moved
  | unpark =>
      cases here : state.main with
      | waking worker deadline now =>
          simp only [step, here] at moved
          cases moved
          exact .unparks here
      | _ => simp [step, here] at moved
  | resume =>
      cases here : state.main with
      | sleeping worker deadline wakes =>
          simp only [step, here] at moved
          split_ifs at moved with slept
          cases moved
          exact .resumes here slept
      | _ => simp [step, here] at moved

end

end Phase4.Worker
