import Phase4.Library.Watch
import Phase4.Library.Schedule
import Phase4.Managers.Server

namespace Phase4.Managers.Server
open Library Dsp

/-! ## The server at work

The accept loop, the serialiser and the client tasks share one thread and change over only
where they wait. The mapper is on another thread and may publish at any time. What a task does
between two waits is one step. -/

/-- A client flushes its answer to a Ping, answers a Close, and closes on a message it rejects. -/
inductive ClientAt where
  | handshaking
  | writing
  | selecting
  | flushing
  | answering
  | rejecting
  | closing
  | gone
deriving DecidableEq, Repr

/-- A client task with its receiver's seen version and the Text messages handed to its stream,
each with its version. `notified` says that its `Notified` future has fired. -/
structure Client where
  position : ClientAt
  seen : Nat
  sent : List (Nat × String)
  notified : Bool
deriving DecidableEq, Repr

inductive ClientAction where
  | handshake
  | written
  | flushed
  | changed
  | channelClosed
  | ping
  | pong
  | close
  | application
  | shutdownSeen
  | ended
  | lost
deriving DecidableEq, Repr

namespace Client

/-- A clone of the accept loop's receiver, which never marks a version as seen. -/
def new : Client := ⟨.handshaking, 0, [], false⟩

def live (client : Client) : Bool := client.position ≠ .gone

def sendCurrent (serialised : Watch String) (client : Client) : Client :=
  { client with
    position := .writing
    seen := serialised.version
    sent := client.sent ++ [(serialised.version, serialised.value)] }

/-- Back to the `select!`, which is biased and starts with a new `Notified`. -/
def select (client : Client) : Client := { client with position := .selecting, notified := false }

def step (serialised : Watch String) (channelOpen : Bool) (client : Client) :
    ClientAction → Option Client
  | .handshake =>
      if client.position = .handshaking then some (client.sendCurrent serialised) else none
  | .written => if client.position = .writing then some client.select else none
  | .flushed => if client.position = .flushing then some client.select else none
  | .changed =>
      if client.position = .selecting ∧ client.notified = false ∧
          serialised.version ≠ client.seen then
        some (client.sendCurrent serialised)
      else none
  | .channelClosed =>
      if client.position = .selecting ∧ client.notified = false ∧
          serialised.version = client.seen ∧ channelOpen = false then
        some { client with position := .closing }
      else none
  | .ping =>
      if client.position = .selecting ∧ client.notified = false then
        some { client with position := .flushing }
      else none
  | .pong =>
      if client.position = .selecting ∧ client.notified = false then some client.select else none
  | .close =>
      if client.position = .selecting ∧ client.notified = false then
        some { client with position := .answering }
      else none
  | .application =>
      if client.position = .selecting ∧ client.notified = false then
        some { client with position := .rejecting }
      else none
  | .shutdownSeen =>
      if client.position = .selecting ∧ client.notified = true then
        some { client with position := .closing }
      else none
  | .ended =>
      if client.position = .answering ∨ client.position = .rejecting ∨
          client.position = .closing then
        some { client with position := .gone }
      else none
  | .lost =>
      if client.position = .gone ∨ client.position = .selecting ∧ client.notified = true then none
      else some { client with position := .gone }

end Client

inductive Completion where
  | waiting
  | sent
  | dropped
deriving DecidableEq, Repr

inductive AcceptorAt where
  | top
  | accepting
  | requesting
  | awaiting (completion : Completion)
  | joining
  | finished
deriving DecidableEq, Repr

structure State where
  maxClients : Nat
  keepRunning : Bool
  display : Watch DisplayPayload
  displayOpen : Bool
  serialised : Watch String
  serialiserRuns : Bool
  displaySeen : Nat
  failureLogged : Bool
  refreshQueued : Bool
  acceptor : AcceptorAt
  clients : List Client

inductive Action where
  | publish (payload : DisplayPayload)
  | mapperEnds
  | stop
  | check
  | acceptTimeout
  | accept
  | request
  | spawn
  | serialiseChange
  | serialiseRefresh
  | serialiserEnds
  | client (index : Nat) (action : ClientAction)
  | joined

namespace State

def new (toJson : DisplayPayload → Option String) (maxClients : Nat)
    (display : Watch DisplayPayload) : State :=
  let initial := initialSerialisedSnapshot toJson display.value false
  { maxClients
    keepRunning := true
    display
    displayOpen := true
    serialised := .new initial.json
    serialiserRuns := true
    displaySeen := 0
    failureLogged := initial.alreadyLogged
    refreshQueued := false
    acceptor := .top
    clients := [] }

def liveClients (state : State) : Nat := state.clients.countP Client.live

/-- The accept loop keeps a receiver of its own. -/
def receiverCount (state : State) : Nat := 1 + state.liveClients

/-- The rest of an iteration of the serialiser, from `borrow_and_update` on. -/
def encode (toJson : DisplayPayload → Option String) (refresh : Bool) (state : State) : State :=
  let serialised := serialiseDisplayPayload toJson state.display.value state.failureLogged
  { state with
    displaySeen := state.display.version
    failureLogged := serialised.alreadyLogged
    serialised := match serialised.json with
      | none => state.serialised
      | some json =>
          if refresh = false ∨ state.serialised.value ≠ json then state.serialised.send json
          else state.serialised }

def endSerialiser (state : State) : State :=
  { state with
    serialiserRuns := false
    refreshQueued := false
    acceptor := if state.acceptor = .awaiting .waiting then .awaiting .dropped else state.acceptor }

/-- `notify_waiters` reaches the `Notified` futures there are. -/
def notifyWaiters (state : State) : State :=
  { state with clients := state.clients.map fun client =>
      if client.position = .selecting then { client with notified := true } else client }

end State

def step (toJson : DisplayPayload → Option String) (state : State) : Action → Option State
  | .publish payload =>
      if state.displayOpen then some { state with display := state.display.send payload } else none
  | .mapperEnds => if state.displayOpen then some { state with displayOpen := false } else none
  | .stop => some { state with keepRunning := false }
  | .check =>
      if state.acceptor = .top then
        if state.keepRunning then some { state with acceptor := .accepting }
        else some { state.notifyWaiters with acceptor := .joining }
      else none
  | .acceptTimeout =>
      if state.acceptor = .accepting then some { state with acceptor := .top } else none
  | .accept =>
      if state.acceptor = .accepting then
        if state.liveClients < state.maxClients then some { state with acceptor := .requesting }
        else some { state with acceptor := .top }
      else none
  | .request =>
      if state.acceptor = .requesting then
        if state.serialiserRuns = false then some { state with acceptor := .awaiting .dropped }
        else if state.refreshQueued then none
        else some { state with refreshQueued := true, acceptor := .awaiting .waiting }
      else none
  | .spawn =>
      if state.acceptor = .awaiting .sent ∨ state.acceptor = .awaiting .dropped then
        some { state with acceptor := .top, clients := state.clients ++ [.new] }
      else none
  | .serialiseChange =>
      if state.serialiserRuns ∧ state.display.version ≠ state.displaySeen then
        if !hasConnectedClients state.receiverCount then
          some { state with displaySeen := state.display.version }
        else some (state.encode toJson false)
      else none
  | .serialiseRefresh =>
      if state.serialiserRuns ∧ state.refreshQueued then
        some { state.encode toJson true with
          refreshQueued := false
          acceptor := if state.acceptor = .awaiting .waiting then .awaiting .sent
            else state.acceptor }
      else none
  | .serialiserEnds =>
      if state.serialiserRuns ∧ state.displayOpen = false ∧
          state.display.version = state.displaySeen then
        some state.endSerialiser
      else none
  | .client index action => do
      let client ← state.clients[index]?
      let next ← client.step state.serialised state.serialiserRuns action
      return { state with clients := state.clients.set index next }
  | .joined =>
      if state.acceptor = .joining then
        some { state.endSerialiser with
          acceptor := .finished
          clients := state.clients.map fun client => { client with position := .gone } }
      else none

end Phase4.Managers.Server
