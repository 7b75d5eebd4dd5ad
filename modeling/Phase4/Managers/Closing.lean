import Phase4.Managers.Broadcast

namespace Phase4.Managers.Server
open Library Dsp

/-! ## Shutdown of the clients -/

/-- Steps a client takes with nobody's help but its own writes going through. -/
def ClientAction.unaided : ClientAction → Bool
  | .handshake | .written | .flushed | .changed | .channelClosed | .shutdownSeen => true
  | .ping | .pong | .close | .application | .ended | .lost => false

def Client.serving (client : Client) : Prop :=
  client.position = .handshaking ∨ client.position = .writing ∨ client.position = .flushing ∨
    client.position = .selecting

/-- The client goes on to attempt a close frame, whatever becomes of everybody else. -/
def Client.Closes (serialised : Watch String) (channelOpen : Bool) (client : Client) : Prop :=
  ∃ actions next, (∀ action ∈ actions, action.unaided = true) ∧
    exec (Client.step serialised channelOpen) client actions = some next ∧
    next.position = .closing

structure Reaches (state : State) : Prop where
  told : ∀ client ∈ state.clients, client.position = .selecting →
    client.notified = true ∨ state.serialiserRuns = false
  closes : ∀ client ∈ state.clients, client.serving →
    client.Closes state.serialised state.serialiserRuns

/-- No client is about to enter its select loop, or the snapshot channel is closed. -/
def Ready (state : State) : Prop :=
  state.serialiserRuns = false ∨ ∀ client ∈ state.clients,
    client.position ≠ .handshaking ∧ client.position ≠ .writing ∧ client.position ≠ .flushing

/-! ## One client -/

namespace Client
variable {serialised : Watch String} {channelOpen : Bool} {client next : Client}

theorem closes_of_notified (here : client.position = .selecting) (told : client.notified = true) :
    client.Closes serialised channelOpen :=
  ⟨[.shutdownSeen], { client with position := .closing }, by simp [ClientAction.unaided],
    by simp [exec, step, here, told], rfl⟩

theorem closes_of_closed (here : client.position = .selecting) :
    client.Closes serialised false := by
  cases told : client.notified with
  | true => exact closes_of_notified here told
  | false =>
      by_cases seen : serialised.version = client.seen
      · exact ⟨[.channelClosed], { client with position := .closing },
          by simp [ClientAction.unaided], by simp [exec, step, here, told, seen], rfl⟩
      · exact ⟨[.changed, .written, .channelClosed],
          { (client.sendCurrent serialised).select with position := .closing },
          by simp [ClientAction.unaided],
          by simp [exec, step, here, told, seen, sendCurrent, select], rfl⟩

theorem Closes.of_step {action : ClientAction} (moved : client.step serialised channelOpen action =
    some next) (unaided : action.unaided = true) (closes : next.Closes serialised channelOpen) :
    client.Closes serialised channelOpen := by
  obtain ⟨actions, last, own, run, closing⟩ := closes
  refine ⟨action :: actions, last, ?_, ?_, closing⟩
  · intro other member
    rcases List.mem_cons.mp member with rfl | later
    · exact unaided
    · exact own other later
  · rw [exec, moved]
    exact run

theorem closes_of_channel_closed (serving : client.serving) : client.Closes serialised false := by
  have written {writing : Client} (here : writing.position = .writing) :
      writing.Closes serialised false := by
    have moved : writing.step serialised false .written = some writing.select := if_pos here
    exact .of_step moved rfl (closes_of_closed rfl)
  rcases serving with here | here | here | here
  · have moved : client.step serialised false .handshake = some (client.sendCurrent serialised) :=
      if_pos here
    exact .of_step moved rfl (written rfl)
  · exact written here
  · have moved : client.step serialised false .flushed = some client.select := if_pos here
    exact .of_step moved rfl (closes_of_closed rfl)
  · exact closes_of_closed here

def leaving (client : Client) : Prop :=
  client.position = .selecting ∧ client.notified = true ∨ client.position = .answering ∨
    client.position = .rejecting ∨ client.position = .closing ∨ client.position = .gone

theorem leaving.step (leaving : client.leaving) {action : ClientAction}
    (moved : client.step serialised channelOpen action = some next) : next.leaving := by
  cases action with
  | ended | lost =>
      simp only [Client.step] at moved
      split_ifs at moved
      cases moved
      exact .inr (.inr (.inr (.inr rfl)))
  | shutdownSeen =>
      simp only [Client.step] at moved
      split_ifs at moved
      cases moved
      exact .inr (.inr (.inr (.inl rfl)))
  | handshake | written | flushed =>
      simp only [Client.step] at moved
      split_ifs at moved with here
      simp [Client.leaving, here] at leaving
  | changed | channelClosed | ping | pong | close | application =>
      simp only [Client.step] at moved
      split_ifs at moved with here
      simp [Client.leaving, here.1, here.2] at leaving

theorem leaving.told (leaving : client.leaving) (here : client.position = .selecting) :
    client.notified = true := by
  rcases leaving with ⟨_, told⟩ | past
  · exact told
  · simp [here] at past

theorem leaving.closes (leaving : client.leaving) (serving : client.serving) :
    client.Closes serialised channelOpen := by
  rcases leaving with ⟨here, told⟩ | past
  · exact closes_of_notified here told
  · rcases serving with here | here | here | here
    all_goals simp [here] at past

end Client

/-! ## Whole runs -/

section
variable {toJson : DisplayPayload → Option String} {state next : State} {action : Action}

structure Settled (state : State) : Prop where
  joining : state.acceptor = .joining ∨ state.acceptor = .finished
  clients : state.serialiserRuns = false ∨ ∀ client ∈ state.clients, client.leaving

theorem settled_of_ready (ready : Ready state) :
    Settled { state.notifyWaiters with acceptor := .joining } where
  joining := .inl rfl
  clients := by
    apply ready.imp id
    intro positions client member
    obtain ⟨before, old, rfl⟩ := List.mem_map.mp member
    obtain ⟨started, idle, answered⟩ := positions before old
    cases here : before.position with
    | handshaking => exact absurd here started
    | writing => exact absurd here idle
    | flushing => exact absurd here answered
    | selecting => simp [Client.leaving]
    | answering | rejecting | closing | gone => simp [Client.leaving, here]

theorem serialiserRuns_of_step (moved : step toJson state action = some next)
    (ended : state.serialiserRuns = false) : next.serialiserRuns = false := by
  cases action with
  | publish | mapperEnds | acceptTimeout | serialiserEnds | accept | request | check | spawn
  | joined | serialiseChange | serialiseRefresh =>
      simp only [step] at moved
      split_ifs at moved
      all_goals cases moved
      all_goals first
        | exact ended
        | rfl
  | stop =>
      cases moved
      exact ended
  | client index act =>
      simp only [step, Option.bind_eq_bind, Option.pure_def, Option.bind_eq_some_iff] at moved
      obtain ⟨_, _, _, _, same⟩ := moved
      cases same
      exact ended

theorem joining_step (moved : step toJson state action = some next)
    (joining : state.acceptor = .joining ∨ state.acceptor = .finished) :
    (next.acceptor = .joining ∨ next.acceptor = .finished) ∧
      ∀ client' ∈ next.clients, client' ∈ state.clients ∨ client'.position = .gone ∨
        ∃ client ∈ state.clients, ∃ act,
          client.step state.serialised state.serialiserRuns act = some client' := by
  have busy : state.acceptor ≠ .top ∧ state.acceptor ≠ .accepting ∧
      state.acceptor ≠ .requesting ∧ ∀ completion, state.acceptor ≠ .awaiting completion := by
    rcases joining with here | here
    all_goals simp [here]
  obtain ⟨notTop, notAccepting, notRequesting, notAwaiting⟩ := busy
  cases action with
  | check | acceptTimeout | accept | request | spawn =>
      simp [step, notTop, notAccepting, notRequesting, notAwaiting] at moved
  | publish | mapperEnds | serialiseChange =>
      simp only [step] at moved
      split_ifs at moved
      all_goals
        cases moved
        exact ⟨joining, fun _ member => .inl member⟩
  | serialiseRefresh | serialiserEnds =>
      simp only [step, State.endSerialiser, if_neg (notAwaiting .waiting)] at moved
      split_ifs at moved
      cases moved
      exact ⟨joining, fun _ member => .inl member⟩
  | stop =>
      cases moved
      exact ⟨joining, fun _ member => .inl member⟩
  | joined =>
      simp only [step] at moved
      split_ifs at moved
      cases moved
      refine ⟨.inr rfl, ?_⟩
      intro client' member
      obtain ⟨client, _, rfl⟩ := List.mem_map.mp member
      exact .inr (.inl rfl)
  | client index act =>
      simp only [step, Option.bind_eq_bind, Option.pure_def, Option.bind_eq_some_iff] at moved
      obtain ⟨client, found, after, stepped, same⟩ := moved
      cases same
      refine ⟨joining, ?_⟩
      intro client' member
      rcases List.mem_or_eq_of_mem_set member with old | rfl
      · exact .inl old
      · exact .inr (.inr ⟨client, List.mem_of_getElem? found, act, stepped⟩)

theorem Settled.step (settled : Settled state) (moved : step toJson state action = some next) :
    Settled next := by
  obtain ⟨joining, clients⟩ := joining_step moved settled.joining
  refine ⟨joining, settled.clients.imp (serialiserRuns_of_step moved) ?_⟩
  intro leaving client' member
  rcases clients client' member with old | gone | ⟨client, old, act, stepped⟩
  · exact leaving client' old
  · simp [Client.leaving, gone]
  · exact (leaving client old).step stepped

theorem Settled.reaches (settled : Settled state) : Reaches state where
  told client member here := by
    rcases settled.clients with closed | leaving
    · exact .inr closed
    · exact .inl ((leaving client member).told here)
  closes client member serving := by
    rcases settled.clients with closed | leaving
    · rw [closed]
      exact Client.closes_of_channel_closed serving
    · exact (leaving client member).closes serving

theorem settled_run {schedule : List Action} {start last : State} (settled : Settled start)
    (run : exec (step toJson) start schedule = some last) : Settled last :=
  exec_invariant (motive := Settled) settled (fun _ _ _ here moved => here.step moved) run

def Misses (state : State) : Prop :=
  state.serialiserRuns = true ∧
    ∃ client ∈ state.clients, client.position = .selecting ∧ client.notified = false

theorem Misses.not_reaches (misses : Misses state) : ¬Reaches state := by
  intro reaches
  obtain ⟨running, client, member, here, untold⟩ := misses
  rcases reaches.told client member here with told | closed
  · rw [untold] at told
    cases told
  · rw [running] at closed
    cases closed

theorem client_step {index : Nat} {client client' : Client} {act : ClientAction}
    (found : state.clients[index]? = some client)
    (stepped : client.step state.serialised state.serialiserRuns act = some client') :
    step toJson state (.client index act) =
      some { state with clients := state.clients.set index client' } := by
  simp [step, found, stepped]

theorem misses_of_arriving {index : Nat} {client : Client} {act : ClientAction}
    (found : state.clients[index]? = some client) (running : state.serialiserRuns = true)
    (arrives : client.step state.serialised state.serialiserRuns act = some client.select) :
    ∃ actions last, exec (step toJson) state actions = some last ∧ Misses last := by
  obtain ⟨bound, -⟩ := List.getElem?_eq_some_iff.mp found
  have run : exec (step toJson) state [.client index act] =
      some { state with clients := state.clients.set index client.select } := by
    rw [exec, client_step found arrives]
    rfl
  exact ⟨_, _, run, running, client.select, List.mem_set bound _, rfl, rfl⟩

theorem misses_of_returning {index : Nat} {client : Client}
    (found : state.clients[index]? = some client) (running : state.serialiserRuns = true)
    (returning : client.position = .handshaking ∨ client.position = .writing ∨
      client.position = .flushing) :
    ∃ actions last, exec (step toJson) state actions = some last ∧ Misses last := by
  rcases returning with here | here | here
  · let first := client.sendCurrent state.serialised
    let middle := { state with clients := state.clients.set index first }
    have answered : client.step state.serialised state.serialiserRuns .handshake = some first :=
      if_pos here
    have sits : first.position = .writing := rfl
    have written : first.step middle.serialised middle.serialiserRuns .written =
        some first.select := by rw [Client.step, if_pos sits]
    obtain ⟨bound, -⟩ := List.getElem?_eq_some_iff.mp found
    have there : middle.clients[index]? = some first := List.getElem?_set_self bound
    obtain ⟨actions, last, run, misses⟩ :=
      misses_of_arriving there running written
    refine ⟨.client index .handshake :: actions, last, ?_, misses⟩
    rw [exec, client_step found answered]
    exact run
  · have written : client.step state.serialised state.serialiserRuns .written =
        some client.select := if_pos here
    exact misses_of_arriving found running written
  · have flushed : client.step state.serialised state.serialiserRuns .flushed =
        some client.select := if_pos here
    exact misses_of_arriving found running flushed

theorem check_breaks (breaking : state.acceptor = .top) (stopped : state.keepRunning = false) :
    step toJson state .check = some { state.notifyWaiters with acceptor := .joining } := by
  simp [step, breaking, stopped]

theorem missed_of_not_ready (breaking : state.acceptor = .top) (stopped : state.keepRunning = false)
    (notReady : ¬Ready state) : ∃ after last,
      exec (step toJson) state (.check :: after) = some last ∧ Misses last := by
  simp only [Ready, not_or, not_forall] at notReady
  obtain ⟨running, client, member, returning⟩ := notReady
  obtain ⟨index, bound, rfl⟩ := List.getElem_of_mem member
  have away : state.clients[index].position = .handshaking ∨
      state.clients[index].position = .writing ∨ state.clients[index].position = .flushing := by
    by_contra none_of
    simp only [not_or] at none_of
    exact returning none_of
  have found : ({ state.notifyWaiters with acceptor := .joining } : State).clients[index]? =
      some state.clients[index] := by
    have elsewhere : state.clients[index].position ≠ .selecting := by
      rcases away with here | here | here
      all_goals simp [here]
    simp [State.notifyWaiters, bound, elsewhere]
  obtain ⟨after, last, run, misses⟩ :=
    misses_of_returning found (Bool.eq_true_of_not_eq_false running) away
  refine ⟨after, last, ?_, misses⟩
  rw [exec, check_breaks breaking stopped]
  exact run

/-- Whatever follows `notify_waiters`, shutdown reaches every client, exactly when it finds no
client on its way to its select loop or the snapshot channel closed. -/
theorem shutdown_reaches_clients_iff (toJson : DisplayPayload → Option String) {state : State}
    (breaking : state.acceptor = .top) (stopped : state.keepRunning = false) :
    (∀ after last, exec (step toJson) state (.check :: after) = some last → Reaches last) ↔
      Ready state := by
  constructor
  · intro reached
    by_contra notReady
    obtain ⟨after, last, run, misses⟩ :=
      missed_of_not_ready breaking stopped notReady
    exact misses.not_reaches (reached after last run)
  · intro ready after last later
    rw [exec, check_breaks breaking stopped] at later
    exact (settled_run (settled_of_ready ready) later).reaches

end

def joinThenStop : List Action :=
  [.check, .accept, .request, .serialiseRefresh, .spawn, .client 0 .handshake, .client 0 .written,
    .stop]

theorem waiting_client_is_reached : ∃ state,
    exec (step plainJson) (.new plainJson 8 (.new (.new 1))) joinThenStop = some state ∧
    ∀ after last, exec (step plainJson) state (.check :: after) = some last → Reaches last := by
  have stops : (exec (step plainJson) (.new plainJson 8 (.new (.new 1))) joinThenStop).any
      (fun state => decide (state.acceptor = .top) && !state.keepRunning &&
        state.clients.all fun client => decide (client.position = .selecting)) = true := by
    decide +kernel
  obtain ⟨state, reached, checked⟩ := (Option.any_eq_true _ _).mp stops
  simp only [Bool.and_eq_true, decide_eq_true_eq, Bool.not_eq_true', List.all_eq_true] at checked
  obtain ⟨⟨breaking, stopped⟩, waiting⟩ := checked
  refine ⟨state, reached, (shutdown_reaches_clients_iff plainJson breaking stopped).mpr (.inr ?_)⟩
  intro client member
  simp [waiting client member]

def stopWhileWriting : List Action :=
  [.check, .accept, .request, .serialiseRefresh, .spawn, .client 0 .handshake, .stop, .check,
    .client 0 .written]

theorem writing_client_is_missed : ∃ last,
    exec (step plainJson) (.new plainJson 8 (.new (.new 1))) stopWhileWriting = some last ∧
    last.acceptor = .joining ∧ ¬Reaches last ∧
    ∀ action : ClientAction, action.unaided = true →
      step plainJson last (.client 0 action) = none := by
  have observed : (exec (step plainJson) (.new plainJson 8 (.new (.new 1))) stopWhileWriting).any
      (fun last => decide (last.acceptor = .joining) && last.serialiserRuns &&
        decide (last.clients = [⟨.selecting, last.serialised.version,
          [(last.serialised.version, last.serialised.value)], false⟩])) = true := by
    decide +kernel
  obtain ⟨last, reached, checked⟩ := (Option.any_eq_true _ _).mp observed
  simp only [Bool.and_eq_true, decide_eq_true_eq] at checked
  obtain ⟨⟨joining, running⟩, clients⟩ := checked
  refine ⟨last, reached, joining, ?_, ?_⟩
  · exact Misses.not_reaches ⟨running, _, by rw [clients]; exact List.mem_singleton_self _, rfl, rfl⟩
  · intro action unaided
    cases action
    all_goals simp_all [step, Client.step, ClientAction.unaided]

end Phase4.Managers.Server
