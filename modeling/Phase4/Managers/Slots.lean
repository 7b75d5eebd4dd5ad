import Phase4.Managers.Broadcast

namespace Phase4.Managers.Server
open Library Dsp

/-! ## The client slots

The accept loop takes a permit of the semaphore before it accepts a client and hands it to the
client's task, which gives it back when it ends. -/

def AcceptorAt.slots : AcceptorAt → Nat
  | .requesting | .awaiting _ => 1
  | _ => 0

def State.taken (state : State) : Nat := state.liveClients + state.acceptor.slots

structure Slotted where
  server : State
  available : Nat

namespace Slotted

def new (toJson : DisplayPayload → Option String) (maxClients : Nat)
    (display : Watch DisplayPayload) : Slotted := ⟨.new toJson maxClients display, maxClients⟩

def step (toJson : DisplayPayload → Option String) (slotted : Slotted) : Action → Option Slotted
  | .accept =>
      if slotted.server.acceptor = .accepting then
        if 0 < slotted.available then
          some ⟨{ slotted.server with acceptor := .requesting }, slotted.available - 1⟩
        else some { slotted with server := { slotted.server with acceptor := .top } }
      else none
  | .client index action => do
      let client ← slotted.server.clients[index]?
      let next ← client.step slotted.server.serialised slotted.server.serialiserRuns action
      return {
        server := { slotted.server with clients := slotted.server.clients.set index next }
        available := if next.live then slotted.available else slotted.available + 1 }
  -- The tasks that are left are dropped with their permits.
  | .joined => (Server.step toJson slotted.server .joined).map fun next =>
      ⟨next, slotted.available + slotted.server.liveClients⟩
  | action => (Server.step toJson slotted.server action).map fun next => { slotted with server := next }

end Slotted

def State.slotted (state : State) : Slotted := ⟨state, state.maxClients - state.taken⟩

section
variable {toJson : DisplayPayload → Option String} {state next : State} {action : Action}

theorem live_of_client_step {client after : Client} {serialised : Watch String} {runs : Bool}
    {act : ClientAction} (stepped : client.step serialised runs act = some after) :
    client.live = true := by
  have alive (here : client.position ≠ .gone) : client.live = true := decide_eq_true here
  apply alive
  intro gone
  cases act <;> simp [Client.step, gone] at stepped

theorem maxClients_of_step (moved : step toJson state action = some next) :
    next.maxClients = state.maxClients := by
  cases action with
  | stop =>
      cases moved
      rfl
  | client index act =>
      simp only [step, Option.bind_eq_bind, Option.pure_def, Option.bind_eq_some_iff] at moved
      obtain ⟨_, _, _, _, same⟩ := moved
      cases same
      rfl
  | publish | mapperEnds | acceptTimeout | serialiserEnds | serialiseRefresh | accept | request
  | serialiseChange | check | spawn | joined =>
      simp only [step] at moved
      split_ifs at moved
      all_goals
        cases moved
        rfl

theorem liveClients_set {index : Nat} {client : Client} (after : Client)
    (here : state.clients[index]? = some client) (live : client.live = true) :
    (state.clients.set index after).countP Client.live + 1 =
      state.liveClients + if after.live then 1 else 0 := by
  obtain ⟨inside, same⟩ := List.getElem?_eq_some_iff.mp here
  have some_live : 0 < state.clients.countP Client.live :=
    List.countP_pos_iff.mpr ⟨client, List.mem_of_getElem? here, live⟩
  rw [List.countP_set inside, same, live, State.liveClients]
  simp only [if_true]
  omega

theorem liveClients_notifyWaiters (state : State) :
    state.notifyWaiters.liveClients = state.liveClients := by
  simp only [State.liveClients, State.notifyWaiters, List.countP_map]
  congr 1
  funext client
  simp only [Function.comp_apply]
  split_ifs <;> rfl

theorem liveClients_gone (clients : List Client) :
    (clients.map fun client => { client with position := .gone }).countP Client.live = 0 := by
  rw [List.countP_map]
  exact List.countP_eq_zero.mpr fun client _ => by simp [Client.live]

theorem taken_of_client {index : Nat} {act : ClientAction} {client after : Client}
    (here : state.clients[index]? = some client)
    (stepped : client.step state.serialised state.serialiserRuns act = some after) :
    State.taken { state with clients := state.clients.set index after } + 1 =
      state.taken + if after.live then 1 else 0 := by
  have counted := liveClients_set after here (live_of_client_step stepped)
  simp only [State.taken, State.liveClients] at counted ⊢
  omega

theorem taken_of_joined (moved : step toJson state .joined = some next) :
    state.acceptor = .joining ∧ next.taken = 0 := by
  simp only [step] at moved
  split_ifs at moved with joining
  cases moved
  exact ⟨joining, liveClients_gone state.clients⟩

/-- Only the accept, the end of a client task and the end of the run move a permit. -/
def Action.movesPermit : Action → Bool
  | .accept | .client _ _ | .joined => true
  | _ => false

theorem taken_of_step (moved : step toJson state action = some next)
    (still : action.movesPermit = false) : next.taken = state.taken := by
  cases action with
  | accept | joined | client => cases still
  | stop =>
      cases moved
      rfl
  | publish | mapperEnds | serialiseChange =>
      simp only [step] at moved
      split_ifs at moved
      all_goals
        cases moved
        rfl
  | check =>
      simp only [step] at moved
      split_ifs at moved with top running
      all_goals
        cases moved
        simp only [State.taken, top, AcceptorAt.slots]
      · rfl
      · exact congrArg (· + 0) (liveClients_notifyWaiters state)
  | acceptTimeout =>
      simp only [step] at moved
      split_ifs at moved with accepting
      cases moved
      simp only [State.taken, accepting, AcceptorAt.slots]
      rfl
  | request =>
      simp only [step] at moved
      split_ifs at moved with requesting
      all_goals
        cases moved
        simp only [State.taken, requesting, AcceptorAt.slots]
        rfl
  | spawn =>
      simp only [step] at moved
      split_ifs at moved with ready
      cases moved
      have held : state.acceptor.slots = 1 := by
        rcases ready with ready | ready <;> rw [ready] <;> rfl
      rw [State.taken, State.taken, held]
      simp [State.liveClients, AcceptorAt.slots, List.countP_append, Client.live, Client.new]
  | serialiseRefresh =>
      simp only [step] at moved
      split_ifs at moved with ready waiting
      all_goals
        cases moved
        simp only [State.taken, AcceptorAt.slots]
      · rw [waiting]
        rfl
      · rfl
  | serialiserEnds =>
      simp only [step] at moved
      split_ifs at moved
      cases moved
      simp only [State.taken, State.endSerialiser]
      split_ifs with waiting
      · rw [waiting]
        rfl
      · rfl

theorem taken_le_of_step (moved : step toJson state action = some next)
    (within : state.taken ≤ state.maxClients) : next.taken ≤ next.maxClients := by
  rw [maxClients_of_step moved]
  cases action with
  | accept =>
      simp only [step] at moved
      split_ifs at moved with accepting free
      all_goals
        cases moved
        simp only [State.taken, accepting, AcceptorAt.slots] at within ⊢
      · exact free
      · exact within
  | joined =>
      rw [(taken_of_joined moved).2]
      exact Nat.zero_le _
  | client index act =>
      simp only [step, Option.bind_eq_bind, Option.pure_def, Option.bind_eq_some_iff] at moved
      obtain ⟨client, here, after, stepped, same⟩ := moved
      cases same
      have counted := taken_of_client here stepped
      split_ifs at counted <;> omega
  | _ =>
      rw [taken_of_step moved rfl]
      exact within

theorem slotted_eq {available : Nat} (same : available = state.maxClients - state.taken) :
    (⟨state, available⟩ : Slotted) = state.slotted := by
  rw [same, State.slotted]

theorem slotted_step (within : state.taken ≤ state.maxClients) (action : Action) :
    Slotted.step toJson state.slotted action = (step toJson state action).map State.slotted := by
  have kept (other : ∀ next, step toJson state action = some next → next.taken = state.taken) :
      ((step toJson state action).map fun next =>
          ({ state.slotted with server := next } : Slotted)) =
        (step toJson state action).map State.slotted := by
    cases moved : step toJson state action with
    | none => rfl
    | some next =>
        simp only [Option.map_some, State.slotted, other next moved, maxClients_of_step moved]
  cases action with
  | accept =>
      by_cases accepting : state.acceptor = .accepting
      · have none_held : state.taken = state.liveClients := by
          rw [State.taken, accepting]
          rfl
        simp only [Slotted.step, step, State.slotted, accepting, if_true, none_held]
        by_cases free : state.liveClients < state.maxClients
        · rw [if_pos free, if_pos (Nat.sub_pos_of_lt free)]
          exact congrArg some (slotted_eq (Nat.sub_sub _ _ _))
        · rw [if_neg free, if_neg (by omega)]
          exact congrArg some (slotted_eq rfl)
      · simp only [Slotted.step, step, State.slotted, accepting, if_false, Option.map_none]
  | client index act =>
      simp only [Slotted.step, step, State.slotted]
      cases here : state.clients[index]? with
      | none => rfl
      | some client =>
          cases stepped : client.step state.serialised state.serialiserRuns act with
          | none => simp [stepped]
          | some after =>
              have counted := taken_of_client here stepped
              simp only [stepped, Option.bind_eq_bind, Option.bind_some, Option.pure_def,
                Option.map_some, Option.some.injEq]
              apply slotted_eq
              show _ = state.maxClients - _
              split_ifs at counted ⊢ <;> omega
  | joined =>
      simp only [Slotted.step, State.slotted]
      cases moved : step toJson state .joined with
      | none => rfl
      | some next =>
          obtain ⟨joining, empty⟩ := taken_of_joined moved
          have none_held : state.taken = state.liveClients := by
            rw [State.taken, joining]
            rfl
          rw [Option.map_some, Option.map_some, none_held]
          refine congrArg some (slotted_eq ?_)
          rw [empty, maxClients_of_step moved]
          omega
  | _ => exact kept fun next moved => taken_of_step moved rfl

/-! ## Over whole runs -/

structure SlotsKept (maxClients : Nat) (state : State) : Prop where
  limit : state.maxClients = maxClients
  within : state.taken ≤ state.maxClients
  returned : state.acceptor = .finished → state.taken = 0

theorem finished_of_step (moved : step toJson state action = some next)
    (finished : next.acceptor = .finished) : action = .joined ∨ state.acceptor = .finished := by
  cases action with
  | joined => exact .inl rfl
  | stop =>
      cases moved
      exact .inr finished
  | client index act =>
      simp only [step, Option.bind_eq_bind, Option.pure_def, Option.bind_eq_some_iff] at moved
      obtain ⟨_, _, _, _, same⟩ := moved
      cases same
      exact .inr finished
  | serialiserEnds =>
      simp only [step] at moved
      split_ifs at moved
      cases moved
      simp only [State.endSerialiser] at finished
      split_ifs at finished
      exact .inr finished
  | _ =>
      simp only [step] at moved
      split_ifs at moved
      all_goals
        cases moved
        first
        | exact .inr finished
        | cases finished

theorem slotsKept_step {maxClients : Nat} (kept : SlotsKept maxClients state)
    (moved : step toJson state action = some next) : SlotsKept maxClients next := by
  refine ⟨(maxClients_of_step moved).trans kept.limit, taken_le_of_step moved kept.within, ?_⟩
  intro finished
  rcases finished_of_step moved finished with rfl | before
  · exact (taken_of_joined moved).2
  · have empty := kept.returned before
    cases action with
    | client index act =>
        simp only [step, Option.bind_eq_bind, Option.pure_def, Option.bind_eq_some_iff] at moved
        obtain ⟨client, here, after, stepped, same⟩ := moved
        have counted := taken_of_client here stepped
        cases same
        split_ifs at counted <;> omega
    | accept =>
        simp [step, before] at moved
    | joined => exact (taken_of_joined moved).2
    | _ => exact (taken_of_step moved rfl).trans empty

end

/-- Counting permits is counting live clients, none is lost and all are back at the end. -/
theorem slots_bound_the_clients (toJson : DisplayPayload → Option String) (maxClients : Nat)
    (display : Watch DisplayPayload) (schedule : List Action) :
    exec (Slotted.step toJson) (.new toJson maxClients display) schedule =
        (exec (step toJson) (.new toJson maxClients display) schedule).map State.slotted ∧
      ∀ last, exec (Slotted.step toJson) (.new toJson maxClients display) schedule = some last →
        last.available + last.server.taken = maxClients ∧
          (last.server.acceptor = .finished → last.available = maxClients) := by
  have base : SlotsKept maxClients (.new toJson maxClients display) :=
    ⟨rfl, Nat.zero_le _, by rintro ⟨⟩⟩
  have same : exec (Slotted.step toJson) (.new toJson maxClients display) schedule =
      (exec (step toJson) (.new toJson maxClients display) schedule).map State.slotted := by
    apply exec_map State.slotted _ _ base schedule
    · intro state action kept
      exact slotted_step kept.within action
    · intro state action next
      exact slotsKept_step
  refine ⟨same, fun last reached => ?_⟩
  rw [same, Option.map_eq_some_iff] at reached
  obtain ⟨server, run, rfl⟩ := reached
  have kept : SlotsKept maxClients server :=
    exec_invariant base (fun state action next => slotsKept_step) run
  have limit := kept.limit
  have within := kept.within
  simp only [State.slotted]
  refine ⟨by omega, fun finished => ?_⟩
  rw [kept.returned finished, limit]
  rfl

end Phase4.Managers.Server
