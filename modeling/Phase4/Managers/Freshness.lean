import Phase4.Managers.Broadcast

namespace Phase4.Managers.Server
open Library Dsp

/-! ## Does the last text show the latest payload? -/

/-- Nothing is on its way: every version is seen, every refresh answered, and every client is
past its handshake. -/
structure Quiescent (state : State) : Prop where
  display : state.display.version = state.displaySeen
  queue : state.refreshQueued = false
  acceptor : state.acceptor ≠ .requesting ∧ state.acceptor ≠ .awaiting .waiting
  clients : ∀ client ∈ state.clients, client.live = true →
    client.position ≠ .handshaking ∧ client.seen = state.serialised.version

/-- At rest, every client was last sent the text of the latest payload, if that is finite. -/
def Fresh (toJson : DisplayPayload → Option String) (state : State) : Prop :=
  Quiescent state → AllFinite state.display.value →
    ∀ client ∈ state.clients, client.live = true →
      ∃ version text, client.sent.getLast? = some (version, text) ∧
        toJson state.display.value = some text

def UpToDate (toJson : DisplayPayload → Option String) (state : State) : Prop :=
  AllFinite state.display.value → toJson state.display.value = some state.serialised.value

/-- Between the answer to a connection's refresh and the clone of its receiver, the serialiser
skips no payload whose text is new, and no connection goes on without an answer while the text
is out of date. -/
def NoUpdateSkipped (toJson : DisplayPayload → Option String) (state : State) (action : Action)
    (_ : State) : Prop :=
  match action with
  | .serialiseChange => state.acceptor = .awaiting .sent →
      hasConnectedClients state.receiverCount = false → UpToDate toJson state
  | .spawn => state.acceptor = .awaiting .dropped → UpToDate toJson state
  | _ => True

instance (toJson : DisplayPayload → Option String) (state : State) :
    Decidable (UpToDate toJson state) :=
  inferInstanceAs (Decidable (AllFinite state.display.value →
    toJson state.display.value = some state.serialised.value))

instance (toJson : DisplayPayload → Option String) (state : State) (action : Action)
    (next : State) : Decidable (NoUpdateSkipped toJson state action next) :=
  match action with
  | .serialiseChange => inferInstanceAs (Decidable (state.acceptor = .awaiting .sent →
      hasConnectedClients state.receiverCount = false → UpToDate toJson state))
  | .spawn =>
      inferInstanceAs (Decidable (state.acceptor = .awaiting .dropped → UpToDate toJson state))
  | .publish _ | .mapperEnds | .stop | .check | .acceptTimeout | .accept | .request
  | .serialiseRefresh | .serialiserEnds | .client _ _ | .joined => .isTrue trivial

def Watched (state : State) : Prop :=
  (∃ client ∈ state.clients, client.live = true) ∨ state.acceptor = .awaiting .sent

structure Invariant (toJson : DisplayPayload → Option String) (state : State) : Prop where
  seen : state.displaySeen ≤ state.display.version
  queued : state.refreshQueued = true → state.acceptor = .awaiting .waiting
  ordered : OrderedClients state
  current : Watched state → state.display.version = state.displaySeen → UpToDate toJson state

section
variable {toJson : DisplayPayload → Option String} {state next : State} {action : Action}

theorem no_clients_iff (state : State) :
    hasConnectedClients state.receiverCount = false ↔
      ∀ client ∈ state.clients, client.live = false := by
  have alone : hasConnectedClients state.receiverCount = false ↔ state.liveClients = 0 := by
    simp [hasConnectedClients, retainedSerialisedReceivers, State.receiverCount]
  rw [alone, State.liveClients, List.countP_eq_zero]
  simp

theorem upToDate_encode (total : ∀ payload, AllFinite payload → (toJson payload).isSome = true)
    (refresh : Bool) (state : State) : UpToDate toJson (state.encode toJson refresh) := by
  show AllFinite state.display.value → toJson state.display.value = _
  intro finite
  obtain ⟨json, text⟩ := Option.isSome_iff_exists.mp (total _ finite)
  have answer : (serialiseDisplayPayload toJson state.display.value state.failureLogged).json =
      some json := by
    rw [serialiseDisplayPayload_json, if_pos finite]
    exact text
  have sent : (state.encode toJson refresh).serialised =
      if refresh = false ∨ state.serialised.value ≠ json then state.serialised.send json
      else state.serialised := by
    rw [State.encode, answer]
  rw [text, sent]
  split_ifs with changed
  · rfl
  · rw [not_or, not_not] at changed
    rw [changed.2]

theorem effect_of_step (total : ∀ payload, AllFinite payload → (toJson payload).isSome = true)
    (moved : step toJson state action = some next) :
    (action ≠ .serialiseRefresh ∧ next.display = state.display ∧
        next.displaySeen = state.displaySeen ∧ next.serialised = state.serialised) ∨
      (∃ payload, next.display = state.display.send payload ∧
        next.displaySeen = state.displaySeen) ∨
      (next.displaySeen = next.display.version ∧ UpToDate toJson next) ∨
      (action = .serialiseChange ∧ hasConnectedClients state.receiverCount = false ∧
        next = { state with displaySeen := state.display.version }) := by
  cases action with
  | publish payload =>
      simp only [step] at moved
      split_ifs at moved
      cases moved
      exact .inr (.inl ⟨payload, rfl, rfl⟩)
  | serialiseChange =>
      simp only [step] at moved
      split_ifs at moved with _ alone
      all_goals cases moved
      · exact .inr (.inr (.inr ⟨rfl, by simpa using alone, rfl⟩))
      · exact .inr (.inr (.inl ⟨rfl, upToDate_encode total false state⟩))
  | serialiseRefresh =>
      simp only [step] at moved
      split_ifs at moved
      all_goals
        cases moved
        exact .inr (.inr (.inl ⟨rfl, upToDate_encode total true state⟩))
  | mapperEnds | acceptTimeout | serialiserEnds | accept | request | check | spawn | joined =>
      simp only [step] at moved
      split_ifs at moved
      all_goals
        cases moved
        exact .inl ⟨by simp, rfl, rfl, rfl⟩
  | stop =>
      cases moved
      exact .inl ⟨by simp, rfl, rfl, rfl⟩
  | client index act =>
      simp only [step, Option.bind_eq_bind, Option.pure_def, Option.bind_eq_some_iff] at moved
      obtain ⟨_, _, _, _, same⟩ := moved
      cases same
      exact .inl ⟨by simp, rfl, rfl, rfl⟩

theorem queued_step (queued : state.refreshQueued = true → state.acceptor = .awaiting .waiting)
    (moved : step toJson state action = some next) :
    next.refreshQueued = true → next.acceptor = .awaiting .waiting := by
  cases action with
  | publish | mapperEnds | serialiseChange =>
      simp only [step] at moved
      split_ifs at moved
      all_goals
        cases moved
        exact queued
  | acceptTimeout | accept | check | request | spawn =>
      simp only [step] at moved
      split_ifs at moved with here
      all_goals
        cases moved
        intro waits
        first
          | rfl
          | simp [queued waits] at here
  | serialiseRefresh =>
      simp only [step] at moved
      split_ifs at moved
      all_goals
        cases moved
        intro waits
        cases waits
  | serialiserEnds | joined =>
      simp only [step] at moved
      split_ifs at moved
      cases moved
      intro waits
      cases waits
  | stop =>
      cases moved
      exact queued
  | client index act =>
      simp only [step, Option.bind_eq_bind, Option.pure_def, Option.bind_eq_some_iff] at moved
      obtain ⟨_, _, _, _, same⟩ := moved
      cases same
      exact queued

theorem answered_of_step (moved : step toJson state action = some next)
    (answered : next.acceptor = .awaiting .sent) :
    state.acceptor = .awaiting .sent ∨ action = .serialiseRefresh := by
  cases action with
  | publish | mapperEnds | serialiseChange =>
      simp only [step] at moved
      split_ifs at moved
      all_goals
        cases moved
        exact .inl answered
  | acceptTimeout | accept | check | request | spawn | joined =>
      simp only [step] at moved
      split_ifs at moved
      all_goals
        cases moved
        cases answered
  | serialiseRefresh => exact .inr rfl
  | serialiserEnds =>
      simp only [step] at moved
      split_ifs at moved
      cases moved
      simp only [State.endSerialiser] at answered
      split_ifs at answered
      · cases answered
      · exact .inl answered
  | stop =>
      cases moved
      exact .inl answered
  | client index act =>
      simp only [step, Option.bind_eq_bind, Option.pure_def, Option.bind_eq_some_iff] at moved
      obtain ⟨_, _, _, _, same⟩ := moved
      cases same
      exact .inl answered

theorem live_of_step (moved : step toJson state action = some next)
    (alive : ∃ client ∈ next.clients, client.live = true) :
    (∃ client ∈ state.clients, client.live = true) ∨ action = .spawn := by
  obtain ⟨client', member, alive⟩ := alive
  obtain ⟨index, found⟩ := List.mem_iff_getElem?.mp member
  rcases clients_of_step moved found with
    ⟨client, here, carried⟩ | ⟨spawned, _⟩ | ⟨client, act, _, here, stepped⟩
  · rcases carried.position with same | gone
    · refine .inl ⟨client, List.mem_of_getElem? here, ?_⟩
      rw [Client.live, ← same]
      exact alive
    · rw [Client.live, gone] at alive
      cases alive
  · exact .inr spawned
  · refine .inl ⟨client, List.mem_of_getElem? here, ?_⟩
    unfold Client.live
    rcases Client.step_cases stepped with ⟨_, ⟨_, first⟩ | ⟨selecting, _⟩⟩ | ⟨_, _, gone | live⟩
    · simp [first]
    · simp [selecting]
    · rw [Client.live, gone] at alive
      cases alive
    · simpa using live.2.2

theorem invariant_new (maxClients : Nat) (display : Watch DisplayPayload) :
    Invariant toJson (.new toJson maxClients display) := by
  constructor
  · exact Nat.zero_le _
  · intro queued
    cases queued
  · simp [OrderedClients, State.new]
  · rintro (⟨client, member, _⟩ | answered)
    · cases member
    · cases answered

theorem invariant_step (total : ∀ payload, AllFinite payload → (toJson payload).isSome = true)
    (invariant : Invariant toJson state) (lawful : NoUpdateSkipped toJson state action next)
    (moved : step toJson state action = some next) : Invariant toJson next := by
  have effect := effect_of_step total moved
  refine ⟨?_, queued_step invariant.queued moved, orderedClients_step invariant.ordered moved, ?_⟩
  · have seen := invariant.seen
    rcases effect with ⟨_, display, mark, _⟩ | ⟨payload, display, mark⟩ | ⟨mark, _⟩ | ⟨_, _, rfl⟩
    · rw [display, mark]
      exact seen
    · rw [display, mark]
      exact seen.trans (Nat.le_succ _)
    · exact mark.le
    · exact le_rfl
  · intro watched same
    rcases effect with ⟨other, display, mark, serialised⟩ | ⟨payload, display, mark⟩ |
      ⟨_, upToDate⟩ | ⟨rfl, alone, rfl⟩
    · have before : state.display.version = state.displaySeen := by rw [← display, ← mark, same]
      rw [UpToDate, display, serialised]
      rcases watched with alive | answered
      · rcases live_of_step moved alive with alive | rfl
        · exact invariant.current (.inl alive) before
        · simp only [step] at moved
          split_ifs at moved with handed
          rcases handed with answered | dropped
          · exact invariant.current (.inr answered) before
          · exact lawful dropped
      · rcases answered_of_step moved answered with answered | refresh
        · exact invariant.current (.inr answered) before
        · exact absurd refresh other
    · have seen := invariant.seen
      rw [display, mark, Watch.send_version] at same
      omega
    · exact upToDate
    · have idle := (no_clients_iff state).mp alone
      rcases watched with ⟨client, member, alive⟩ | answered
      · rw [idle client member] at alive
        cases alive
      · exact lawful answered alone

theorem Invariant.fresh (invariant : Invariant toJson state) : Fresh toJson state := by
  intro quiescent finite client member alive
  obtain ⟨index, found⟩ := List.mem_iff_getElem?.mp member
  obtain ⟨started, seen⟩ := quiescent.clients client member alive
  have here : client.position ≠ .gone := by simpa [Client.live] using alive
  obtain ⟨text, last, current⟩ := (invariant.ordered index client found).last started here
  refine ⟨client.seen, text, last, ?_⟩
  rw [current seen]
  exact invariant.current (.inl ⟨client, member, alive⟩) quiescent.display finite

theorem stale_after_skip (invariant : Invariant toJson state)
    (moved : step toJson state .serialiseChange = some next)
    (unlawful : ¬NoUpdateSkipped toJson state .serialiseChange next) :
    ∃ index stale, exec (step toJson) next [.spawn, .client index .handshake] = some stale ∧
      ¬Fresh toJson stale := by
  simp only [NoUpdateSkipped, UpToDate, Classical.not_imp] at unlawful
  obtain ⟨answered, alone, finite, missing⟩ := unlawful
  have idle := (no_clients_iff state).mp alone
  simp only [step] at moved
  split_ifs at moved with _ connected
  · cases moved
    let joined : Client := Client.new.sendCurrent state.serialised
    refine ⟨state.clients.length, { state with
      displaySeen := state.display.version
      acceptor := .top
      clients := state.clients ++ [joined] }, ?_, ?_⟩
    · simp [exec, step, answered, Client.step, Client.new, joined]
    · intro fresh
      have unqueued : state.refreshQueued = false := by
        by_contra queued
        have waits := invariant.queued (by simpa using queued)
        rw [answered] at waits
        cases waits
      have settled : ∀ client ∈ state.clients ++ [joined], client.live = true →
          client.position ≠ .handshaking ∧ client.seen = state.serialised.version := by
        intro client member alive
        rcases List.mem_append.mp member with old | isNew
        · rw [idle client old] at alive
          cases alive
        · rw [List.mem_singleton.mp isNew]
          exact ⟨by simp [joined, Client.sendCurrent], rfl⟩
      obtain ⟨version, text, last, json⟩ := fresh ⟨rfl, unqueued, by simp, settled⟩ finite joined
        (by simp) (by simp [joined, Client.live, Client.sendCurrent])
      simp only [joined, Client.sendCurrent, Client.new, List.nil_append,
        List.getLast?_singleton, Option.some.injEq, Prod.mk.injEq] at last
      exact missing (last.2 ▸ json)
  · rw [alone] at connected
    cases connected rfl

/-- In a run that skips no update between a refresh's answer and the clone of the receiver,
every client at rest shows the latest payload, and any run that does skip one can come to rest
with a client that does not. -/
theorem fresh_while_no_update_skipped (toJson : DisplayPayload → Option String)
    (total : ∀ payload, AllFinite payload → (toJson payload).isSome = true) (maxClients : Nat)
    (display : Watch DisplayPayload) {schedule : List Action} {last : State}
    (run : exec (step toJson) (.new toJson maxClients display) schedule = some last)
    (lawful : AllSteps (step toJson) (NoUpdateSkipped toJson) (.new toJson maxClients display)
      schedule) :
    Fresh toJson last ∧ ∀ next, step toJson last .serialiseChange = some next →
      ¬NoUpdateSkipped toJson last .serialiseChange next →
        ∃ index stale, exec (step toJson) next [.spawn, .client index .handshake] = some stale ∧
          ¬Fresh toJson stale := by
  have invariant : Invariant toJson last := by
    refine exec_invariant_of_allSteps (invariant_new maxClients display) ?_ run lawful
    intro state action next here allowed moved
    exact invariant_step total here allowed moved
  exact ⟨invariant.fresh, fun next moved unlawful => stale_after_skip invariant moved unlawful⟩

end

theorem joined_client_is_up_to_date : ∃ last,
    exec (step plainJson) (.new plainJson 8 (.new (.new 1))) joinThenPublish = some last ∧
    Fresh plainJson last ∧ last.clients.map (fun client => client.sent.length) = [2] := by
  have reached : ((exec (step plainJson) (.new plainJson 8 (.new (.new 1))) joinThenPublish).map
      fun last => last.clients.map fun client => client.sent.length) = some [2] := by
    decide +kernel
  have lawful : AllSteps (step plainJson) (NoUpdateSkipped plainJson)
      (.new plainJson 8 (.new (.new 1))) joinThenPublish := by
    decide +kernel
  obtain ⟨last, run, texts⟩ := Option.map_eq_some_iff.mp reached
  exact ⟨last, run, (fresh_while_no_update_skipped plainJson (fun _ _ => rfl) 8 (.new (.new 1)) run
    lawful).1, texts⟩

def publishInGap : List Action :=
  [.check, .accept, .request, .serialiseRefresh, .publish loudPayload, .serialiseChange, .spawn,
    .client 0 .handshake]

theorem payload_published_in_gap_is_missed : ∃ last,
    exec (step plainJson) (.new plainJson 8 (.new (.new 1))) publishInGap = some last ∧
    Quiescent last ∧ AllFinite last.display.value ∧ ¬Fresh plainJson last := by
  let silent := displayJson plainNumber (.new 1)
  have shown : ((exec (step plainJson) (.new plainJson 8 (.new (.new 1))) publishInGap).map
      fun last => last.display) = some ⟨loudPayload, 1⟩ := by
    decide +kernel
  have reached : ((exec (step plainJson) (.new plainJson 8 (.new (.new 1))) publishInGap).map
      fun last => (last.displaySeen, last.refreshQueued, last.acceptor, last.serialised.version,
        last.clients)) = some (1, false, .top, 0, [⟨.writing, 0, [(0, silent)], false⟩]) := by
    decide +kernel
  obtain ⟨last, run, facts⟩ := Option.map_eq_some_iff.mp reached
  simp only [Prod.mk.injEq] at facts
  obtain ⟨mark, queue, acceptor, version, clients⟩ := facts
  have display : last.display = ⟨loudPayload, 1⟩ := by
    rw [run] at shown
    exact Option.some.inj shown
  have quiescent : Quiescent last := by
    refine ⟨by rw [display, mark], queue, by simp [acceptor], ?_⟩
    intro client member _
    rw [clients, List.mem_singleton] at member
    rw [member, version]
    exact ⟨by decide, rfl⟩
  have finite : AllFinite last.display.value := by
    rw [display]
    decide
  refine ⟨last, run, quiescent, finite, fun fresh => ?_⟩
  obtain ⟨_, text, sent, json⟩ := fresh quiescent finite _ (by rw [clients]; exact List.mem_cons_self)
    (by decide)
  cases sent
  rw [display] at json
  revert json
  decide +kernel

end Phase4.Managers.Server
