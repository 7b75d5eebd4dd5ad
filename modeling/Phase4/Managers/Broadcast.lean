import Phase4.Managers.ServerRun

namespace Phase4.Managers.Server
open Library Dsp

/-! ## What a step does to the clients and to the serialised snapshot -/

structure Carried (client next : Client) : Prop where
  sent : next.sent = client.sent
  seen : next.seen = client.seen
  position : next.position = client.position ∨ next.position = .gone

theorem Carried.refl (client : Client) : Carried client client := ⟨rfl, rfl, .inl rfl⟩

section
variable {toJson : DisplayPayload → Option String} {state next : State} {action : Action}

theorem clients_of_step (moved : step toJson state action = some next) {index : Nat}
    {client' : Client} (found : next.clients[index]? = some client') :
    (∃ client, state.clients[index]? = some client ∧ Carried client client') ∨
      (action = .spawn ∧ client' = .new) ∨
      ∃ client act, action = .client index act ∧ state.clients[index]? = some client ∧
        client.step state.serialised state.serialiserRuns act = some client' := by
  have kept (same : next.clients = state.clients) :
      ∃ client, state.clients[index]? = some client ∧ Carried client client' :=
    ⟨client', same ▸ found, .refl client'⟩
  cases action with
  | publish | mapperEnds | acceptTimeout | serialiserEnds | serialiseRefresh =>
      simp only [step] at moved
      split_ifs at moved
      all_goals
        cases moved
        exact .inl (kept rfl)
  | accept | request | serialiseChange =>
      simp only [step] at moved
      split_ifs at moved
      all_goals
        cases moved
        exact .inl (kept rfl)
  | stop =>
      cases moved
      exact .inl (kept rfl)
  | check =>
      simp only [step] at moved
      split_ifs at moved
      all_goals cases moved
      · exact .inl (kept rfl)
      · simp only [State.notifyWaiters, List.getElem?_map, Option.map_eq_some_iff] at found
        obtain ⟨client, here, same⟩ := found
        refine .inl ⟨client, here, ?_⟩
        rw [← same]
        split_ifs
        · exact ⟨rfl, rfl, .inl rfl⟩
        · exact .refl client
  | spawn =>
      simp only [step] at moved
      split_ifs at moved
      cases moved
      simp only [List.getElem?_append] at found
      split_ifs at found with old
      · exact .inl ⟨client', found, .refl client'⟩
      · refine .inr (.inl ⟨rfl, ?_⟩)
        exact List.mem_singleton.mp (List.mem_of_getElem? found)
  | client other act =>
      simp only [step, Option.bind_eq_bind, Option.pure_def, Option.bind_eq_some_iff] at moved
      obtain ⟨client, here, after, stepped, same⟩ := moved
      cases same
      rw [List.getElem?_set] at found
      split_ifs at found with own inside
      · cases found
        subst own
        exact .inr (.inr ⟨client, act, rfl, here, stepped⟩)
      · exact .inl ⟨client', found, .refl client'⟩
  | joined =>
      simp only [step] at moved
      split_ifs at moved
      cases moved
      simp only [List.getElem?_map, Option.map_eq_some_iff] at found
      obtain ⟨client, here, same⟩ := found
      refine .inl ⟨client, here, ?_⟩
      rw [← same]
      exact ⟨rfl, rfl, .inr rfl⟩

theorem serialised_of_encode (toJson : DisplayPayload → Option String) (refresh : Bool)
    (state : State) :
    (state.encode toJson refresh).serialised = state.serialised ∨
      ∃ json, (state.encode toJson refresh).serialised = state.serialised.send json ∧
        AllFinite state.display.value ∧ toJson state.display.value = some json := by
  unfold State.encode
  dsimp only
  rw [serialiseDisplayPayload_json]
  by_cases finite : AllFinite state.display.value
  · rw [if_pos finite]
    cases text : toJson state.display.value with
    | none => exact .inl rfl
    | some json =>
        dsimp only
        split_ifs
        · exact .inr ⟨json, rfl, finite, rfl⟩
        · exact .inl rfl
  · rw [if_neg finite]
    exact .inl rfl

theorem serialised_of_step (moved : step toJson state action = some next) :
    next.serialised = state.serialised ∨
      ∃ json, next.serialised = state.serialised.send json ∧
        AllFinite state.display.value ∧ toJson state.display.value = some json := by
  cases action with
  | publish | mapperEnds | acceptTimeout | serialiserEnds | accept | request | check | spawn
  | joined | serialiseChange | serialiseRefresh =>
      simp only [step] at moved
      split_ifs at moved
      all_goals cases moved
      all_goals first
        | exact .inl rfl
        | exact serialised_of_encode toJson _ state
  | stop =>
      cases moved
      exact .inl rfl
  | client index act =>
      simp only [step, Option.bind_eq_bind, Option.pure_def, Option.bind_eq_some_iff] at moved
      obtain ⟨_, _, _, _, same⟩ := moved
      cases same
      exact .inl rfl

end

/-! ## The stream of one client -/

theorem Client.step_cases {serialised : Watch String} {channelOpen : Bool} {client next : Client}
    {action : ClientAction} (moved : client.step serialised channelOpen action = some next) :
    (next = client.sendCurrent serialised ∧
      (action = .handshake ∧ client.position = .handshaking ∨
        client.position = .selecting ∧ serialised.version ≠ client.seen)) ∨
    next.sent = client.sent ∧ next.seen = client.seen ∧ (next.position = .gone ∨
      client.position ≠ .handshaking ∧ next.position ≠ .handshaking ∧ client.position ≠ .gone) := by
  cases action with
  | handshake =>
      simp only [step] at moved
      split_ifs at moved with here
      cases moved
      exact .inl ⟨rfl, .inl ⟨rfl, here⟩⟩
  | changed =>
      simp only [step] at moved
      split_ifs at moved with here
      cases moved
      exact .inl ⟨rfl, .inr ⟨here.1, here.2.2⟩⟩
  | written | flushed =>
      simp only [step] at moved
      split_ifs at moved with here
      cases moved
      exact .inr ⟨rfl, rfl, .inr (by simp [here, select])⟩
  | channelClosed | ping | pong | close | application | shutdownSeen =>
      simp only [step] at moved
      split_ifs at moved with here
      cases moved
      exact .inr ⟨rfl, rfl, .inr (by simp [here.1, select])⟩
  | ended | lost =>
      simp only [step] at moved
      split_ifs at moved
      cases moved
      exact .inr ⟨rfl, rfl, .inl rfl⟩

/-- Versions only rise, up to the one seen last, whose text is the channel's while it stands. -/
structure Client.Ordered (serialised : Watch String) (client : Client) : Prop where
  seen : client.seen ≤ serialised.version
  increasing : (client.sent.map Prod.fst).Pairwise (· < ·)
  bounded : ∀ entry ∈ client.sent, entry.1 ≤ client.seen
  last : client.position ≠ .handshaking → client.position ≠ .gone →
    ∃ text, client.sent.getLast? = some (client.seen, text) ∧
      (client.seen = serialised.version → text = serialised.value)
  unsent : client.position = .handshaking → client.sent = []

theorem Client.ordered_new (serialised : Watch String) : Client.new.Ordered serialised := by
  constructor
  all_goals simp [Client.new]

theorem Client.Ordered.sendCurrent {serialised : Watch String} {client : Client}
    (ordered : client.Ordered serialised)
    (newer : client.sent = [] ∨ client.seen < serialised.version) :
    (client.sendCurrent serialised).Ordered serialised := by
  refine ⟨le_rfl, ?_, ?_, ?_, by simp [Client.sendCurrent]⟩
  · simp only [Client.sendCurrent, List.map_append, List.map_cons, List.map_nil]
    refine List.pairwise_append.mpr ⟨ordered.increasing, List.pairwise_singleton _ _, ?_⟩
    intro version member newest isNewest
    rw [List.mem_singleton.mp isNewest]
    obtain ⟨entry, among, rfl⟩ := List.mem_map.mp member
    rcases newer with empty | newer
    · rw [empty] at among
      cases among
    · exact (ordered.bounded entry among).trans_lt newer
  · intro entry member
    rcases List.mem_append.mp member with among | newest
    · exact (ordered.bounded entry among).trans ordered.seen
    · rw [List.mem_singleton.mp newest]
      exact le_rfl
  · intro _ _
    exact ⟨serialised.value, by simp [Client.sendCurrent], fun _ => rfl⟩

theorem Client.Ordered.step {serialised : Watch String} {channelOpen : Bool} {client next : Client}
    {action : ClientAction} (ordered : client.Ordered serialised)
    (moved : client.step serialised channelOpen action = some next) : next.Ordered serialised := by
  rcases Client.step_cases moved with ⟨rfl, newer⟩ | ⟨sent, seen, position⟩
  · apply ordered.sendCurrent
    rcases newer with ⟨_, first⟩ | ⟨_, unseen⟩
    · exact .inl (ordered.unsent first)
    · exact .inr (lt_of_le_of_ne ordered.seen unseen.symm)
  · refine ⟨seen ▸ ordered.seen, sent ▸ ordered.increasing, ?_, ?_, ?_⟩
    · rw [sent, seen]
      exact ordered.bounded
    · intro _ here
      rw [sent, seen]
      rcases position with gone | ⟨started, _, live⟩
      · exact absurd gone here
      · exact ordered.last started live
    · intro handshaking
      rcases position with gone | ⟨_, started, _⟩
      · rw [gone] at handshaking
        cases handshaking
      · exact absurd handshaking started

theorem Client.Ordered.send {serialised : Watch String} {client : Client}
    (ordered : client.Ordered serialised) (json : String) :
    client.Ordered (serialised.send json) := by
  refine ⟨ordered.seen.trans (Nat.le_succ _), ordered.increasing, ordered.bounded, ?_,
    ordered.unsent⟩
  intro started live
  obtain ⟨text, last, _⟩ := ordered.last started live
  refine ⟨text, last, fun same => ?_⟩
  have behind := ordered.seen
  rw [same, Watch.send_version] at behind
  exact absurd behind (Nat.not_succ_le_self _)

theorem Client.Ordered.carried {serialised : Watch String} {client next : Client}
    (ordered : client.Ordered serialised) (carried : Carried client next) :
    next.Ordered serialised := by
  obtain ⟨sent, seen, position⟩ := carried
  refine ⟨seen ▸ ordered.seen, sent ▸ ordered.increasing, ?_, ?_, ?_⟩
  · rw [sent, seen]
    exact ordered.bounded
  · intro started live
    rcases position with same | gone
    · rw [sent, seen]
      exact ordered.last (same ▸ started) (same ▸ live)
    · exact absurd gone live
  · intro handshaking
    rcases position with same | gone
    · rw [sent]
      exact ordered.unsent (same ▸ handshaking)
    · rw [gone] at handshaking
      cases handshaking

/-! ## Every stream, over whole runs -/

def OrderedClients (state : State) : Prop :=
  ∀ (index : Nat) (client : Client), state.clients[index]? = some client →
    client.Ordered state.serialised

theorem orderedClients_step {toJson : DisplayPayload → Option String} {state next : State}
    {action : Action} (ordered : OrderedClients state)
    (moved : step toJson state action = some next) : OrderedClients next := by
  intro index client' found
  have before : client'.Ordered state.serialised := by
    rcases clients_of_step moved found with
      ⟨client, here, carried⟩ | ⟨_, rfl⟩ | ⟨client, act, _, here, stepped⟩
    · exact (ordered index client here).carried carried
    · exact Client.ordered_new state.serialised
    · exact (ordered index client here).step stepped
  rcases serialised_of_step moved with same | ⟨json, sent, _⟩
  · rwa [same]
  · rw [sent]
    exact before.send json

def displayed (initial : DisplayPayload) (schedule : List Action) : List DisplayPayload :=
  initial :: schedule.filterMap fun
    | .publish payload => some payload
    | _ => none

theorem displayed_snoc (initial : DisplayPayload) (schedule : List Action) (action : Action) :
    displayed initial schedule <+: displayed initial (schedule ++ [action]) := by
  rw [displayed, displayed, List.filterMap_append]
  exact List.prefix_append (initial :: _) _

def Genuine (toJson : DisplayPayload → Option String) (payloads : List DisplayPayload)
    (text : String) : Prop :=
  text = emptyDisplayPayloadJson ∨
    ∃ payload ∈ payloads, AllFinite payload ∧ toJson payload = some text

theorem Genuine.mono {toJson : DisplayPayload → Option String} {some_of all : List DisplayPayload}
    {text : String} (genuine : Genuine toJson some_of text) (more : some_of <+: all) :
    Genuine toJson all text := by
  rcases genuine with seed | ⟨payload, member, facts⟩
  · exact .inl seed
  · exact .inr ⟨payload, more.subset member, facts⟩

structure GenuineTexts (toJson : DisplayPayload → Option String) (payloads : List DisplayPayload)
    (state : State) : Prop where
  display : state.display.value ∈ payloads
  serialised : Genuine toJson payloads state.serialised.value
  sent : ∀ (index : Nat) (client : Client), state.clients[index]? = some client →
    ∀ entry ∈ client.sent, Genuine toJson payloads entry.2

theorem genuineTexts_new (toJson : DisplayPayload → Option String) (maxClients : Nat)
    (display : Watch DisplayPayload) :
    GenuineTexts toJson (displayed display.value []) (.new toJson maxClients display) := by
  refine ⟨by simp [displayed, State.new], ?_, by simp [State.new]⟩
  have json := serialiseDisplayPayload_json toJson display.value false
  simp only [State.new, Watch.new_value, initialSerialisedSnapshot]
  by_cases finite : AllFinite display.value
  · rw [if_pos finite] at json
    rw [json]
    cases text : toJson display.value with
    | none => exact .inl rfl
    | some text' => exact .inr ⟨display.value, by simp [displayed], finite, text⟩
  · rw [if_neg finite] at json
    rw [json]
    exact .inl rfl

theorem display_of_step {toJson : DisplayPayload → Option String} {state next : State}
    {action : Action} (moved : step toJson state action = some next) :
    next.display = state.display ∨
      ∃ payload, action = .publish payload ∧ next.display = state.display.send payload := by
  cases action with
  | publish payload =>
      simp only [step] at moved
      split_ifs at moved
      cases moved
      exact .inr ⟨payload, rfl, rfl⟩
  | mapperEnds | acceptTimeout | serialiserEnds | accept | request | check | spawn | joined
  | serialiseChange | serialiseRefresh =>
      simp only [step] at moved
      split_ifs at moved
      all_goals
        cases moved
        exact .inl rfl
  | stop =>
      cases moved
      exact .inl rfl
  | client index act =>
      simp only [step, Option.bind_eq_bind, Option.pure_def, Option.bind_eq_some_iff] at moved
      obtain ⟨_, _, _, _, same⟩ := moved
      cases same
      exact .inl rfl

theorem genuineTexts_step {toJson : DisplayPayload → Option String} {initial : DisplayPayload}
    {schedule : List Action} {state next : State} {action : Action}
    (genuine : GenuineTexts toJson (displayed initial schedule) state)
    (moved : step toJson state action = some next) :
    GenuineTexts toJson (displayed initial (schedule ++ [action])) next := by
  have more := displayed_snoc initial schedule action
  refine ⟨?_, ?_, ?_⟩
  · rcases display_of_step moved with same | ⟨payload, rfl, sent⟩
    · rw [same]
      exact more.subset genuine.display
    · rw [sent]
      simp [displayed]
  · rcases serialised_of_step moved with same | ⟨json, sent, finite, text⟩
    · rw [same]
      exact genuine.serialised.mono more
    · rw [sent]
      exact .inr ⟨state.display.value, more.subset genuine.display, finite, text⟩
  · intro index client' found entry member
    rcases clients_of_step moved found with
      ⟨client, here, carried⟩ | ⟨_, rfl⟩ | ⟨client, act, _, here, stepped⟩
    · rw [carried.sent] at member
      exact (genuine.sent index client here entry member).mono more
    · cases member
    · rcases Client.step_cases stepped with ⟨rfl, _⟩ | ⟨sent, _⟩
      · rcases List.mem_append.mp member with old | newest
        · exact (genuine.sent index client here entry old).mono more
        · rw [List.mem_singleton.mp newest]
          exact genuine.serialised.mono more
      · rw [sent] at member
        exact (genuine.sent index client here entry member).mono more

/-- The stream starts with the snapshot that was current when the handshake completed. -/
def StartsAtHandshake (start : State) (toJson : DisplayPayload → Option String)
    (schedule : List Action) (index : Nat) (client : Client) : Prop :=
  client.sent = [] ∨ ∃ before rest middle,
    schedule = before ++ .client index .handshake :: rest ∧
    exec (step toJson) start before = some middle ∧
    client.sent.head? = some (middle.serialised.version, middle.serialised.value)

theorem StartsAtHandshake.later {start : State} {toJson : DisplayPayload → Option String}
    {schedule : List Action} {index : Nat} {client next : Client}
    (starts : StartsAtHandshake start toJson schedule index client) (action : Action)
    (more : client.sent <+: next.sent) (nothing : client.sent = [] → next.sent = []) :
    StartsAtHandshake start toJson (schedule ++ [action]) index next := by
  rcases starts with unsent | ⟨before, rest, middle, rfl, reached, first⟩
  · exact .inl (nothing unsent)
  · refine .inr ⟨before, rest ++ [action], middle, by simp, reached, ?_⟩
    obtain ⟨tail, same⟩ := more
    rw [← same, List.head?_append, first, Option.some_or]

theorem startsAtHandshake_step {start state next : State}
    {toJson : DisplayPayload → Option String} {schedule : List Action} {action : Action}
    (reached : exec (step toJson) start schedule = some state) (ordered : OrderedClients state)
    (starts : ∀ (index : Nat) (client : Client), state.clients[index]? = some client →
      StartsAtHandshake start toJson schedule index client)
    (moved : step toJson state action = some next) (index : Nat) (client' : Client)
    (found : next.clients[index]? = some client') :
    StartsAtHandshake start toJson (schedule ++ [action]) index client' := by
  rcases clients_of_step moved found with
    ⟨client, here, carried⟩ | ⟨_, rfl⟩ | ⟨client, act, rfl, here, stepped⟩
  · exact (starts index client here).later action (by rw [carried.sent])
      (by rw [carried.sent]; exact id)
  · exact .inl rfl
  · rcases Client.step_cases stepped with ⟨rfl, newer⟩ | ⟨sent, _⟩
    · rcases newer with ⟨rfl, handshaking⟩ | ⟨selecting, _⟩
      · refine .inr ⟨schedule, [], state, rfl, reached, ?_⟩
        simp [Client.sendCurrent, (ordered index client here).unsent handshaking]
      · refine (starts index client here).later _ (List.prefix_append _ _) fun unsent => ?_
        obtain ⟨text, last, _⟩ := (ordered index client here).last (by simp [selecting])
          (by simp [selecting])
        rw [unsent] at last
        cases last
    · exact (starts index client here).later _ (by rw [sent]) (by rw [sent]; exact id)

/-- Silence as text, and any other number as full scale. -/
def plainNumber (number : F32) : String := if number = F32.zero then "0.0" else "1.0"

def plainJson (payload : DisplayPayload) : Option String := some (displayJson plainNumber payload)

def loudPayload : DisplayPayload := ⟨[⟨⟨0x3F800000⟩, fun _ => F32.zero⟩], none⟩

def joinThenPublish : List Action :=
  [.check, .accept, .request, .serialiseRefresh, .spawn, .client 0 .handshake,
    .publish loudPayload, .serialiseChange, .client 0 .written, .client 0 .changed]

end Phase4.Managers.Server
