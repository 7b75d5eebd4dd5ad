import Phase4.Library.Rounds
import Phase4.Managers.EndToEnd
import Phase4.Managers.Freshness

namespace Phase4.Managers.Server
open Library Dsp

/-! ## The server winds down

Once `keep_running` is cleared every step but a client's brings the server closer to its end. -/

def AcceptorAt.distance : AcceptorAt → Nat
  | .finished => 0
  | .joining => 1
  | .top => 2
  | .awaiting .sent | .awaiting .dropped => 3
  | .awaiting .waiting => 4
  | .requesting => 5
  | .accepting => 6

def one (holds : Prop) [Decidable holds] : Nat := if holds then 1 else 0

theorem one_le (holds : Prop) [Decidable holds] : one holds ≤ 1 := by
  unfold one
  split <;> omega

theorem one_mono {holds other : Prop} [Decidable holds] [Decidable other]
    (implies : holds → other) : one holds ≤ one other := by
  by_cases here : holds
  · rw [one, one, if_pos here, if_pos (implies here)]
  · rw [one, if_neg here]
    exact Nat.zero_le _

def State.unseen (state : State) : Nat := one (state.display.version ≠ state.displaySeen)

def State.distance (state : State) : Nat :=
  state.acceptor.distance + one (state.serialiserRuns = true) + one (state.displayOpen = true) +
    state.unseen

/-- The accept loop waits for a request exactly while one is queued. -/
structure Asks (state : State) : Prop where
  queued : state.refreshQueued = true → state.acceptor = .awaiting .waiting
  asked : state.acceptor = .awaiting .waiting →
    state.refreshQueued = true ∧ state.serialiserRuns = true

section
variable {toJson : DisplayPayload → Option String} {state next : State} {action : Action}

theorem asked_step (asks : Asks state) (moved : step toJson state action = some next) :
    next.acceptor = .awaiting .waiting →
      next.refreshQueued = true ∧ next.serialiserRuns = true := by
  have asked := asks.asked
  cases action with
  | publish | mapperEnds | serialiseChange =>
      simp only [step] at moved
      split_ifs at moved
      all_goals
        cases moved
        exact asked
  | acceptTimeout | accept | check | spawn | joined =>
      simp only [step] at moved
      split_ifs at moved
      all_goals
        cases moved
        intro waits
        cases waits
  | request =>
      simp only [step] at moved
      split_ifs at moved with here ended full
      all_goals
        cases moved
        intro waits
      · cases waits
      · exact ⟨rfl, by simpa using ended⟩
  | serialiseRefresh =>
      simp only [step] at moved
      split_ifs at moved with ready
      all_goals
        cases moved
        intro waits
        rename_i elsewhere
        first
          | cases waits
          | exact absurd (asks.queued ready.2) elsewhere
  | serialiserEnds =>
      simp only [step] at moved
      split_ifs at moved
      cases moved
      intro waits
      simp only [State.endSerialiser] at waits
      split_ifs at waits with here
      · cases waits
      · exact absurd waits here
  | stop =>
      cases moved
      exact asked
  | client index act =>
      simp only [step, Option.bind_eq_bind, Option.pure_def, Option.bind_eq_some_iff] at moved
      obtain ⟨_, _, _, _, same⟩ := moved
      cases same
      exact asked

theorem Asks.step (asks : Asks state) (moved : step toJson state action = some next) : Asks next :=
  ⟨queued_step asks.queued moved, asked_step asks moved⟩

theorem unseen_encode (refresh : Bool) (state : State) :
    (state.encode toJson refresh).unseen = 0 :=
  if_neg (not_not.mpr rfl)

theorem distance_of_display {after : State} (acceptor : after.acceptor = state.acceptor)
    (runs : after.serialiserRuns = state.serialiserRuns)
    (opens : after.displayOpen = state.displayOpen) : after.distance ≤ state.distance + 1 := by
  have unseen : after.unseen ≤ 1 := one_le _
  rw [State.distance, State.distance, acceptor, runs, opens]
  omega

theorem closer_of_acceptor (acceptor : next.acceptor.distance < state.acceptor.distance)
    (runs : next.serialiserRuns = true → state.serialiserRuns = true)
    (opens : next.displayOpen = state.displayOpen) (unseen : next.unseen ≤ state.unseen) :
    next.distance < state.distance := by
  have fewer := one_mono runs
  rw [State.distance, State.distance, opens]
  omega

theorem step_closer (asks : Asks state) (stopped : state.keepRunning = false)
    (within : (∀ payload, action ≠ .publish payload) ∧ action ≠ .stop)
    (moved : step toJson state action = some next) :
    next.distance < state.distance ∨
      ∃ index act clients, action = .client index act ∧ next = { state with clients } := by
  cases action with
  | publish payload => exact absurd rfl (within.1 payload)
  | stop => exact absurd rfl within.2
  | mapperEnds =>
      simp only [step] at moved
      split_ifs at moved with here
      cases moved
      left
      simp [State.distance, State.unseen, one, here]
  | check =>
      simp only [step] at moved
      split_ifs at moved with here running
      all_goals cases moved
      · rw [stopped] at running
        cases running
      · exact .inl (closer_of_acceptor (by simp [here, AcceptorAt.distance]) id rfl le_rfl)
  | acceptTimeout =>
      simp only [step] at moved
      split_ifs at moved with here
      cases moved
      exact .inl (closer_of_acceptor (by simp [here, AcceptorAt.distance]) id rfl le_rfl)
  | accept =>
      simp only [step] at moved
      split_ifs at moved with here
      all_goals
        cases moved
        exact .inl (closer_of_acceptor (by simp [here, AcceptorAt.distance]) id rfl le_rfl)
  | request =>
      simp only [step] at moved
      split_ifs at moved with here
      all_goals
        cases moved
        exact .inl (closer_of_acceptor (by simp [here, AcceptorAt.distance]) id rfl le_rfl)
  | spawn =>
      simp only [step] at moved
      split_ifs at moved with here
      cases moved
      refine .inl (closer_of_acceptor ?_ id rfl le_rfl)
      rcases here with here | here <;> simp [here, AcceptorAt.distance]
  | serialiseChange =>
      simp only [step] at moved
      split_ifs at moved with ready
      all_goals
        cases moved
        left
      · simp [State.distance, State.unseen, one, ready.2]
      · have behind : state.unseen = 1 := if_pos ready.2
        have seen : (state.encode toJson false).unseen = 0 := unseen_encode false state
        have rest : (state.encode toJson false).distance + 1 = state.distance := by
          rw [State.distance, State.distance, seen, behind]
          rfl
        exact Nat.lt_of_succ_le rest.le
  | serialiseRefresh =>
      simp only [step] at moved
      split_ifs at moved with ready waits
      all_goals cases moved
      · refine .inl (closer_of_acceptor (by simp [waits, AcceptorAt.distance]) id rfl ?_)
        have seen : (state.encode toJson true).unseen = 0 := unseen_encode true state
        exact seen.trans_le (Nat.zero_le _)
      · exact absurd (asks.queued ready.2) waits
  | serialiserEnds =>
      simp only [step] at moved
      split_ifs at moved with ready
      cases moved
      have running : one (state.serialiserRuns = true) = 1 := if_pos ready.1
      have kept : state.endSerialiser.acceptor.distance ≤ state.acceptor.distance := by
        simp only [State.endSerialiser]
        split_ifs with waits
        · simp [waits, AcceptorAt.distance]
        · exact le_rfl
      have unseen : state.endSerialiser.unseen = state.unseen := rfl
      have opens : state.endSerialiser.displayOpen = state.displayOpen := rfl
      have ended : one (state.endSerialiser.serialiserRuns = true) = 0 := rfl
      left
      rw [State.distance, State.distance, unseen, opens, ended, running]
      omega
  | joined =>
      simp only [step] at moved
      split_ifs at moved with here
      cases moved
      exact .inl (closer_of_acceptor (by simp [here, AcceptorAt.distance]) (by simp [State.endSerialiser]) rfl le_rfl)
  | client index act =>
      simp only [step, Option.bind_eq_bind, Option.pure_def, Option.bind_eq_some_iff] at moved
      obtain ⟨_, _, _, _, same⟩ := moved
      cases same
      exact .inr ⟨index, act, _, rfl, rfl⟩

end
end Phase4.Managers.Server

namespace Phase4.Managers.Mapper

/-- Steps that are left to a mapper that is told to stop. A send weighs one more for the server. -/
def MapperAt.distance : MapperAt → Nat
  | .exited => 0
  | .check => 1
  | .firstCheck => 2
  | .awaitFirst | .taken _ => 3
  | .midiRead => 4
  | .copied => 5
  | .select => 6

def AnalyserAt.distance : AnalyserAt → Nat
  | .exited => 0
  | .idle => 1
  | .taken _ => 2
  | .written => 3

end Phase4.Managers.Mapper

namespace Phase4.Managers.EndToEnd
open Library Dsp Capture

/-! ## Every thread ends

The device is closed, `keep_running` is cleared, and each thread gets its turns. -/

inductive Thread where
  | analyser | mapper | acceptor | serialiser
deriving DecidableEq, Repr

section
variable {Filter : Type}

inductive Turn (bufferLen : Nat) (state : State Filter) : Thread → Action → Prop
  | analyse {count : Nat} {mapperGone : Bool} (idle : state.pipeline.analyser = .idle)
      (waits : state.capture.ring.items ≠ []) (some_free : 0 < count)
      (fits : state.capture.analyser.pending + count ≤ bufferLen)
      (gone : mapperGone = true → state.pipeline.mapper = .exited) :
      Turn bufferLen state .analyser (.analyse count mapperGone)
  | analyserExits (idle : state.pipeline.analyser = .idle)
      (empty : state.capture.ring.items = []) :
      Turn bufferLen state .analyser (.thread .analyserExits)
  | closed (written : state.pipeline.analyser = .written) (gone : state.mapperGone = true) :
      Turn bufferLen state .analyser (.thread .closed)
  | takeRaw (written : state.pipeline.analyser = .written) (listens : state.mapperGone = false) :
      Turn bufferLen state .analyser (.thread .takeRaw)
  | replaceRaw {payload : RawPayload} (taken : state.pipeline.analyser = .taken payload) :
      Turn bufferLen state .analyser (.thread .replaceRaw)
  | mapperChecks
      (here : state.pipeline.mapper = .firstCheck ∨ state.pipeline.mapper = .check) :
      Turn bufferLen state .mapper (.thread .mapperChecks)
  | rawChanged (here : state.pipeline.mapper = .awaitFirst)
      (wakes : state.pipeline.rawTx.version ≠ state.pipeline.mapperSeen ∨
        state.pipeline.analyser = .exited) :
      Turn bufferLen state .mapper (.thread .rawChanged)
  | tick (here : state.pipeline.mapper = .select) :
      Turn bufferLen state .mapper (.thread .tick)
  | readMidi {midi : Option MidiSnapshot} (here : state.pipeline.mapper = .copied) :
      Turn bufferLen state .mapper (.thread (.readMidi midi))
  | takeDisplay (here : state.pipeline.mapper = .midiRead) :
      Turn bufferLen state .mapper (.thread .takeDisplay)
  | publish {payload : DisplayPayload} (here : state.pipeline.mapper = .taken payload) :
      Turn bufferLen state .mapper .publish
  | check (here : state.server.acceptor = .top) :
      Turn bufferLen state .acceptor (.server .check)
  | acceptTimeout (here : state.server.acceptor = .accepting) :
      Turn bufferLen state .acceptor (.server .acceptTimeout)
  | request (here : state.server.acceptor = .requesting) :
      Turn bufferLen state .acceptor (.server .request)
  | spawn (here : state.server.acceptor = .awaiting .sent ∨
        state.server.acceptor = .awaiting .dropped) :
      Turn bufferLen state .acceptor (.server .spawn)
  | joined (here : state.server.acceptor = .joining) :
      Turn bufferLen state .acceptor (.server .joined)
  | serialiseRefresh (here : state.server.acceptor = .awaiting .waiting) :
      Turn bufferLen state .serialiser (.server .serialiseRefresh)

/-- Each thread that can go on does so in every round. -/
def Serves (bufferLen : Nat) (state : State Filter) (round : List Action) : Prop :=
  ∀ thread, (∃ action, Turn bufferLen state thread action) →
    ∃ action ∈ round, Turn bufferLen state thread action

def Ended (state : State Filter) : Prop :=
  state.pipeline.analyser = .exited ∧ state.pipeline.mapper = .exited ∧
    state.server.acceptor = .finished

def Action.quiet : Action → Prop
  | .push _ => False
  | _ => True

def State.distance (state : State Filter) : Nat :=
  4 * state.capture.ring.items.length + state.pipeline.analyser.distance +
    state.pipeline.mapper.distance + state.server.distance

theorem somebody_goes_on {bufferLen : Nat} {state : State Filter} (busy : ¬Ended state)
    (room : state.capture.analyser.pending < bufferLen) :
    ∃ thread action, Turn bufferLen state thread action := by
  cases analyser : state.pipeline.analyser with
  | idle =>
      by_cases empty : state.capture.ring.items = []
      · exact ⟨_, _, .analyserExits analyser empty⟩
      · exact ⟨.analyser, .analyse 1 false, .analyse analyser empty one_pos room (by simp)⟩
  | written =>
      cases gone : state.mapperGone with
      | true => exact ⟨_, _, .closed analyser gone⟩
      | false => exact ⟨_, _, .takeRaw analyser gone⟩
  | taken payload => exact ⟨_, _, .replaceRaw analyser⟩
  | exited =>
      cases mapper : state.pipeline.mapper with
      | firstCheck => exact ⟨_, _, .mapperChecks (.inl mapper)⟩
      | check => exact ⟨_, _, .mapperChecks (.inr mapper)⟩
      | awaitFirst => exact ⟨_, _, .rawChanged mapper (.inr analyser)⟩
      | select => exact ⟨_, _, .tick mapper⟩
      | copied => exact ⟨.mapper, .thread (.readMidi none), .readMidi mapper⟩
      | midiRead => exact ⟨_, _, .takeDisplay mapper⟩
      | taken payload => exact ⟨_, _, .publish mapper⟩
      | exited =>
          cases acceptor : state.server.acceptor with
          | top => exact ⟨_, _, .check acceptor⟩
          | accepting => exact ⟨_, _, .acceptTimeout acceptor⟩
          | requesting => exact ⟨_, _, .request acceptor⟩
          | awaiting completion =>
              cases completion with
              | waiting => exact ⟨_, _, .serialiseRefresh acceptor⟩
              | sent => exact ⟨_, _, .spawn (.inl acceptor)⟩
              | dropped => exact ⟨_, _, .spawn (.inr acceptor)⟩
          | joining => exact ⟨_, _, .joined acceptor⟩
          | finished => exact absurd ⟨analyser, mapper, acceptor⟩ busy

theorem Turn.kept {bufferLen : Nat} {state next : State Filter} {thread : Thread} {action : Action}
    (turn : Turn bufferLen state thread action)
    (ring : next.capture.ring.items = state.capture.ring.items)
    (pending : next.capture.analyser.pending = state.capture.analyser.pending)
    (analyser : next.pipeline.analyser = state.pipeline.analyser)
    (mapper : next.pipeline.mapper = state.pipeline.mapper)
    (rawTx : next.pipeline.rawTx = state.pipeline.rawTx)
    (seen : next.pipeline.mapperSeen = state.pipeline.mapperSeen)
    (gone : state.pipeline.analyser = .written → next.mapperGone = state.mapperGone)
    (acceptor : next.server.acceptor = state.server.acceptor) :
    Turn bufferLen next thread action := by
  cases turn with
  | analyse idle waits some_free fits exited =>
      exact .analyse (by rwa [analyser]) (by rwa [ring]) some_free (by rwa [pending])
        (by rwa [mapper])
  | analyserExits idle empty => exact .analyserExits (by rwa [analyser]) (by rwa [ring])
  | closed written dropped => exact .closed (by rwa [analyser]) (by rwa [gone written])
  | takeRaw written listens => exact .takeRaw (by rwa [analyser]) (by rwa [gone written])
  | replaceRaw taken => exact .replaceRaw (by rwa [analyser])
  | mapperChecks here => exact .mapperChecks (by rwa [mapper])
  | rawChanged here wakes => exact .rawChanged (by rwa [mapper]) (by rwa [rawTx, seen, analyser])
  | tick here => exact .tick (by rwa [mapper])
  | readMidi here => exact .readMidi (by rwa [mapper])
  | takeDisplay here => exact .takeDisplay (by rwa [mapper])
  | publish here => exact .publish (by rwa [mapper])
  | check here => exact .check (by rwa [acceptor])
  | acceptTimeout here => exact .acceptTimeout (by rwa [acceptor])
  | request here => exact .request (by rwa [acceptor])
  | spawn here => exact .spawn (by rwa [acceptor])
  | joined here => exact .joined (by rwa [acceptor])
  | serialiseRefresh here => exact .serialiseRefresh (by rwa [acceptor])

/-! ## Each step of a stopped system -/

variable {ops : Primitives Filter} {source : Source} {setup : VocoderSetup Filter}
  {toJson : DisplayPayload → Option String} {bufferLen capacity maxClients : Nat}
  {state next : State Filter}

structure Sound (toJson : DisplayPayload → Option String) (ops : Primitives Filter)
    (source : Source) (setup : VocoderSetup Filter) (bufferLen : Nat) (state : State Filter) :
    Prop where
  holds : Holds toJson ops source setup bufferLen state
  asks : Server.Asks state.server
  opens : state.pipeline.mapper ≠ .exited → state.server.displayOpen = true

theorem Holds.sized (holds : Holds toJson ops source setup bufferLen state) :
    Mapper.Sized source.width state.pipeline := by
  obtain ⟨-, stages, carried⟩ := holds
  exact carried.sized

theorem displayOpen_of_step {server after : Server.State} {action : Server.Action}
    (moved : Server.step toJson server action = some after) (other : action ≠ .mapperEnds) :
    after.displayOpen = server.displayOpen := by
  cases action with
  | mapperEnds => exact absurd rfl other
  | publish | serialiseChange | acceptTimeout | accept | check | spawn | joined | request
  | serialiseRefresh | serialiserEnds =>
      simp only [Server.step] at moved
      split_ifs at moved
      all_goals
        cases moved
        rfl
  | stop =>
      cases moved
      rfl
  | client index act =>
      simp only [Server.step, Option.bind_eq_bind, Option.pure_def, Option.bind_eq_some_iff] at moved
      obtain ⟨_, _, _, _, same⟩ := moved
      cases same
      rfl

theorem exited_stays {pipeline after : Mapper.Pipeline} {action : Mapper.Action} {width : Nat}
    (moves : Mapper.Moves width pipeline action after) (exited : pipeline.mapper = .exited) :
    after.mapper = .exited := by
  cases moves with
  | write | closed | takeRaw | replaceRaw | analyserExits | writeFrame | stop => exact exited
  | await here _ | skip here _ | select here _ | leave here _ | copy _ here _ | idleTick here _
  | readMidi _ here | takeDisplay here | replaceDisplay here => simp [exited] at here
  | changed waiting _ _ | senderGone waiting => simp [exited] at waiting

theorem Sound.step {action : Action} (sound : Sound toJson ops source setup bufferLen state)
    (moved : step ops source toJson state action = some next) :
    Sound toJson ops source setup bufferLen next := by
  have sized := sound.holds.sized
  refine ⟨holds_step sound.holds moved, ?_, ?_⟩
  · cases action with
    | push | produce =>
        obtain ⟨after, _, rfl⟩ := Option.map_eq_some_iff.mp moved
        exact sound.asks
    | analyse count mapperGone =>
        simp only [EndToEnd.step] at moved
        split_ifs at moved
        obtain ⟨_, _, _, rfl, _⟩ := analyse_cases moved
        exact sound.asks
    | thread action =>
        obtain ⟨_, _, rfl, _⟩ := thread_cases moved
        exact sound.asks
    | publish =>
        obtain ⟨_, _, _, _, _, published, rfl⟩ := publish_cases moved
        exact sound.asks.step published
    | server action =>
        obtain ⟨_, stepped, rfl, _⟩ := serve_cases moved
        exact sound.asks.step stepped
    | stop =>
        cases moved
        exact ⟨sound.asks.queued, sound.asks.asked⟩
  · intro listens
    cases action with
    | push | produce =>
        obtain ⟨after, _, rfl⟩ := Option.map_eq_some_iff.mp moved
        exact sound.opens listens
    | analyse count mapperGone =>
        simp only [EndToEnd.step] at moved
        split_ifs at moved
        obtain ⟨_, _, _, rfl, ⟨_, rfl⟩ | ⟨_, wrote⟩⟩ := analyse_cases moved
        · exact sound.opens listens
        · exact sound.opens fun exited =>
            listens (exited_stays (Mapper.moves_of_step sized wrote) exited)
    | thread action =>
        obtain ⟨_, stepped, rfl, _⟩ := thread_cases moved
        exact sound.opens fun exited =>
          listens (exited_stays (Mapper.moves_of_step sized stepped) exited)
    | publish =>
        obtain ⟨_, _, _, taken, _, published, rfl⟩ := publish_cases moved
        rw [displayOpen_of_step published (by simp)]
        exact sound.opens (by simp [taken])
    | server action =>
        obtain ⟨_, stepped, rfl, _, _, exits⟩ := serve_cases moved
        rw [displayOpen_of_step stepped fun ends => listens (exits ends)]
        exact sound.opens listens
    | stop =>
        cases moved
        exact sound.opens listens

/-- The threads are told to stop and no producer is left. -/
structure Winding (toJson : DisplayPayload → Option String) (ops : Primitives Filter)
    (source : Source) (setup : VocoderSetup Filter) (bufferLen : Nat) (drains : Prop)
    (state : State Filter) : Prop where
  sound : Sound toJson ops source setup bufferLen state
  stopped : state.pipeline.keepRunning = false ∧ state.server.keepRunning = false
  quiet : state.capture.pushing = none
  drained : drains → state.pipeline.analyser = .exited → state.capture.ring.items = []

structure Idles (bufferLen : Nat) (state : State Filter) (action : Action) (next : State Filter) :
    Prop where
  distance : next.distance = state.distance
  turns : ∀ thread other, Turn bufferLen state thread other → Turn bufferLen next thread other
  aside : ∀ thread, ¬Turn bufferLen state thread action

theorem consume_ring {capture after : Capture.State Filter} {count : Nat} {mapperGone : Bool}
    (moved : capture.consume ops count mapperGone = some after) :
    after.ring.items = capture.ring.items.drop count ∧ after.pushing = capture.pushing ∧
      (capture.ring.items.take count = [] → after.analyser = capture.analyser) := by
  rw [Capture.State.consume] at moved
  obtain ⟨analyser, drained, rfl⟩ := Option.map_eq_some_iff.mp moved
  refine ⟨rfl, rfl, fun nothing => ?_⟩
  have popped : (capture.ring.popSlice count).1 = [] := nothing
  rw [popped, Analyser.State.drain] at drained
  split_ifs at drained with tooLong some_popped
  · cases some_popped
  · exact (Option.some.inj drained).symm

theorem analyse_closer {count : Nat} {mapperGone : Bool}
    (sound : Sound toJson ops source setup bufferLen state)
    (idle : state.pipeline.analyser = .idle)
    (moved : state.analyse ops source count mapperGone = some next) :
    next.distance < state.distance ∨
      Idles bufferLen state (.analyse count mapperGone) next := by
  have positive := source.width_positive
  obtain ⟨⟨consumed, pushed, here⟩, -⟩ := sound.holds
  obtain ⟨capture, pipeline, popped, rfl, written⟩ := analyse_cases moved
  obtain ⟨ring, -, still⟩ := consume_ring popped
  have split := List.take_append_drop count state.capture.ring.items
  by_cases nothing : state.capture.ring.items.take count = []
  · right
    rw [nothing, List.nil_append] at split
    have short : (Analyser.waiting source.width consumed
        (state.capture.ring.popSlice count).1).length < source.width := by
      have samples : (state.capture.ring.popSlice count).1 = [] := nothing
      rw [Analyser.waiting_length here.follows, samples, here.follows.pending]
      exact Nat.mod_lt _ positive
    have empty : state.capture.analyser.activeBuffer (state.capture.ring.popSlice count).1 = [] := by
      rw [Analyser.activeBuffer_eq here.follows]
      exact (take_aligned_eq_nil positive _).mpr short
    obtain ⟨-, rfl⟩ := written.resolve_right fun wrote => wrote.1 empty
    have items : capture.ring.items = state.capture.ring.items := ring.trans split
    refine ⟨by simp [State.distance, items], fun thread action turn => ?_, fun thread turn => ?_⟩
    · refine turn.kept items (congrArg Analyser.State.pending (still nothing)) rfl rfl rfl rfl ?_ rfl
      intro writes
      rw [idle] at writes
      cases writes
    · cases turn with
      | analyse _ waits some_free _ _ =>
          rcases List.take_eq_nil_iff.mp nothing with zero | empty
          · exact absurd zero some_free.ne'
          · exact waits empty
  · left
    have fewer : capture.ring.items.length < state.capture.ring.items.length := by
      have lengths := congrArg List.length split
      have some_popped := List.length_pos_iff.mpr nothing
      rw [List.length_append] at lengths
      rw [ring]
      omega
    have near : pipeline.analyser.distance ≤ 3 ∧ pipeline.mapper = state.pipeline.mapper := by
      rcases written with ⟨-, rfl⟩ | ⟨-, wrote⟩
      · rw [idle]
        exact ⟨by decide, rfl⟩
      · have moves := Mapper.moves_of_step sound.holds.sized wrote
        cases moves
        exact ⟨le_rfl, rfl⟩
    have start : state.pipeline.analyser.distance = 1 := by
      rw [idle]
      rfl
    simp only [State.distance, near.2]
    omega

theorem thread_closer {action : Mapper.Action} (sound : Sound toJson ops source setup bufferLen state)
    (stopped : state.pipeline.keepRunning = false)
    (moved : state.thread source action = some next) :
    next.distance < state.distance ∨ Idles bufferLen state (.thread action) next := by
  obtain ⟨pipeline, stepped, rfl, within, -⟩ := thread_cases moved
  have moves := Mapper.moves_of_step sound.holds.sized stepped
  have nearer (less : pipeline.analyser.distance + pipeline.mapper.distance <
      state.pipeline.analyser.distance + state.pipeline.mapper.distance) :
      State.distance { state with pipeline } < state.distance := by
    simp only [State.distance]
    omega
  cases moves with
  | write level => exact absurd rfl (within.1 level)
  | replaceDisplay => exact absurd rfl within.2
  | closed here | takeRaw here =>
      exact .inl (nearer (by simp [here, Mapper.AnalyserAt.distance]))
  | replaceRaw here =>
      exact .inl (nearer (by simp [here, Mapper.Pipeline.replaceRaw, Mapper.AnalyserAt.distance]))
  | analyserExits here _ => exact .inl (nearer (by simp [here, Mapper.AnalyserAt.distance]))
  | await _ running | select _ running =>
      rw [stopped] at running
      cases running
  | skip here _ | leave here _ | copy _ here _ | idleTick here _ | readMidi _ here
  | takeDisplay here => exact .inl (nearer (by simp [here, Mapper.MapperAt.distance]))
  | changed waiting _ after =>
      refine .inl (nearer ?_)
      rcases waiting with here | here <;> rcases after with rfl | rfl <;>
        simp [here, Mapper.MapperAt.distance]
  | senderGone waiting =>
      refine .inl (nearer ?_)
      rcases waiting with here | here <;> simp [here, Mapper.MapperAt.distance]
  | writeFrame | stop =>
      exact .inr ⟨rfl, fun _ _ turn => turn.kept rfl rfl rfl rfl rfl rfl (fun _ => rfl) rfl,
        fun _ turn => by cases turn⟩

theorem publish_closer (sound : Sound toJson ops source setup bufferLen state)
    (moved : state.publish source toJson = some next) : next.distance < state.distance := by
  obtain ⟨payload, pipeline, server, taken, stepped, published, rfl⟩ := publish_cases moved
  have moves := Mapper.moves_of_step sound.holds.sized stepped
  have near : server.distance ≤ state.server.distance + 1 := by
    simp only [Server.step] at published
    split_ifs at published
    cases published
    exact Server.distance_of_display rfl rfl rfl
  cases moves with
  | replaceDisplay here =>
      simp only [State.distance, Mapper.Pipeline.replaceDisplay, taken, Mapper.MapperAt.distance]
      omega

theorem serve_closer {action : Server.Action} (sound : Sound toJson ops source setup bufferLen state)
    (stopped : state.server.keepRunning = false) (moved : state.serve toJson action = some next) :
    next.distance < state.distance ∨ Idles bufferLen state (.server action) next := by
  obtain ⟨server, stepped, rfl, publishes, stops, -⟩ := serve_cases moved
  rcases Server.step_closer sound.asks stopped ⟨publishes, stops⟩ stepped with
    less | ⟨index, act, clients, rfl, rfl⟩
  · refine .inl ?_
    simp only [State.distance]
    omega
  · exact .inr ⟨rfl, fun _ _ turn => turn.kept rfl rfl rfl rfl rfl rfl (fun _ => rfl) rfl,
      fun _ turn => by cases turn⟩

theorem winding_closer {drains : Prop} {action : Action}
    (winding : Winding toJson ops source setup bufferLen drains state) (quiet : action.quiet)
    (moved : step ops source toJson state action = some next) :
    next.distance < state.distance ∨ Idles bufferLen state action next := by
  obtain ⟨sound, stopped, calm, -⟩ := winding
  cases action with
  | push data => exact quiet.elim
  | produce observed =>
      obtain ⟨after, produced, -⟩ := Option.map_eq_some_iff.mp moved
      rw [Capture.State.produce, calm] at produced
      cases produced
  | analyse count mapperGone =>
      simp only [step] at moved
      split_ifs at moved with ready
      exact analyse_closer sound ready.1 moved
  | thread action => exact thread_closer sound stopped.1 moved
  | publish => exact .inl (publish_closer sound moved)
  | server action => exact serve_closer sound stopped.2 moved
  | stop =>
      cases moved
      exact .inr ⟨rfl, fun _ _ turn => turn.kept rfl rfl rfl rfl rfl rfl (fun _ => rfl) rfl,
        fun _ turn => by cases turn⟩

/-! ## Turns are taken -/

theorem analyse_enabled {count : Nat} {mapperGone : Bool}
    (sound : Sound toJson ops source setup bufferLen state)
    (idle : state.pipeline.analyser = .idle)
    (fits : state.capture.analyser.pending + count ≤ bufferLen)
    (gone : mapperGone = true → state.pipeline.mapper = .exited) :
    ∃ next, step ops source toJson state (.analyse count mapperGone) = some next := by
  obtain ⟨⟨consumed, pushed, here⟩, -⟩ := sound.holds
  have few : (state.capture.ring.popSlice count).1.length ≤ count := List.length_take_le _ _
  obtain ⟨analyser, drained, -⟩ := Analyser.drain_spec source.width_positive here.follows
    (show state.capture.analyser.pending + (state.capture.ring.popSlice count).1.length ≤ bufferLen
      by omega) mapperGone
  simp only [step, if_pos (And.intro idle gone), State.analyse, Capture.State.consume, drained,
    Option.map_some, Option.bind_eq_bind, Option.bind_some, Option.pure_def]
  split_ifs
  · exact ⟨_, rfl⟩
  · simp [Mapper.step, idle]

theorem rawChanged_wakes {pipeline : Mapper.Pipeline} (here : pipeline.mapper = .awaitFirst)
    (wakes : pipeline.rawTx.version ≠ pipeline.mapperSeen ∨ pipeline.analyser = .exited) :
    pipeline.rawChanged.isSome = true := by
  unfold Mapper.Pipeline.rawChanged
  by_cases unseen : pipeline.rawTx.version ≠ pipeline.mapperSeen
  · rw [if_pos unseen]
    simp only [here]
    split <;> rfl
  · rw [if_neg unseen, if_pos (wakes.resolve_left unseen)]
    simp [here]

theorem turn_enabled {thread : Thread} {action : Action}
    (sound : Sound toJson ops source setup bufferLen state)
    (stopped : state.pipeline.keepRunning = false)
    (turn : Turn bufferLen state thread action) :
    ∃ next, step ops source toJson state action = some next := by
  cases turn with
  | analyse idle waits some_free fits gone => exact analyse_enabled sound idle fits gone
  | analyserExits idle empty =>
      simp [step, State.thread, Mapper.step, idle, empty, stopped]
  | closed written gone => simp [step, State.thread, Mapper.step, written, gone]
  | takeRaw written listens => simp [step, State.thread, Mapper.step, written, listens]
  | replaceRaw taken => simp [step, State.thread, Mapper.step, taken]
  | mapperChecks here =>
      rcases here with here | here <;> simp [step, State.thread, Mapper.step, here, stopped]
  | rawChanged here wakes =>
      obtain ⟨pipeline, changed⟩ := Option.isSome_iff_exists.mp (rawChanged_wakes here wakes)
      exact ⟨{ state with pipeline }, by simp [step, State.thread, Mapper.step, changed]⟩
  | tick here =>
      simp only [step, State.thread, Mapper.step, here, if_true]
      split <;> exact ⟨_, rfl⟩
  | readMidi here => simp [step, State.thread, Mapper.step, here]
  | takeDisplay here => simp [step, State.thread, Mapper.step, here]
  | publish here =>
      have opens := sound.opens (by simp [here])
      simp [step, State.publish, Mapper.step, Server.step, here, opens]
  | check here =>
      simp only [step, State.serve, Server.step, here, if_true]
      split <;> exact ⟨_, rfl⟩
  | acceptTimeout here => simp [step, State.serve, Server.step, here]
  | request here =>
      have room : state.server.refreshQueued = false := by
        cases queued : state.server.refreshQueued with
        | false => rfl
        | true => simp [sound.asks.queued queued] at here
      simp only [step, State.serve, Server.step, here, room, if_true]
      split <;> exact ⟨_, rfl⟩
  | spawn here => simp [step, State.serve, Server.step, here]
  | joined here => simp [step, State.serve, Server.step, here]
  | serialiseRefresh here =>
      obtain ⟨queued, running⟩ := sound.asks.asked here
      simp [step, State.serve, Server.step, queued, running]

theorem turn_advances {drains : Prop} {thread : Thread} {action : Action}
    (winding : Winding toJson ops source setup bufferLen drains state)
    (turn : Turn bufferLen state thread action) :
    ∃ next, step ops source toJson state action = some next ∧ next.distance < state.distance := by
  obtain ⟨next, moved⟩ := turn_enabled winding.sound winding.stopped.1 turn
  have quiet : action.quiet := by cases turn <;> trivial
  exact ⟨next, moved, (winding_closer winding quiet moved).resolve_right fun idles =>
    idles.aside thread turn⟩

theorem keepRunning_of_step {server after : Server.State} {action : Server.Action}
    (stopped : server.keepRunning = false)
    (moved : Server.step toJson server action = some after) : after.keepRunning = false := by
  cases action with
  | mapperEnds | publish | serialiseChange | acceptTimeout | accept | check | spawn | joined
  | request | serialiseRefresh | serialiserEnds =>
      simp only [Server.step] at moved
      split_ifs at moved
      all_goals
        cases moved
        exact stopped
  | stop =>
      cases moved
      rfl
  | client index act =>
      simp only [Server.step, Option.bind_eq_bind, Option.pure_def, Option.bind_eq_some_iff] at moved
      obtain ⟨_, _, _, _, same⟩ := moved
      cases same
      exact stopped

theorem stopped_stays {pipeline after : Mapper.Pipeline} {action : Mapper.Action} {width : Nat}
    (moves : Mapper.Moves width pipeline action after) (stopped : pipeline.keepRunning = false) :
    after.keepRunning = false := by
  cases moves <;> first | exact stopped | rfl

theorem winding_kept {drains : Prop} {action : Action}
    (winding : Winding toJson ops source setup bufferLen drains state) (quiet : action.quiet)
    (moved : step ops source toJson state action = some next) :
    Winding toJson ops source setup bufferLen drains next := by
  have sized := winding.sound.holds.sized
  obtain ⟨sound, stopped, calm, drained⟩ := winding
  have after := sound.step moved
  cases action with
  | push data => exact quiet.elim
  | produce observed =>
      obtain ⟨after, produced, -⟩ := Option.map_eq_some_iff.mp moved
      rw [Capture.State.produce, calm] at produced
      cases produced
  | analyse count mapperGone =>
      simp only [step] at moved
      split_ifs at moved with ready
      obtain ⟨capture, pipeline, popped, rfl, written⟩ := analyse_cases moved
      obtain ⟨-, pushing, -⟩ := consume_ring popped
      rcases written with ⟨-, rfl⟩ | ⟨-, wrote⟩
      · refine ⟨after, stopped, pushing.trans calm, fun _ exited => ?_⟩
        rw [ready.1] at exited
        cases exited
      · have moves := Mapper.moves_of_step sized wrote
        refine ⟨after, ⟨stopped_stays moves stopped.1, stopped.2⟩, pushing.trans calm, ?_⟩
        cases moves
        intro _ exited
        cases exited
  | thread action =>
      obtain ⟨pipeline, stepped, rfl, within, -, -, empties⟩ := thread_cases moved
      have moves := Mapper.moves_of_step sized stepped
      refine ⟨after, ⟨stopped_stays moves stopped.1, stopped.2⟩, calm, fun drains exited => ?_⟩
      cases moves with
      | analyserExits => exact empties rfl
      | write level => exact absurd rfl (within.1 level)
      | replaceDisplay => exact absurd rfl within.2
      | closed | takeRaw | replaceRaw => cases exited
      | await | skip | select | leave | changed | senderGone | copy | idleTick | readMidi
      | takeDisplay | writeFrame | stop => exact drained drains exited
  | publish =>
      obtain ⟨payload, pipeline, server, taken, stepped, published, rfl⟩ := publish_cases moved
      have moves := Mapper.moves_of_step sized stepped
      refine ⟨after, ⟨stopped_stays moves stopped.1, keepRunning_of_step stopped.2 published⟩, calm,
        ?_⟩
      cases moves
      exact drained
  | server action =>
      obtain ⟨server, stepped, rfl, -⟩ := serve_cases moved
      exact ⟨after, ⟨stopped.1, keepRunning_of_step stopped.2 stepped⟩, calm, drained⟩
  | stop =>
      cases moved
      exact ⟨after, ⟨rfl, rfl⟩, calm, drained⟩

theorem approaches {drains : Prop} : Approaches (step ops source toJson)
    (Winding toJson ops source setup bufferLen drains) Action.quiet
    (fun state action => ∃ thread, Turn bufferLen state thread action) State.distance where
  kept _ _ _ := winding_kept
  closer state action next winding quiet moved := by
    rcases winding_closer winding quiet moved with less | idles
    · exact .inl less
    · exact .inr ⟨idles.distance, fun other ⟨thread, turn⟩ => ⟨thread, idles.turns thread other turn⟩⟩
  advances _ _ winding := fun ⟨_, turn⟩ => turn_advances winding turn

theorem sound_run {schedule : List Action}
    (run : exec (step ops source toJson)
      (.new source toJson capacity bufferLen maxClients setup) schedule = some state) :
    Sound toJson ops source setup bufferLen state := by
  refine exec_invariant (motive := Sound toJson ops source setup bufferLen) ?_
    (fun _ _ _ sound moved => sound.step moved) run
  exact ⟨⟨⟨[], [], invariant_init⟩, _, carried_new⟩, ⟨by simp [State.new, Server.State.new],
    by simp [State.new, Server.State.new]⟩, fun _ => rfl⟩

theorem analyser_exited_stays {pipeline after : Mapper.Pipeline} {action : Mapper.Action}
    {width : Nat} (moves : Mapper.Moves width pipeline action after)
    (exited : pipeline.analyser = .exited) : after.analyser = .exited := by
  cases moves with
  | write _ here | closed here | takeRaw here | replaceRaw here => simp [exited] at here
  | analyserExits => rfl
  | await | skip | select | leave | changed | senderGone | copy | idleTick | readMidi | takeDisplay
  | replaceDisplay | writeFrame | stop => exact exited

theorem finished_stays {server after : Server.State} {action : Server.Action}
    (asks : Server.Asks server) (finished : server.acceptor = .finished)
    (moved : Server.step toJson server action = some after) : after.acceptor = .finished := by
  cases action with
  | mapperEnds | publish | serialiseChange =>
      simp only [Server.step] at moved
      split_ifs at moved
      all_goals
        cases moved
        exact finished
  | acceptTimeout | accept | check | spawn | joined | request => simp [Server.step, finished] at moved
  | serialiseRefresh =>
      simp only [Server.step] at moved
      split_ifs at moved with ready
      all_goals simp [asks.queued ready.2] at finished
  | serialiserEnds =>
      simp only [Server.step] at moved
      split_ifs at moved
      cases moved
      simp [Server.State.endSerialiser, finished]
  | stop =>
      cases moved
      exact finished
  | client index act =>
      simp only [Server.step, Option.bind_eq_bind, Option.pure_def, Option.bind_eq_some_iff] at moved
      obtain ⟨_, _, _, _, same⟩ := moved
      cases same
      exact finished

theorem ended_stays {drains : Prop} {action : Action}
    (winding : Winding toJson ops source setup bufferLen drains state) (ended : Ended state)
    (quiet : action.quiet) (moved : step ops source toJson state action = some next) :
    Ended next := by
  have sized := winding.sound.holds.sized
  obtain ⟨analyser, mapper, acceptor⟩ := ended
  cases action with
  | push data => exact quiet.elim
  | produce observed =>
      obtain ⟨after, -, rfl⟩ := Option.map_eq_some_iff.mp moved
      exact ⟨analyser, mapper, acceptor⟩
  | analyse count mapperGone => simp [step, analyser] at moved
  | thread action =>
      obtain ⟨pipeline, stepped, rfl, -⟩ := thread_cases moved
      have moves := Mapper.moves_of_step sized stepped
      exact ⟨analyser_exited_stays moves analyser, exited_stays moves mapper, acceptor⟩
  | publish =>
      obtain ⟨payload, pipeline, server, taken, -⟩ := publish_cases moved
      simp [mapper] at taken
  | server action =>
      obtain ⟨server, stepped, rfl, -⟩ := serve_cases moved
      exact ⟨analyser, mapper, finished_stays winding.sound.asks acceptor stepped⟩
  | stop =>
      cases moved
      exact ⟨analyser, mapper, acceptor⟩

theorem pending_lt (sound : Sound toJson ops source setup bufferLen state) :
    state.capture.analyser.pending < source.width := by
  obtain ⟨⟨consumed, pushed, here⟩, -⟩ := sound.holds
  rw [here.follows.pending]
  exact Nat.mod_lt _ source.width_positive

/-- Once every thread is told to stop and the device is closed, rounds that give each thread its
turn bring all of them to their end, and with them every accepted frame through the analyser. -/
theorem shutdown_ends (ops : Primitives Filter) (source : Source)
    (toJson : DisplayPayload → Option String) (capacity bufferLen maxClients : Nat)
    (setup : VocoderSetup Filter) (roomy : source.width ≤ bufferLen) {schedule : List Action}
    {reached : State Filter}
    (run : exec (step ops source toJson)
      (.new source toJson capacity bufferLen maxClients setup) schedule = some reached)
    (stopped : reached.pipeline.keepRunning = false ∧ reached.server.keepRunning = false)
    (quiet : reached.capture.pushing = none) (rounds : List (List Action))
    (calm : ∀ round ∈ rounds, ∀ action ∈ round, action.quiet)
    (fair : Fair (step ops source toJson) (Serves bufferLen) reached rounds)
    (enough : reached.distance < rounds.length) :
    let last := attemptRounds (step ops source toJson) reached rounds
    Ended last ∧ (reached.pipeline.analyser ≠ .exited →
      last.capture.ring.items = [] ∧ last.capture.analyser.pending < source.width ∧
      last.capture.analysed.flatten ++
        last.capture.analyser.transferBuffer.take last.capture.analyser.pending =
          (accepted source last.capture).flatten) := by
  have helped (state : State Filter) (round : List Action)
      (winding : Winding toJson ops source setup bufferLen
        (reached.pipeline.analyser ≠ .exited) state)
      (busy : ¬Ended state) (serves : Serves bufferLen state round) :
      ∃ action ∈ round, ∃ thread, Turn bufferLen state thread action := by
    have room := (pending_lt winding.sound).trans_le roomy
    obtain ⟨thread, action, turn⟩ := somebody_goes_on busy room
    obtain ⟨taken, served, its⟩ := serves thread ⟨action, turn⟩
    exact ⟨taken, served, thread, its⟩
  have begin_ : Winding toJson ops source setup bufferLen
      (reached.pipeline.analyser ≠ .exited) reached :=
    ⟨sound_run run, stopped, quiet, fun running exited => absurd exited running⟩
  obtain ⟨winding, ended⟩ := approaches.ends (fun _ _ _ => ended_stays) helped rounds calm fair
    begin_ enough
  refine ⟨ended, fun running => ?_⟩
  have empty := winding.drained running ended.1
  obtain ⟨⟨consumed, pushed, here⟩, -⟩ := winding.sound.holds
  refine ⟨empty, pending_lt winding.sound, ?_⟩
  have samples := here.samples
  have producer := here.producer
  rw [ProducerAt, winding.quiet] at producer
  rw [empty, List.append_nil, producer, List.append_nil] at samples
  rw [accepted, winding.quiet, List.append_nil]
  exact samples

/-! ## A schedule that serves every thread -/

def nextAction (state : State Filter) : Thread → Action
  | .analyser =>
      match state.pipeline.analyser with
      | .idle =>
          if state.capture.ring.items = [] then .thread .analyserExits else .analyse 1 false
      | .written => .thread (if state.mapperGone then .closed else .takeRaw)
      | .taken _ | .exited => .thread .replaceRaw
  | .mapper =>
      match state.pipeline.mapper with
      | .firstCheck | .check | .exited => .thread .mapperChecks
      | .awaitFirst => .thread .rawChanged
      | .select => .thread .tick
      | .copied => .thread (.readMidi none)
      | .midiRead => .thread .takeDisplay
      | .taken _ => .publish
  | .acceptor =>
      match state.server.acceptor with
      | .top | .finished => .server .check
      | .accepting => .server .acceptTimeout
      | .requesting => .server .request
      | .awaiting _ => .server .spawn
      | .joining => .server .joined
  | .serialiser => .server .serialiseRefresh

theorem turn_nextAction {state : State Filter} {thread : Thread} {action : Action}
    (turn : Turn bufferLen state thread action) :
    Turn bufferLen state thread (nextAction state thread) := by
  cases turn with
  | analyse idle waits some_free fits gone =>
      rw [nextAction, idle]
      simp only [if_neg waits]
      exact .analyse idle waits one_pos (by omega) (by simp)
  | analyserExits idle empty =>
      rw [nextAction, idle]
      simp only [if_pos empty]
      exact .analyserExits idle empty
  | closed written gone =>
      rw [nextAction, written, gone]
      exact .closed written gone
  | takeRaw written listens =>
      rw [nextAction, written, listens]
      exact .takeRaw written listens
  | replaceRaw taken =>
      rw [nextAction, taken]
      exact .replaceRaw taken
  | mapperChecks here =>
      rcases here with here | here
      all_goals rw [nextAction, here]
      · exact .mapperChecks (.inl here)
      · exact .mapperChecks (.inr here)
  | rawChanged here wakes =>
      rw [nextAction, here]
      exact .rawChanged here wakes
  | tick here =>
      rw [nextAction, here]
      exact .tick here
  | readMidi here =>
      rw [nextAction, here]
      exact .readMidi here
  | takeDisplay here =>
      rw [nextAction, here]
      exact .takeDisplay here
  | publish here =>
      rw [nextAction, here]
      exact .publish here
  | check here =>
      rw [nextAction, here]
      exact .check here
  | acceptTimeout here =>
      rw [nextAction, here]
      exact .acceptTimeout here
  | request here =>
      rw [nextAction, here]
      exact .request here
  | spawn here =>
      rcases here with here | here
      all_goals rw [nextAction, here]
      · exact .spawn (.inl here)
      · exact .spawn (.inr here)
  | joined here =>
      rw [nextAction, here]
      exact .joined here
  | serialiseRefresh here => exact .serialiseRefresh here

def everybody (state : State Filter) : List Action :=
  [.analyser, .mapper, .acceptor, .serialiser].map (nextAction state)

theorem everybody_serves (state : State Filter) : Serves bufferLen state (everybody state) := by
  intro thread ⟨action, turn⟩
  refine ⟨nextAction state thread, List.mem_map_of_mem ?_, turn_nextAction turn⟩
  cases thread <;> simp

theorem everybody_quiet (state : State Filter) : ∀ action ∈ everybody state, action.quiet := by
  intro action member
  obtain ⟨thread, -, rfl⟩ := List.mem_map.mp member
  cases thread
  all_goals
    rw [nextAction]
    repeat' split
    all_goals trivial

def fairRounds (step : State Filter → Action → Option (State Filter)) :
    State Filter → Nat → List (List Action)
  | _, 0 => []
  | state, count + 1 =>
      everybody state :: fairRounds step (attemptAll step state (everybody state)) count

theorem fairRounds_fair (step : State Filter → Action → Option (State Filter))
    (state : State Filter) (count : Nat) :
    Fair step (Serves bufferLen) state (fairRounds step state count) ∧
      (fairRounds step state count).length = count ∧
      ∀ round ∈ fairRounds step state count, ∀ action ∈ round, action.quiet := by
  induction count generalizing state with
  | zero => exact ⟨trivial, rfl, by simp [fairRounds]⟩
  | succ count ih =>
      obtain ⟨fair, length, quiet⟩ := ih (attemptAll step state (everybody state))
      refine ⟨⟨everybody_serves state, fair⟩, congrArg (· + 1) length, ?_⟩
      exact List.forall_mem_cons.mpr ⟨everybody_quiet state, quiet⟩

end

def stoppedEarly : List Action :=
  [.push [F32.zero, F32.zero], .produce 4, .produce 0, .produce 0, .stop]

theorem two_frames_drain_at_shutdown : ∃ reached,
    exec (step Analyser.atRest mono Server.plainJson)
      (.new mono Server.plainJson 4 4 8 Analyser.restSetup) stoppedEarly = some reached ∧
    reached.capture.ring.items.length = 2 ∧
    Ended (attemptRounds (step Analyser.atRest mono Server.plainJson) reached
      (fairRounds (step Analyser.atRest mono Server.plainJson) reached (reached.distance + 1))) := by
  have stopped : ((exec (step Analyser.atRest mono Server.plainJson)
      (.new mono Server.plainJson 4 4 8 Analyser.restSetup) stoppedEarly).map fun reached =>
        decide (reached.capture.ring.items.length = 2 ∧ reached.pipeline.keepRunning = false ∧
          reached.server.keepRunning = false ∧ reached.capture.pushing.isNone = true)) =
        some true := by
    decide +kernel
  obtain ⟨reached, run, here⟩ := Option.map_eq_some_iff.mp stopped
  obtain ⟨waits, pipeline, server, quiet⟩ := of_decide_eq_true here
  obtain ⟨fair, length, calm⟩ := fairRounds_fair
    (step Analyser.atRest mono Server.plainJson) reached (reached.distance + 1)
  exact ⟨reached, run, waits, (shutdown_ends Analyser.atRest mono Server.plainJson 4 4 8
    Analyser.restSetup (by decide) run ⟨pipeline, server⟩ (Option.isNone_iff_eq_none.mp quiet)
    (fairRounds (step Analyser.atRest mono Server.plainJson) reached (reached.distance + 1))
    calm fair (by omega)).1⟩

end Phase4.Managers.EndToEnd
