import Phase4.Xpc.RunHistory

namespace Phase4.Xpc.ServiceRun
open Library

variable {Port : Type}

/-! ## Whose events and runs these are -/

def State.owner (state : State) (run : Nat) : Nat := (state.apps run).owner

def Message.isFor (owner : Nat → Nat) (client : Nat) : Message → Prop
  | .reply asker _ => client = asker
  | .error run _ | .stopped run _ => client = owner run

def Action.serves (connection : Nat) : Action Port → Prop
  | .deliver c _ | .handle c _ _ => c = connection
  | _ => False

/-- A step that answers the connection that asked, sends a run's events to the client that
started it, ends a run or clears the slot for its own client only, and changes nothing for the
current client on behalf of another connection. -/
structure Isolated (state : State) (action : Action Port) (next : State) : Prop where
  replies : ∀ c answer, Sends state action (.reply c answer) → state.peer = some c
  addressed : ∀ client message, (client, message) ∈ next.sent → message.isFor next.owner client
  taken : ∀ run, state.run = some run → next.run = none →
    action.serves (state.owner run) ∨
      (∃ m, action = .monitor m) ∧ (state.apps run).keepRunning = false
  cleared : ∀ client, state.peer = some client → next.peer ≠ some client → action.serves client
  foreign : ∀ c, action.serves c → state.peer ≠ some c →
    (next.peer, next.run, next.locked, next.transactions, next.sent, next.apps) =
      (state.peer, state.run, state.locked, state.transactions, state.sent, state.apps)
  refused : action = .accept → ∀ client, state.peer = some client →
    (next.peer, next.run, next.locked, next.transactions, next.sent, next.apps) =
      (state.peer, state.run, state.locked, state.transactions, state.sent, state.apps)

def Handler.isIdle : Handler → Bool
  | .idle => true
  | _ => false

theorem Handler.eq_idle {point : Handler} (idle : point.isIdle = true) : point = .idle := by
  cases point <;> first | rfl | cases idle

/-- A message arrives only on the current connection, and a connection error only on that or
while there is none. A connection is accepted only while no handler is busy and no monitor has
a run to report. -/
def Undisturbed (state : State) (action : Action Port) (_ : State) : Prop :=
  match action with
  | .deliver c (.message _) => state.peer = some c
  | .deliver c (.error .invalid) | .deliver c (.error .terminationImminent) =>
      state.peer = some c ∨ state.peer = none
  | .accept => state.peer = none →
      (∀ c < state.connections, (state.handlers c).isIdle = true) ∧
        ∀ m < state.made, (state.monitors m).owes = none
  | _ => True

/-! ## What holds while nothing is disturbed -/

def Handler.leaves : Handler → Bool
  | .signalling .disconnect _ | .joining .disconnect _ | .draining .disconnect _
  | .closing .disconnect _ | .clearing => true
  | _ => false

structure Fits (peer run : Option Nat) (owner : Nat → Nat) (c : Nat) (point : Handler) : Prop where
  busy : point = .idle ∨ peer = some c ∨
    (peer = none ∧ (point = .taking .disconnect ∨ point = .clearing))
  held : ∀ run rest, point.hand = some (run, rest) → owner run = c
  making : ∀ app, point.making = some app → owner app = c
  leaves : point.leaves = true → run = none

def Message.about : Message → Option Nat
  | .reply _ _ => none
  | .error run _ | .stopped run _ => some run

structure Undivided (state : State) : Prop where
  handlers : ∀ c, Fits state.peer state.run state.owner c (state.handlers c)
  stored : ∀ run, state.run = some run → state.peer = some (state.owner run)
  owes : ∀ m run, (state.monitors m).owes = some run →
    ∀ client, state.peer = some client → client = state.owner run
  addressed : ∀ client message, (client, message) ∈ state.sent → message.isFor state.owner client
  told : ∀ client message, (client, message) ∈ state.sent → ∀ run, message.about = some run →
    run < state.made

def Handler.engaged : Handler → Bool
  | .idle | .taking .disconnect | .clearing => false
  | _ => true

section
variable {state next : State} {action : Action Port}

namespace Fits
variable {peer run : Option Nat} {owner : Nat → Nat} {c : Nat} {point : Handler}

theorem idle : Fits peer run owner c .idle where
  busy := .inl rfl
  held _ _ held := by cases held
  making _ makes := by cases makes
  leaves away := by cases away

theorem plain (here : peer = some c) (empty : point.hand = none) (unmade : point.making = none)
    (stays : point.leaves = false) : Fits peer run owner c point where
  busy := .inr (.inl here)
  held _ _ held := by simp [empty] at held
  making _ makes := by simp [unmade] at makes
  leaves away := by simp [stays] at away

theorem current (fits : Fits peer run owner c point) (engaged : point.engaged = true) :
    peer = some c := by
  rcases fits.busy with rfl | here | ⟨_, rfl | rfl⟩
  · cases engaged
  · exact here
  · cases engaged
  · cases engaged

theorem emptied (fits : Fits peer run owner c point) : Fits peer none owner c point :=
  ⟨fits.busy, fits.held, fits.making, fun _ => rfl⟩

theorem onward (fits : Fits peer run owner c point) {later : Handler} (here : peer = some c)
    (held : ∀ taken rest, later.hand = some (taken, rest) → ∃ left, point.hand = some (taken, left))
    (unmade : later.making = none) (leaves : later.leaves = true → point.leaves = true) :
    Fits peer run owner c later where
  busy := .inr (.inl here)
  held taken rest has := by
    obtain ⟨left, had⟩ := held taken rest has
    exact fits.held taken left had
  making _ makes := by simp [unmade] at makes
  leaves away := fits.leaves (leaves away)

end Fits

theorem owner_kept {app : Nat} {changed : AppState}
    (apps : next.apps = Function.update state.apps app changed)
    (same : changed.owner = (state.apps app).owner) : next.owner = state.owner := by
  funext other
  by_cases here : other = app
  · simp [State.owner, apps, here, same]
  · simp [State.owner, apps, here]

namespace Undivided

theorem idle_of_current (undivided : Undivided state) {c d : Nat} (here : state.peer = some c)
    (apart : d ≠ c) : state.handlers d = .idle := by
  rcases (undivided.handlers d).busy with idle | there | ⟨none_there, _⟩
  · exact idle
  · exact absurd (Option.some.inj (there.symm.trans here)) apart
  · rw [here] at none_there
    cases none_there

theorem fits (undivided : Undivided state) {c : Nat} {point : Handler}
    (here : state.handlers c = point) : Fits state.peer state.run state.owner c point :=
  here ▸ undivided.handlers c

theorem current (undivided : Undivided state) {c : Nat} {point : Handler}
    (here : state.handlers c = point) (engaged : point.engaged = true) : state.peer = some c :=
  (undivided.fits here).current engaged

theorem turn (undivided : Undivided state) {c : Nat} {point : Handler}
    (fits : Fits state.peer state.run state.owner c point)
    (handlers : next.handlers = Function.update state.handlers c point)
    (monitors : next.monitors = state.monitors) (peer : next.peer = state.peer)
    (run : next.run = state.run) (owner : next.owner = state.owner)
    (sent : next.sent = state.sent) (made : next.made = state.made) : Undivided next := by
  refine ⟨fun d => ?_, ?_, ?_, ?_, ?_⟩
  · rw [peer, run, owner, handlers]
    by_cases same : d = c
    · subst same
      simpa using fits
    · simpa [same] using undivided.handlers d
  · rw [peer, run, owner]
    exact undivided.stored
  · rw [peer, monitors, owner]
    exact undivided.owes
  · rw [sent, owner]
    exact undivided.addressed
  · rw [sent, made]
    exact undivided.told

theorem kept (undivided : Undivided state) (handlers : next.handlers = state.handlers)
    (monitors : next.monitors = state.monitors) (peer : next.peer = state.peer)
    (run : next.run = state.run) (owner : next.owner = state.owner)
    (sent : next.sent = state.sent) (made : next.made = state.made) : Undivided next := by
  refine ⟨?_, ?_, ?_, ?_, ?_⟩
  · rw [peer, run, owner, handlers]
    exact undivided.handlers
  · rw [peer, run, owner]
    exact undivided.stored
  · rw [peer, monitors, owner]
    exact undivided.owes
  · rw [sent, owner]
    exact undivided.addressed
  · rw [sent, made]
    exact undivided.told

theorem message_lt_made (undivided : Undivided state) {client : Nat} {message : Message}
    (member : (client, message) ∈ state.sent) {owner : Nat → Nat}
    (same : ∀ run < state.made, owner run = state.owner run) : message.isFor owner client := by
  have right := undivided.addressed client message member
  have known := undivided.told client message member
  cases message with
  | reply asker answer => exact right
  | error run failure => exact right.trans (same run (known run rfl)).symm
  | stopped run reason => exact right.trans (same run (known run rfl)).symm

theorem act (undivided : Undivided state) {c : Nat} {point : Handler}
    (current : state.peer = some c) (fits : Fits next.peer next.run next.owner c point)
    (stored : ∀ run, next.run = some run → next.peer = some (next.owner run))
    (owed : ∀ m run, (next.monitors m).owes = some run →
      (state.monitors m).owes = some run ∧ run < state.made)
    (owner : ∀ run < state.made, next.owner run = state.owner run)
    (handlers : next.handlers = Function.update state.handlers c point)
    (peer : next.peer = state.peer ∨ next.peer = none) (sent : next.sent = state.sent)
    (made : state.made ≤ next.made) : Undivided next := by
  refine ⟨fun d => ?_, stored, ?_, ?_, ?_⟩
  · rw [handlers]
    by_cases same : d = c
    · subst same
      simpa using fits
    · rw [Function.update_of_ne same, undivided.idle_of_current current same]
      exact .idle
  · intro m run owes client there
    obtain ⟨before, bound⟩ := owed m run owes
    rw [owner run bound]
    rcases peer with same | none_there
    · exact undivided.owes m run before client (same ▸ there)
    · rw [none_there] at there
      cases there
  · rw [sent]
    exact fun client message member => undivided.message_lt_made member owner
  · rw [sent]
    exact fun client message member run about =>
      (undivided.told client message member run about).trans_le made

theorem pass (undivided : Undivided state) {m : Nat} {point : Monitor}
    (owes : ∀ run, point.owes = some run → ∀ client, state.peer = some client →
      client = state.owner run)
    (handlers : next.handlers = state.handlers)
    (monitors : next.monitors = Function.update state.monitors m point)
    (peer : next.peer = state.peer) (run : next.run = state.run ∨ next.run = none)
    (owner : next.owner = state.owner) (sent : next.sent = state.sent)
    (made : next.made = state.made) : Undivided next := by
  refine ⟨fun d => ?_, ?_, ?_, ?_, ?_⟩
  · rw [peer, owner, handlers]
    rcases run with same | empty
    · rw [same]
      exact undivided.handlers d
    · rw [empty]
      exact (undivided.handlers d).emptied
  · intro stored holds
    rw [peer, owner]
    rcases run with same | empty
    · exact undivided.stored stored (same ▸ holds)
    · rw [empty] at holds
      cases holds
  · rw [peer, monitors, owner]
    intro n owed
    by_cases same : n = m
    · subst same
      rw [Function.update_self]
      exact owes owed
    · rw [Function.update_of_ne same]
      exact undivided.owes n owed
  · rw [sent, owner]
    exact undivided.addressed
  · rw [sent, made]
    exact undivided.told

theorem send (undivided : Undivided state) {message : Message}
    (right : ∀ client, state.peer = some client → message.isFor state.owner client)
    (known : ∀ run, message.about = some run → run < state.made) :
    Undivided (state.sendToPeer message) := by
  have split {client : Nat} {other : Message}
      (member : (client, other) ∈ (state.sendToPeer message).sent) :
      (client, other) ∈ state.sent ∨ (state.peer = some client ∧ other = message) := by
    rcases List.mem_append.mp member with before | now
    · exact .inl before
    · obtain ⟨peer, here, same⟩ := List.mem_map.mp now
      cases same
      exact .inr ⟨by simpa using here, rfl⟩
  refine ⟨undivided.handlers, undivided.stored, undivided.owes, ?_, ?_⟩
  · intro client other member
    rcases split member with before | ⟨here, rfl⟩
    · exact undivided.addressed client other before
    · exact right client here
  · intro client other member
    rcases split member with before | ⟨_, rfl⟩
    · exact undivided.told client other before
    · exact known

end Undivided

theorem undivided_of_moves (orderly : Orderly state) (known : Known state)
    (undivided : Undivided state) (lawful : Undisturbed state action next)
    (moves : Moves state action next) : Undivided next := by
  have begun {party : Party} {run : Nat} {rest : List Duty}
      (held : state.handover.hand party = some (run, rest)) : run < state.made :=
    orderly.making.lt_made (orderly.accounted.hand party run rest held).history_ne
  have begun_stored {run : Nat} (stored : state.run = some run) : run < state.made :=
    orderly.making.lt_made (by simp [orderly.accounted.slot run stored])
  have owing (m run : Nat) (owes : (state.monitors m).owes = some run) :
      (state.monitors m).owes = some run ∧ run < state.made := by
    refine ⟨owes, ?_⟩
    cases here : state.monitors m <;> rw [here] at owes <;> cases owes <;>
      exact begun (hand_monitor here)
  cases moves with
  | accept =>
      unfold State.acceptPeer
      split
      next client there => exact undivided.kept rfl rfl rfl rfl rfl rfl rfl
      next nobody =>
        obtain ⟨idle, paid⟩ := lawful nobody
        refine ⟨fun c => ?_, fun run stored => ?_, fun m run owes => ?_, undivided.addressed,
          undivided.told⟩
        · have rests : state.handlers c = .idle := by
            by_cases came : c < state.connections
            · exact Handler.eq_idle (idle c came)
            · exact (known c (by omega)).2
          rw [show State.handlers _ c = state.handlers c from rfl, rests]
          exact .idle
        · cases nobody.symm.trans (undivided.stored run stored)
        · by_cases made : m < state.made
          · cases (paid m made).symm.trans owes
          · have unspawned := orderly.making.unwatched m (orderly.making.fresh m (by omega))
            rw [show State.monitors _ m = state.monitors m from rfl, unspawned] at owes
            cases owes
  | @deliver c event active idle =>
      have leaving (peer : state.peer = some c ∨ state.peer = none) :
          Fits state.peer state.run state.owner c (.taking .disconnect) := by
        refine ⟨?_, by rintro _ _ ⟨⟩, by rintro _ ⟨⟩, by rintro ⟨⟩⟩
        rcases peer with here | nobody
        · exact .inr (.inl here)
        · exact .inr (.inr ⟨nobody, .inl rfl⟩)
      cases event with
      | message request => exact undivided.turn (.plain lawful rfl rfl rfl) rfl rfl rfl rfl rfl rfl rfl
      | error error =>
          cases error with
          | invalid | terminationImminent =>
              exact undivided.turn (leaving lawful) rfl rfl rfl rfl rfl rfl rfl
          | interrupted | other => exact undivided
      | oneWay | other => exact undivided
  | @asks c _ _ _ point here there =>
      refine undivided.turn ?_ rfl rfl rfl rfl rfl rfl rfl
      have current := undivided.current here rfl
      rcases there with ⟨_, rfl⟩ | rfl <;> exact .plain current rfl rfl rfl
  | @answers c _ _ _ here =>
      refine undivided.turn ?_ rfl rfl rfl rfl rfl rfl rfl
      have current : state.peer = some c := by
        rcases here with ⟨_, here⟩ | ⟨_, here, _⟩ <;> exact undivided.current here rfl
      exact .plain current rfl rfl rfl
  | locks here | refuses here =>
      exact undivided.turn (.plain (undivided.current here rfl) rfl rfl rfl) rfl rfl rfl rfl rfl rfl rfl
  | @builds c _ _ _ _ point here there =>
      have current := undivided.current here rfl
      have older (run : Nat) (bound : run < state.made) :
          State.owner ((state.setApp state.made fun _ => { owner := c }).setHandler c point) run =
            state.owner run := by
        simp [State.owner, State.setHandler, State.setApp, bound.ne]
      have newest : State.owner ((state.setApp state.made fun _ => { owner := c }).setHandler c
          point) state.made = c := by
        simp [State.owner, State.setHandler, State.setApp]
      refine undivided.act current ⟨.inr (.inl current), ?_, ?_, ?_⟩ ?_ owing older rfl (.inl rfl) rfl
        (Nat.le_succ _)
      · rcases there with rfl | rfl <;> rintro _ _ ⟨⟩
      · rcases there with rfl | rfl <;> (rintro _ ⟨⟩; exact newest)
      · rcases there with rfl | rfl <;> rintro ⟨⟩
      · intro run stored
        exact (undivided.stored run stored).trans (congrArg some (older run (begun_stored stored)).symm)
  | drops here =>
      exact undivided.turn (.plain (undivided.current here rfl) rfl rfl rfl) rfl rfl rfl rfl
        (owner_kept rfl rfl) rfl rfl
  | @keeps c _ _ app _ here =>
      have fits := undivided.fits here
      have current := fits.current rfl
      have same : (state.setApp app (·.record .put)).owner = state.owner := owner_kept rfl rfl
      refine undivided.act current (.plain current rfl rfl rfl) ?_ ?_ (fun run _ => congrFun same run)
        rfl (.inl rfl) rfl le_rfl
      · rintro _ ⟨⟩
        exact current.trans (congrArg some ((congrFun same app).trans (fits.making app rfl)).symm)
      · intro m run owes
        by_cases here' : m = app
        · simp [State.setHandler, State.setMonitor, here', Monitor.owes] at owes
        · exact owing m run (by
            simpa [State.setHandler, State.setMonitor, State.setApp, here'] using owes)
  | @findsNothing c _ _ purpose point here unlocked empty there =>
      refine undivided.turn ?_ rfl rfl rfl rfl rfl rfl rfl
      rcases there with ⟨rfl, _, rfl⟩ | ⟨rfl, rfl⟩
      · exact .plain (undivided.current here rfl) rfl rfl rfl
      · have fits := undivided.fits here
        refine ⟨?_, by rintro _ _ ⟨⟩, by rintro _ ⟨⟩, fun _ => empty⟩
        rcases fits.busy with away | current | ⟨nobody, _⟩
        · cases away
        · exact .inr (.inl current)
        · exact .inr (.inr ⟨nobody, .inr rfl⟩)
  | @takes c _ _ purpose run here unlocked stored =>
      have fits := undivided.fits here
      have owned := undivided.stored run stored
      have current : state.peer = some c := by
        rcases fits.busy with away | current | ⟨nobody, _⟩
        · cases away
        · exact current
        · rw [owned] at nobody
          cases nobody
      have same : (state.setApp run (·.record (.took (.handler c)))).owner = state.owner :=
        owner_kept rfl rfl
      refine undivided.act current ⟨.inr (.inl current), ?_, by rintro _ ⟨⟩, fun _ => rfl⟩
        (by rintro _ ⟨⟩) owing (fun run _ => congrFun same run) rfl (.inl rfl) rfl le_rfl
      rintro _ _ ⟨⟩
      exact (congrFun same run).trans (Option.some.inj (owned.symm.trans current))
  | signals here =>
      have fits := undivided.fits here
      refine undivided.turn (fits.onward (fits.current rfl) ?_ rfl ?_) rfl rfl rfl rfl
        (owner_kept rfl rfl) rfl rfl
      · exact fun taken rest has => ⟨rest, has⟩
      · cases ‹Purpose› <;> exact id
  | joins here ended =>
      have fits := undivided.fits here
      refine undivided.turn (fits.onward (fits.current rfl) ?_ rfl ?_) rfl rfl rfl rfl rfl rfl rfl
      · exact fun taken rest has => ⟨rest, has⟩
      · cases ‹Purpose› <;> exact id
  | @drains c _ _ purpose run point here there =>
      have fits := undivided.fits here
      refine undivided.turn (fits.onward (fits.current rfl) ?_ ?_ ?_) rfl rfl rfl rfl
        (owner_kept rfl rfl) rfl rfl
      · intro taken rest has
        refine ⟨[.shutdown, .transactionEnd], ?_⟩
        rcases there with ⟨_, _, rfl⟩ | ⟨_, rfl⟩ <;> cases has <;> rfl
      · rcases there with ⟨_, _, rfl⟩ | ⟨_, rfl⟩ <;> rfl
      · rcases there with ⟨rfl, _, rfl⟩ | ⟨rfl, rfl⟩ <;> exact id
  | @replies c _ _ answer stopped here =>
      have fits := undivided.fits here
      have current := fits.current rfl
      have sent : Undivided (state.sendToPeer (.reply c answer)) :=
        undivided.send (fun client there => Option.some.inj (there.symm.trans current))
          (by rintro _ ⟨⟩)
      refine sent.turn ?_ rfl rfl rfl rfl rfl rfl rfl
      cases stopped with
      | none => exact .idle
      | some run => exact fits.onward current (fun taken rest has => ⟨rest, has⟩) rfl (by rintro ⟨⟩)
  | @reports c _ _ run here =>
      have fits := undivided.fits here
      have current := fits.current rfl
      have sent : Undivided (state.sendToPeer (.stopped run .requested)) := by
        refine undivided.send ?_ ?_
        · intro client there
          rw [Message.isFor, fits.held run _ rfl]
          exact Option.some.inj (there.symm.trans current)
        · rintro _ ⟨⟩
          exact begun (hand_handler here)
      refine sent.turn ?_ rfl rfl rfl rfl rfl rfl rfl
      exact fits.onward current (fun taken rest has => ⟨rest, has⟩) rfl (by rintro ⟨⟩)
  | @closes c _ _ purpose run point here there =>
      have fits := undivided.fits here
      refine undivided.turn ?_ rfl rfl rfl rfl (owner_kept rfl rfl) rfl rfl
      rcases there with ⟨_, rfl⟩ | ⟨rfl, rfl⟩
      · exact .idle
      · exact fits.onward (fits.current rfl) (by rintro _ _ ⟨⟩) rfl id
  | @clears c _ _ here =>
      have fits := undivided.fits here
      have empty := fits.leaves rfl
      rcases fits.busy with away | current | ⟨nobody, _⟩
      · cases away
      · refine undivided.act current .idle ?_ owing (fun _ _ => rfl) rfl (.inr rfl) rfl le_rfl
        intro run stored
        cases empty.symm.trans stored
      · exact undivided.turn .idle rfl rfl nobody.symm rfl rfl rfl rfl
  | @watches m point here there =>
      refine undivided.pass ?_ rfl rfl rfl (.inl rfl) rfl rfl rfl
      intro run owed
      rcases there with watching | rfl
      · cases point <;> simp [Monitor.watching, Monitor.owes] at watching owed
      · cases owed
  | @detects m run failure here unlocked stored failed =>
      refine undivided.pass ?_ rfl rfl rfl (.inr rfl) (owner_kept rfl rfl) rfl rfl
      rintro _ ⟨⟩ client there
      exact Option.some.inj (there.symm.trans (undivided.stored run stored))
  | @sendsError m run failure here =>
      have right := undivided.owes m run (by rw [here]; rfl)
      have sent : Undivided (state.sendToPeer (.error run failure)) :=
        undivided.send right (by rintro _ ⟨⟩; exact begun (hand_monitor here))
      refine sent.pass ?_ rfl rfl rfl (.inl rfl) (owner_kept rfl rfl) rfl rfl
      rintro _ ⟨⟩
      exact right
  | @drainsFailed m run here =>
      refine undivided.pass ?_ rfl rfl rfl (.inl rfl) (owner_kept rfl rfl) rfl rfl
      rintro _ ⟨⟩
      exact undivided.owes m run (by rw [here]; rfl)
  | @reportsFailed m run here =>
      have right := undivided.owes m run (by rw [here]; rfl)
      have sent : Undivided (state.sendToPeer (.stopped run .failed)) :=
        undivided.send right (by rintro _ ⟨⟩; exact begun (hand_monitor here))
      exact sent.pass (by rintro _ ⟨⟩) rfl rfl rfl (.inl rfl) rfl rfl rfl
  | closesFailed here =>
      exact undivided.pass (by rintro _ ⟨⟩) rfl rfl rfl (.inl rfl) (owner_kept rfl rfl) rfl rfl
  | engineFails live undrained =>
      exact undivided.kept rfl rfl rfl rfl (owner_kept rfl rfl) rfl rfl

/-! ## Every step is isolated -/

theorem Undivided.taker (undivided : Undivided state) {c run : Nat} {purpose : Purpose}
    (here : state.handlers c = .taking purpose) (stored : state.run = some run) :
    c = state.owner run := by
  have owned := undivided.stored run stored
  rcases (undivided.fits here).busy with away | current | ⟨nobody, _⟩
  · cases away
  · exact Option.some.inj (current.symm.trans owned)
  · cases nobody.symm.trans owned

theorem Undivided.former (undivided : Undivided state) {c : Nat}
    (busy : state.handlers c ≠ .idle) (other : state.peer ≠ some c) :
    state.peer = none ∧ state.run = none ∧
      (state.handlers c = .taking .disconnect ∨ state.handlers c = .clearing) := by
  rcases (undivided.handlers c).busy with idle | current | ⟨nobody, point⟩
  · exact absurd idle busy
  · exact absurd current other
  · refine ⟨nobody, ?_, point⟩
    cases stored : state.run with
    | none => rfl
    | some run => cases nobody.symm.trans (undivided.stored run stored)

theorem taken_of_moves (undivided : Undivided state) (moves : Moves state action next) {run : Nat}
    (stored : state.run = some run) (empty : next.run = none) :
    action.serves (state.owner run) ∨
      (∃ m, action = .monitor m) ∧ (state.apps run).keepRunning = false := by
  cases moves with
  | accept =>
      unfold State.acceptPeer at empty
      split at empty
      all_goals cases stored.symm.trans empty
  | @deliver c event active idle =>
      cases event with
      | error error => cases error <;> cases stored.symm.trans empty
      | message | oneWay | other => cases stored.symm.trans empty
  | keeps => cases empty
  | takes here unlocked holds => exact .inl (undivided.taker here stored)
  | @detects m taken failure here unlocked holds failed =>
      obtain rfl := Option.some.inj (stored.symm.trans holds)
      refine .inr ⟨⟨m, rfl⟩, ?_⟩
      unfold AppState.engineFailure at failed
      split_ifs at failed with runs
      simpa using runs
  | asks | answers | locks | refuses | builds | drops | findsNothing | signals | joins | drains
  | replies | reports | closes | clears | watches | sendsError | drainsFailed | reportsFailed
  | closesFailed | engineFails => cases stored.symm.trans empty

theorem cleared_of_moves (undivided : Undivided state) (moves : Moves state action next)
    {client : Nat} (there : state.peer = some client) (gone : next.peer ≠ some client) :
    action.serves client := by
  cases moves with
  | accept =>
      simp only [State.acceptPeer, there] at gone
      exact absurd rfl gone
  | @deliver c event active idle =>
      cases event with
      | error error => cases error <;> exact absurd there gone
      | message | oneWay | other => exact absurd there gone
  | clears here =>
      rcases (undivided.fits here).busy with away | current | ⟨nobody, _⟩
      · cases away
      · exact Option.some.inj (current.symm.trans there)
      · cases nobody.symm.trans there
  | asks | answers | locks | refuses | builds | drops | keeps | findsNothing | takes | signals
  | joins | drains | replies | reports | closes | watches | detects | sendsError | drainsFailed
  | reportsFailed | closesFailed | engineFails => exact absurd there gone

theorem foreign_of_moves (undivided : Undivided state) (moves : Moves state action next) {c : Nat}
    (serves : action.serves c) (other : state.peer ≠ some c) :
    (next.peer, next.run, next.locked, next.transactions, next.sent, next.apps) =
      (state.peer, state.run, state.locked, state.transactions, state.sent, state.apps) := by
  cases action with
  | deliver d event =>
      cases moves
      cases event with
      | error error => cases error <;> rfl
      | message | oneWay | other => rfl
  | handle d host slot =>
      obtain rfl : d = c := serves
      obtain ⟨nobody, empty, point⟩ := undivided.former (handle_frame moves).1 other
      cases moves with
      | clears => rw [nobody]; rfl
      | takes here unlocked stored => cases empty.symm.trans stored
      | findsNothing => rfl
      | asks here | locks here | refuses here | builds here | drops here | keeps here
      | signals here | joins here | drains here | replies here | reports here | closes here =>
          rw [here] at point
          rcases point with point | point <;> cases point
      | answers here => rfl
  | accept | monitor | engineFails => cases serves

theorem isolated_of_moves (undivided : Undivided state) (after : Undivided next)
    (moves : Moves state action next) : Isolated state action next where
  replies c answer sends := by
    cases sends with
    | reply here => exact undivided.current here rfl
  addressed := after.addressed
  taken run := taken_of_moves undivided moves
  cleared client := cleared_of_moves undivided moves
  foreign c := foreign_of_moves undivided moves
  refused := by
    rintro rfl client there
    cases moves
    simp only [State.acceptPeer, there]

theorem undivided_initial : Undivided {} where
  handlers _ := .idle
  stored _ stored := by cases stored
  owes _ _ owes := by cases owes
  addressed _ _ member := by cases member
  told _ _ member := by cases member

theorem undisturbed_runs_are_isolated {schedule : List (Action Port)}
    (lawful : AllSteps ServiceRun.step Undisturbed {} schedule) :
    AllSteps ServiceRun.step Isolated {} schedule := by
  refine allSteps_of_invariant (motive := fun state => Orderly state ∧ Known state ∧
    Undivided state) ⟨orderly_initial, fun _ _ => ⟨rfl, rfl⟩, undivided_initial⟩ ?_ schedule lawful
  rintro state action next ⟨orderly, known, undivided⟩ lawful moved
  have moves := moves_of_step moved
  have after := undivided_of_moves orderly known undivided lawful moves
  exact ⟨isolated_of_moves undivided after moves, orderly.step moves,
    known_of_moves known moves, after⟩

instance (state : State) (action : Action Port) (next : State) :
    Decidable (Undisturbed state action next) :=
  match action with
  | .deliver c (.message _) => inferInstanceAs (Decidable (state.peer = some c))
  | .deliver c (.error .invalid) | .deliver c (.error .terminationImminent) =>
      inferInstanceAs (Decidable (state.peer = some c ∨ state.peer = none))
  | .accept => inferInstanceAs (Decidable (state.peer = none →
      (∀ c < state.connections, (state.handlers c).isIdle = true) ∧
        ∀ m < state.made, (state.monitors m).owes = none))
  | .deliver _ .oneWay | .deliver _ .other | .deliver _ (.error .interrupted)
  | .deliver _ (.error .other) | .handle _ _ _ | .monitor _ | .engineFails _ _ => .isTrue trivial

end

def oneAfterAnother : List (Action (Option String)) :=
  .accept :: startOn 0 ++ terminate 0 0 ++ .deliver 0 (.error .invalid) :: serve 0 2 ++
    .accept :: startOn 1

theorem successive_clients_are_isolated : AllSteps step Isolated {} oneAfterAnother ∧
    ((exec step {} oneAfterAnother).map fun last => (last.peer, last.run)) =
      some (some 1, some 1) := by
  constructor
  · exact undisturbed_runs_are_isolated (by decide +kernel)
  · decide +kernel

/-- A connection that the runtime has terminated asks once more while another is current. -/
def askAfterTermination : List (Action (Option String)) :=
  [.accept, .deliver 0 (.error .terminationImminent)] ++ serve 0 2 ++
    [.accept, .deliver 0 (.message (.ok .hello))] ++ serve 0 2

def Message.asker : Message → Option Nat
  | .reply asker _ => some asker
  | _ => none

theorem former_client_is_answered_elsewhere : ∃ last, exec step {} askAfterTermination = some last ∧
    ∃ answer, (1, Message.reply 0 answer) ∈ last.sent := by
  have reached : ((exec step {} askAfterTermination).map fun last => last.sent.map fun entry =>
      (entry.1, entry.2.asker)) = some [(1, some 0)] := by
    decide +kernel
  obtain ⟨last, run, sent⟩ := Option.map_eq_some_iff.mp reached
  refine ⟨last, run, ?_⟩
  obtain ⟨⟨client, message⟩, only, facts⟩ := List.map_eq_singleton_iff.mp sent
  rw [only]
  cases message with
  | reply asker answer =>
      simp only [Message.asker, Prod.mk.injEq, Option.some.injEq] at facts
      obtain ⟨rfl, rfl⟩ := facts
      exact ⟨answer, List.mem_singleton.mpr rfl⟩
  | error | stopped => simp [Message.asker] at facts

end Phase4.Xpc.ServiceRun
