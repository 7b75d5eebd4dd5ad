import Phase4.Xpc.ServiceRun

namespace Phase4.Xpc.ServiceRun
open Library

variable {Port : Type}

def Monitor.owes : Monitor → Option Nat
  | .failing run _ | .draining run | .reporting run => some run
  | _ => none

/-! ## The handover of runs -/

section
variable {state next : State} {action : Action Port}

def HandlerTurn (state next : State) (c : Nat) (point : Handler) : Prop :=
  next.handlers = Function.update state.handlers c point ∧ next.monitors = state.monitors

def MonitorTurn (state next : State) (m : Nat) (point : Monitor) : Prop :=
  next.handlers = state.handlers ∧ next.monitors = Function.update state.monitors m point

theorem HandlerTurn.hand {c : Nat} {point : Handler} {held : Option (Nat × List Duty)}
    (turn : HandlerTurn state next c point) (holds : point.hand = held) :
    next.handover.hand = Function.update state.handover.hand (.handler c) held := by
  obtain ⟨handlers, monitors⟩ := turn
  subst holds
  funext party
  cases party with
  | handler d =>
      by_cases same : d = c
      · simp [same, State.handover, handlers]
      · simp [same, State.handover, handlers]
  | monitor m => simp [State.handover, monitors]

theorem MonitorTurn.hand {m : Nat} {point : Monitor} {held : Option (Nat × List Duty)}
    (turn : MonitorTurn state next m point) (holds : point.hand = held) :
    next.handover.hand = Function.update state.handover.hand (.monitor m) held := by
  obtain ⟨handlers, monitors⟩ := turn
  subst holds
  funext party
  cases party with
  | handler c => simp [State.handover, handlers]
  | monitor n =>
      by_cases same : n = m
      · simp [same, State.handover, monitors]
      · simp [same, State.handover, monitors]

theorem history_of_apps {app : Nat} {changed : AppState} {deeds : List (Deed Party Duty)}
    (apps : next.apps = Function.update state.apps app changed) (history : changed.history = deeds) :
    next.handover.history = Function.update state.handover.history app deeds := by
  funext other
  by_cases same : other = app
  · simp [same, State.handover, apps, history]
  · simp [same, State.handover, apps]

theorem history_kept {app : Nat} {changed : AppState}
    (apps : next.apps = Function.update state.apps app changed)
    (history : changed.history = (state.apps app).history) :
    next.handover.history = state.handover.history := by
  rw [history_of_apps apps history]
  exact Function.update_eq_self app state.handover.history

theorem HandlerTurn.hand_kept {c : Nat} {point : Handler} (turn : HandlerTurn state next c point)
    (same : point.hand = (state.handlers c).hand) : next.handover.hand = state.handover.hand := by
  rw [turn.hand same]
  exact Function.update_eq_self (Party.handler c) state.handover.hand

theorem MonitorTurn.hand_kept {m : Nat} {point : Monitor} (turn : MonitorTurn state next m point)
    (same : point.hand = (state.monitors m).hand) : next.handover.hand = state.handover.hand := by
  rw [turn.hand same]
  exact Function.update_eq_self (Party.monitor m) state.handover.hand

theorem recorded_put {run : Nat} (clean : state.handover.history run = []) :
    ((state.apps run).record .put).history = [.put] := by
  have clean : (state.apps run).history = [] := clean
  rw [AppState.record, clean]
  rfl

theorem step_stay (run : next.run = state.run) (hand : next.handover.hand = state.handover.hand)
    (history : next.handover.history = state.handover.history) :
    Handover.Step duties state.handover next.handover := by
  have same : next.handover = state.handover := Handover.ext run hand history
  rw [same]
  exact .stay

theorem step_put {run : Nat} (empty : state.run = none) (fresh : (state.apps run).history = [])
    (stored : next.run = some run) (hand : next.handover.hand = state.handover.hand)
    (history : next.handover.history = Function.update state.handover.history run [.put]) :
    Handover.Step duties state.handover next.handover := by
  have same : next.handover = state.handover.put run := Handover.ext stored hand history
  rw [same]
  exact .put empty fresh

theorem step_take {party : Party} {run : Nat} (stored : state.run = some run)
    (free : state.handover.hand party = none) (empty : next.run = none)
    (hand : next.handover.hand = Function.update state.handover.hand party (some (run, duties party)))
    (history : next.handover.history = Function.update state.handover.history run
      ((state.apps run).history ++ [.took party])) :
    Handover.Step duties state.handover next.handover := by
  have keeps : some (run, duties party) = Handover.keep run (duties party) := by
    cases party <;> rfl
  have same : next.handover = state.handover.take duties party run :=
    Handover.ext empty (hand.trans (by rw [keeps]; rfl)) history
  rw [same]
  exact .take stored free

theorem step_perform {party : Party} {run : Nat} {duty : Duty} {rest : List Duty}
    (held : state.handover.hand party = some (run, duty :: rest)) (kept : next.run = state.run)
    (hand : next.handover.hand =
      Function.update state.handover.hand party (Handover.keep run rest))
    (history : next.handover.history = Function.update state.handover.history run
      ((state.apps run).history ++ [.did party duty])) :
    Handover.Step duties state.handover next.handover := by
  have same : next.handover = state.handover.perform party run duty rest :=
    Handover.ext kept hand history
  rw [same]
  exact .perform held

theorem hand_handler {c : Nat} {point : Handler} (here : state.handlers c = point) :
    state.handover.hand (.handler c) = point.hand := by
  rw [← here]
  rfl

theorem hand_monitor {m : Nat} {point : Monitor} (here : state.monitors m = point) :
    state.handover.hand (.monitor m) = point.hand := by
  rw [← here]
  rfl

@[simp] theorem acceptPeer_handover (state : State) :
    state.acceptPeer.handover = state.handover := by
  unfold State.acceptPeer
  split <;> rfl

@[simp] theorem acceptPeer_handlers (state : State) :
    state.acceptPeer.handlers = state.handlers := by
  unfold State.acceptPeer
  split <;> rfl

theorem Monitor.hand_of_watching {point : Monitor} (watching : point.watching = true) :
    point.hand = none := by
  cases point <;> first | rfl | cases watching

/-! ## The run's lock -/

structure Locking (handlers : Nat → Handler) (locked : Bool) (run : Option Nat) : Prop where
  holder : ∀ c, (handlers c).holdsRun = true → locked = true ∧ run = none
  unique : ∀ c d, (handlers c).holdsRun = true → (handlers d).holdsRun = true → c = d

namespace Locking
variable {handlers : Nat → Handler} {locked : Bool} {run : Option Nat} {c : Nat} {point : Handler}

theorem turn (locking : Locking handlers locked run) (calm : point.holdsRun = false) :
    Locking (Function.update handlers c point) locked run := by
  have before (d : Nat) (holds : (Function.update handlers c point d).holdsRun = true) :
      (handlers d).holdsRun = true := by
    by_cases same : d = c
    · simp [same, calm] at holds
    · simpa [same] using holds
  constructor
  · intro d holds
    exact locking.holder d (before d holds)
  · intro d e first second
    exact locking.unique d e (before d first) (before e second)

theorem carryOn (locking : Locking handlers locked run) (holds : (handlers c).holdsRun = true) :
    Locking (Function.update handlers c point) locked run := by
  have before (d : Nat) (after : (Function.update handlers c point d).holdsRun = true) :
      (handlers d).holdsRun = true := by
    by_cases same : d = c
    · rw [same, holds]
    · simpa [same] using after
  constructor
  · intro d after
    exact locking.holder d (before d after)
  · intro d e first second
    exact locking.unique d e (before d first) (before e second)

theorem unlocked (locking : Locking handlers false run) (d : Nat) :
    (handlers d).holdsRun = false := by
  cases holds : (handlers d).holdsRun with
  | false => rfl
  | true => exact absurd (locking.holder d holds).1 Bool.false_ne_true

theorem lock (locking : Locking handlers locked run) (unlocked : locked = false)
    (empty : run = none) : Locking (Function.update handlers c point) true run := by
  subst unlocked empty
  have only (d : Nat) (holds : (Function.update handlers c point d).holdsRun = true) : d = c := by
    by_contra other
    simp [other, locking.unlocked d] at holds
  constructor
  · exact fun d holds => ⟨rfl, rfl⟩
  · intro d e first second
    rw [only d first, only e second]

theorem release (locking : Locking handlers locked run) (holds : (handlers c).holdsRun = true)
    (calm : point.holdsRun = false) (later : Bool) (stored : Option Nat) :
    Locking (Function.update handlers c point) later stored := by
  have nobody (d : Nat) : (Function.update handlers c point d).holdsRun = false := by
    by_cases same : d = c
    · simp [same, calm]
    · cases other : (handlers d).holdsRun with
      | false => simp [same, other]
      | true => exact absurd (locking.unique d c other holds) same
  constructor
  · intro d held
    simp [nobody d] at held
  · intro d e held
    simp [nobody d] at held

theorem empty (locking : Locking handlers locked run) : Locking handlers locked none :=
  ⟨fun d holds => ⟨(locking.holder d holds).1, rfl⟩, locking.unique⟩

end Locking

/-! ## Apps that are being made -/

/-- Nothing is on record for an App that no start has stored yet, and it has no monitor. -/
structure Making (handlers : Nat → Handler) (monitors : Nat → Monitor) (made : Nat)
    (history : Nat → List (Deed Party Duty)) : Prop where
  clean : ∀ c app, (handlers c).making = some app → app < made ∧ history app = []
  fresh : ∀ app, made ≤ app → history app = []
  unwatched : ∀ app, history app = [] → monitors app = .unspawned

namespace Making
variable {handlers : Nat → Handler} {monitors : Nat → Monitor} {made : Nat}
  {history : Nat → List (Deed Party Duty)} {c : Nat} {point : Handler}

theorem turn (making : Making handlers monitors made history) (calm : point.making = none) :
    Making (Function.update handlers c point) monitors made history := by
  refine ⟨fun d app makes => making.clean d app ?_, making.fresh, making.unwatched⟩
  by_cases same : d = c
  · simp [same, calm] at makes
  · simpa [same] using makes

theorem kept {later : Nat → List (Deed Party Duty)}
    (making : Making handlers monitors made history) (same : later = history) :
    Making handlers monitors made later :=
  same ▸ making

theorem watch (making : Making handlers monitors made history) {m : Nat}
    (spawned : monitors m ≠ .unspawned) (point : Monitor) :
    Making handlers (Function.update monitors m point) made history := by
  refine ⟨making.clean, making.fresh, fun app clean => ?_⟩
  have apart : app ≠ m := by
    rintro rfl
    exact spawned (making.unwatched app clean)
  simpa [apart] using making.unwatched app clean

theorem lt_made (making : Making handlers monitors made history) {app : Nat}
    (begun : history app ≠ []) : app < made := by
  by_contra beyond
  exact begun (making.fresh app (by omega))

theorem touch (making : Making handlers monitors made history) {app : Nat}
    (begun : history app ≠ []) {deeds : List (Deed Party Duty)} (some_deed : deeds ≠ []) :
    Making handlers monitors made (Function.update history app deeds) := by
  have apart {other : Nat} (clean : history other = []) : other ≠ app := by
    rintro rfl
    exact begun clean
  constructor
  · intro d other makes
    obtain ⟨bound, clean⟩ := making.clean d other makes
    exact ⟨bound, by simpa [apart clean] using clean⟩
  · intro other beyond
    have clean := making.fresh other beyond
    simpa [apart clean] using clean
  · intro other clean
    by_cases same : other = app
    · simp [same, some_deed] at clean
    · exact making.unwatched other (by simpa [same] using clean)

theorem build (making : Making handlers monitors made history)
    (makes : point.making = some made) :
    Making (Function.update handlers c point) monitors (made + 1) history := by
  constructor
  · intro d app makes'
    by_cases same : d = c
    · simp only [same, Function.update_self, makes, Option.some.injEq] at makes'
      exact makes' ▸ ⟨Nat.lt_succ_self made, making.fresh made le_rfl⟩
    · obtain ⟨bound, clean⟩ := making.clean d app (by simpa [same] using makes')
      exact ⟨bound.trans (Nat.lt_succ_self made), clean⟩
  · exact fun app beyond => making.fresh app (by omega)
  · exact making.unwatched

theorem keep (making : Making handlers monitors made history) {app : Nat}
    (calm : point.making = none) (makes : (handlers c).making = some app)
    (unique : ∀ d other, (handlers d).making = some other → d = c) :
    Making (Function.update handlers c point) (Function.update monitors app .polling) made
      (Function.update history app [.put]) := by
  have bound := (making.clean c app makes).1
  constructor
  · intro d other makes'
    by_cases same : d = c
    · simp [same, calm] at makes'
    · exact absurd (unique d other (by simpa [same] using makes')) same
  · intro other beyond
    have apart : other ≠ app := by omega
    simpa [apart] using making.fresh other beyond
  · intro other clean
    by_cases same : other = app
    · simp [same] at clean
    · simpa [same] using making.unwatched other (by simpa [same] using clean)

end Making

theorem Handler.holdsRun_of_making {point : Handler} {app : Nat}
    (makes : point.making = some app) : point.holdsRun = true := by
  cases point <;> first | rfl | cases makes

/-! ## Every step hands runs over properly -/

structure Orderly (state : State) : Prop where
  locking : Locking state.handlers state.locked state.run
  making : Making state.handlers state.monitors state.made state.handover.history
  accounted : state.handover.Accounted duties

theorem handover_step (orderly : Orderly state) (moves : Moves state action next) :
    Handover.Step duties state.handover next.handover := by
  cases moves with
  | accept => simpa using Handover.Step.stay
  | @deliver c event active idle =>
      have same : (state.handleEvent c event).handover.hand = state.handover.hand := by
        cases event with
        | message request => exact HandlerTurn.hand_kept ⟨rfl, rfl⟩ (by rw [idle]; rfl)
        | error error =>
            cases error <;> first | rfl | exact HandlerTurn.hand_kept ⟨rfl, rfl⟩ (by rw [idle]; rfl)
        | oneWay | other => rfl
      have apps : (state.handleEvent c event).apps = state.apps ∧
          (state.handleEvent c event).run = state.run := by
        cases event with
        | error error => cases error <;> exact ⟨rfl, rfl⟩
        | message | oneWay | other => exact ⟨rfl, rfl⟩
      exact step_stay apps.2 same (by simp only [State.handover, apps.1])
  | @asks c _ _ _ point here there =>
      refine step_stay rfl (HandlerTurn.hand_kept ⟨rfl, rfl⟩ ?_) rfl
      rcases there with ⟨_, rfl⟩ | rfl <;> rw [here] <;> rfl
  | @answers c _ _ _ here =>
      refine step_stay rfl (HandlerTurn.hand_kept ⟨rfl, rfl⟩ ?_) rfl
      rcases here with ⟨_, here⟩ | ⟨_, here, _⟩ <;> rw [here] <;> rfl
  | locks here | refuses here =>
      exact step_stay rfl (HandlerTurn.hand_kept ⟨rfl, rfl⟩ (by rw [here]; rfl)) rfl
  | builds here there =>
      have clean := orderly.making.fresh state.made le_rfl
      refine step_stay rfl (HandlerTurn.hand_kept ⟨rfl, rfl⟩ ?_) (history_kept rfl clean.symm)
      rcases there with rfl | rfl <;> rw [here] <;> rfl
  | drops here =>
      exact step_stay rfl (HandlerTurn.hand_kept ⟨rfl, rfl⟩ (by rw [here]; rfl))
        (history_kept rfl rfl)
  | @keeps c _ _ app _ here =>
      obtain ⟨_, clean⟩ := orderly.making.clean c app (by rw [here]; rfl)
      have empty := (orderly.locking.holder c (by rw [here]; rfl)).2
      have unwatched := orderly.making.unwatched app clean
      let spawned := state.setMonitor app .polling
      have hand : spawned.handover.hand = state.handover.hand :=
        MonitorTurn.hand_kept ⟨rfl, rfl⟩ (by rw [unwatched]; rfl)
      refine step_put empty clean rfl (Eq.trans ?_ hand) (history_of_apps rfl (recorded_put clean))
      exact HandlerTurn.hand_kept ⟨rfl, rfl⟩ (by rw [show spawned.handlers c = _ from here]; rfl)
  | @findsNothing c _ _ _ point here unlocked empty there =>
      refine step_stay rfl (HandlerTurn.hand_kept ⟨rfl, rfl⟩ ?_) rfl
      rcases there with ⟨_, _, rfl⟩ | ⟨_, rfl⟩ <;> rw [here] <;> rfl
  | takes here unlocked stored =>
      exact step_take stored (hand_handler here) rfl (HandlerTurn.hand ⟨rfl, rfl⟩ rfl)
        (history_of_apps rfl rfl)
  | signals here =>
      exact step_stay rfl (HandlerTurn.hand_kept ⟨rfl, rfl⟩ (by rw [here]; rfl))
        (history_kept rfl rfl)
  | joins here ended =>
      exact step_stay rfl (HandlerTurn.hand_kept ⟨rfl, rfl⟩ (by rw [here]; rfl)) rfl
  | @drains c _ _ _ run point here there =>
      have hand : point.hand = Handover.keep run [.transactionEnd] := by
        rcases there with ⟨_, _, rfl⟩ | ⟨_, rfl⟩ <;> rfl
      exact step_perform (hand_handler here) rfl (HandlerTurn.hand ⟨rfl, rfl⟩ hand)
        (history_of_apps rfl rfl)
  | @replies c _ _ answer stopped here =>
      refine step_stay rfl (HandlerTurn.hand_kept ⟨rfl, rfl⟩ ?_) rfl
      cases stopped <;> rw [here] <;> rfl
  | reports here =>
      exact step_stay rfl (HandlerTurn.hand_kept ⟨rfl, rfl⟩ (by rw [here]; rfl)) rfl
  | @closes c _ _ _ _ point here there =>
      have hand : point.hand = none := by
        rcases there with ⟨_, rfl⟩ | ⟨_, rfl⟩ <;> rfl
      exact step_perform (hand_handler here) rfl (HandlerTurn.hand ⟨rfl, rfl⟩ hand)
        (history_of_apps rfl rfl)
  | clears here =>
      exact step_stay rfl (HandlerTurn.hand_kept ⟨rfl, rfl⟩ (by rw [here]; rfl)) rfl
  | @watches m point here there =>
      have hand : point.hand = none := by
        rcases there with watching | rfl
        · exact Monitor.hand_of_watching watching
        · rfl
      exact step_stay rfl (MonitorTurn.hand_kept ⟨rfl, rfl⟩
        (hand.trans (Monitor.hand_of_watching here).symm)) rfl
  | detects here unlocked stored failed =>
      exact step_take stored (hand_monitor here) rfl (MonitorTurn.hand ⟨rfl, rfl⟩ rfl)
        (history_of_apps rfl rfl)
  | sendsError here =>
      exact step_perform (hand_monitor here) rfl (MonitorTurn.hand ⟨rfl, rfl⟩ rfl)
        (history_of_apps rfl rfl)
  | drainsFailed here =>
      exact step_perform (hand_monitor here) rfl (MonitorTurn.hand ⟨rfl, rfl⟩ rfl)
        (history_of_apps rfl rfl)
  | reportsFailed here =>
      exact step_stay rfl (MonitorTurn.hand_kept ⟨rfl, rfl⟩ (by rw [here]; rfl)) rfl
  | closesFailed here =>
      exact step_perform (hand_monitor here) rfl (MonitorTurn.hand ⟨rfl, rfl⟩ rfl)
        (history_of_apps rfl rfl)
  | engineFails live undrained => exact step_stay rfl rfl (history_kept rfl rfl)

theorem locking_of_moves (orderly : Orderly state) (moves : Moves state action next) :
    Locking next.handlers next.locked next.run := by
  have locking := orderly.locking
  cases moves with
  | accept =>
      rw [acceptPeer_handlers]
      unfold State.acceptPeer
      split <;> exact locking
  | @deliver c event active idle =>
      cases event with
      | message request => exact locking.turn rfl
      | error error => cases error <;> first | exact locking | exact locking.turn rfl
      | oneWay | other => exact locking
  | asks here there => exact locking.turn (by rcases there with ⟨_, rfl⟩ | rfl <;> rfl)
  | locks here unlocked empty => exact locking.lock unlocked empty
  | refuses here | drops here | keeps here =>
      exact locking.release (by rw [here]; rfl) rfl false _
  | builds here there => exact locking.carryOn (by rw [here]; rfl)
  | findsNothing here unlocked empty there =>
      exact locking.turn (by rcases there with ⟨_, _, rfl⟩ | ⟨_, rfl⟩ <;> rfl)
  | takes here unlocked stored => exact (locking.turn rfl).empty
  | answers here | signals here | joins here | reports here | clears here => exact locking.turn rfl
  | drains here there => exact locking.turn (by rcases there with ⟨_, _, rfl⟩ | ⟨_, rfl⟩ <;> rfl)
  | @replies c _ _ answer stopped here => exact locking.turn (by cases stopped <;> rfl)
  | closes here there => exact locking.turn (by rcases there with ⟨_, rfl⟩ | ⟨_, rfl⟩ <;> rfl)
  | detects here unlocked stored failed => exact locking.empty
  | watches | sendsError | drainsFailed | reportsFailed | closesFailed | engineFails => exact locking

theorem making_of_moves (orderly : Orderly state) (moves : Moves state action next) :
    Making next.handlers next.monitors next.made next.handover.history := by
  have making := orderly.making
  have begun {party : Party} {run : Nat} {rest : List Duty}
      (held : state.handover.hand party = some (run, rest)) : state.handover.history run ≠ [] :=
    (orderly.accounted.hand party run rest held).history_ne
  have begun_stored {run : Nat} (stored : state.run = some run) :
      state.handover.history run ≠ [] := by
    simp [orderly.accounted.slot run stored]
  cases moves with
  | accept =>
      rw [acceptPeer_handlers, acceptPeer_handover, State.acceptPeer]
      split <;> exact making
  | @deliver c event active idle =>
      cases event with
      | message request => exact making.turn rfl
      | error error => cases error <;> first | exact making | exact making.turn rfl
      | oneWay | other => exact making
  | asks here there => exact making.turn (by rcases there with ⟨_, rfl⟩ | rfl <;> rfl)
  | builds here there =>
      rw [history_kept rfl (making.fresh _ le_rfl).symm]
      exact making.build (by rcases there with rfl | rfl <;> rfl)
  | drops here | signals here => exact (making.turn rfl).kept (history_kept rfl rfl)
  | @keeps c _ _ app _ here =>
      have clean := (orderly.making.clean c app (by rw [here]; rfl)).2
      rw [history_of_apps rfl (recorded_put clean)]
      refine making.keep rfl (by rw [here]; rfl) fun d other makes => ?_
      exact orderly.locking.unique d c (Handler.holdsRun_of_making makes) (by rw [here]; rfl)
  | findsNothing here unlocked empty there =>
      exact making.turn (by rcases there with ⟨_, _, rfl⟩ | ⟨_, rfl⟩ <;> rfl)
  | takes here unlocked stored =>
      rw [history_of_apps rfl rfl]
      exact (making.turn rfl).touch (begun_stored stored) (by simp [AppState.record])
  | answers here | locks here | refuses here | joins here | reports here | clears here =>
      exact making.turn rfl
  | drains here there =>
      rw [history_of_apps rfl rfl]
      exact (making.turn (by rcases there with ⟨_, _, rfl⟩ | ⟨_, rfl⟩ <;> rfl)).touch
        (begun (hand_handler here)) (by simp [AppState.record])
  | @replies c _ _ answer stopped here => exact making.turn (by cases stopped <;> rfl)
  | closes here there =>
      rw [history_of_apps rfl rfl]
      exact (making.turn (by rcases there with ⟨_, rfl⟩ | ⟨_, rfl⟩ <;> rfl)).touch
        (begun (hand_handler here)) (by simp [AppState.record])
  | watches here there => exact making.watch (by intro asleep; simp [asleep, Monitor.watching] at here) _
  | detects here unlocked stored failed =>
      rw [history_of_apps rfl rfl]
      exact (making.watch (by simp [here]) _).touch (begun_stored stored) (by simp [AppState.record])
  | sendsError here | drainsFailed here | closesFailed here =>
      rw [history_of_apps rfl rfl]
      exact (making.watch (by simp [here]) _).touch (begun (hand_monitor here))
        (by simp [AppState.record])
  | reportsFailed here => exact making.watch (by simp [here]) _
  | engineFails live undrained =>
      exact making.kept (history_kept rfl rfl)

theorem Orderly.step (orderly : Orderly state) (moves : Moves state action next) :
    Orderly next where
  locking := locking_of_moves orderly moves
  making := making_of_moves orderly moves
  accounted := orderly.accounted.step (by rintro (_ | _) <;> simp [duties])
    (handover_step orderly moves)

theorem orderly_initial : Orderly {} where
  locking := ⟨by simp [Handler.holdsRun], by simp [Handler.holdsRun]⟩
  making := ⟨by simp [Handler.making], fun _ _ => rfl, fun _ _ => rfl⟩
  accounted := ⟨by simp [State.handover], by
    rintro (c | m) run rest <;> simp [State.handover, Handler.hand, Monitor.hand],
    fun _ => .inl rfl⟩

theorem orderly_of_run {schedule : List (Action Port)} {last : State}
    (run : exec ServiceRun.step {} schedule = some last) : Orderly last :=
  exec_invariant orderly_initial (fun _ _ _ orderly moved => orderly.step (moves_of_step moved)) run

/-! ## Open transactions -/

def closes : Deed Party Duty → Bool
  | .did _ .transactionEnd => true
  | _ => false

/-- The transaction of a run with this history has begun and not ended. -/
def Open (history : List (Deed Party Duty)) : Prop :=
  .put ∈ history ∧ ∀ deed ∈ history, closes deed = false

instance (history : List (Deed Party Duty)) : Decidable (Open history) :=
  inferInstanceAs (Decidable (_ ∧ _))

def openRuns (made : Nat) (history : Nat → List (Deed Party Duty)) : Finset Nat :=
  (Finset.range made).filter fun run => Open (history run)

theorem mem_openRuns {made run : Nat} {history : Nat → List (Deed Party Duty)} :
    run ∈ openRuns made history ↔ run < made ∧ Open (history run) := by
  simp [openRuns]

theorem not_open_nil : ¬Open [] := by simp [Open]

theorem open_put : Open [.put] := by simp [Open, closes]

theorem not_open_ended (history : List (Deed Party Duty)) (party : Party) :
    ¬Open (history ++ [.did party .transactionEnd]) := by
  simp [Open, closes]

theorem openRuns_update_same {made run : Nat} {history : Nat → List (Deed Party Duty)}
    {deeds : List (Deed Party Duty)} (same : Open deeds ↔ Open (history run)) :
    openRuns made (Function.update history run deeds) = openRuns made history := by
  refine Finset.filter_congr fun other _ => ?_
  by_cases here : other = run
  · simp [here, same]
  · simp [here]

theorem openRuns_succ {made : Nat} {history : Nat → List (Deed Party Duty)}
    (fresh : history made = []) : openRuns (made + 1) history = openRuns made history := by
  have unopened : ¬Open (history made) := by
    rw [fresh]
    exact not_open_nil
  rw [openRuns, Finset.range_add_one, Finset.filter_insert, if_neg unopened]
  rfl

theorem openRuns_begin {made run : Nat} {history : Nat → List (Deed Party Duty)}
    (bound : run < made) (fresh : history run = []) :
    (openRuns made (Function.update history run [.put])).card = (openRuns made history).card + 1 := by
  have before : run ∉ openRuns made history := by
    simp [mem_openRuns, fresh, not_open_nil]
  have inserted : openRuns made (Function.update history run [.put]) =
      insert run (openRuns made history) := by
    ext other
    by_cases here : other = run
    · simp [mem_openRuns, here, bound, open_put]
    · simp [mem_openRuns, here]
  rw [inserted, Finset.card_insert_of_notMem before]

theorem openRuns_end {made run : Nat} {history : Nat → List (Deed Party Duty)} {party : Party}
    (bound : run < made) (opened : Open (history run)) :
    (openRuns made (Function.update history run
      (history run ++ [.did party .transactionEnd]))).card + 1 = (openRuns made history).card := by
  have before : run ∈ openRuns made history := mem_openRuns.mpr ⟨bound, opened⟩
  have erased : openRuns made (Function.update history run
      (history run ++ [.did party .transactionEnd])) = (openRuns made history).erase run := by
    ext other
    by_cases here : other = run
    · simp [mem_openRuns, here, not_open_ended]
    · simp [mem_openRuns, here]
  rw [erased, Finset.card_erase_add_one before]

theorem open_append {history : List (Deed Party Duty)} {deed : Deed Party Duty}
    (begun : .put ∈ history) (stays : closes deed = false) :
    Open (history ++ [deed]) ↔ Open history := by
  simp [Open, begun, stays, or_imp, forall_and]

theorem open_of_held {party : Party} {run : Nat} {rest : List Duty}
    (held : Handover.Held duties state.handover party run rest) :
    Open (state.handover.history run) := by
  obtain ⟨left, done, split, history⟩ := held
  have earlier : done ++ rest.dropLast = (duties party).dropLast := by
    rw [← split, List.dropLast_append_of_ne_nil left]
  have unended : Duty.transactionEnd ∉ done := by
    intro member
    have : Duty.transactionEnd ∈ (duties party).dropLast := by
      rw [← earlier]
      exact List.mem_append_left _ member
    cases party <;> simp [duties] at this
  rw [history]
  refine ⟨List.mem_cons_self, ?_⟩
  intro deed member
  simp only [List.mem_cons, List.mem_map] at member
  rcases member with rfl | rfl | ⟨duty, member, rfl⟩
  · rfl
  · rfl
  · cases duty <;> first | rfl | exact absurd member unended

def Balanced (state : State) : Prop :=
  state.transactions = (openRuns state.made state.handover.history).card

theorem Orderly.open_of_hand (orderly : Orderly state) {party : Party} {run : Nat}
    {rest : List Duty} (held : state.handover.hand party = some (run, rest)) :
    Open (state.handover.history run) :=
  open_of_held (orderly.accounted.hand party run rest held)

theorem Orderly.open_of_stored (orderly : Orderly state) {run : Nat} (stored : state.run = some run) :
    Open (state.handover.history run) := by
  rw [orderly.accounted.slot run stored]
  exact ⟨List.mem_cons_self, by simp [closes]⟩

theorem Balanced.kept (balanced : Balanced state)
    (transactions : next.transactions = state.transactions) (made : next.made = state.made)
    (history : next.handover.history = state.handover.history) : Balanced next := by
  rw [Balanced, transactions, made, history]
  exact balanced

theorem Balanced.record (balanced : Balanced state) {run : Nat} {deed : Deed Party Duty}
    (opened : Open (state.handover.history run)) (stays : closes deed = false)
    (transactions : next.transactions = state.transactions) (made : next.made = state.made)
    (history : next.handover.history = Function.update state.handover.history run
      ((state.apps run).history ++ [deed])) : Balanced next := by
  have same : Open ((state.apps run).history ++ [deed]) ↔ Open (state.handover.history run) :=
    open_append opened.1 stays
  rw [Balanced, transactions, made, history, openRuns_update_same same]
  exact balanced

theorem Balanced.build (balanced : Balanced state)
    (fresh : state.handover.history state.made = [])
    (transactions : next.transactions = state.transactions) (made : next.made = state.made + 1)
    (history : next.handover.history = state.handover.history) : Balanced next := by
  rw [Balanced, transactions, made, history, openRuns_succ fresh]
  exact balanced

theorem Balanced.begin (balanced : Balanced state) {run : Nat} (bound : run < state.made)
    (fresh : state.handover.history run = [])
    (transactions : next.transactions = state.transactions + 1) (made : next.made = state.made)
    (history : next.handover.history = Function.update state.handover.history run [.put]) :
    Balanced next := by
  rw [Balanced, transactions, made, history, openRuns_begin bound fresh, balanced]
  push_cast
  rfl

theorem Balanced.close (balanced : Balanced state) {run : Nat} {party : Party}
    (bound : run < state.made) (opened : Open (state.handover.history run))
    (transactions : next.transactions = state.transactions - 1) (made : next.made = state.made)
    (history : next.handover.history = Function.update state.handover.history run
      (state.handover.history run ++ [.did party .transactionEnd])) : Balanced next := by
  have counted := @openRuns_end _ _ _ party bound opened
  rw [Balanced, transactions, made, history, balanced, ← counted]
  push_cast
  ring

theorem balanced_of_moves (orderly : Orderly state) (balanced : Balanced state)
    (moves : Moves state action next) : Balanced next := by
  have bound {run : Nat} (opened : Open (state.handover.history run)) : run < state.made :=
    orderly.making.lt_made (List.ne_nil_of_mem opened.1)
  cases moves with
  | accept =>
      refine balanced.kept ?_ ?_ (by rw [acceptPeer_handover])
      all_goals
        unfold State.acceptPeer
        split <;> rfl
  | @deliver c event active idle =>
      cases event with
      | error error => cases error <;> exact balanced
      | message | oneWay | other => exact balanced
  | asks | answers | locks | refuses | findsNothing | joins | replies | reports | clears | watches
  | reportsFailed => exact balanced.kept rfl rfl rfl
  | builds here there =>
      have fresh := orderly.making.fresh state.made le_rfl
      exact balanced.build fresh rfl rfl (history_kept rfl fresh.symm)
  | drops | signals | engineFails => exact balanced.kept rfl rfl (history_kept rfl rfl)
  | @keeps c _ _ app _ here =>
      obtain ⟨made, clean⟩ := orderly.making.clean c app (by rw [here]; rfl)
      exact balanced.begin made clean rfl rfl (history_of_apps rfl (recorded_put clean))
  | takes here unlocked stored | detects here unlocked stored =>
      exact balanced.record (orderly.open_of_stored stored) rfl rfl rfl (history_of_apps rfl rfl)
  | drains here there =>
      exact balanced.record (orderly.open_of_hand (hand_handler here)) rfl rfl rfl
        (history_of_apps rfl rfl)
  | closes here there =>
      have opened := orderly.open_of_hand (hand_handler here)
      exact balanced.close (bound opened) opened rfl rfl (history_of_apps rfl rfl)
  | sendsError here | drainsFailed here =>
      exact balanced.record (orderly.open_of_hand (hand_monitor here)) rfl rfl rfl
        (history_of_apps rfl rfl)
  | closesFailed here =>
      have opened := orderly.open_of_hand (hand_monitor here)
      exact balanced.close (bound opened) opened rfl rfl (history_of_apps rfl rfl)

theorem balanced_of_run {schedule : List (Action Port)} {last : State}
    (run : exec ServiceRun.step {} schedule = some last) : Balanced last := by
  have both : Orderly last ∧ Balanced last := by
    refine exec_invariant (motive := fun state => Orderly state ∧ Balanced state)
      ⟨orderly_initial, rfl⟩ ?_ run
    rintro before action after ⟨orderly, balanced⟩ moved
    have moves := moves_of_step moved
    exact ⟨orderly.step moves, balanced_of_moves orderly balanced moves⟩
  exact both.2

/-! ## Error events -/

def Recorded (state : State) : Prop :=
  ∀ client run failure, (client, Message.error run failure) ∈ state.sent →
    ∃ m, .did (.monitor m) .sendError ∈ state.handover.history run

theorem recorded_of_moves (orderly : Orderly state) (recorded : Recorded state)
    (moves : Moves state action next) : Recorded next := by
  have kept {run : Nat} {deed : Deed Party Duty} (member : deed ∈ state.handover.history run) :
      deed ∈ next.handover.history run := (handover_step orderly moves).history_mono member
  intro client run failure member
  rcases sent_of_moves moves with ⟨same, _⟩ | ⟨message, sends, sent⟩
  · rw [same] at member
    obtain ⟨m, deed⟩ := recorded client run failure member
    exact ⟨m, kept deed⟩
  · rw [sent, List.mem_append] at member
    rcases member with earlier | now
    · obtain ⟨m, deed⟩ := recorded client run failure earlier
      exact ⟨m, kept deed⟩
    · simp only [List.mem_map, Prod.mk.injEq] at now
      obtain ⟨_, _, _, rfl⟩ := now
      cases sends with
      | @error m _ _ here =>
          refine ⟨m, ?_⟩
          cases moves with
          | watches watching => simp [here, Monitor.watching] at watching
          | detects there | drainsFailed there | reportsFailed there | closesFailed there =>
              simp [here] at there
          | sendsError there =>
              obtain ⟨rfl, rfl⟩ := Monitor.failing.inj (here.symm.trans there)
              rw [history_of_apps rfl rfl]
              simp [AppState.record]

theorem recorded_of_run {schedule : List (Action Port)} {last : State}
    (run : exec ServiceRun.step {} schedule = some last) : Recorded last := by
  have both : Orderly last ∧ Recorded last := by
    refine exec_invariant (motive := fun state => Orderly state ∧ Recorded state)
      ⟨orderly_initial, by simp [Recorded]⟩ ?_ run
    rintro before action after ⟨orderly, recorded⟩ moved
    have moves := moves_of_step moved
    exact ⟨orderly.step moves, recorded_of_moves orderly recorded moves⟩
  exact both.2

/-! ## Whose monitor takes a run -/

def Handler.awaits : Handler → Option Nat
  | .signalling _ run | .joining _ run => some run
  | _ => none

def Handler.stores : Handler → Bool
  | .keeping .. => true
  | _ => false

/-- A start stores its run while no handler has yet to join the monitor of another. -/
def StoresAfterJoins (state : State) (action : Action Port) (_ : State) : Prop :=
  match action with
  | .handle c _ _ =>
      (state.handlers c).stores = true → ∀ d < state.connections, (state.handlers d).awaits = none
  | _ => True

instance (state : State) (action : Action Port) (next : State) :
    Decidable (StoresAfterJoins state action next) :=
  match action with
  | .handle c _ _ => inferInstanceAs (Decidable ((state.handlers c).stores = true →
      ∀ d < state.connections, (state.handlers d).awaits = none))
  | .accept | .deliver _ _ | .monitor _ | .engineFails _ _ => .isTrue trivial

def Known (state : State) : Prop :=
  ∀ c, state.connections ≤ c → state.status c = .unknown ∧ state.handlers c = .idle

theorem known_of_moves (known : Known state) (moves : Moves state action next) : Known next := by
  cases action with
  | accept =>
      cases moves
      intro c beyond
      rw [acceptPeer_handlers]
      have apart : state.connections + 1 ≤ c → c ≠ state.connections := by omega
      cases peer : state.peer with
      | none =>
          simp only [State.acceptPeer, peer] at beyond ⊢
          simpa [apart beyond] using known c (by omega)
      | some client =>
          simp only [State.acceptPeer, peer] at beyond ⊢
          simpa [apart beyond] using known c (by omega)
  | deliver c event =>
      cases moves with
      | deliver active idle =>
          intro d beyond
          have apart : d ≠ c := by
            rintro rfl
            have unknown := (known d (by cases event with
              | error error => cases error <;> exact beyond
              | message | oneWay | other => exact beyond)).1
            rw [unknown] at active
            cases active
          cases event with
          | message request => simpa [State.handleEvent, State.setHandler, apart] using known d beyond
          | error error =>
              cases error <;>
                simpa [State.handleEvent, State.setHandler, apart] using known d beyond
          | oneWay | other => exact known d beyond
  | handle c host slot =>
      obtain ⟨busy, ⟨point, handlers⟩, status, connections⟩ := handle_frame moves
      intro d beyond
      rw [connections] at beyond
      obtain ⟨unknown, idle⟩ := known d beyond
      have apart : d ≠ c := by
        rintro rfl
        exact busy idle
      rw [status, handlers]
      exact ⟨unknown, by simpa [apart] using idle⟩
  | monitor m =>
      obtain ⟨_, handlers, status, connections, _⟩ := monitor_frame moves
      intro d beyond
      rw [connections] at beyond
      rw [handlers, status]
      exact known d beyond
  | engineFails app failure =>
      cases moves
      exact known

def awaiting (handlers : Nat → Handler) (c : Nat) : Option Nat := (handlers c).awaits

theorem awaiting_turn (handlers : Nat → Handler) (c : Nat) (point : Handler) :
    awaiting (Function.update handlers c point) =
      Function.update (awaiting handlers) c point.awaits := by
  funext d
  by_cases same : d = c
  · simp [awaiting, same]
  · simp [awaiting, same]

/-- A monitor that still watches has its run in the slot, or is about to be joined. -/
structure Watched (run : Option Nat) (awaiting : Nat → Option Nat) (monitors : Nat → Monitor) :
    Prop where
  watched : ∀ m, (monitors m).watching = true → run = some m ∨ ∃ c, awaiting c = some m
  alone : ∀ c joined, awaiting c = some joined → run = none

namespace Watched
variable {run : Option Nat} {handlers : Nat → Handler} {monitors : Nat → Monitor}
  {c : Nat} {point : Handler}

theorem turn (watched : Watched run (awaiting handlers) monitors)
    (same : point.awaits = (handlers c).awaits) :
    Watched run (awaiting (Function.update handlers c point)) monitors := by
  have kept : Function.update (awaiting handlers) c point.awaits = awaiting handlers := by
    rw [same]
    exact Function.update_eq_self c (awaiting handlers)
  rw [awaiting_turn, kept]
  exact watched

theorem pass {awaiting : Nat → Option Nat} (watched : Watched run awaiting monitors) {m : Nat}
    {point : Monitor} (fewer : point.watching = true → (monitors m).watching = true) :
    Watched run awaiting (Function.update monitors m point) := by
  refine ⟨fun n watching => watched.watched n ?_, watched.alone⟩
  by_cases same : n = m
  · subst same
    exact fewer (by simpa using watching)
  · simpa [same] using watching

variable {awaiting : Nat → Option Nat}

theorem store (watched : Watched run awaiting monitors) (empty : run = none)
    (joined : ∀ d, awaiting d = none) (app : Nat) (point : Monitor) :
    Watched (some app) awaiting (Function.update monitors app point) := by
  constructor
  · intro m watching
    by_cases same : m = app
    · exact .inl (congrArg some same.symm)
    · rcases watched.watched m (by simpa [same] using watching) with stored | ⟨d, awaits⟩
      · rw [empty] at stored
        cases stored
      · rw [joined d] at awaits
        cases awaits
  · intro d other awaits
    rw [joined d] at awaits
    cases awaits

theorem take (watched : Watched run awaiting monitors) {taken : Nat} (stored : run = some taken)
    (c : Nat) : Watched none (Function.update awaiting c (some taken)) monitors := by
  refine ⟨fun m watching => .inr ?_, fun _ _ _ => rfl⟩
  rcases watched.watched m watching with same | ⟨d, awaits⟩
  · exact ⟨c, by simpa using Option.some.inj (stored.symm.trans same)⟩
  · have empty := watched.alone d m awaits
    rw [stored] at empty
    cases empty

theorem join (watched : Watched run awaiting monitors) {c joined : Nat}
    (awaits : awaiting c = some joined) (ended : monitors joined = .returned) :
    Watched run (Function.update awaiting c none) monitors := by
  constructor
  · intro m watching
    rcases watched.watched m watching with stored | ⟨d, other⟩
    · exact .inl stored
    · refine .inr ⟨d, ?_⟩
      have apart : d ≠ c := by
        rintro rfl
        obtain rfl := Option.some.inj (awaits.symm.trans other)
        rw [ended] at watching
        cases watching
      simpa [apart] using other
  · intro d other here
    by_cases same : d = c
    · simp [same] at here
    · exact watched.alone d other (by simpa [same] using here)

theorem own (watched : Watched run awaiting monitors) {m taken : Nat}
    (watching : (monitors m).watching = true) (stored : run = some taken) : m = taken := by
  rcases watched.watched m watching with same | ⟨d, awaits⟩
  · exact Option.some.inj (same.symm.trans stored)
  · have empty := watched.alone d m awaits
    rw [stored] at empty
    cases empty

theorem detect (watched : Watched run awaiting monitors) {m taken : Nat}
    (watching : (monitors m).watching = true) (stored : run = some taken) {point : Monitor}
    (calm : point.watching = false) :
    Watched none awaiting (Function.update monitors m point) := by
  refine ⟨fun n still => .inr ?_, fun _ _ _ => rfl⟩
  have apart : n ≠ m := by
    rintro rfl
    simp [calm] at still
  rcases watched.watched n (by simpa [apart] using still) with same | awaits
  · rw [watched.own watching stored] at apart
    exact absurd (Option.some.inj (same.symm.trans stored)) apart
  · exact awaits

end Watched

theorem watched_of_moves (orderly : Orderly state) (known : Known state)
    (watched : Watched state.run (awaiting state.handlers) state.monitors)
    (lawful : StoresAfterJoins state action next) (moves : Moves state action next) :
    Watched next.run (awaiting next.handlers) next.monitors := by
  cases moves with
  | accept =>
      rw [acceptPeer_handlers, State.acceptPeer]
      split <;> exact watched
  | @deliver c event active idle =>
      cases event with
      | message request => exact watched.turn (by rw [idle]; rfl)
      | error error =>
          cases error <;> first | exact watched | exact watched.turn (by rw [idle]; rfl)
      | oneWay | other => exact watched
  | @asks c _ _ _ point here there =>
      exact watched.turn (by rcases there with ⟨_, rfl⟩ | rfl <;> rw [here] <;> rfl)
  | answers here =>
      exact watched.turn (by rcases here with ⟨_, here⟩ | ⟨_, here, _⟩ <;> rw [here] <;> rfl)
  | locks here | refuses here | drops here | signals here | reports here | clears here =>
      exact watched.turn (by rw [here]; rfl)
  | builds here there =>
      exact watched.turn (by rcases there with rfl | rfl <;> rw [here] <;> rfl)
  | @keeps c _ _ app _ here =>
      have empty := (orderly.locking.holder c (by rw [here]; rfl)).2
      have joined (d : Nat) : awaiting state.handlers d = none := by
        by_cases came : d < state.connections
        · exact lawful (by rw [here]; rfl) d came
        · rw [awaiting, (known d (by omega)).2]
          rfl
      exact (watched.store empty joined app .polling).turn (by rw [here]; rfl)
  | findsNothing here unlocked empty there =>
      exact watched.turn (by rcases there with ⟨_, _, rfl⟩ | ⟨_, rfl⟩ <;> rw [here] <;> rfl)
  | @takes c _ _ _ run here unlocked stored =>
      have after := watched.take stored c
      rwa [← show Handler.awaits (.signalling ‹Purpose› run) = some run from rfl,
        ← awaiting_turn] at after
  | @joins c _ _ _ run here ended =>
      have awaits : awaiting state.handlers c = some run := by
        rw [awaiting, here]
        rfl
      have after := watched.join awaits ended
      rwa [← show Handler.awaits (.draining ‹Purpose› run) = none from rfl, ← awaiting_turn] at after
  | drains here there =>
      exact watched.turn (by rcases there with ⟨_, _, rfl⟩ | ⟨_, rfl⟩ <;> rw [here] <;> rfl)
  | @replies c _ _ answer stopped here =>
      exact watched.turn (by cases stopped <;> rw [here] <;> rfl)
  | closes here there =>
      exact watched.turn (by rcases there with ⟨_, rfl⟩ | ⟨_, rfl⟩ <;> rw [here] <;> rfl)
  | watches here there => exact watched.pass fun _ => here
  | detects here unlocked stored failed =>
      exact watched.detect (by rw [here]; rfl) stored rfl
  | sendsError | drainsFailed | reportsFailed | closesFailed => exact watched.pass (by simp [Monitor.watching])
  | engineFails live undrained => exact watched

theorem mem_of_record {app run : Nat} {changed : AppState} {deed other : Deed Party Duty}
    (apps : next.apps = Function.update state.apps app changed)
    (history : changed.history = (state.apps app).history ++ [deed]) (apart : other ≠ deed)
    (member : other ∈ next.handover.history run) : other ∈ state.handover.history run := by
  rw [history_of_apps apps history] at member
  by_cases same : run = app
  · subst same
    simp only [Function.update_self, List.mem_append, List.mem_singleton, apart, or_false] at member
    exact member
  · simpa [same] using member

theorem mem_of_kept {app run : Nat} {changed : AppState} {deed : Deed Party Duty}
    (member : deed ∈ next.handover.history run)
    (apps : next.apps = Function.update state.apps app changed)
    (history : changed.history = (state.apps app).history) : deed ∈ state.handover.history run := by
  rw [history_kept apps history] at member
  exact member

theorem took_of_moves (orderly : Orderly state) (moves : Moves state action next) {m run : Nat}
    (took : .took (.monitor m) ∈ next.handover.history run) :
    .took (.monitor m) ∈ state.handover.history run ∨
      (state.monitors m).watching = true ∧ state.run = some run := by
  cases moves with
  | accept => exact .inl (by simpa using took)
  | @deliver c event active idle =>
      refine .inl ?_
      cases event with
      | error error => cases error <;> exact took
      | message | oneWay | other => exact took
  | asks | answers | locks | refuses | findsNothing | joins | replies | reports | clears | watches
  | reportsFailed => exact .inl took
  | builds here there =>
      have fresh := orderly.making.fresh state.made le_rfl
      exact .inl (mem_of_kept took rfl fresh.symm)
  | drops | signals | engineFails => exact .inl (mem_of_kept took rfl rfl)
  | keeps | takes | drains | closes | sendsError | drainsFailed | closesFailed =>
      exact .inl (mem_of_record rfl rfl (by simp) took)
  | @detects n stored_run failure here unlocked stored failed =>
      rw [history_of_apps rfl rfl] at took
      by_cases same : run = stored_run
      · subst same
        simp only [AppState.record, Function.update_self, List.mem_append, List.mem_singleton,
          Deed.took.injEq, Party.monitor.injEq] at took
        rcases took with before | rfl
        · exact .inl before
        · exact .inr ⟨by rw [here]; rfl, stored⟩
      · exact .inl (by simpa [same] using took)

def OwnRuns (state : State) : Prop :=
  ∀ m run, .took (.monitor m) ∈ state.handover.history run → m = run

theorem own_runs_of_run {schedule : List (Action Port)} {last : State}
    (run : exec ServiceRun.step {} schedule = some last)
    (lawful : AllSteps ServiceRun.step StoresAfterJoins {} schedule) : OwnRuns last := by
  have all : Orderly last ∧ Known last ∧
      Watched last.run (awaiting last.handlers) last.monitors ∧ OwnRuns last := by
    refine exec_invariant_of_allSteps (motive := fun state => Orderly state ∧ Known state ∧
      Watched state.run (awaiting state.handlers) state.monitors ∧ OwnRuns state) ?_ ?_ run lawful
    · refine ⟨orderly_initial, fun _ _ => ⟨rfl, rfl⟩, ⟨?_, ?_⟩, ?_⟩
      · simp [Monitor.watching]
      · simp [awaiting, Handler.awaits]
      · simp [OwnRuns, State.handover]
    · rintro state action next ⟨orderly, known, watched, own⟩ lawful moved
      have moves := moves_of_step moved
      refine ⟨orderly.step moves, known_of_moves known moves,
        watched_of_moves orderly known watched lawful moves, fun m run took => ?_⟩
      rcases took_of_moves orderly moves took with before | ⟨watching, stored⟩
      · exact own m run before
      · exact watched.own watching stored
  exact all.2.2.2

/-! ## Each run is ended once -/

end

/-! ## Runs on a machine with one interface -/

def serve (connection steps : Nat) : List (Action (Option String)) :=
  List.replicate steps (.handle connection (studioHost true) ⟨0⟩)

def startOn (connection : Nat) : List (Action (Option String)) :=
  .deliver connection (.message (.ok (.start toneRequest))) :: serve connection 5

def terminate (connection run : Nat) : List (Action (Option String)) :=
  .deliver connection (.error .terminationImminent) :: serve connection 2 ++ [.monitor run] ++
    serve connection 4

def detect (monitor run : Nat) : List (Action (Option String)) :=
  [.engineFails run none, .monitor monitor, .monitor monitor, .monitor monitor]

def crossed : List (Action (Option String)) :=
  .accept :: startOn 0 ++ terminate 0 0 ++ .accept :: startOn 1 ++
    .deliver 0 (.message (.ok .stop)) :: serve 0 2 ++ startOn 1 ++ detect 1 2

def selfEnded : List (Action (Option String)) :=
  .accept :: startOn 0 ++ detect 0 0 ++ List.replicate 4 (.monitor 0)

end Phase4.Xpc.ServiceRun
