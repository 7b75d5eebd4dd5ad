import Phase4.Library.Rounds
import Phase4.Xpc.RunHistory

namespace Phase4.Xpc.ServiceRun
open Library Config

variable {Port : Type}

/-! ## Nobody waits for a thread that is not there

The lock of the run has a holder, and a handler only joins a monitor that was spawned and has
been told to stop. It goes on once the monitor has returned. -/

def LockHeld (handlers : Nat → Handler) (locked : Bool) : Prop :=
  locked = true → ∃ c, (handlers c).holdsRun = true

def Spawned (monitors : Nat → Monitor) (history : Nat → List (Deed Party Duty)) : Prop :=
  ∀ run, history run ≠ [] → monitors run ≠ .unspawned

def State.stops (state : State) (run : Nat) : Bool := (state.apps run).monitorStop

def Stopping (handlers : Nat → Handler) (stops : Nat → Bool) : Prop :=
  ∀ c purpose run, handlers c = .joining purpose run → stops run = true

def Handler.reaps (point : Handler) (run : Nat) : Prop :=
  ∃ purpose, point = .signalling purpose run ∨ point = .joining purpose run

/-- A run that a handler has taken has lost its monitor, unless the handler is just about that. -/
def Reaped (state : State) : Prop :=
  ∀ c run, .took (.handler c) ∈ state.handover.history run →
    (state.handlers c).reaps run ∨ state.stops run = true ∧ state.monitors run = .returned

structure Attended (state : State) : Prop where
  held : LockHeld state.handlers state.locked
  spawned : Spawned state.monitors state.handover.history
  told : Stopping state.handlers state.stops
  reaped : Reaped state

section
variable {state next : State} {action : Action Port}

theorem Spawned.kept {monitors : Nat → Monitor} {history later : Nat → List (Deed Party Duty)}
    (spawned : Spawned monitors history) (same : later = history) : Spawned monitors later :=
  same ▸ spawned

theorem Spawned.touch {monitors : Nat → Monitor} {history : Nat → List (Deed Party Duty)}
    (spawned : Spawned monitors history) {run : Nat} (begun : history run ≠ [])
    (deeds : List (Deed Party Duty)) : Spawned monitors (Function.update history run deeds) := by
  intro other some_deed
  by_cases same : other = run
  · rw [same]
    exact spawned run begun
  · exact spawned other (by simpa [same] using some_deed)

theorem Spawned.watch {monitors : Nat → Monitor} {history : Nat → List (Deed Party Duty)}
    (spawned : Spawned monitors history) {m : Nat} {point : Monitor} (awake : point ≠ .unspawned) :
    Spawned (Function.update monitors m point) history := by
  intro other some_deed
  by_cases same : other = m
  · simpa [same] using awake
  · simpa [same] using spawned other some_deed

theorem spawned_of_moves (orderly : Orderly state)
    (spawned : Spawned state.monitors state.handover.history) (moves : Moves state action next) :
    Spawned next.monitors next.handover.history := by
  have begun {party : Party} {run : Nat} {rest : List Duty}
      (held : state.handover.hand party = some (run, rest)) : state.handover.history run ≠ [] :=
    (orderly.accounted.hand party run rest held).history_ne
  have begun_stored {run : Nat} (stored : state.run = some run) :
      state.handover.history run ≠ [] := by
    simp [orderly.accounted.slot run stored]
  cases moves with
  | accept =>
      rw [acceptPeer_handover, State.acceptPeer]
      split <;> exact spawned
  | @deliver c event active idle =>
      cases event with
      | error error => cases error <;> exact spawned
      | message | oneWay | other => exact spawned
  | asks | answers | locks | refuses | findsNothing | joins | replies | reports | clears =>
      exact spawned
  | builds here there =>
      have fresh := orderly.making.fresh state.made le_rfl
      exact spawned.kept (history_kept rfl fresh.symm)
  | drops | signals => exact spawned.kept (history_kept rfl rfl)
  | engineFails => exact spawned.kept (history_kept rfl rfl)
  | @keeps c _ _ app _ here =>
      rw [history_of_apps rfl rfl]
      intro other some_deed
      show Function.update state.monitors app .polling other ≠ .unspawned
      by_cases same : other = app
      · simp [same]
      · simpa [same] using spawned other (by simpa [same] using some_deed)
  | takes here unlocked stored =>
      rw [history_of_apps rfl rfl]
      exact spawned.touch (begun_stored stored) _
  | drains here | closes here =>
      rw [history_of_apps rfl rfl]
      exact spawned.touch (begun (hand_handler here)) _
  | watches here there =>
      refine Spawned.watch spawned ?_
      rintro rfl
      simp [Monitor.watching] at there
  | detects here unlocked stored =>
      rw [history_of_apps rfl rfl]
      exact Spawned.watch (spawned.touch (begun_stored stored) _) (by simp)
  | sendsError here | drainsFailed here | closesFailed here =>
      rw [history_of_apps rfl rfl]
      exact Spawned.watch (spawned.touch (begun (hand_monitor here)) _) (by simp)
  | reportsFailed => exact Spawned.watch spawned (by simp)

theorem LockHeld.turn {handlers : Nat → Handler} {locked : Bool} (held : LockHeld handlers locked)
    {c : Nat} {point : Handler} (same : point.holdsRun = (handlers c).holdsRun) :
    LockHeld (Function.update handlers c point) locked := by
  intro taken
  obtain ⟨d, holds⟩ := held taken
  refine ⟨d, ?_⟩
  by_cases here : d = c
  · rw [here, Function.update_self, same, ← here]
    exact holds
  · simpa [here] using holds

theorem lockHeld_of_moves (held : LockHeld state.handlers state.locked)
    (moves : Moves state action next) : LockHeld next.handlers next.locked := by
  cases moves with
  | accept =>
      rw [acceptPeer_handlers, State.acceptPeer]
      split <;> exact held
  | @deliver c event active idle =>
      cases event with
      | message request => exact held.turn (by rw [idle]; rfl)
      | error error => cases error <;> first | exact held | exact held.turn (by rw [idle]; rfl)
      | oneWay | other => exact held
  | asks here there =>
      exact held.turn (by rcases there with ⟨_, rfl⟩ | rfl <;> rw [here] <;> rfl)
  | answers here => exact held.turn (by rcases here with ⟨_, here⟩ | ⟨_, here, _⟩ <;> rw [here] <;> rfl)
  | @locks c => exact fun _ => ⟨c, by simp [State.setHandler, Handler.holdsRun]⟩
  | refuses | drops | keeps => exact fun locked => absurd locked Bool.false_ne_true
  | builds here there =>
      exact held.turn (by rcases there with rfl | rfl <;> rw [here] <;> rfl)
  | findsNothing here _ _ there =>
      exact held.turn (by rcases there with ⟨_, _, rfl⟩ | ⟨_, rfl⟩ <;> rw [here] <;> rfl)
  | takes here | signals here | joins here | reports here | clears here =>
      exact held.turn (by rw [here]; rfl)
  | drains here there =>
      exact held.turn (by rcases there with ⟨_, _, rfl⟩ | ⟨_, rfl⟩ <;> rw [here] <;> rfl)
  | @replies c _ _ answer stopped here => exact held.turn (by cases stopped <;> rw [here] <;> rfl)
  | closes here there =>
      exact held.turn (by rcases there with ⟨_, rfl⟩ | ⟨_, rfl⟩ <;> rw [here] <;> rfl)
  | watches | detects | sendsError | drainsFailed | reportsFailed | closesFailed | engineFails =>
      exact held

theorem stops_kept {app : Nat} {changed : AppState}
    (apps : next.apps = Function.update state.apps app changed)
    (same : changed.monitorStop = (state.apps app).monitorStop) : next.stops = state.stops := by
  funext run
  rw [State.stops, State.stops, apps]
  by_cases here : run = app
  · rw [here, Function.update_self, same]
  · rw [Function.update_of_ne here]

theorem Stopping.turn {handlers : Nat → Handler} {stops later : Nat → Bool}
    (told : Stopping handlers stops) {c : Nat} {point : Handler}
    (apart : ∀ purpose run, point ≠ .joining purpose run) (same : later = stops) :
    Stopping (Function.update handlers c point) later := by
  subst same
  intro d purpose run joins
  by_cases here : d = c
  · rw [here, Function.update_self] at joins
    exact absurd joins (apart purpose run)
  · exact told d purpose run (by simpa [here] using joins)

theorem Stopping.kept {handlers : Nat → Handler} {stops later : Nat → Bool}
    (told : Stopping handlers stops) (same : later = stops) : Stopping handlers later :=
  same ▸ told

theorem told_of_moves (orderly : Orderly state) (told : Stopping state.handlers state.stops)
    (moves : Moves state action next) : Stopping next.handlers next.stops := by
  cases moves with
  | accept =>
      rw [acceptPeer_handlers, State.acceptPeer]
      split <;> exact told
  | @deliver c event active idle =>
      cases event with
      | message request => exact told.turn (by simp) rfl
      | error error => cases error <;> first | exact told | exact told.turn (by simp) rfl
      | oneWay | other => exact told
  | asks _ there => exact told.turn (by rcases there with ⟨_, rfl⟩ | rfl <;> simp) rfl
  | answers | locks | refuses | joins | reports | clears => exact told.turn (by simp) rfl
  | @builds c _ _ request _ point here there =>
      intro d purpose run joins
      by_cases same : d = c
      · rw [same] at joins
        rcases there with rfl | rfl <;> simp [State.setHandler] at joins
      · have joining : state.handlers d = .joining purpose run := by
          simpa [same, State.setHandler, State.setApp] using joins
        have begun := (orderly.accounted.hand (.handler d) run _ (hand_handler joining)).history_ne
        have apart : run ≠ state.made := by
          rintro rfl
          exact begun (orderly.making.fresh state.made le_rfl)
        have stopped := told d purpose run joining
        simpa [State.stops, State.setHandler, State.setApp, apart] using stopped
  | drops => exact told.turn (by simp) (stops_kept rfl rfl)
  | keeps => exact told.turn (by simp) (stops_kept rfl rfl)
  | findsNothing _ _ _ there =>
      exact told.turn (by rcases there with ⟨_, _, rfl⟩ | ⟨_, rfl⟩ <;> simp) rfl
  | takes => exact told.turn (by simp) (stops_kept rfl rfl)
  | @signals c _ _ purpose run here =>
      intro d other joined joins
      by_cases same : joined = run
      · simp [State.stops, State.setHandler, State.setApp, same]
      · have elsewhere : d ≠ c := by
          rintro rfl
          simp [State.setHandler, Ne.symm same] at joins
        have stopped := told d other joined
          (by simpa [State.setHandler, State.setApp, elsewhere] using joins)
        simpa [State.stops, State.setHandler, State.setApp, same] using stopped
  | drains _ there =>
      exact told.turn (by rcases there with ⟨_, _, rfl⟩ | ⟨_, rfl⟩ <;> simp) (stops_kept rfl rfl)
  | @replies c _ _ answer stopped => exact told.turn (by cases stopped <;> simp) rfl
  | closes _ there =>
      exact told.turn (by rcases there with ⟨_, rfl⟩ | ⟨_, rfl⟩ <;> simp) (stops_kept rfl rfl)
  | watches | reportsFailed => exact told
  | detects | sendsError | drainsFailed | closesFailed => exact told.kept (stops_kept rfl rfl)
  | engineFails => exact told.kept (stops_kept rfl rfl)

structure Leaves (state next : State) : Prop where
  took : ∀ c run, .took (.handler c) ∈ next.handover.history run →
    .took (.handler c) ∈ state.handover.history run
  reaps : ∀ c run, (state.handlers c).reaps run → (next.handlers c).reaps run
  stops : ∀ run, state.handover.history run ≠ [] → state.stops run = true → next.stops run = true
  returned : ∀ run, state.handover.history run ≠ [] → state.monitors run = .returned →
    next.monitors run = .returned

theorem Reaped.leaves (reaped : Reaped state) (leaves : Leaves state next) : Reaped next := by
  intro c run took
  have before := leaves.took c run took
  have begun : state.handover.history run ≠ [] := List.ne_nil_of_mem before
  rcases reaped c run before with reaps | ⟨stops, returned⟩
  · exact .inl (leaves.reaps c run reaps)
  · exact .inr ⟨leaves.stops run begun stops, leaves.returned run begun returned⟩

theorem reaps_turn {c : Nat} {point : Handler}
    (handlers : next.handlers = Function.update state.handlers c point)
    (calm : ∀ run, (state.handlers c).reaps run → point.reaps run) (d run : Nat)
    (reaps : (state.handlers d).reaps run) : (next.handlers d).reaps run := by
  rw [handlers]
  by_cases same : d = c
  · subst same
    rw [Function.update_self]
    exact calm run reaps
  · rwa [Function.update_of_ne same]

theorem returned_turn {m : Nat} {point : Monitor}
    (monitors : next.monitors = Function.update state.monitors m point)
    (awake : state.monitors m ≠ .returned) {run : Nat}
    (returned : state.monitors run = .returned) : next.monitors run = .returned := by
  have apart : run ≠ m := by
    rintro rfl
    exact awake returned
  rwa [monitors, Function.update_of_ne apart]

theorem leaves_turn {c : Nat} {point : Handler}
    (handlers : next.handlers = Function.update state.handlers c point)
    (calm : ∀ run, (state.handlers c).reaps run → point.reaps run)
    (apps : next.apps = state.apps) (monitors : next.monitors = state.monitors) :
    Leaves state next where
  took d run took := by simpa [State.handover, apps] using took
  reaps := reaps_turn handlers calm
  stops run _ stops := by simpa [State.stops, apps] using stops
  returned run _ returned := by rwa [monitors]

theorem leaves_app {app : Nat} {changed : AppState}
    (apps : next.apps = Function.update state.apps app changed)
    (took : ∀ c, .took (.handler c) ∈ changed.history →
      .took (.handler c) ∈ (state.apps app).history)
    (stops : (state.apps app).history ≠ [] → (state.apps app).monitorStop = true →
      changed.monitorStop = true)
    (reaps : ∀ c run, (state.handlers c).reaps run → (next.handlers c).reaps run)
    (returned : ∀ run, state.handover.history run ≠ [] → state.monitors run = .returned →
      next.monitors run = .returned) : Leaves state next := by
  refine ⟨fun c run taken => ?_, reaps, fun run begun stopped => ?_, returned⟩
  · by_cases same : run = app
    · subst same
      simp only [State.handover, apps, Function.update_self] at taken
      exact took c taken
    · simpa [State.handover, apps, same] using taken
  · by_cases same : run = app
    · subst same
      simp only [State.stops, apps, Function.update_self]
      exact stops begun stopped
    · simpa [State.stops, apps, same] using stopped

theorem reaped_of_moves (orderly : Orderly state) (attended : Attended state)
    (moves : Moves state action next) : Reaped next := by
  have reaped := attended.reaped
  have plain {c : Nat} {here point : Handler} (standing : state.handlers c = here)
      (elsewhere : ∀ run, ¬here.reaps run) (run : Nat) (reaps : (state.handlers c).reaps run) :
      point.reaps run := absurd (standing ▸ reaps) (elsewhere run)
  cases moves with
  | accept =>
      rw [State.acceptPeer]
      split <;> exact reaped
  | @deliver c event active idle =>
      have calm (point : Handler) (run : Nat) (reaps : (state.handlers c).reaps run) :
          point.reaps run := plain idle (by simp [Handler.reaps]) run reaps
      cases event with
      | message request => exact reaped.leaves (leaves_turn rfl (calm _) rfl rfl)
      | error error =>
          cases error
          all_goals first
            | exact reaped
            | exact reaped.leaves (leaves_turn rfl (calm _) rfl rfl)
      | oneWay | other => exact reaped
  | asks here | refuses here | locks here | findsNothing here | reports here | clears here
  | replies here =>
      exact reaped.leaves (leaves_turn rfl (plain here (by simp [Handler.reaps])) rfl rfl)
  | answers here =>
      rcases here with ⟨_, here⟩ | ⟨_, here, _⟩
      all_goals exact reaped.leaves (leaves_turn rfl (plain here (by simp [Handler.reaps])) rfl rfl)
  | builds here there =>
      have fresh : (state.apps state.made).history = [] := orderly.making.fresh state.made le_rfl
      exact reaped.leaves (leaves_app rfl (by simp) (absurd fresh ·)
        (reaps_turn rfl (plain here (by simp [Handler.reaps]))) fun _ _ returned => returned)
  | drops here =>
      exact reaped.leaves (leaves_app rfl (fun _ took => took) (fun _ stops => stops)
        (reaps_turn rfl (plain here (by simp [Handler.reaps]))) fun _ _ returned => returned)
  | @keeps c _ _ app _ here =>
      have clean := (orderly.making.clean c app (by rw [here]; rfl)).2
      refine reaped.leaves (leaves_app rfl (by simp [AppState.record]) (fun _ stops => stops)
        (reaps_turn rfl (plain here (by simp [Handler.reaps]))) fun run begun returned => ?_)
      have apart : run ≠ app := by
        rintro rfl
        exact begun clean
      simpa [State.setHandler, State.setMonitor, State.setApp, apart] using returned
  | @takes c _ _ purpose run here unlocked stored =>
      intro d other took
      by_cases same : other = run
      · subst same
        have put : (state.apps other).history = [.put] := orderly.accounted.slot other stored
        obtain rfl : d = c := by
          simpa [State.handover, State.setHandler, State.setApp, AppState.record, put] using took
        exact .inl ⟨purpose, .inl (Function.update_self ..)⟩
      · have before : .took (.handler d) ∈ state.handover.history other := by
          simpa [State.handover, State.setHandler, State.setApp, same] using took
        rcases reaped d other before with reaps | settled
        · exact .inl (reaps_turn rfl (plain here (by simp [Handler.reaps])) d other reaps)
        · exact .inr (by simpa [State.stops, State.setHandler, State.setApp, same] using settled)
  | signals here =>
      refine reaped.leaves (leaves_app rfl (fun _ took => took) (fun _ _ => rfl)
        (reaps_turn rfl fun run reaps => ?_) fun _ _ returned => returned)
      obtain ⟨purpose, same | same⟩ := here ▸ reaps
      · cases same
        exact ⟨_, .inr rfl⟩
      · cases same
  | @joins c _ _ purpose run here ended =>
      intro d other took
      rcases reaped d other took with reaps | settled
      · by_cases same : d = c
        · obtain ⟨_, signals | joins⟩ := same ▸ reaps
          · rw [here] at signals
            cases signals
          · rw [here] at joins
            cases joins
            exact .inr ⟨attended.told c purpose run here, ended⟩
        · exact .inl (by simpa [State.setHandler, same] using reaps)
      · exact .inr settled
  | drains here there =>
      exact reaped.leaves (leaves_app rfl (by simp [AppState.record, AppState.shutdown])
        (fun _ stops => stops) (reaps_turn rfl (plain here (by simp [Handler.reaps])))
        fun _ _ returned => returned)
  | closes here there =>
      exact reaped.leaves (leaves_app rfl (by simp [AppState.record]) (fun _ stops => stops)
        (reaps_turn rfl (plain here (by simp [Handler.reaps]))) fun _ _ returned => returned)
  | @watches m _ here there =>
      have awake : state.monitors m ≠ .returned := by
        rintro back
        simp [back, Monitor.watching] at here
      exact reaped.leaves ⟨fun _ _ took => took, fun _ _ reaps => reaps, fun _ _ stops => stops,
        fun _ _ => returned_turn rfl awake⟩
  | reportsFailed here =>
      exact reaped.leaves ⟨fun _ _ took => took, fun _ _ reaps => reaps, fun _ _ stops => stops,
        fun _ _ => returned_turn rfl (by simp [here])⟩
  | detects here | sendsError here | drainsFailed here | closesFailed here =>
      exact reaped.leaves (leaves_app rfl
        (by simp [AppState.record, AppState.shutdown, State.sendToPeer]) (fun _ stops => stops)
        (fun _ _ reaps => reaps) fun _ _ => returned_turn rfl (by simp [here]))
  | engineFails =>
      exact reaped.leaves (leaves_app rfl (fun _ took => took) (fun _ stops => stops)
        (fun _ _ reaps => reaps) fun _ _ returned => returned)

theorem Attended.step (attended : Attended state) (orderly : Orderly state)
    (moves : Moves state action next) : Attended next :=
  ⟨lockHeld_of_moves attended.held moves, spawned_of_moves orderly attended.spawned moves,
    told_of_moves orderly attended.told moves, reaped_of_moves orderly attended moves⟩

/-! ## How far a turn has to go -/

/-- Steps that are left to a handler. A store weighs more than the takeover it makes possible. -/
def Handler.distance : Handler → Nat
  | .idle => 0
  | .replying _ none | .clearing => 1
  | .closing .. | .dropping .. => 2
  | .reporting _ => 3
  | .replying _ (some _) => 4
  | .draining .. => 5
  | .joining .. => 6
  | .keeping .. => 8
  | .signalling .. | .building _ => 9
  | .locking _ | .taking _ => 10
  | .received _ => 11

/-- A monitor that is not told to stop goes on watching: that is no step towards an end. -/
def Monitor.distance (stop : Bool) : Monitor → Nat
  | .unspawned | .returned => 0
  | .polling | .woken => if stop then 1 else 0
  | .checking => if stop then 2 else 0
  | .closing _ => 1
  | .reporting _ => 2
  | .draining _ => 3
  | .failing .. => 4

def storeDistance : Option Nat → Nat
  | none => 0
  | some _ => 5

def State.rank (state : State) (m : Nat) : Nat := (state.monitors m).distance (state.stops m)

def State.distance (state : State) : Nat :=
  ∑ c ∈ Finset.range state.connections, (state.handlers c).distance +
    ∑ m ∈ Finset.range state.made, state.rank m + storeDistance state.run

theorem sum_of_apart {count place : Nat} (before after : Nat → Nat) (inside : place < count)
    (apart : ∀ i, i ≠ place → after i = before i) :
    ∑ i ∈ Finset.range count, after i + before place =
      ∑ i ∈ Finset.range count, before i + after place := by
  have member := Finset.mem_range.mpr inside
  have others : ∑ i ∈ (Finset.range count).erase place, after i =
      ∑ i ∈ (Finset.range count).erase place, before i :=
    Finset.sum_congr rfl fun i away => apart i (Finset.ne_of_mem_erase away)
  rw [← Finset.add_sum_erase _ after member, ← Finset.add_sum_erase _ before member, others]
  omega

theorem Monitor.distance_stop (point : Monitor) (before after : Bool) :
    point.distance after ≤ point.distance before + 2 := by
  cases point with
  | polling | woken | checking => cases after <;> simp [Monitor.distance]
  | unspawned | failing | draining | reporting | closing | returned => simp [Monitor.distance]

theorem rank_kept {app : Nat} {changed : AppState} (monitors : next.monitors = state.monitors)
    (apps : next.apps = Function.update state.apps app changed)
    (same : changed.monitorStop = (state.apps app).monitorStop) : next.rank = state.rank := by
  funext m
  rw [State.rank, State.rank, monitors, stops_kept apps same]

def State.monitorDistance (state : State) : Nat :=
  ∑ m ∈ Finset.range state.made, state.rank m + storeDistance state.run

theorem monitorDistance_le (rank : next.rank = state.rank) (made : next.made = state.made)
    (store : storeDistance next.run ≤ storeDistance state.run) :
    next.monitorDistance ≤ state.monitorDistance := by
  rw [State.monitorDistance, State.monitorDistance, rank, made]
  omega

theorem monitorDistance_made (made : next.made = state.made + 1) (run : next.run = state.run)
    (rank : ∀ m < state.made, next.rank m = state.rank m) (last : next.rank state.made = 0) :
    next.monitorDistance = state.monitorDistance := by
  have others : ∑ m ∈ Finset.range state.made, next.rank m =
      ∑ m ∈ Finset.range state.made, state.rank m :=
    Finset.sum_congr rfl fun m member => rank m (Finset.mem_range.mp member)
  rw [State.monitorDistance, State.monitorDistance, made, run, Finset.sum_range_succ, others, last,
    Nat.add_zero]

theorem monitorDistance_at {m extra : Nat} (inside : m < state.made)
    (made : next.made = state.made) (rank : ∀ i, i ≠ m → next.rank i = state.rank i)
    (cost : next.rank m + storeDistance next.run ≤
      state.rank m + storeDistance state.run + extra) :
    next.monitorDistance ≤ state.monitorDistance + extra := by
  have turn := sum_of_apart state.rank next.rank inside rank
  rw [State.monitorDistance, State.monitorDistance, made]
  omega

theorem turn_closer {c : Nat} {point : Handler} (extra : Nat) (inside : c < state.connections)
    (handlers : next.handlers = Function.update state.handlers c point)
    (connections : next.connections = state.connections)
    (monitors : next.monitorDistance ≤ state.monitorDistance + extra)
    (less : point.distance + extra < (state.handlers c).distance) :
    next.distance < state.distance := by
  have turn := sum_of_apart (fun d => (state.handlers d).distance)
    (fun d => (next.handlers d).distance) inside
    fun d apart => by rw [handlers, Function.update_of_ne apart]
  have own : (next.handlers c).distance = point.distance := by rw [handlers, Function.update_self]
  simp only [State.monitorDistance] at monitors
  rw [State.distance, State.distance, connections]
  omega

theorem Known.inside (known : Known state) {c : Nat} (busy : state.handlers c ≠ .idle) :
    c < state.connections := by
  by_contra beyond
  exact busy (known c (by omega)).2

theorem handler_closer (orderly : Orderly state) (known : Known state) {c : Nat}
    {host : XpcHost Port} {slot : FrameRegionSlot}
    (moves : Moves state (.handle c host slot) next) : next.distance < state.distance := by
  have inside : c < state.connections := known.inside (handle_frame moves).1
  have begun {party : Party} {run : Nat} {rest : List Duty}
      (held : state.handover.hand party = some (run, rest)) : run < state.made :=
    orderly.making.lt_made (orderly.accounted.hand party run rest held).history_ne
  cases moves with
  | asks here there =>
      refine turn_closer 0 inside rfl rfl le_rfl ?_
      rcases there with ⟨_, rfl⟩ | rfl <;> simp [here, Handler.distance]
  | answers here =>
      refine turn_closer 0 inside rfl rfl le_rfl ?_
      rcases here with ⟨_, here⟩ | ⟨_, here, _⟩ <;> simp [here, Handler.distance]
  | locks here | refuses here | reports here | clears here | joins here =>
      exact turn_closer 0 inside rfl rfl le_rfl (by simp [here, Handler.distance])
  | @builds _ _ _ _ _ point here there =>
      have unspawned : state.monitors state.made = .unspawned :=
        orderly.making.unwatched _ (orderly.making.fresh state.made le_rfl)
      refine turn_closer 0 inside rfl rfl ?_
        (by rcases there with rfl | rfl <;> simp [here, Handler.distance])
      refine le_of_eq (monitorDistance_made rfl rfl (fun m inside => ?_) ?_)
      · simp [State.rank, State.stops, State.setHandler, State.setApp, inside.ne]
      · simp [State.rank, State.setHandler, State.setApp, unspawned, Monitor.distance]
  | drops here =>
      exact turn_closer 0 inside rfl rfl (monitorDistance_le (rank_kept rfl rfl rfl) rfl le_rfl)
        (by simp [here, Handler.distance])
  | @keeps _ _ _ app _ here =>
      have bound := (orderly.making.clean c app (by rw [here]; rfl)).1
      have empty := (orderly.locking.holder c (by rw [here]; rfl)).2
      refine turn_closer 6 inside rfl rfl (monitorDistance_at bound rfl (fun i apart => ?_) ?_)
        (by simp [here, Handler.distance])
      · simp [State.rank, State.stops, State.setHandler, State.setMonitor, State.setApp, apart]
      · rw [empty]
        cases stop : (state.apps app).monitorStop <;>
          simp [State.rank, State.stops, State.setHandler, State.setMonitor, State.setApp,
            AppState.record, Monitor.distance, storeDistance, stop]
  | findsNothing here _ _ there =>
      refine turn_closer 0 inside rfl rfl le_rfl ?_
      rcases there with ⟨_, _, rfl⟩ | ⟨_, rfl⟩ <;> simp [here, Handler.distance]
  | takes here =>
      exact turn_closer 0 inside rfl rfl
        (monitorDistance_le (rank_kept rfl rfl rfl) rfl (Nat.zero_le _))
        (by simp [here, Handler.distance])
  | @signals _ _ _ purpose run here =>
      have bound := begun (hand_handler here)
      refine turn_closer 2 inside rfl rfl (monitorDistance_at bound rfl (fun i apart => ?_) ?_)
        (by simp [here, Handler.distance])
      · simp [State.rank, State.stops, State.setHandler, State.setApp, apart]
      · have more := (state.monitors run).distance_stop (state.stops run) true
        simp only [State.rank, State.stops, State.setHandler, State.setApp,
          Function.update_self] at more ⊢
        omega
  | drains here there =>
      refine turn_closer 0 inside rfl rfl (monitorDistance_le (rank_kept rfl rfl rfl) rfl le_rfl) ?_
      rcases there with ⟨_, _, rfl⟩ | ⟨_, rfl⟩ <;> simp [here, Handler.distance]
  | @replies _ _ _ answer stopped here =>
      refine turn_closer 0 inside rfl rfl le_rfl ?_
      cases stopped <;> simp [here, Handler.distance]
  | closes here there =>
      refine turn_closer 0 inside rfl rfl (monitorDistance_le (rank_kept rfl rfl rfl) rfl le_rfl) ?_
      rcases there with ⟨_, rfl⟩ | ⟨_, rfl⟩ <;> simp [here, Handler.distance]

/-! ## Monitors -/

theorem monitor_inside (orderly : Orderly state) {m : Nat}
    (spawned : state.monitors m ≠ .unspawned) : m < state.made := by
  have begun : state.handover.history m ≠ [] := fun clean =>
    spawned (orderly.making.unwatched m clean)
  exact orderly.making.lt_made begun

theorem monitor_turn {m : Nat} {point : Monitor} (inside : m < state.made)
    (handlers : next.handlers = state.handlers) (connections : next.connections = state.connections)
    (made : next.made = state.made) (stops : next.stops = state.stops)
    (monitors : next.monitors = Function.update state.monitors m point) :
    next.distance + (state.monitors m).distance (state.stops m) + storeDistance state.run =
      state.distance + point.distance (state.stops m) + storeDistance next.run := by
  have turn := sum_of_apart state.rank next.rank inside fun i apart => by
    rw [State.rank, State.rank, stops, monitors, Function.update_of_ne apart]
  have own : next.rank m = point.distance (state.stops m) := by
    rw [State.rank, stops, monitors, Function.update_self]
  rw [own, State.rank] at turn
  rw [State.distance, State.distance, handlers, connections, made]
  omega

theorem monitor_nearer {m : Nat} {point : Monitor} (inside : m < state.made)
    (handlers : next.handlers = state.handlers) (connections : next.connections = state.connections)
    (made : next.made = state.made) (stops : next.stops = state.stops)
    (monitors : next.monitors = Function.update state.monitors m point)
    (less : point.distance (state.stops m) + storeDistance next.run <
      (state.monitors m).distance (state.stops m) + storeDistance state.run) :
    next.distance < state.distance := by
  have turn := monitor_turn inside handlers connections made stops monitors
  omega

structure GoesOn (state next : State) (m : Nat) (point : Monitor) : Prop where
  watching : (state.monitors m).watching = true
  calm : state.stops m = false
  onwards : point.watching = true ∨ point = .returned
  moved : next = state.setMonitor m point

theorem Monitor.distance_calm {point : Monitor} (calm : point.watching = true ∨ point = .returned) :
    point.distance false = 0 := by
  rcases calm with watching | rfl
  · cases point <;> first | rfl | cases watching
  · rfl

theorem monitor_closer (orderly : Orderly state) {m : Nat}
    (moved : monitorStep m state = some next) :
    next.distance < state.distance ∨ ∃ point, GoesOn state next m point := by
  have inside : m < state.made := by
    refine monitor_inside orderly fun unspawned => ?_
    simp [monitorStep, unspawned] at moved
  simp only [monitorStep] at moved
  split at moved
  next => cases moved
  next => cases moved
  next here =>
    cases moved
    cases stop : (state.apps m).monitorStop with
    | true => exact .inl (monitor_nearer inside rfl rfl rfl rfl rfl
        (by simp [here, State.stops, stop, Monitor.distance, State.setMonitor]))
    | false => exact .inr ⟨.woken, by rw [here]; rfl, stop, .inl rfl, by simp⟩
  next here =>
    cases moved
    cases stop : (state.apps m).monitorStop with
    | true => exact .inl (monitor_nearer inside rfl rfl rfl rfl rfl
        (by simp [here, State.stops, stop, Monitor.distance, State.setMonitor]))
    | false => exact .inr ⟨.checking, by rw [here]; rfl, stop, .inl rfl, by simp⟩
  next here =>
    split_ifs at moved with locked
    split at moved
    next empty =>
      cases moved
      cases stop : (state.apps m).monitorStop with
      | true => exact .inl (monitor_nearer inside rfl rfl rfl rfl rfl
          (by simp [here, State.stops, stop, Monitor.distance, State.setMonitor]))
      | false => exact .inr ⟨.returned, by rw [here]; rfl, stop, .inr rfl, rfl⟩
    next run stored =>
      split at moved
      next =>
        cases moved
        cases stop : (state.apps m).monitorStop with
        | true => exact .inl (monitor_nearer inside rfl rfl rfl rfl rfl
            (by simp [here, State.stops, stop, Monitor.distance, State.setMonitor]))
        | false => exact .inr ⟨.polling, by rw [here]; rfl, stop, .inl rfl, rfl⟩
      next failure failed =>
        cases moved
        refine .inl (monitor_nearer inside rfl rfl rfl (stops_kept rfl rfl) rfl ?_)
        simp [stored, State.setMonitor, Monitor.distance, storeDistance]
  next run failure here =>
    cases moved
    exact .inl (monitor_nearer inside rfl rfl rfl (stops_kept rfl rfl) rfl
      (by simp [here, Monitor.distance, State.setMonitor, State.setApp, State.sendToPeer]))
  next run here =>
    cases moved
    exact .inl (monitor_nearer inside rfl rfl rfl (stops_kept rfl rfl) rfl
      (by simp [here, Monitor.distance, State.setMonitor, State.setApp]))
  next run here =>
    cases moved
    exact .inl (monitor_nearer inside rfl rfl rfl rfl rfl
      (by simp [here, Monitor.distance, State.setMonitor, State.sendToPeer]))
  next run here =>
    cases moved
    exact .inl (monitor_nearer inside rfl rfl rfl (stops_kept rfl rfl) rfl
      (by simp [here, Monitor.distance, State.setMonitor, State.setApp]))

/-! ## Somebody can always go on -/

def State.ready (state : State) (c : Nat) : Bool :=
  match state.handlers c with
  | .idle => false
  | .locking _ | .taking _ => !state.locked
  | .joining _ run => decide (state.monitors run = .returned)
  | _ => true

def State.due (state : State) (m : Nat) : Bool :=
  match state.monitors m with
  | .unspawned | .returned => false
  | .polling | .woken => state.stops m
  | .checking => state.stops m && !state.locked
  | _ => true

def Advances (state : State) : Action Port → Prop
  | .handle c _ _ => state.ready c = true
  | .monitor m => state.due m = true
  | _ => False

theorem handler_enabled {c : Nat} (host : XpcHost Port) (slot : FrameRegionSlot)
    (ready : state.ready c = true) : ∃ later, handlerStep host slot c state = some later := by
  apply Option.isSome_iff_exists.mp
  cases here : state.handlers c with
  | idle => simp [State.ready, here] at ready
  | received message =>
      rcases message with error | request
      · simp [handlerStep, here]
      · cases request <;> simp [handlerStep, here]
  | locking request =>
      have unlocked : state.locked = false := by simpa [State.ready, here] using ready
      simp only [handlerStep, here, unlocked, Bool.false_eq_true, if_false]
      split <;> rfl
  | building request =>
      simp only [handlerStep, here]
      split <;> rfl
  | taking purpose =>
      have unlocked : state.locked = false := by simpa [State.ready, here] using ready
      simp only [handlerStep, here, unlocked, Bool.false_eq_true, if_false]
      split <;> rfl
  | joining purpose run =>
      have ended : state.monitors run = .returned := by simpa [State.ready, here] using ready
      simp [handlerStep, here, ended]
  | dropping | keeping | signalling | draining | replying | reporting | closing | clearing =>
      simp [handlerStep, here]

theorem handler_advances (orderly : Orderly state) (known : Known state) {c : Nat}
    (host : XpcHost Port) (slot : FrameRegionSlot) (ready : state.ready c = true) :
    ∃ later, handlerStep host slot c state = some later ∧ later.distance < state.distance := by
  obtain ⟨later, moved⟩ := handler_enabled host slot ready
  exact ⟨later, moved, handler_closer orderly known (moves_of_handlerStep moved)⟩

theorem monitor_enabled {m : Nat} (due : state.due m = true) :
    ∃ later, monitorStep m state = some later := by
  apply Option.isSome_iff_exists.mp
  cases here : state.monitors m with
  | unspawned | returned => simp [State.due, here] at due
  | checking =>
      have unlocked : state.locked = false := by
        simp only [State.due, here, Bool.and_eq_true, Bool.not_eq_true'] at due
        exact due.2
      simp only [monitorStep, here, unlocked, Bool.false_eq_true, if_false]
      split
      · rfl
      · split <;> rfl
  | polling | woken | failing | draining | reporting | closing => simp [monitorStep, here]

theorem monitor_advances (orderly : Orderly state) {m : Nat} (due : state.due m = true) :
    ∃ later, monitorStep m state = some later ∧ later.distance < state.distance := by
  obtain ⟨later, moved⟩ := monitor_enabled due
  refine ⟨later, moved, (monitor_closer orderly moved).resolve_right ?_⟩
  rintro ⟨point, watching, calm, -, -⟩
  cases here : state.monitors m with
  | polling | woken | checking => simp [State.due, here, calm] at due
  | unspawned | failing | draining | reporting | closing | returned =>
      simp [here, Monitor.watching] at watching

theorem somebody_advances (orderly : Orderly state) (known : Known state)
    (attended : Attended state) {c : Nat} (busy : state.handlers c ≠ .idle) :
    (∃ d < state.connections, state.ready d = true) ∨ ∃ m < state.made, state.due m = true := by
  have holder (locked : state.locked = true) :
      ∃ d < state.connections, state.ready d = true := by
    obtain ⟨d, holds⟩ := attended.held locked
    cases here : state.handlers d with
    | building | dropping | keeping =>
        exact ⟨d, known.inside (by simp [here]), by simp [State.ready, here]⟩
    | idle | received | locking | taking | signalling | joining | draining | replying | reporting
    | closing | clearing => simp [here, Handler.holdsRun] at holds
  have inside := known.inside busy
  cases here : state.handlers c with
  | idle => exact absurd here busy
  | locking | taking =>
      cases locked : state.locked with
      | false => exact .inl ⟨c, inside, by simp [State.ready, here, locked]⟩
      | true => exact .inl (holder locked)
  | joining purpose run =>
      have stopped := attended.told c purpose run here
      have begun := (orderly.accounted.hand (.handler c) run _ (hand_handler here)).history_ne
      have spawned := attended.spawned run begun
      have made := orderly.making.lt_made begun
      cases point : state.monitors run with
      | unspawned => exact absurd point spawned
      | returned => exact .inl ⟨c, inside, by simp [State.ready, here, point]⟩
      | checking =>
          cases locked : state.locked with
          | false => exact .inr ⟨run, made, by simp [State.due, point, stopped, locked]⟩
          | true => exact .inl (holder locked)
      | polling | woken => exact .inr ⟨run, made, by simp [State.due, point, stopped]⟩
      | failing | draining | reporting | closing =>
          exact .inr ⟨run, made, by simp [State.due, point]⟩
  | received | building | dropping | keeping | signalling | draining | replying | reporting
  | closing | clearing => exact .inl ⟨c, inside, by simp [State.ready, here]⟩

/-! ## Turns end -/

def Action.quiet : Action Port → Prop
  | .deliver _ _ => False
  | _ => True

/-- Every connection's handler and every monitor gets a turn. -/
def Serves (state : State) (round : List (Action Port)) : Prop :=
  (∀ c < state.connections, ∃ host slot, .handle c host slot ∈ round) ∧
    ∀ m < state.made, .monitor m ∈ round

structure Sound (state : State) : Prop where
  orderly : Orderly state
  known : Known state
  attended : Attended state

theorem advances_kept {action : Action Port} (locked : next.locked = state.locked)
    (handlers : next.handlers = state.handlers) (stops : next.stops = state.stops)
    (returned : ∀ m, state.monitors m = .returned → next.monitors m = .returned)
    (due : ∀ m, state.due m = true → next.monitors m = state.monitors m)
    (advances : Advances state action) : Advances next action := by
  cases action with
  | handle c host slot =>
      simp only [Advances, State.ready, handlers, locked] at advances ⊢
      cases here : state.handlers c with
      | joining purpose run =>
          simp only [here, decide_eq_true_eq] at advances ⊢
          exact returned run advances
      | idle => simp [here] at advances
      | locking | taking => simpa [here] using advances
      | received | building | dropping | keeping | signalling | draining | replying | reporting
      | closing | clearing => simp
  | monitor m =>
      have same := due m advances
      simp only [Advances, State.due, same, stops, locked] at advances ⊢
      exact advances
  | accept | deliver | engineFails => exact advances.elim

theorem GoesOn.frame {m : Nat} {point : Monitor} (goes : GoesOn state next m point) :
    next.locked = state.locked ∧ next.handlers = state.handlers ∧ next.stops = state.stops ∧
      next.connections = state.connections ∧ next.made = state.made ∧ next.run = state.run ∧
        next.monitors = Function.update state.monitors m point := by
  rw [goes.moved]
  exact ⟨rfl, rfl, rfl, rfl, rfl, rfl, rfl⟩

theorem GoesOn.advances {m : Nat} {point : Monitor} (goes : GoesOn state next m point)
    {action : Action Port} (advances : Advances state action) : Advances next action := by
  obtain ⟨locked, handlers, stops, -, -, -, monitors⟩ := goes.frame
  obtain ⟨watching, calm, -, -⟩ := goes
  refine advances_kept locked handlers stops (fun n ended => ?_) (fun n due => ?_) advances
  · have apart : n ≠ m := by
      rintro rfl
      simp [ended, Monitor.watching] at watching
    simpa [monitors, apart] using ended
  · have apart : n ≠ m := by
      rintro rfl
      cases here : state.monitors n with
      | polling | woken | checking => simp [State.due, here, calm] at due
      | unspawned | failing | draining | reporting | closing | returned =>
          simp [here, Monitor.watching] at watching
    simp [monitors, apart]

theorem GoesOn.distance (orderly : Orderly state) {m : Nat} {point : Monitor}
    (goes : GoesOn state next m point) : next.distance = state.distance := by
  obtain ⟨-, handlers, stops, connections, made, run, monitors⟩ := goes.frame
  obtain ⟨watching, calm, onwards, -⟩ := goes
  have inside : m < state.made := by
    refine monitor_inside orderly fun unspawned => ?_
    simp [unspawned, Monitor.watching] at watching
  have turn := monitor_turn inside handlers connections made stops monitors
  rw [run, calm, Monitor.distance_calm onwards, Monitor.distance_calm (.inl watching)] at turn
  exact Nat.add_right_cancel turn

theorem acceptPeer_distance (known : Known state) :
    state.acceptPeer.distance = state.distance := by
  have idle := (known state.connections le_rfl).2
  unfold State.acceptPeer
  split
  all_goals
    show ∑ c ∈ Finset.range (state.connections + 1), (state.handlers c).distance + _ + _ = _
    rw [Finset.sum_range_succ, idle]
    rfl

theorem acceptPeer_advances {action : Action Port} (advances : Advances state action) :
    Advances state.acceptPeer action := by
  unfold State.acceptPeer
  split <;> exact advances_kept rfl rfl rfl (fun _ ended => ended) (fun _ _ => rfl) advances

theorem distance_of_app {app : Nat} {changed : AppState → AppState}
    (moved : next = state.setApp app changed)
    (same : (changed (state.apps app)).monitorStop = (state.apps app).monitorStop) :
    next.distance = state.distance ∧
      ∀ other : Action Port, Advances state other → Advances next other := by
  have stops : next.stops = state.stops := by
    rw [moved]
    exact stops_kept rfl same
  have rank : next.rank = state.rank := by
    rw [moved]
    exact rank_kept rfl rfl same
  constructor
  · rw [State.distance, State.distance, rank, moved]
    rfl
  · intro other
    refine advances_kept ?_ ?_ stops (fun m ended => ?_) (fun m _ => ?_)
    all_goals rw [moved]
    all_goals first | rfl | exact ended

theorem approaches :
    Approaches (@step Port) Sound Action.quiet Advances State.distance where
  kept state action next sound _ moved :=
    have moves := moves_of_step moved
    ⟨sound.orderly.step moves, known_of_moves sound.known moves,
      sound.attended.step sound.orderly moves⟩
  closer state action next sound quiet moved := by
    cases action with
    | accept =>
        cases moved
        exact .inr ⟨acceptPeer_distance sound.known, fun other => acceptPeer_advances⟩
    | deliver c event => exact quiet.elim
    | handle c host slot =>
        exact .inl (handler_closer sound.orderly sound.known (moves_of_handlerStep moved))
    | monitor m =>
        rcases monitor_closer sound.orderly moved with less | ⟨point, goes⟩
        · exact .inl less
        · exact .inr ⟨goes.distance sound.orderly, fun other => goes.advances⟩
    | engineFails app failure =>
        have moves := moves_of_step moved
        cases moves
        exact .inr (distance_of_app rfl rfl)
  advances state action sound useful := by
    cases action with
    | handle c host slot => exact handler_advances sound.orderly sound.known host slot useful
    | monitor m => exact monitor_advances sound.orderly useful
    | accept | deliver | engineFails => exact useful.elim

theorem sound_of_run {schedule : List (Action Port)} {reached : State}
    (run : exec ServiceRun.step {} schedule = some reached) : Sound reached := by
  refine exec_invariant ?_ ?_ run
  · refine ⟨orderly_initial, fun _ _ => ⟨rfl, rfl⟩, ?_, ?_, ?_, ?_⟩
    · exact fun locked => absurd locked Bool.false_ne_true
    · exact fun run begun => absurd rfl begun
    · exact fun c purpose run joins => by cases joins
    · exact fun c run took => by cases took
  · exact fun state action next sound moved =>
      have moves := moves_of_step moved
      ⟨sound.orderly.step moves, known_of_moves sound.known moves,
        sound.attended.step sound.orderly moves⟩

def AllIdle (state : State) : Prop := ∀ c, state.handlers c = .idle

theorem allIdle_step (idle : AllIdle state) (quiet : action.quiet)
    (moved : step state action = some next) : AllIdle next := by
  have moves := moves_of_step moved
  cases action with
  | accept =>
      cases moves
      intro c
      rw [acceptPeer_handlers]
      exact idle c
  | deliver => exact quiet.elim
  | handle c host slot => exact absurd (idle c) (handle_frame moves).1
  | monitor m =>
      obtain ⟨_, handlers, _⟩ := monitor_frame moves
      intro c
      rw [handlers]
      exact idle c
  | engineFails app failure =>
      cases moves
      exact idle

/-- No turn is under way: the lock is free, and each run that a handler took has been drained and
closed, its monitor told to stop and joined. -/
structure Over (state : State) : Prop where
  idle : AllIdle state
  unlocked : state.locked = false
  taken : ∀ c run, .took (.handler c) ∈ state.handover.history run →
    state.handover.history run = Handover.course duties (.handler c) ∧
      state.stops run = true ∧ state.monitors run = .returned

theorem over_of_idle (sound : Sound state) (idle : AllIdle state) : Over state := by
  refine ⟨idle, ?_, fun c run took => ⟨?_, ?_⟩⟩
  · by_contra locked
    obtain ⟨c, holds⟩ := sound.attended.held (by simpa using locked)
    simp [idle c, Handler.holdsRun] at holds
  · rcases sound.orderly.accounted.settled run with fresh | stored | ⟨party, rest, held⟩ |
      ⟨party, ended⟩
    · simp [fresh] at took
    · simp [sound.orderly.accounted.slot run stored] at took
    · obtain ⟨_, done, -, history⟩ := sound.orderly.accounted.hand party run rest held
      rw [history] at took
      obtain rfl : .handler c = party := by simpa using took
      rw [hand_handler (idle c)] at held
      cases held
    · rw [ended] at took ⊢
      obtain rfl : .handler c = party := by simpa [Handover.course] using took
      rfl
  · refine (sound.attended.reaped c run took).resolve_left ?_
    rintro ⟨purpose, reaps | reaps⟩
    all_goals
      rw [idle c] at reaps
      cases reaps

def Resting (state : State) : Prop := ∀ m, state.due m = false

theorem due_kept (monitors : next.monitors = state.monitors) (stops : next.stops = state.stops)
    (locked : next.locked = state.locked) : next.due = state.due := by
  funext m
  rw [State.due, State.due, monitors, stops, locked]

/-- A rested monitor only finds work again when the engine of the stored run has failed. -/
theorem resting_step (ended : Over state) (resting : Resting state) (quiet : action.quiet)
    (moved : step state action = some next) :
    Resting next ∧ next.run = state.run ∨ state.run.isSome ∧ next.run = none := by
  have moves := moves_of_step moved
  have kept (due : next.due = state.due) : Resting next := fun m => due ▸ resting m
  cases moves with
  | accept =>
      refine .inl ⟨kept ?_, ?_⟩
      all_goals
        rw [State.acceptPeer]
        split <;> rfl
  | deliver => exact quiet.elim
  | asks here | locks here | refuses here | builds here | drops here | keeps here
  | findsNothing here | takes here | signals here | joins here | drains here | replies here
  | reports here | closes here | clears here =>
      rw [ended.idle] at here
      cases here
  | answers here =>
      rcases here with ⟨_, here⟩ | ⟨_, here, _⟩
      all_goals
        rw [ended.idle] at here
        cases here
  | @watches m point here there =>
      have calm : state.stops m = false := by
        have rests := resting m
        cases standing : state.monitors m with
        | polling | woken => simpa [State.due, standing] using rests
        | checking => simpa [State.due, standing, ended.unlocked] using rests
        | unspawned | failing | draining | reporting | closing | returned =>
            simp [standing, Monitor.watching] at here
      refine .inl ⟨fun n => ?_, rfl⟩
      by_cases same : n = m
      · subst same
        have stops : (state.apps n).monitorStop = false := calm
        rcases there with watching | rfl
        · cases point with
          | polling | woken | checking => simp [State.due, State.stops, State.setMonitor, stops]
          | unspawned | failing | draining | reporting | closing | returned => cases watching
        · simp [State.due, State.setMonitor]
      · simpa [State.due, State.setMonitor, State.stops, same] using resting n
  | detects here unlocked stored failed => exact .inr ⟨by simp [stored], rfl⟩
  | @sendsError m _ _ here | @drainsFailed m _ here | @reportsFailed m _ here
  | @closesFailed m _ here =>
      have rests := resting m
      simp [State.due, here] at rests
  | engineFails => exact .inl ⟨kept (due_kept rfl (stops_kept rfl rfl) rfl), rfl⟩

theorem empty_step (ended : Over state) (quiet : action.quiet)
    (moved : step state action = some next) (empty : state.run = none) : next.run = none := by
  have moves := moves_of_step moved
  cases moves with
  | accept =>
      rw [State.acceptPeer]
      split <;> exact empty
  | deliver => exact quiet.elim
  | keeps here =>
      rw [ended.idle] at here
      cases here
  | detects | takes => rfl
  | asks | locks | refuses | builds | drops | findsNothing | signals | joins | drains | replies
  | reports | closes | clears | answers | watches | sendsError | drainsFailed | reportsFailed
  | closesFailed | engineFails => exact empty

/-- While no event comes in, every turn that has begun ends, whatever else goes on, and so does
every pass of a monitor that was told to stop or has taken a run. After that a monitor has work
again only if it finds the engine of the stored run failed, and takes the run. -/
theorem turns_end {schedule : List (Action Port)} {reached : State}
    (run : exec ServiceRun.step {} schedule = some reached) (rounds : List (List (Action Port)))
    (quiet : ∀ round ∈ rounds, ∀ action ∈ round, action.quiet)
    (fair : Fair ServiceRun.step Serves reached rounds)
    (enough : reached.distance < rounds.length) :
    Over (attemptRounds ServiceRun.step reached rounds) ∧ ∃ count ≤ reached.distance,
      Over (attemptRounds ServiceRun.step reached (rounds.take count)) ∧
      Resting (attemptRounds ServiceRun.step reached (rounds.take count)) ∧
      (Resting (attemptRounds ServiceRun.step reached rounds) ∨
        (attemptRounds ServiceRun.step reached (rounds.take count)).run.isSome ∧
          (attemptRounds ServiceRun.step reached rounds).run = none) := by
  have helped (state : State) (round : List (Action Port)) (sound : Sound state)
      (busy : ¬(AllIdle state ∧ Resting state)) (serves : Serves state round) :
      ∃ action ∈ round, Advances state action := by
    by_cases idle : AllIdle state
    · obtain ⟨m, due⟩ := not_forall.mp fun resting => busy ⟨idle, resting⟩
      rw [Bool.not_eq_false] at due
      have inside : m < state.made := by
        refine monitor_inside sound.orderly fun unspawned => ?_
        simp [State.due, unspawned] at due
      exact ⟨_, serves.2 m inside, due⟩
    · obtain ⟨c, working⟩ := not_forall.mp idle
      rcases somebody_advances sound.orderly sound.known sound.attended working with
        ⟨d, inside, ready⟩ | ⟨m, inside, due⟩
      · obtain ⟨host, slot, served⟩ := serves.1 d inside
        exact ⟨_, served, ready⟩
      · exact ⟨_, serves.2 m inside, due⟩
  obtain ⟨count, few, sound, idle, resting⟩ :=
    approaches.reaches helped rounds quiet fair (sound_of_run run) enough
  set settled := attemptRounds ServiceRun.step reached (rounds.take count) with settledAt
  have stays (state : State) (action : Action Port) (next : State) (sound : Sound state)
      (holds : AllIdle state ∧ (Resting state ∧ state.run = settled.run ∨
        settled.run.isSome ∧ state.run = none)) (quiet : action.quiet)
      (moved : step state action = some next) :
      AllIdle next ∧ (Resting next ∧ next.run = settled.run ∨
        settled.run.isSome ∧ next.run = none) := by
    obtain ⟨idle, rests⟩ := holds
    have ended := over_of_idle sound idle
    refine ⟨allIdle_step idle quiet moved, ?_⟩
    rcases rests with ⟨resting, same⟩ | ⟨stored, empty⟩
    · rw [← same]
      exact resting_step ended resting quiet moved
    · exact .inr ⟨stored, empty_step ended quiet moved empty⟩
  obtain ⟨later, last, rests⟩ := approaches.attemptRounds_ended stays (rounds.drop count)
    (fun round member => quiet round (List.mem_of_mem_drop member)) sound
    ⟨idle, .inl ⟨resting, rfl⟩⟩
  rw [attemptRounds_take_drop reached rounds count, ← settledAt]
  exact ⟨over_of_idle later last, count, few, over_of_idle sound idle, resting,
    rests.imp And.left id⟩

end

/-! ## Rounds that serve everybody -/

def everybody (host : XpcHost Port) (slot : FrameRegionSlot) (state : State) :
    List (Action Port) :=
  (List.range state.connections).map (.handle · host slot) ++
    (List.range state.made).map .monitor

def fairRounds (host : XpcHost Port) (slot : FrameRegionSlot) : State → Nat →
    List (List (Action Port))
  | _, 0 => []
  | state, count + 1 =>
      everybody host slot state ::
        fairRounds host slot (attemptAll step state (everybody host slot state)) count

theorem serves_everybody (host : XpcHost Port) (slot : FrameRegionSlot) (state : State) :
    Serves state (everybody host slot state) := by
  constructor
  · intro c inside
    exact ⟨host, slot, by simp [everybody, inside]⟩
  · intro m inside
    simp [everybody, inside]

theorem everybody_quiet (host : XpcHost Port) (slot : FrameRegionSlot) (state : State) :
    ∀ action ∈ everybody host slot state, action.quiet := by
  intro action member
  simp only [everybody, List.mem_append, List.mem_map] at member
  rcases member with ⟨_, _, rfl⟩ | ⟨_, _, rfl⟩ <;> trivial

theorem fairRounds_fair (host : XpcHost Port) (slot : FrameRegionSlot) (state : State)
    (count : Nat) : Fair step Serves state (fairRounds host slot state count) ∧
      (fairRounds host slot state count).length = count ∧
      ∀ round ∈ fairRounds host slot state count, ∀ action ∈ round, action.quiet := by
  induction count generalizing state with
  | zero => exact ⟨trivial, rfl, by simp [fairRounds]⟩
  | succ count ih =>
      obtain ⟨fair, length, quiet⟩ := ih (attemptAll step state (everybody host slot state))
      refine ⟨⟨serves_everybody host slot state, fair⟩, congrArg (· + 1) length, ?_⟩
      exact List.forall_mem_cons.mpr ⟨everybody_quiet host slot state, quiet⟩

theorem stop_turn_ends : ∃ reached settled,
    exec step {} (.accept :: startOn 0 ++ [.deliver 0 (.message (.ok .stop))]) = some reached ∧
    reached.handlers 0 ≠ .idle ∧
    attemptRounds step reached
      (fairRounds (studioHost true) ⟨0⟩ reached (reached.distance + 1)) = settled ∧
    Over settled ∧ settled.monitors 0 = .returned ∧
    settled.handover.history 0 = Handover.course duties (.handler 0) := by
  have shape : ((exec step {} (.accept :: startOn 0 ++ [.deliver 0 (.message (.ok .stop))])).map
      fun reached => ((reached.handlers 0).distance,
        decide (.took (.handler 0) ∈ (attemptRounds step reached
          (fairRounds (studioHost true) ⟨0⟩ reached (reached.distance + 1))).handover.history 0))) =
        some (11, true) := by
    decide +kernel
  obtain ⟨reached, run, same⟩ := Option.map_eq_some_iff.mp shape
  obtain ⟨waits, taken⟩ := Prod.mk.inj same
  obtain ⟨fair, length, quiet⟩ := fairRounds_fair (studioHost true) ⟨0⟩ reached
    (reached.distance + 1)
  have ended := (turns_end run _ quiet fair (by omega)).1
  obtain ⟨course, -, returned⟩ := ended.taken 0 0 (of_decide_eq_true taken)
  refine ⟨reached, _, run, ?_, rfl, ended, returned, course⟩
  intro idle
  simp [idle, Handler.distance] at waits

end Phase4.Xpc.ServiceRun
