import Phase4.Xpc.RunHistory

namespace Phase4.Xpc.ServiceRun
open Library

variable {Port : Type}

/-! ## Which Apps are drained -/

def shuts : Deed Party Duty → Bool
  | .did _ .shutdown => true
  | _ => false

def shut (history : List (Deed Party Duty)) : Bool := history.any shuts

theorem shut_append (history : List (Deed Party Duty)) (deed : Deed Party Duty) :
    shut (history ++ [deed]) = (shut history || shuts deed) := by
  simp [shut]

theorem shut_append_of_not {history : List (Deed Party Duty)} {deed : Deed Party Duty}
    (other : shuts deed = false) : shut (history ++ [deed]) = shut history := by
  rw [shut_append, other, Bool.or_false]

theorem shut_recorded (app : AppState) (party : Party) :
    shut (app.shutdown.record (.did party .shutdown)).history = true := by
  rw [AppState.record, shut_append]
  simp [shuts]

/-- The shutdown of an App has returned if a party that took its run called it, or the start
that built it dropped it again. -/
def Drained (handlers : Nat → Handler) (made : Nat) (history : Nat → List (Deed Party Duty))
    (drained : Nat → Bool) : Prop :=
  ∀ app < made, drained app = true ↔
    shut (history app) = true ∨ (history app = [] ∧ ∀ c, (handlers c).making ≠ some app)

section
variable {state next : State} {action : Action Port}

def State.drained (state : State) (app : Nat) : Bool := (state.apps app).drained

theorem drained_kept {app : Nat} {changed : AppState}
    (apps : next.apps = Function.update state.apps app changed)
    (same : changed.drained = (state.apps app).drained) : next.drained = state.drained := by
  funext other
  by_cases here : other = app
  · simp [State.drained, apps, here, same]
  · simp [State.drained, apps, here]

theorem drained_shutdown {app : Nat} {changed : AppState}
    (apps : next.apps = Function.update state.apps app changed) (down : changed.drained = true) :
    next.drained = Function.update state.drained app true := by
  funext other
  by_cases here : other = app
  · simp [State.drained, apps, here, down]
  · simp [State.drained, apps, here]

namespace Drained
variable {handlers : Nat → Handler} {made : Nat} {history : Nat → List (Deed Party Duty)}
  {drained : Nat → Bool} {c : Nat} {point : Handler}

theorem kept {later : Nat → List (Deed Party Duty)} {flags : Nat → Bool}
    (holds : Drained handlers made history drained) (same : later = history)
    (flag : flags = drained) : Drained handlers made later flags := by
  rw [same, flag]
  exact holds

theorem making_turn (same : point.making = (handlers c).making) (app : Nat) :
    (∀ d, (Function.update handlers c point d).making ≠ some app) ↔
      ∀ d, (handlers d).making ≠ some app := by
  refine forall_congr' fun d => ?_
  by_cases here : d = c
  · simp [here, same]
  · simp [here]

theorem turn (holds : Drained handlers made history drained)
    (same : point.making = (handlers c).making) :
    Drained (Function.update handlers c point) made history drained := by
  intro app bound
  rw [making_turn same]
  exact holds app bound

theorem record (holds : Drained handlers made history drained) {run : Nat}
    {deeds : List (Deed Party Duty)} (begun : history run ≠ []) (some_deed : deeds ≠ [])
    (same : shut deeds = shut (history run)) :
    Drained handlers made (Function.update history run deeds) drained := by
  intro app bound
  by_cases here : app = run
  · subst here
    simpa [begun, some_deed, same] using holds app bound
  · simpa [here] using holds app bound

theorem shutdown (holds : Drained handlers made history drained) {run : Nat}
    {deeds : List (Deed Party Duty)} (down : shut deeds = true) :
    Drained handlers made (Function.update history run deeds)
      (Function.update drained run true) := by
  intro app bound
  by_cases here : app = run
  · simp [here, down]
  · simpa [here] using holds app bound

theorem making_apart {app other : Nat} (before : ∀ made, (handlers c).making = some made → made = app)
    (after : ∀ made, point.making = some made → made = app) (apart : other ≠ app) :
    (∀ d, (Function.update handlers c point d).making ≠ some other) ↔
      ∀ d, (handlers d).making ≠ some other := by
  refine forall_congr' fun d => ?_
  by_cases here : d = c
  · subst here
    rw [Function.update_self]
    constructor
    · exact fun _ makes => apart (before other makes)
    · exact fun _ makes => apart (after other makes)
  · simp [here]

theorem build (holds : Drained handlers made history drained) (fresh : history made = [])
    (makes : point.making = some made) (unmade : (handlers c).making = none) :
    Drained (Function.update handlers c point) (made + 1) history
      (Function.update drained made false) := by
  intro app bound
  by_cases here : app = made
  · subst here
    have making : ¬∀ d, (Function.update handlers c point d).making ≠ some app := by
      intro nobody
      exact nobody c (by simpa using makes)
    simp [fresh, shut, making]
  · have others := @making_apart handlers c point made app (by simp [unmade]) (by simp [makes]) here
    rw [others]
    simpa [here] using holds app (by omega)

theorem keep (holds : Drained handlers made history drained) {app : Nat} (bound : app < made)
    (clean : history app = []) (makes : (handlers c).making = some app)
    (calm : point.making = none) :
    Drained (Function.update handlers c point) made (Function.update history app [.put]) drained := by
  intro other bound'
  by_cases here : other = app
  · subst here
    have undrained := holds other bound
    have making : ¬∀ d, (handlers d).making ≠ some other := fun nobody => nobody c makes
    simp only [clean, shut, List.any_nil, Bool.false_eq_true, making, and_false, or_false,
      iff_false] at undrained
    simp [undrained, shut, shuts]
  · have others := @making_apart handlers c point app other (by simp [makes]) (by simp [calm]) here
    rw [others]
    simpa [here] using holds other bound'

theorem drop (holds : Drained handlers made history drained) {app : Nat}
    (clean : history app = []) (makes : (handlers c).making = some app)
    (calm : point.making = none) (unique : ∀ d, (handlers d).making = some app → d = c) :
    Drained (Function.update handlers c point) made history
      (Function.update drained app true) := by
  intro other bound
  by_cases here : other = app
  · subst here
    have nobody (d : Nat) : (Function.update handlers c point d).making ≠ some other := by
      by_cases same : d = c
      · simp [same, calm]
      · simpa [same] using fun makes => same (unique d makes)
    simp only [Function.update_self, true_iff]
    exact .inr ⟨clean, nobody⟩
  · have others := @making_apart handlers c point app other (by simp [makes]) (by simp [calm]) here
    rw [others]
    simpa [here] using holds other bound

end Drained

theorem drained_of_moves (orderly : Orderly state)
    (holds : Drained state.handlers state.made state.handover.history state.drained)
    (moves : Moves state action next) :
    Drained next.handlers next.made next.handover.history next.drained := by
  have begun {party : Party} {run : Nat} {rest : List Duty}
      (held : state.handover.hand party = some (run, rest)) : state.handover.history run ≠ [] :=
    (orderly.accounted.hand party run rest held).history_ne
  have begun_stored {run : Nat} (stored : state.run = some run) :
      state.handover.history run ≠ [] := by
    simp [orderly.accounted.slot run stored]
  cases moves with
  | accept =>
      rw [acceptPeer_handlers, acceptPeer_handover, State.acceptPeer]
      split <;> exact holds
  | @deliver c event active idle =>
      cases event with
      | message request => exact holds.turn (by rw [idle]; rfl)
      | error error => cases error <;> first | exact holds | exact holds.turn (by rw [idle]; rfl)
      | oneWay | other => exact holds
  | asks here there => exact holds.turn (by rcases there with ⟨_, rfl⟩ | rfl <;> rw [here] <;> rfl)
  | answers here =>
      exact holds.turn (by rcases here with ⟨_, here⟩ | ⟨_, here, _⟩ <;> rw [here] <;> rfl)
  | locks here | refuses here | joins here | reports here | clears here =>
      exact holds.turn (by rw [here]; rfl)
  | builds here there =>
      have fresh := orderly.making.fresh state.made le_rfl
      refine (holds.build fresh ?_ (by rw [here]; rfl)).kept (history_kept rfl fresh.symm) ?_
      · rcases there with rfl | rfl <;> rfl
      · funext other
        by_cases same : other = state.made
        · simp [State.drained, State.setHandler, State.setApp, same]
        · simp [State.drained, State.setHandler, State.setApp, same]
  | @drops c _ _ app _ here =>
      have makes : (state.handlers c).making = some app := by rw [here]; rfl
      have clean := (orderly.making.clean c app makes).2
      have unique (d : Nat) (also : (state.handlers d).making = some app) : d = c :=
        orderly.locking.unique d c (Handler.holdsRun_of_making also)
          (Handler.holdsRun_of_making makes)
      exact (holds.drop clean makes rfl unique).kept (history_kept rfl rfl) (drained_shutdown rfl rfl)
  | @keeps c _ _ app _ here =>
      have makes : (state.handlers c).making = some app := by rw [here]; rfl
      obtain ⟨bound, clean⟩ := orderly.making.clean c app makes
      exact (holds.keep bound clean makes rfl).kept (history_of_apps rfl (recorded_put clean))
        (drained_kept rfl rfl)
  | findsNothing here unlocked empty there =>
      exact holds.turn (by rcases there with ⟨_, _, rfl⟩ | ⟨_, rfl⟩ <;> rw [here] <;> rfl)
  | takes here unlocked stored =>
      exact ((holds.turn (by rw [here]; rfl)).record (begun_stored stored) (by simp)
        (shut_append_of_not rfl)).kept (history_of_apps rfl rfl) (drained_kept rfl rfl)
  | signals here => exact (holds.turn (by rw [here]; rfl)).kept (history_kept rfl rfl) (drained_kept rfl rfl)
  | drains here there =>
      refine ((holds.turn ?_).shutdown (shut_recorded _ _)).kept (history_of_apps rfl rfl)
        (drained_shutdown rfl rfl)
      rcases there with ⟨_, _, rfl⟩ | ⟨_, rfl⟩ <;> rw [here] <;> rfl
  | @replies c _ _ answer stopped here =>
      exact holds.turn (by cases stopped <;> rw [here] <;> rfl)
  | closes here there =>
      refine ((holds.turn ?_).record (begun (hand_handler here)) (by simp)
        (shut_append_of_not rfl)).kept (history_of_apps rfl rfl) (drained_kept rfl rfl)
      rcases there with ⟨_, rfl⟩ | ⟨_, rfl⟩ <;> rw [here] <;> rfl
  | watches | reportsFailed => exact holds
  | detects here unlocked stored =>
      exact (holds.record (begun_stored stored) (by simp) (shut_append_of_not rfl)).kept
        (history_of_apps rfl rfl) (drained_kept rfl rfl)
  | sendsError here | closesFailed here =>
      exact (holds.record (begun (hand_monitor here)) (by simp) (shut_append_of_not rfl)).kept
        (history_of_apps rfl rfl) (drained_kept rfl rfl)
  | drainsFailed here =>
      exact (holds.shutdown (shut_recorded _ _)).kept (history_of_apps rfl rfl)
        (drained_shutdown rfl rfl)
  | engineFails live undrained => exact holds.kept (history_kept rfl rfl) (drained_kept rfl rfl)

/-! ## Apps that have not finished shutdown -/

def Live (state : State) (app : Nat) : Prop := app < state.made ∧ state.drained app = false

def endsRun : Option (Nat × List Duty) → Bool
  | some (_, rest) => decide (.shutdown ∈ rest)
  | none => false

theorem endsRun_eq_true {hand : Option (Nat × List Duty)} :
    endsRun hand = true ↔ ∃ run rest, hand = some (run, rest) ∧ .shutdown ∈ rest := by
  rcases hand with _ | ⟨run, rest⟩ <;> simp [endsRun]

theorem shut_of_held {party : Party} {run : Nat} {rest : List Duty}
    (held : Handover.Held duties state.handover party run rest) :
    shut (state.handover.history run) = false ↔ .shutdown ∈ rest := by
  obtain ⟨_, done, split, history⟩ := held
  have once : done.count .shutdown + rest.count .shutdown = 1 := by
    rw [← List.count_append, split]
    cases party <;> rfl
  have known : shut (state.handover.history run) = done.contains .shutdown := by
    have each : shuts ∘ Deed.did party = fun duty => Duty.shutdown == duty := by
      funext duty
      cases duty <;> rfl
    rw [history, shut, List.any_cons, List.any_cons, List.any_map, each, List.contains_eq_any_beq]
    rfl
  rw [known, List.contains_eq_mem, decide_eq_false_iff_not, ← List.count_pos_iff,
    ← List.count_pos_iff]
  omega

theorem live_iff (orderly : Orderly state)
    (holds : Drained state.handlers state.made state.handover.history state.drained) (app : Nat) :
    Live state app ↔ (∃ c, (state.handlers c).making = some app) ∨ state.run = some app ∨
      ∃ party rest, state.handover.hand party = some (app, rest) ∧ .shutdown ∈ rest := by
  constructor
  · rintro ⟨bound, undrained⟩
    have open_app := (holds app bound).not.mp (by simp [undrained])
    rw [not_or, not_and] at open_app
    obtain ⟨unshut, unmade⟩ := open_app
    rcases orderly.accounted.settled app with fresh | stored | ⟨party, rest, held⟩ | ⟨party, ended⟩
    · have making := unmade fresh
      simp only [ne_eq, not_forall, not_not] at making
      exact .inl making
    · exact .inr (.inl stored)
    · refine .inr (.inr ⟨party, rest, held, ?_⟩)
      exact (shut_of_held (orderly.accounted.hand party app rest held)).mp (by simpa using unshut)
    · rw [ended] at unshut
      exact absurd (by cases party <;> rfl) unshut
  · have live (bound : app < state.made) (unshut : shut (state.handover.history app) = false)
        (made : state.handover.history app = [] → ∃ c, (state.handlers c).making = some app) :
        Live state app := by
      refine ⟨bound, ?_⟩
      have closed := (holds app bound).not.mpr ?_
      · simpa using closed
      · rintro (down | ⟨fresh, nobody⟩)
        · rw [unshut] at down
          cases down
        · obtain ⟨c, makes⟩ := made fresh
          exact nobody c makes
    rintro (⟨c, makes⟩ | stored | ⟨party, rest, held, left⟩)
    · obtain ⟨bound, clean⟩ := orderly.making.clean c app makes
      exact live bound (by rw [clean]; rfl) fun _ => ⟨c, makes⟩
    · have history := orderly.accounted.slot app stored
      have begun : state.handover.history app ≠ [] := by simp [history]
      exact live (orderly.making.lt_made begun) (by rw [history]; rfl) fun fresh => absurd fresh begun
    · have here := orderly.accounted.hand party app rest held
      exact live (orderly.making.lt_made here.history_ne) ((shut_of_held here).mpr left)
        fun fresh => absurd fresh here.history_ne

/-! ## At most one engine -/

/-- No thread is between taking a run and the return of its App's shutdown. -/
def NobodyEnding (state : State) : Prop :=
  (∀ c < state.connections, endsRun (state.handlers c).hand = false) ∧
    ∀ m < state.made, endsRun (state.monitors m).hand = false

def repliesToStop (state : State) : Action Port → Bool
  | .handle c _ _ =>
      match state.handlers c with
      | .replying (.stopped _) _ => true
      | _ => false
  | _ => false

/-- An App is created only while no thread is ending a run, and a stop is answered only while,
beside that, no run is in the slot and no start has an App in the making. -/
def EndsFirst (state : State) (action : Action Port) (next : State) : Prop :=
  (state.made < next.made → NobodyEnding state) ∧
    (repliesToStop state action = true → NobodyEnding state ∧ state.run = none ∧
      ∀ c < state.connections, (state.handlers c).making = none)

/-- A step after which at most one App is live. If it stores a run, no other App was live, and
if it answers a stop, none was. -/
def OneEngine (state : State) (action : Action Port) (next : State) : Prop :=
  (∀ app other, Live next app → Live next other → app = other) ∧
    (∀ c host slot app body, action = .handle c host slot →
      state.handlers c = .keeping app body → ∀ other, Live state other → other = app) ∧
    (repliesToStop state action = true → ∀ app, ¬Live state app)

theorem ending_iff (orderly : Orderly state) (known : Known state) :
    NobodyEnding state ↔
      ∀ party run rest, state.handover.hand party = some (run, rest) → .shutdown ∉ rest := by
  constructor
  · rintro ⟨handlers, monitors⟩ party run rest held left
    have ends : endsRun (state.handover.hand party) = true :=
      endsRun_eq_true.mpr ⟨run, rest, held, left⟩
    cases party with
    | handler c =>
        by_cases came : c < state.connections
        · exact absurd ends (by simp [State.handover, handlers c came])
        · rw [hand_handler (known c (by omega)).2] at held
          cases held
    | monitor m =>
        by_cases made : m < state.made
        · exact absurd ends (by simp [State.handover, monitors m made])
        · have fresh := orderly.making.fresh m (by omega)
          rw [hand_monitor (orderly.making.unwatched m fresh)] at held
          cases held
  · intro nobody
    refine ⟨fun c _ => ?_, fun m _ => ?_⟩
    · by_contra ends
      obtain ⟨run, rest, held, left⟩ := endsRun_eq_true.mp (by simpa using ends)
      exact nobody (.handler c) run rest held left
    · by_contra ends
      obtain ⟨run, rest, held, left⟩ := endsRun_eq_true.mp (by simpa using ends)
      exact nobody (.monitor m) run rest held left

theorem nobody_live_iff (orderly : Orderly state) (known : Known state)
    (holds : Drained state.handlers state.made state.handover.history state.drained) :
    (NobodyEnding state ∧ state.run = none ∧
      ∀ c < state.connections, (state.handlers c).making = none) ↔ ∀ app, ¬Live state app := by
  constructor
  · rintro ⟨nobody, empty, unmade⟩ app live
    rcases (live_iff orderly holds app).mp live with ⟨c, makes⟩ | stored | ⟨party, rest, held, left⟩
    · by_cases came : c < state.connections
      · rw [unmade c came] at makes
        cases makes
      · rw [(known c (by omega)).2] at makes
        cases makes
    · rw [empty] at stored
      cases stored
    · exact (ending_iff orderly known).mp nobody party app rest held left
  · intro dead
    refine ⟨?_, ?_, ?_⟩
    · rw [ending_iff orderly known]
      intro party run rest held left
      exact dead run ((live_iff orderly holds run).mpr (.inr (.inr ⟨party, rest, held, left⟩)))
    · cases stored : state.run with
      | none => rfl
      | some run => exact absurd ((live_iff orderly holds run).mpr (.inr (.inl stored))) (dead run)
    · intro c _
      cases makes : (state.handlers c).making with
      | none => rfl
      | some app => exact absurd ((live_iff orderly holds app).mpr (.inl ⟨c, makes⟩)) (dead app)

theorem live_fewer (made : next.made = state.made)
    (drained : ∀ app, state.drained app = true → next.drained app = true) :
    (∀ app, Live next app → Live state app) ∧ next.made = state.made := by
  refine ⟨?_, made⟩
  rintro app ⟨bound, live⟩
  refine ⟨made ▸ bound, ?_⟩
  by_contra down
  have stays := drained app (by simpa using down)
  rw [live] at stays
  cases stays

theorem drained_after {app other : Nat} {changed : AppState} (before : state.drained app = true)
    (apps : next.apps = Function.update state.apps other changed)
    (stays : changed.drained = (state.apps other).drained ∨ changed.drained = true) :
    next.drained app = true := by
  rcases stays with same | down
  · rw [drained_kept apps same]
    exact before
  · rw [drained_shutdown apps down]
    by_cases here : app = other
    · simp [here]
    · simpa [here] using before

theorem live_of_moves (moves : Moves state action next) :
    ((∀ app, Live next app → Live state app) ∧ next.made = state.made) ∨
      ∃ c host slot request, action = .handle c host slot ∧
        state.handlers c = .building request ∧ next.made = state.made + 1 ∧
        ∀ app, Live next app ↔ app = state.made ∨ Live state app := by
  cases moves with
  | accept =>
      refine .inl (live_fewer ?_ fun app down => ?_)
      all_goals
        simp only [State.drained, State.acceptPeer] at *
        split
      all_goals first | rfl | exact down
  | @deliver c event active idle =>
      refine .inl (live_fewer ?_ fun app down => ?_)
      all_goals
        cases event with
        | error error => cases error <;> first | rfl | exact down
        | message | oneWay | other => first | rfl | exact down
  | asks | answers | locks | refuses | findsNothing | joins | replies | reports | clears | watches
  | reportsFailed => exact .inl (live_fewer rfl fun app down => down)
  | @builds c host slot request _ _ here there =>
      refine .inr ⟨c, host, slot, request, rfl, here, rfl, fun app => ?_⟩
      by_cases same : app = state.made
      · simp [Live, State.drained, State.setHandler, State.setApp, same]
      · simp only [Live, State.drained, State.setHandler, State.setApp, ne_eq, same,
          not_false_eq_true, Function.update_of_ne, false_or]
        refine and_congr_left fun _ => ?_
        omega
  | keeps | takes | signals | closes | detects | sendsError | closesFailed | engineFails =>
      exact .inl (live_fewer rfl fun app down => drained_after down rfl (.inl rfl))
  | drops | drains | drainsFailed =>
      exact .inl (live_fewer rfl fun app down => drained_after down rfl (.inr rfl))

structure Settled (state : State) : Prop where
  orderly : Orderly state
  known : Known state
  drained : Drained state.handlers state.made state.handover.history state.drained

theorem settled_initial : Settled {} where
  orderly := orderly_initial
  known := fun _ _ => ⟨rfl, rfl⟩
  drained := by
    intro app bound
    cases bound

theorem Settled.step (settled : Settled state) (moves : Moves state action next) :
    Settled next where
  orderly := settled.orderly.step moves
  known := known_of_moves settled.known moves
  drained := drained_of_moves settled.orderly settled.drained moves

theorem endsFirst_iff (settled : Settled state)
    (one : ∀ app other, Live state app → Live state other → app = other)
    (moves : Moves state action next) :
    EndsFirst state action next ↔ OneEngine state action next := by
  have answers := nobody_live_iff settled.orderly settled.known settled.drained
  have stores (c : Nat) (host : XpcHost Port) (slot : Config.FrameRegionSlot) (app : Nat)
      (body : Dictionary) (_ : action = .handle c host slot)
      (here : state.handlers c = .keeping app body) (other : Nat) (live : Live state other) :
      other = app :=
    one other app live ((live_iff settled.orderly settled.drained app).mpr
      (.inl ⟨c, by rw [here]; rfl⟩))
  rcases live_of_moves moves with ⟨fewer, made⟩ | ⟨c, _, _, request, rfl, here, made, more⟩
  · constructor
    · rintro ⟨_, answered⟩
      exact ⟨fun app other first second => one app other (fewer app first) (fewer other second),
        stores, fun replies => answers.mp (answered replies)⟩
    · rintro ⟨_, _, answered⟩
      exact ⟨fun grows => absurd grows (by omega), fun replies => answers.mpr (answered replies)⟩
  · have silent : ¬repliesToStop state (.handle c ‹_› ‹_› : Action Port) = true := by
      simp [repliesToStop, here]
    have holds : (state.handlers c).holdsRun = true := by
      rw [here]
      rfl
    have alone (d app : Nat) (makes : (state.handlers d).making = some app) : False := by
      have same := settled.orderly.locking.unique d c (Handler.holdsRun_of_making makes) holds
      rw [same, here] at makes
      cases makes
    have empty := (settled.orderly.locking.holder c holds).2
    constructor
    · rintro ⟨first, _⟩
      have nobody := (ending_iff settled.orderly settled.known).mp (first (by omega))
      have dead (app : Nat) : ¬Live state app := by
        intro live
        rcases (live_iff settled.orderly settled.drained app).mp live with
          ⟨d, makes⟩ | stored | ⟨party, rest, held, left⟩
        · exact alone d app makes
        · rw [empty] at stored
          cases stored
        · exact nobody party app rest held left
      refine ⟨fun app other first second => ?_, stores, fun replies => absurd replies silent⟩
      rcases (more app).mp first with rfl | live
      · rcases (more other).mp second with rfl | live
        · rfl
        · exact absurd live (dead other)
      · exact absurd live (dead app)
    · rintro ⟨single, _, _⟩
      refine ⟨fun _ => (ending_iff settled.orderly settled.known).mpr ?_,
        fun replies => absurd replies silent⟩
      intro party run rest held left
      have live := (live_iff settled.orderly settled.drained run).mpr
        (.inr (.inr ⟨party, rest, held, left⟩))
      have same := single run state.made ((more run).mpr (.inr live)) ((more _).mpr (.inl rfl))
      exact absurd live.1 (by omega)

end

def overlapping : List (Action (Option String)) :=
  .accept :: startOn 0 ++ detect 0 0 ++ startOn 0

end Phase4.Xpc.ServiceRun
