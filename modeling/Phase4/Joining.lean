import Phase4.Roster
import Phase4.Worker

namespace Phase4.Worker
open Library Bootstrap Config

/-! ## Every worker is waited for once, in order -/

def MainAt.worker : MainAt → Option Registered
  | .polling worker _ | .timing worker _ | .waking worker _ _ | .sleeping worker _ _ => some worker
  | _ => none

def MainAt.past : MainAt → Bool
  | .closing | .signalling => false
  | _ => true

def State.outcomes (state : State) : List LogLine :=
  state.ended.map fun entry => outcomeLine entry.1.kind entry.2

def State.script (state : State) : List LogLine :=
  match state.main with
  | .elsewhere =>
      if state.shutdownStarted then
        [.info "Shutdown started", .info "- Device shutdown complete"] ++ state.outcomes ++
          [.info "Shutdown complete"]
      else []
  | .closing => [.info "Shutdown started"]
  | _ => [.info "Shutdown started", .info "- Device shutdown complete"] ++ state.outcomes

structure Orderly (workers : List Registered) (state : State) : Prop where
  accounts :
    state.ended.map Prod.fst ++ (state.main.worker.toList ++ state.registered) = workers
  lines : state.lines = state.script
  started : state.main ≠ .elsewhere → state.shutdownStarted = true
  quiet : state.main.past = false ∨ state.shutdownStarted = false → state.ended = []
  stopped : state.main.past = true → state.shutdownStarted = true →
    state.keepRunning = false ∧ state.stream = false
  silent : state.main = .signalling → state.stream = false
  emptied : state.main = .elsewhere → state.shutdownStarted = true → state.registered = []

section
variable {state next : State} {action : Action} {workers : List Registered}

theorem not_quiet {main : MainAt} {started : Bool} {ended : List (Registered × JoinOutcome)}
    (past : main.past = true) (begun : started = true) :
    main.past = false ∨ started = false → ended = [] := by
  rintro (early | fresh)
  · cases past.symm.trans early
  · cases begun.symm.trans fresh

theorem Orderly.judge (orderly : Orderly workers state) {worker : Registered}
    (waits : state.main.worker = some worker) (outcome : JoinOutcome) :
    Orderly workers (state.judge worker outcome) := by
  have started : state.shutdownStarted = true :=
    orderly.started fun here => by simp [here, MainAt.worker] at waits
  have past : state.main.past = true := by
    cases here : state.main <;> simp_all [MainAt.worker, MainAt.past]
  have script : state.script = [.info "Shutdown started", .info "- Device shutdown complete"] ++
      state.outcomes := by
    cases here : state.main <;> simp_all [MainAt.worker, State.script]
  constructor
  · have accounts := orderly.accounts
    rw [waits] at accounts
    simpa [State.judge, State.log, MainAt.worker] using accounts
  · show state.lines ++ [outcomeLine worker.kind outcome] = _
    rw [orderly.lines, script]
    simp [State.judge, State.script, State.outcomes]
  · exact fun _ => started
  · exact not_quiet rfl started
  · exact fun _ _ => orderly.stopped past started
  · exact nofun
  · exact nofun

theorem Orderly.stay (orderly : Orderly workers state) {worker : Registered} {main : MainAt}
    {clock slept : Nat} {threads : Nat → Thread}
    (before : state.main.worker = some worker) (after : main.worker = some worker) :
    Orderly workers { state with clock, threads, main, slept } := by
  have started : state.shutdownStarted = true :=
    orderly.started fun here => by simp [here, MainAt.worker] at before
  have past : state.main.past = true := by
    cases here : state.main <;> simp_all [MainAt.worker, MainAt.past]
  have pastAfter : main.past = true := by
    cases main <;> simp_all [MainAt.worker, MainAt.past]
  constructor
  · have accounts := orderly.accounts
    rwa [before, ← after] at accounts
  · rw [orderly.lines]
    cases here : state.main <;> cases main <;>
      simp_all [MainAt.worker, State.script, State.outcomes]
  · exact fun _ => started
  · exact not_quiet pastAfter started
  · exact fun _ _ => orderly.stopped past started
  · rintro rfl
    cases after
  · rintro rfl
    cases after

theorem Orderly.step (orderly : Orderly workers state) (moves : Moves state action next) :
    Orderly workers next := by
  have ⟨accounts, lines, started, quiet, stopped, silent, emptied⟩ := orderly
  cases moves with
  | elapses | thread => exact ⟨accounts, lines, started, quiet, stopped, silent, emptied⟩
  | stops =>
      exact ⟨accounts, lines, started, quiet,
        fun past begun => ⟨rfl, (stopped past begun).2⟩, silent, emptied⟩
  | again => exact orderly
  | begins here fresh =>
      have none_ended := quiet (.inr fresh)
      exact ⟨by simpa [here, State.log, MainAt.worker] using accounts,
        by simp [State.log, State.script, lines, here, fresh], fun _ => rfl, fun _ => none_ended,
        nofun, nofun, nofun⟩
  | closes here =>
      have none_ended := quiet (.inl (by rw [here]; rfl))
      exact ⟨by simpa [here, State.log, MainAt.worker] using accounts,
        by simp [State.log, State.script, State.outcomes, lines, here, none_ended],
        fun _ => started (by rw [here]; nofun), fun _ => none_ended, nofun, fun _ => rfl, nofun⟩
  | signals here =>
      have begun := started (by rw [here]; nofun)
      exact ⟨by simpa [here, MainAt.worker] using accounts,
        by simp [State.script, State.outcomes, lines, here], fun _ => begun,
        not_quiet rfl begun, fun _ _ => ⟨rfl, silent here⟩, nofun, nofun⟩
  | finishes here none_left =>
      have begun := started (by rw [here]; nofun)
      exact ⟨by simpa [here, State.log, MainAt.worker] using accounts,
        by simp [State.log, State.script, State.outcomes, lines, here, begun], fun _ => begun,
        not_quiet rfl begun, fun _ => stopped (by rw [here]; rfl), nofun, fun _ _ => none_left⟩
  | takes here first =>
      have begun := started (by rw [here]; nofun)
      exact ⟨by simpa [here, first, MainAt.worker] using accounts,
        by simp [State.script, State.outcomes, lines, here], fun _ => begun,
        not_quiet rfl begun, fun _ => stopped (by rw [here]; rfl), nofun, nofun⟩
  | judges here => exact orderly.judge (by rw [here]; rfl) _
  | detaches here => exact orderly.judge (by rw [here]; rfl) _
  | unfinished here => exact orderly.stay (by rw [here]; rfl) rfl
  | looks here => exact orderly.stay (by rw [here]; rfl) rfl
  | unparks here => exact orderly.stay (by rw [here]; rfl) rfl
  | resumes here => exact orderly.stay (by rw [here]; rfl) rfl

end

/-! ## It takes bounded time -/

def pauses (span : Nat) : Nat :=
  (span + (fromMillis shutdownPollMs - 1)) / fromMillis shutdownPollMs

theorem pauses_mono {span longer : Nat} (le : span ≤ longer) : pauses span ≤ pauses longer :=
  Nat.div_le_div_right (Nat.add_le_add_right le _)

theorem pauses_after {span : Nat} (positive : 0 < span) :
    pauses (span - min span (fromMillis shutdownPollMs)) + 1 ≤ pauses span := by
  simp only [pauses, fromMillis, shutdownPollMs]
  omega

def Action.works : Action → Bool
  | .elapse _ | .thread _ _ | .stop | .call => false
  | _ => true

def Registered.turns (worker : Registered) : Nat := 3 + 4 * pauses worker.timeout

/-- The steps of its own the main thread can still take. -/
def State.turnsLeft (state : State) : Nat :=
  (match state.main with
  | .elsewhere => if state.shutdownStarted then 0 else 3
  | .closing => 3
  | .signalling => 2
  | .draining => 1
  | .polling _ deadline => 3 + 4 * pauses (deadline - state.clock)
  | .timing _ deadline => 2 + 4 * pauses (deadline - state.clock)
  | .waking _ deadline now => 1 + 4 * pauses (deadline - now)
  | .sleeping _ deadline wakes => 4 + 4 * pauses (deadline - wakes)) +
    (state.registered.map Registered.turns).sum

def State.sleepLeft (state : State) : Nat :=
  (match state.main with
  | .polling _ deadline | .timing _ deadline => deadline - state.clock
  | .waking _ deadline now => deadline - now
  | .sleeping _ deadline wakes => deadline - wakes
  | _ => 0) + (state.registered.map Registered.timeout).sum

/-- The grace periods that have passed in full. -/
def detached (ended : List (Registered × JoinOutcome)) : Nat :=
  (ended.map fun entry => if entry.2 = .timedOut then entry.1.timeout else 0).sum

def MainAt.deadline : MainAt → Nat
  | .polling _ deadline | .timing _ deadline | .waking _ deadline _ | .sleeping _ deadline _ =>
      deadline
  | _ => 0

structure InTime (start : Nat) (state : State) : Prop where
  ahead : ∀ worker deadline now, state.main = .waking worker deadline now →
    now < deadline ∧ now ≤ state.clock
  awake : ∀ worker deadline wakes, state.main = .sleeping worker deadline wakes →
    wakes ≤ state.clock + fromMillis shutdownPollMs
  passed : start + detached state.ended ≤ state.clock
  due : ∀ worker, state.main.worker = some worker →
    start + detached state.ended + worker.timeout ≤ state.main.deadline

/-- What a worker has been granted since a time at which its turn had not come. -/
structure Granted (since : Nat) (worker : Registered) (state : State) : Prop where
  ahead : since ≤ state.clock
  due : state.main.worker = some worker → since + worker.timeout ≤ state.main.deadline
  detached : (worker, .timedOut) ∈ state.ended → since + worker.timeout ≤ state.clock

section
variable {state next : State} {action : Action} {workers : List Registered} {start : Nat}

theorem detached_snoc (ended : List (Registered × JoinOutcome)) (worker : Registered)
    (outcome : JoinOutcome) : detached (ended ++ [(worker, outcome)]) =
      detached ended + if outcome = .timedOut then worker.timeout else 0 := by
  simp [detached]

theorem inTime_judge {worker : Registered} {outcome : JoinOutcome}
    (passed : start + detached (state.ended ++ [(worker, outcome)]) ≤ state.clock) :
    InTime start (state.judge worker outcome) :=
  ⟨nofun, nofun, passed, nofun⟩

theorem not_timedOut_of_ended {thread : Thread} {outcome : JoinOutcome}
    (ended : thread.ended = some outcome) : outcome ≠ .timedOut := by
  rintro rfl
  cases thread <;> simp [Thread.ended] at ended

theorem InTime.step (timely : InTime start state) (moves : Moves state action next) :
    InTime start next := by
  have ⟨ahead, awake, passed, due⟩ := timely
  cases moves with
  | elapses span =>
      refine ⟨?_, ?_, passed.trans (Nat.le_add_right _ _), due⟩
      · intro worker deadline now here
        exact ⟨(ahead worker deadline now here).1,
          (ahead worker deadline now here).2.trans (Nat.le_add_right _ _)⟩
      · intro worker deadline wakes here
        exact (awake worker deadline wakes here).trans
          (Nat.add_le_add_right (Nat.le_add_right _ _) _)
  | thread | stops => exact ⟨ahead, awake, passed, due⟩
  | again => exact timely
  | begins | closes | signals | finishes => exact ⟨nofun, nofun, passed, nofun⟩
  | @takes worker rest here first =>
      refine ⟨nofun, nofun, passed, ?_⟩
      intro other same
      cases same
      exact Nat.add_le_add_right passed _
  | @judges worker deadline outcome here ended =>
      apply inTime_judge
      rw [detached_snoc, if_neg (not_timedOut_of_ended ended)]
      exact passed
  | @detaches worker deadline here late =>
      apply inTime_judge
      have promised := due worker (by rw [here]; rfl)
      rw [here] at promised
      rw [detached_snoc, if_pos rfl, ← Nat.add_assoc]
      exact promised.trans late
  | unfinished here => exact ⟨nofun, nofun, passed, by rw [here] at due; exact due⟩
  | @looks worker deadline here early =>
      refine ⟨?_, nofun, passed, by rw [here] at due; exact due⟩
      intro other later now same
      cases same
      exact ⟨early, le_rfl⟩
  | @unparks worker deadline now here =>
      refine ⟨nofun, ?_, passed, by rw [here] at due; exact due⟩
      intro other later wakes same
      cases same
      exact Nat.add_le_add_left (min_le_right _ _) _
  | resumes here => exact ⟨nofun, nofun, passed, by rw [here] at due; exact due⟩

theorem Granted.judge {since : Nat} {worker other : Registered} {outcome : JoinOutcome}
    (granted : Granted since worker state)
    (late : other = worker → outcome = .timedOut → since + worker.timeout ≤ state.clock) :
    Granted since worker (state.judge other outcome) := by
  refine ⟨granted.ahead, nofun, fun member => ?_⟩
  rcases List.mem_append.mp member with earlier | now
  · exact granted.detached earlier
  · cases List.mem_singleton.mp now
    exact late rfl rfl

theorem Granted.step {since : Nat} {worker : Registered} (granted : Granted since worker state)
    (moves : Moves state action next) : Granted since worker next := by
  have ⟨ahead, due, detached⟩ := granted
  cases moves with
  | elapses span =>
      exact ⟨ahead.trans (Nat.le_add_right _ _), due,
        fun member => (detached member).trans (Nat.le_add_right _ _)⟩
  | thread | stops => exact ⟨ahead, due, detached⟩
  | again => exact granted
  | begins | closes | signals | finishes => exact ⟨ahead, nofun, detached⟩
  | takes here first =>
      refine ⟨ahead, ?_, detached⟩
      rintro ⟨⟩
      exact Nat.add_le_add_right ahead _
  | judges here ended =>
      exact granted.judge fun _ late => absurd late (not_timedOut_of_ended ended)
  | @detaches other deadline here late =>
      refine granted.judge fun same _ => ?_
      subst same
      have promised := due (by rw [here]; rfl)
      rw [here] at promised
      exact promised.trans late
  | unfinished here | looks here | unparks here | resumes here =>
      rw [here] at due
      exact ⟨ahead, due, detached⟩

theorem spent (orderly : Orderly workers state) (timely : InTime start state) (moves : Moves state action next) :
    (if action.works then 1 else 0) + next.turnsLeft ≤ state.turnsLeft ∧
      next.slept + next.sleepLeft ≤ state.slept + state.sleepLeft := by
  cases moves with
  | elapses span =>
      have sooner (deadline : Nat) : deadline - (state.clock + span) ≤ deadline - state.clock :=
        Nat.sub_le_sub_left (Nat.le_add_right _ _) _
      have fewer (deadline : Nat) := pauses_mono (sooner deadline)
      cases here : state.main with
      | polling worker deadline | timing worker deadline =>
          have := sooner deadline
          have := fewer deadline
          constructor <;> simp [State.turnsLeft, State.sleepLeft, Action.works, here] <;> omega
      | _ => simp [State.turnsLeft, State.sleepLeft, Action.works, here]
  | thread | stops | again => simp [State.turnsLeft, State.sleepLeft, Action.works]
  | begins here fresh =>
      simp [State.turnsLeft, State.sleepLeft, Action.works, State.log, here, fresh]
  | closes here | signals here =>
      constructor
      · simp only [State.turnsLeft, Action.works, State.log, here, if_true]
        omega
      · simp [State.sleepLeft, State.log, here]
  | finishes here none_left =>
      have begun := orderly.started (by rw [here]; nofun)
      simp [State.turnsLeft, State.sleepLeft, Action.works, State.log, here, none_left, begun]
  | @takes worker rest here first =>
      constructor
      · simp only [State.turnsLeft, Action.works, here, first, Registered.turns, if_true,
          List.map_cons, List.sum_cons, Nat.add_sub_cancel_left]
        omega
      · simp [State.sleepLeft, here, first]
  | judges here | detaches here =>
      constructor
      · simp only [State.turnsLeft, Action.works, State.judge, State.log, here, if_true]
        omega
      · simp only [State.sleepLeft, State.judge, State.log, here]
        omega
  | unfinished here | looks here =>
      constructor
      · simp only [State.turnsLeft, Action.works, here, if_true]
        omega
      · simp only [State.sleepLeft, here, le_refl]
  | @unparks worker deadline now here =>
      obtain ⟨early, seen⟩ := timely.ahead worker deadline now here
      have less := pauses_after (Nat.sub_pos_of_lt early)
      have shorter : deadline - (state.clock + min (deadline - now) (fromMillis shutdownPollMs)) ≤
          deadline - now - min (deadline - now) (fromMillis shutdownPollMs) := by omega
      have fewer := pauses_mono shorter
      constructor
      · simp only [State.turnsLeft, Action.works, State.unpark, here, if_true]
        omega
      · simp only [State.sleepLeft, State.unpark, here]
        omega
  | @resumes worker deadline wakes here slept =>
      have shorter : deadline - state.clock ≤ deadline - wakes := Nat.sub_le_sub_left slept _
      have fewer := pauses_mono shorter
      constructor
      · simp only [State.turnsLeft, Action.works, here, if_true]
        omega
      · simp only [State.sleepLeft, here]
        omega

end

/-! ## What is told of a worker is so -/

theorem Thread.step_ended {thread : Thread} {outcome : JoinOutcome}
    (ended : thread.ended = some outcome) (keepRunning : Bool) (action : ThreadAction) :
    thread.step keepRunning action = none := by
  cases thread with
  | running => cases ended
  | returned | panicked => cases action <;> rfl
  | holding waiter =>
      have left : waiter.position = .left := by
        simp only [Thread.ended] at ended
        split_ifs at ended with left
        exact left
      cases action with
      | returns | panics => rfl
      | waiter action => cases action <;> simp [Thread.step, Waiter.step, left]

@[simp] theorem Thread.ended_unpark (thread : Thread) : thread.unpark.ended = thread.ended := by
  cases thread <;> rfl

/-- What has become of the workers since an earlier state of the run. -/
structure Truthful (earlier state : State) : Prop where
  stays : ∀ handle outcome, (earlier.threads handle).ended = some outcome →
    (state.threads handle).ended = some outcome
  overdue : ∀ worker, (worker, .timedOut) ∈ state.ended → (worker, .timedOut) ∈ earlier.ended ∨
    (earlier.threads worker.handle).ended = none ∨ ∃ deadline, earlier.main = .timing worker deadline
  looked : ∀ worker deadline, state.main = .timing worker deadline →
    (earlier.threads worker.handle).ended = none ∨ ∃ deadline, earlier.main = .timing worker deadline

def Told (state : State) : Prop :=
  ∀ worker outcome, (worker, outcome) ∈ state.ended → outcome ≠ .timedOut →
    (state.threads worker.handle).ended = some outcome

section
variable {earlier state next : State} {action : Action}

theorem ended_stays (moves : Moves state action next) {handle : Nat} {outcome : JoinOutcome}
    (ended : (state.threads handle).ended = some outcome) :
    (next.threads handle).ended = some outcome := by
  cases moves with
  | @thread other act thread moved =>
      by_cases same : handle = other
      · subst same
        rw [Thread.step_ended ended] at moved
        cases moved
      · simpa [Function.update_of_ne same] using ended
  | @unparks worker deadline now here =>
      by_cases same : handle = worker.handle
      · subst same
        simpa [State.unpark] using ended
      · simpa [State.unpark, Function.update_of_ne same] using ended
  | elapses | stops | again | begins | closes | signals | finishes | takes | judges | unfinished
  | detaches | looks | resumes => exact ended

theorem ended_of_moves (moves : Moves state action next) : next.ended = state.ended ∨
    ∃ worker outcome, next.ended = state.ended ++ [(worker, outcome)] ∧
      ((state.threads worker.handle).ended = some outcome ∨
        outcome = .timedOut ∧ ∃ deadline, state.main = .timing worker deadline) := by
  cases moves with
  | @judges worker deadline outcome here ended => exact .inr ⟨worker, outcome, rfl, .inl ended⟩
  | @detaches worker deadline here late =>
      exact .inr ⟨worker, .timedOut, rfl, .inr ⟨rfl, deadline, here⟩⟩
  | elapses | thread | stops | again | begins | closes | signals | finishes | takes | unfinished
  | looks | unparks | resumes => exact .inl rfl

theorem told_step (told : Told state) (moves : Moves state action next) : Told next := by
  intro worker outcome member ontime
  have before : (worker, outcome) ∈ state.ended →
      (next.threads worker.handle).ended = some outcome :=
    fun known => ended_stays moves (told worker outcome known ontime)
  rcases ended_of_moves moves with same | ⟨other, verdict, more, true_of⟩
  · exact before (same ▸ member)
  · rw [more] at member
    rcases List.mem_append.mp member with known | new
    · exact before known
    · cases List.mem_singleton.mp new
      exact ended_stays moves (true_of.resolve_right fun late => ontime late.1)

theorem Truthful.step (truthful : Truthful earlier state) (moves : Moves state action next) :
    Truthful earlier next := by
  constructor
  · exact fun handle outcome ended => ended_stays moves (truthful.stays handle outcome ended)
  · intro worker member
    rcases ended_of_moves moves with same | ⟨other, verdict, more, true_of⟩
    · exact truthful.overdue worker (same ▸ member)
    · rw [more] at member
      rcases List.mem_append.mp member with known | new
      · exact truthful.overdue worker known
      · cases List.mem_singleton.mp new
        obtain ⟨_, deadline, here⟩ :=
          true_of.resolve_left fun ended => not_timedOut_of_ended ended rfl
        exact .inr (truthful.looked worker deadline here)
  · intro worker deadline here
    cases moves with
    | @unfinished other later before runs =>
        cases here
        left
        cases ended : (earlier.threads worker.handle).ended with
        | none => rfl
        | some outcome =>
            rw [truthful.stays worker.handle outcome ended] at runs
            cases runs
    | elapses | thread | stops | again => exact truthful.looked worker deadline here
    | begins | closes | signals | finishes | takes | judges | detaches | looks | unparks
    | resumes => cases here

theorem truthful_refl (state : State) : Truthful state state :=
  ⟨fun _ _ ended => ended, fun _ => .inl, fun _ deadline here => .inr ⟨deadline, here⟩⟩

end

/-! ## Shutdown -/

theorem goes_on {state : State} {start : Nat} (timely : InTime start state)
    (busy : state.main ≠ .elsewhere) : ∃ action, action.works = true ∧
      (step { state with clock := state.clock + fromMillis shutdownPollMs } action).isSome := by
  cases here : state.main with
  | elsewhere => exact absurd here busy
  | closing => exact ⟨.close, rfl, rfl⟩
  | signalling => exact ⟨.signal, rfl, rfl⟩
  | draining => exact ⟨.next, rfl, rfl⟩
  | polling => exact ⟨.poll, rfl, rfl⟩
  | timing => exact ⟨.time, rfl, rfl⟩
  | waking => exact ⟨.unpark, rfl, rfl⟩
  | sleeping worker deadline wakes =>
      exact ⟨.resume, rfl, by simp [step, timely.awake worker deadline wakes here]⟩

def State.record {Port : Type} (engine : Engine Port) (state : State) : Engine Port :=
  { engine with
    keepRunning := state.keepRunning
    stream := if state.stream then engine.stream else none
    registered := state.registered.map Registered.kind
    ended := engine.ended ++ state.ended.map fun entry => (entry.1.kind, entry.2) }

theorem map_lookup {pairs : List (WorkerKind × JoinOutcome)}
    (distinct : (pairs.map Prod.fst).Nodup) : (pairs.map Prod.fst).map
      (fun kind => (kind, (pairs.lookup kind).getD .joined)) = pairs := by
  induction pairs with
  | nil => rfl
  | cons pair rest ih =>
      obtain ⟨fresh, later⟩ := List.nodup_cons.mp distinct
      rw [List.map_cons, List.map_cons, List.lookup_cons_self, Option.getD_some]
      congr 1
      refine Eq.trans (List.map_congr_left fun kind member => ?_) (ih later)
      have apart : (kind == pair.1) = false := by
        rw [beq_eq_false_iff_ne]
        rintro rfl
        exact fresh member
      rw [List.lookup_cons, apart]

theorem record_eq_shutdown {Port : Type} (host : Host Port) {engine : Engine Port} {state : State}
    (distinct : engine.registered.Nodup)
    (orderly : Orderly (State.new engine 0 state.threads).registered state)
    (here : state.main = .elsewhere) (started : state.shutdownStarted = true) :
    ∃ join, state.record engine = engine.shutdown { host with join } := by
  have none_left := orderly.emptied here started
  obtain ⟨cleared, closed⟩ := orderly.stopped (by rw [here]; rfl) started
  let pairs := state.ended.map fun entry => (entry.1.kind, entry.2)
  have kinds : pairs.map Prod.fst = engine.registered := by
    have accounts := congrArg (List.map Registered.kind) orderly.accounts
    simpa [pairs, State.new, here, none_left, MainAt.worker, Function.comp_def] using accounts
  refine ⟨fun kind => (pairs.lookup kind).getD .joined, ?_⟩
  have answers := map_lookup (kinds.symm ▸ distinct)
  rw [kinds] at answers
  rw [Engine.shutdown, Engine.shutdownWorkers, State.record, none_left, cleared, closed]
  simp only [answers]
  rfl

structure Sound (workers : List Registered) (start : State) (schedule : List Action)
    (state : State) : Prop where
  orderly : Orderly workers state
  timely : InTime start.clock state
  turns : schedule.countP Action.works + state.turnsLeft ≤ start.turnsLeft
  sleep : state.slept + state.sleepLeft ≤ start.slept + start.sleepLeft
  told : Told state

section
variable {Port : Type} {engine : Engine Port} {clock : Nat} {threads : Nat → Thread}
  {schedule : List Action} {last : State}

theorem sound_of_run (run : exec step (.new engine clock threads) schedule = some last) :
    Sound (State.new engine clock threads).registered (.new engine clock threads) schedule last := by
  refine exec_induction (motive := Sound (State.new engine clock threads).registered
    (.new engine clock threads)) ?_ ?_ schedule last run
  · refine ⟨⟨rfl, rfl, nofun, fun _ => rfl, nofun, nofun, nofun⟩,
      ⟨nofun, nofun, le_rfl, nofun⟩, ?_, le_rfl, nofun⟩
    rw [List.countP_nil, Nat.zero_add]
  · intro before state action next _ sound moved
    have moves := moves_of_step moved
    obtain ⟨paid, slept⟩ := spent sound.orderly sound.timely moves
    refine ⟨sound.orderly.step moves, sound.timely.step moves, ?_, slept.trans sound.sleep,
      told_step sound.told moves⟩
    have turns := sound.turns
    rw [List.countP_append, List.countP_singleton]
    omega

theorem truthful_of_run {earlier : State} (run : exec step earlier schedule = some last) :
    Truthful earlier last :=
  exec_invariant (truthful_refl earlier)
    (fun _ _ _ truthful moved => truthful.step (moves_of_step moved)) run

/-- A worker whose turn has not come is granted its grace period from here on. -/
theorem granted_of_run {workers : List Registered} {early late : State} {within : List Action}
    (distinct : workers.Nodup) (orderly : Orderly workers early) {worker : Registered}
    (waiting : worker ∈ early.registered) (run : exec step early within = some late) :
    Granted early.clock worker late := by
  have apart := orderly.accounts ▸ distinct
  have fresh : worker ∉ early.ended.map Prod.fst := fun member =>
    (List.nodup_append.mp apart).2.2 worker member worker (List.mem_append_right _ waiting) rfl
  have turn : early.main.worker ≠ some worker := by
    intro taken
    have later := (List.nodup_append.mp (List.nodup_append.mp apart).2.1).2.2
    exact later worker (Option.mem_toList.mpr taken) worker waiting rfl
  refine exec_invariant (motive := Granted early.clock worker) ⟨le_rfl, ?_, ?_⟩
    (fun _ _ _ granted moved => granted.step (moves_of_step moved)) run
  · exact fun taken => absurd taken turn
  · exact fun member => absurd (List.mem_map_of_mem (f := Prod.fst) member) fresh

theorem sum_of_kinds (engine : Engine Port) (clock : Nat) (threads : Nat → Thread)
    (cost : WorkerKind → Nat) :
    ((State.new engine clock threads).registered.map fun worker => cost worker.kind).sum =
      (engine.registered.map cost).sum := by
  have kinds : (State.new engine clock threads).registered.map Registered.kind =
      engine.registered := by
    simp [State.new, Function.comp_def]
  rw [← kinds, List.map_map]
  rfl

end

structure WaitsInOrder {Port : Type} (host : Host Port) (config : AppConfig) (engine : Engine Port)
    (start : State) (schedule : List Action) (last : State) : Prop where
  order : (last.ended.map Prod.fst ++ (last.main.worker.toList ++ last.registered)).map
    Registered.kind = roster config
  lines : last.lines = last.script
  turns : schedule.countP Action.works ≤
    3 + ((roster config).map fun kind => 3 + 4 * pauses (spec kind).timeout).sum
  sleep : last.slept ≤ ((roster config).map fun kind => (spec kind).timeout).sum
  passed : start.clock + detached last.ended ≤ last.clock
  grace : ∀ before within after early late, schedule = before ++ (within ++ after) →
    exec step start before = some early → exec step early within = some late →
    ∀ worker ∈ early.registered, (worker, .timedOut) ∈ late.ended →
    early.clock + worker.timeout ≤ late.clock
  told : Told last
  /-- Only a worker that ends between the last look and the reading of the clock is missed. -/
  overdue : ∀ before after middle, schedule = before ++ after →
    exec step start before = some middle → ∀ worker, (worker, .timedOut) ∈ last.ended →
    (worker, .timedOut) ∈ middle.ended ∨ (middle.threads worker.handle).ended = none ∨
      ∃ deadline, middle.main = .timing worker deadline
  goes_on : last.main ≠ .elsewhere → ∃ action, action.works = true ∧
    (step { last with clock := last.clock + fromMillis shutdownPollMs } action).isSome
  refines : last.main = .elsewhere → last.shutdownStarted = true →
    ∃ join, last.record engine = engine.shutdown { host with join }

theorem shutdown_waits_in_order {Port : Type} {host : Host Port} {config : AppConfig}
    {bootstrapped : Bootstrapped} {engine : Engine Port}
    (booted : bootstrap host config {} = (.ok bootstrapped, engine)) (clock : Nat)
    (threads : Nat → Thread) {schedule : List Action} {last : State}
    (run : exec step (.new engine clock threads) schedule = some last) :
    WaitsInOrder host config engine (.new engine clock threads) schedule last := by
  have registered : engine.registered = roster config := by
    simpa using (registers_bootstrap config {} bootstrapped engine booted).2
  have sound := sound_of_run run
  have turns := sum_of_kinds engine clock threads fun kind => 3 + 4 * pauses (spec kind).timeout
  have sleep := sum_of_kinds engine clock threads fun kind => (spec kind).timeout
  rw [registered] at turns sleep
  constructor
  · rw [sound.orderly.accounts, ← registered]
    simp [State.new, Function.comp_def]
  · exact sound.orderly.lines
  · rw [← turns]
    exact le_of_add_le_left sound.turns
  · rw [← sleep]
    refine le_trans (le_of_add_le_left sound.sleep) (le_of_eq ?_)
    show 0 + (0 + _) = _
    rw [Nat.zero_add, Nat.zero_add]
    rfl
  · exact sound.timely.passed
  · intro before within after early late _ reached later worker waiting detached
    have distinct : (State.new engine clock threads).registered.Nodup := by
      refine List.Nodup.of_map Registered.kind ?_
      simpa [State.new, Function.comp_def, registered] using roster_nodup config
    have orderly := (sound_of_run reached).orderly
    exact (granted_of_run distinct orderly waiting later).detached detached
  · exact sound.told
  · intro before after middle split reached worker detached
    subst split
    rw [exec_append, reached] at run
    exact (truthful_of_run run).overdue worker detached
  · exact goes_on sound.timely
  · intro here started
    exact record_eq_shutdown host (registered.symm ▸ roster_nodup config) sound.orderly here started

def deskHost : Host String where
  platform := defaultPlatform
  toLowercase := id
  inputDevices := .ok []
  displayFormat := id
  playStream _ := .ok ()
  midiPorts := .ok ["Loopback"]
  portName := some
  connectPort _ := .ok ()
  design := Dsp.steadyDesign
  bindWebSocket addr := .ok addr
  encodeOsc _ := .ok []
  openUdp _ _ := .ok ()
  pageSize := 16384
  grantsMapping := true
  mappingError := ""
  displays := ⟨fun _ => "", fun _ => ""⟩
  join _ := .joined

def deskConfig : AppConfig where
  outputs := ⟨[.osc ⟨.v4 0x7F000001, 9000⟩], by decide, by decide⟩
  input := .calibration (.fixedTone ⟨0x43DC0000⟩)
  midiInput := some (.device "Loopback")
  vocoderConfig := .default

def deskEngine : Engine String := (bootstrap deskHost deskConfig {}).2

def deskThreads (handle : Nat) : Thread :=
  if handle = 3 then .holding ⟨.parking, false⟩ else .running

/-- The analyser outlives its grace period and the mapper panics. -/
def deskShutdown : List Action :=
  [.call, .close, .signal, .next, .poll, .time, .unpark, .thread 0 .returns, .elapse 10000000,
    .resume, .poll, .next, .poll, .elapse 1000000000, .time, .next, .thread 2 .panics, .poll,
    .next, .poll, .time]

def deskWake : List Action :=
  [.unpark, .thread 3 (.waiter .park), .thread 3 (.waiter .check), .elapse 10000000, .resume,
    .poll, .next, .thread 4 .returns, .poll, .next, .call]

theorem desk_shuts_down : ∃ bootstrapped last,
    bootstrap deskHost deskConfig {} = (.ok bootstrapped, deskEngine) ∧
    exec step (.new deskEngine 0 deskThreads) (deskShutdown ++ deskWake) = some last ∧
    last.ended = [(⟨.generator, 0⟩, .joined), (⟨.analyser, 1⟩, .timedOut), (⟨.mapper, 2⟩, .panicked),
      (⟨.midiInput, 3⟩, .joined), (⟨.osc, 4⟩, .joined)] ∧
    WaitsInOrder deskHost deskConfig deskEngine (.new deskEngine 0 deskThreads)
      (deskShutdown ++ deskWake) last := by
  have reached : (exec step (.new deskEngine 0 deskThreads) (deskShutdown ++ deskWake)).map
      State.ended = some [(⟨.generator, 0⟩, .joined), (⟨.analyser, 1⟩, .timedOut),
        (⟨.mapper, 2⟩, .panicked), (⟨.midiInput, 3⟩, .joined), (⟨.osc, 4⟩, .joined)] := by
    decide +kernel
  have starts : (bootstrap deskHost deskConfig {}).1.isOk = true := by decide +kernel
  obtain ⟨last, run, ended⟩ := Option.map_eq_some_iff.mp reached
  obtain ⟨bootstrapped, booted⟩ := Attempt.run_ok starts
  exact ⟨bootstrapped, last, booted, run, ended,
    shutdown_waits_in_order booted 0 deskThreads run⟩

/-! ## The wake-up of a parked holder -/

def Action.turnOf (handle : Nat) : Action → Bool
  | .thread other _ => other = handle
  | _ => false

/-- Where a holder is after some turns of its own, with an unpark that came after the signal. -/
structure Roused (handle turns : Nat) (schedule : List Action) (state : State) : Prop where
  cleared : state.keepRunning = false
  holding : ∃ waiter, state.threads handle = .holding waiter ∧ waiter.Woken ∧
    schedule.countP (Action.turnOf handle) + waiter.turns = turns

section
variable {state next : State} {action : Action} {handle turns : Nat} {schedule : List Action}

theorem cleared_of_moves (cleared : state.keepRunning = false) (moves : Moves state action next) :
    next.keepRunning = false := by
  cases moves with
  | stops | signals => rfl
  | elapses | thread | again | begins | closes | finishes | takes | judges | unfinished | detaches
  | looks | unparks | resumes => exact cleared

theorem threads_unpark {worker : Registered} {waiter : Waiter} {deadline now : Nat}
    (holds : state.threads worker.handle = .holding waiter) :
    (state.unpark worker deadline now).threads worker.handle = .holding waiter.unpark := by
  show Function.update state.threads worker.handle _ worker.handle = _
  rw [Function.update_self, holds]
  rfl

theorem Roused.step (roused : Roused handle turns schedule state)
    (moves : Moves state action next) : Roused handle turns (schedule ++ [action]) next := by
  obtain ⟨waiter, holds, woken, counted⟩ := roused.holding
  have cleared := cleared_of_moves roused.cleared moves
  have other (same : next.threads handle = state.threads handle)
      (idle : action.turnOf handle = false) : Roused handle turns (schedule ++ [action]) next := by
    refine ⟨cleared, waiter, same.trans holds, woken, ?_⟩
    rw [List.countP_append, List.countP_singleton, idle]
    exact counted
  cases moves with
  | @thread index act thread moved =>
      by_cases same : handle = index
      · subst same
        rw [holds, roused.cleared] at moved
        cases act with
        | returns | panics => cases moved
        | waiter act =>
            obtain ⟨after, stepped, rfl⟩ := Option.map_eq_some_iff.mp moved
            obtain ⟨awake, fewer⟩ := Waiter.woken_step stepped
            refine ⟨cleared, after, Function.update_self .., awake, ?_⟩
            rw [List.countP_append, List.countP_singleton, Action.turnOf, decide_eq_true rfl]
            simp only [if_true]
            omega
      · exact other (Function.update_of_ne same ..) (decide_eq_false (Ne.symm same))
  | @unparks worker deadline now here =>
      by_cases same : handle = worker.handle
      · subst same
        refine ⟨cleared, waiter.unpark, threads_unpark holds, waiter.woken_unpark, ?_⟩
        rw [List.countP_append, waiter.turns_unpark]
        exact counted
      · exact other (Function.update_of_ne same ..) rfl
  | elapses | stops | again | begins | closes | signals | finishes | takes | judges | unfinished
  | detaches | looks | resumes => exact other rfl rfl

end

theorem signalled_before_unpark {Port : Type} {engine : Engine Port} {clock : Nat}
    {threads : Nat → Thread} {before : List Action} {middle : State}
    (reached : exec step (.new engine clock threads) before = some middle)
    {worker : Registered} {deadline now : Nat} (here : middle.main = .waking worker deadline now) :
    middle.keepRunning = false := by
  have orderly := (sound_of_run reached).orderly
  have started := orderly.started (by rw [here]; nofun)
  exact (orderly.stopped (by rw [here]; rfl) started).1

theorem one_unpark_is_enough {Port : Type} {engine : Engine Port} {clock : Nat}
    {threads : Nat → Thread} {before after : List Action} {middle last : State}
    (reached : exec step (.new engine clock threads) before = some middle)
    {worker : Registered} {deadline now : Nat} (here : middle.main = .waking worker deadline now)
    {waiter : Waiter} (holds : middle.threads worker.handle = .holding waiter)
    (run : exec step middle (.unpark :: after) = some last) :
    ∃ later, last.threads worker.handle = .holding later ∧
      after.countP (Action.turnOf worker.handle) + later.turns = waiter.turns ∧
      waiter.turns ≤ 2 ∧ (later.position = .left ∨ ∃ action,
        (step last (.thread worker.handle (.waiter action))).isSome) := by
  have cleared := signalled_before_unpark reached here
  obtain ⟨woken, moved, rest⟩ := Option.bind_eq_some_iff.mp run
  have start : Roused worker.handle waiter.turns [] woken := by
    rw [step, here] at moved
    cases moved
    refine ⟨cleared, waiter.unpark, threads_unpark holds, waiter.woken_unpark, ?_⟩
    rw [waiter.turns_unpark, List.countP_nil, Nat.zero_add]
  have roused := exec_induction (motive := Roused worker.handle waiter.turns) start
    (fun _ _ _ _ _ roused moved => roused.step (moves_of_step moved)) after last rest
  obtain ⟨later, still, awake, counted⟩ := roused.holding
  refine ⟨later, still, counted, waiter.turns_le, ?_⟩
  by_cases left : later.position = .left
  · exact .inl left
  · obtain ⟨action, next, stepped⟩ := awake.goes_on left last.keepRunning
    refine .inr ⟨action, ?_⟩
    rw [step, still, Thread.step, stepped]
    rfl

theorem parked_holder_leaves : ∃ middle last,
    exec step (.new deskEngine 0 deskThreads) deskShutdown = some middle ∧
    exec step middle deskWake = some last ∧ ∃ later, last.threads 3 = .holding later ∧
      2 + later.turns = 2 := by
  have reached : (exec step (.new deskEngine 0 deskThreads) deskShutdown).bind (fun middle =>
      (exec step middle deskWake).map fun _ => (middle.main, middle.threads 3)) =
        some (.waking ⟨.midiInput, 3⟩ 1260000000 1010000000, .holding ⟨.parking, false⟩) := by
    decide +kernel
  obtain ⟨middle, run, rest⟩ := Option.bind_eq_some_iff.mp reached
  obtain ⟨last, woken, shape⟩ := Option.map_eq_some_iff.mp rest
  obtain ⟨here, holds⟩ := Prod.mk.inj shape
  obtain ⟨later, still, counted, -, -⟩ := one_unpark_is_enough run here holds woken
  exact ⟨middle, last, run, woken, later, still, counted⟩

end Phase4.Worker
