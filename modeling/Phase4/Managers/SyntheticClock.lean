import Phase4.Config.Validate
import Phase4.Library.Pacing
import Phase4.Library.Schedule
import Phase4.Managers.MidiCounters

namespace Phase4.Managers.SyntheticClock
open Library Dsp Config

/-! ## The synthetic clock

The MIDI thread beside a clock that goes on, a mapper that takes transport events and whoever
clears `keep_running`. Times are in nanoseconds and do not overflow. -/

def midiPollIntervalMs : Nat := 10

def pollInterval : Nat := midiPollIntervalMs * 1000000

inductive ClockAt where
  | starting
  | scheduling
  | checking
  | timing
  | pausing
  | sleeping (wakes : Nat)
  | finished
deriving DecidableEq, Repr

/-- `began` is what the first deadline was counted from and `bytes` what has been recorded. -/
structure State where
  clock : Nat
  keepRunning : Bool
  position : ClockAt
  nextTick : Nat
  ticksSinceStep : BitVec 8
  cells : MidiCells
  began : Nat
  bytes : List (BitVec 8)
deriving DecidableEq

def State.new (clock : Nat) : State where
  clock
  keepRunning := true
  position := .starting
  nextTick := 0
  ticksSinceStep := 0
  cells := .new
  began := 0
  bytes := []

def State.record (byte : BitVec 8) (state : State) : State :=
  let recorded := (recordByte byte state.ticksSinceStep).run MidiOp.apply state.cells
  { state with
    ticksSinceStep := recorded.1
    cells := recorded.2
    bytes := state.bytes ++ [byte] }

def State.tick (interval : Nat) (state : State) : State :=
  { state.record midiStatusTimingClock with
    position := .pausing
    nextTick := state.nextTick + interval }

inductive Action where
  | elapse (span : Nat)
  | stop
  | swap
  | start
  | schedule
  | check
  | time
  | pause
  | resume
deriving DecidableEq, Repr

def step (interval : Nat) (state : State) : Action → Option State
  | .elapse span => some { state with clock := state.clock + span }
  | .stop => some { state with keepRunning := false }
  | .swap => some { state with cells := ((MidiOp.swapLast midiTransportNone).apply state.cells).2 }
  | .start =>
      if state.position = .starting then
        some { state.record midiStatusStart with position := .scheduling }
      else none
  | .schedule =>
      if state.position = .scheduling then
        some { state with
          position := .checking
          began := state.clock
          nextTick := state.clock + interval }
      else none
  | .check =>
      if state.position = .checking then
        some { state with position := if state.keepRunning then .timing else .finished }
      else none
  | .time =>
      if state.position = .timing then
        if state.nextTick ≤ state.clock then
          some (state.tick interval)
        else some { state with position := .pausing }
      else none
  | .pause =>
      if state.position = .pausing then
        some { state with
          position := .sleeping (state.clock + min (state.nextTick - state.clock) pollInterval) }
      else none
  | .resume =>
      match state.position with
      | .sleeping wakes =>
          if wakes ≤ state.clock then some { state with position := .checking } else none
      | _ => none

/-! ## What a step does -/

inductive Moves (interval : Nat) (state : State) : Action → State → Prop
  | elapses (span : Nat) :
      Moves interval state (.elapse span) { state with clock := state.clock + span }
  | stops : Moves interval state .stop { state with keepRunning := false }
  | swaps : Moves interval state .swap
      { state with cells := ((MidiOp.swapLast midiTransportNone).apply state.cells).2 }
  | starts (here : state.position = .starting) :
      Moves interval state .start { state.record midiStatusStart with position := .scheduling }
  | schedules (here : state.position = .scheduling) :
      Moves interval state .schedule { state with
        position := .checking
        began := state.clock
        nextTick := state.clock + interval }
  | goes (here : state.position = .checking) (runs : state.keepRunning = true) :
      Moves interval state .check { state with position := .timing }
  | ends (here : state.position = .checking) (stopped : state.keepRunning = false) :
      Moves interval state .check { state with position := .finished }
  | ticks (here : state.position = .timing) (due : state.nextTick ≤ state.clock) :
      Moves interval state .time (state.tick interval)
  | waits (here : state.position = .timing) (early : state.clock < state.nextTick) :
      Moves interval state .time { state with position := .pausing }
  | pauses (here : state.position = .pausing) :
      Moves interval state .pause { state with
        position := .sleeping (state.clock + min (state.nextTick - state.clock) pollInterval) }
  | resumes {wakes : Nat} (here : state.position = .sleeping wakes) (slept : wakes ≤ state.clock) :
      Moves interval state .resume { state with position := .checking }

section
variable {interval : Nat} {state next : State} {action : Action}

theorem moves_of_step (moved : step interval state action = some next) :
    Moves interval state action next := by
  cases action with
  | elapse span =>
      cases moved
      exact .elapses span
  | stop =>
      cases moved
      exact .stops
  | swap =>
      cases moved
      exact .swaps
  | start =>
      simp only [step] at moved
      split_ifs at moved with here
      cases moved
      exact .starts here
  | schedule =>
      simp only [step] at moved
      split_ifs at moved with here
      cases moved
      exact .schedules here
  | check =>
      simp only [step] at moved
      split_ifs at moved with here runs
      all_goals cases moved
      · exact .goes here runs
      · exact .ends here (Bool.eq_false_of_not_eq_true runs)
  | time =>
      simp only [step] at moved
      split_ifs at moved with here due
      all_goals cases moved
      · exact .ticks here due
      · exact .waits here (Nat.lt_of_not_le due)
  | pause =>
      simp only [step] at moved
      split_ifs at moved with here
      cases moved
      exact .pauses here
  | resume =>
      cases here : state.position with
      | sleeping wakes =>
          simp only [step, here] at moved
          split_ifs at moved with slept
          cases moved
          exact .resumes here slept
      | _ => simp [step, here] at moved

end

/-! ## The bytes it records -/

def ClockAt.begun : ClockAt → Bool
  | .starting | .scheduling => false
  | _ => true

namespace State

def ticks (state : State) : Nat := clocks state.bytes

def pace (interval : Nat) (state : State) : Pace := ⟨state.began, interval, state.ticks⟩

end State

structure Timed (interval : Nat) (state : State) : Prop where
  counts : Counts state.bytes (state.ticksSinceStep, state.cells)
  silent : state.position = .starting → state.bytes = []
  recorded : state.position ≠ .starting →
    state.bytes = midiStatusStart :: List.replicate state.ticks midiStatusTimingClock
  unset : state.position.begun = false → state.ticks = 0
  deadline : state.position.begun = true → state.nextTick = (state.pace interval).deadline
  kept : state.position.begun = true → (state.pace interval).Kept state.clock
  asleep : ∀ wakes, state.position = .sleeping wakes →
    wakes ≤ max state.nextTick state.clock ∧ wakes ≤ state.clock + pollInterval

section
variable {interval : Nat} {state next : State} {action : Action}

theorem timed_new (interval clock : Nat) : Timed interval (.new clock) := by
  have nothing : Counts [] (0, .new) := ⟨by decide, by decide, rfl, rfl⟩
  exact ⟨nothing, fun _ => rfl, fun other => absurd rfl other, fun _ => rfl, nofun, nofun, nofun⟩

theorem Timed.move (timed : Timed interval state) {position : ClockAt}
    (begun : state.position.begun = true) (there : position.begun = true)
    (asleep : ∀ wakes, position = .sleeping wakes →
      wakes ≤ max state.nextTick state.clock ∧ wakes ≤ state.clock + pollInterval) :
    Timed interval { state with position } := by
  have started : state.position ≠ .starting := by
    intro here
    rw [here] at begun
    cases begun
  refine ⟨timed.counts, ?_, fun _ => timed.recorded started, ?_, fun _ => timed.deadline begun,
    fun _ => timed.kept begun, asleep⟩
  · rintro rfl
    cases there
  · intro early
    cases early.symm.trans there

theorem ticks_tick (interval : Nat) (state : State) :
    (state.tick interval).ticks = state.ticks + 1 := clocks_clock state.bytes

theorem pace_tick (interval : Nat) (state : State) :
    (state.tick interval).pace interval = (state.pace interval).beat :=
  congrArg (Pace.mk _ _) (ticks_tick interval state)

theorem Timed.tick (timed : Timed interval state) (here : state.position = .timing)
    (due : state.nextTick ≤ state.clock) : Timed interval (state.tick interval) := by
  have begun : state.position.begun = true := by rw [here]; rfl
  have deadline := timed.deadline begun
  refine ⟨counts_snoc timed.counts _, nofun, fun _ => ?_, nofun, fun _ => ?_, fun _ => ?_, nofun⟩
  · rw [ticks_tick, List.replicate_succ', ← List.cons_append]
    exact congrArg (· ++ _) (timed.recorded (by rw [here]; nofun))
  · rw [pace_tick, Pace.deadline_beat, ← deadline]
    rfl
  · rw [pace_tick]
    exact Pace.kept_beat (deadline ▸ due)

theorem Timed.step (timed : Timed interval state) (moves : Moves interval state action next) :
    Timed interval next := by
  have ⟨counts, silent, recorded, unset, deadline, kept, asleep⟩ := timed
  cases moves with
  | elapses span =>
      refine ⟨counts, silent, recorded, unset, deadline, ?_, ?_⟩
      · exact fun begun => (kept begun).mono (Nat.le_add_right _ _)
      · intro wakes here
        obtain ⟨before, soon⟩ := asleep wakes here
        exact ⟨before.trans (max_le_max_left _ (Nat.le_add_right _ _)),
          soon.trans (Nat.add_le_add_right (Nat.le_add_right _ _) _)⟩
  | stops => exact ⟨counts, silent, recorded, unset, deadline, kept, asleep⟩
  | swaps =>
      exact ⟨⟨counts.steps, counts.ticks, counts.count, counts.latest⟩, silent, recorded, unset,
        deadline, kept, asleep⟩
  | starts here =>
      have fresh : clocks (state.bytes ++ [midiStatusStart]) = 0 := clocks_start state.bytes
      refine ⟨counts_snoc counts _, by rintro ⟨⟩, fun _ => ?_, fun _ => fresh, by rintro ⟨⟩,
        by rintro ⟨⟩, by rintro _ ⟨⟩⟩
      show state.bytes ++ [midiStatusStart] =
        midiStatusStart :: List.replicate (clocks (state.bytes ++ [midiStatusStart])) _
      rw [fresh, silent here]
      rfl
  | schedules here =>
      have none_yet := unset (by rw [here]; rfl)
      have pace : ({ state with
          position := .checking
          began := state.clock
          nextTick := state.clock + interval } : State).pace interval =
            ⟨state.clock, interval, 0⟩ := congrArg (Pace.mk _ _) none_yet
      refine ⟨counts, by rintro ⟨⟩, fun _ => recorded (by simp [here]), by rintro ⟨⟩, ?_, ?_,
        by rintro _ ⟨⟩⟩
      · intro _
        rw [pace, Pace.deadline, Nat.zero_add, Nat.one_mul]
      · intro _
        rw [pace]
        exact Pace.kept_new _ _
  | goes here => exact timed.move (by rw [here]; rfl) rfl (by rintro _ ⟨⟩)
  | ends here => exact timed.move (by rw [here]; rfl) rfl (by rintro _ ⟨⟩)
  | ticks here due => exact timed.tick here due
  | waits here => exact timed.move (by rw [here]; rfl) rfl (by rintro _ ⟨⟩)
  | pauses here =>
      apply timed.move (by rw [here]; rfl) rfl
      rintro wakes ⟨⟩
      refine ⟨?_, Nat.add_le_add_left (min_le_right _ _) _⟩
      omega
  | resumes here => exact timed.move (by rw [here]; rfl) rfl (by rintro _ ⟨⟩)

end

/-! ## It keeps time -/

theorem midiTickInterval_positive {platform : Platform} {bpm : F32} {interval : Nat}
    (configured : midiTickInterval platform bpm = .ok interval) : 0 < interval := by
  unfold midiTickInterval at configured
  split_ifs at configured
  split at configured
  · cases configured
  · rename_i found holds
    split_ifs at configured
    cases configured
    obtain ⟨_, nonzero⟩ := Option.filter_eq_some_iff.mp holds
    exact Nat.pos_of_ne_zero (of_decide_eq_true nonzero)

def Action.works : Action → Bool
  | .elapse _ | .stop | .swap => false
  | _ => true

structure Caught (interval : Nat) (earlier : State) (looks : Nat) (state : State) : Prop where
  begun : state.position.begun = true
  began : state.began = earlier.began
  forward : earlier.clock ≤ state.clock
  caught : min (earlier.ticks + looks) ((earlier.pace interval).due earlier.clock) ≤ state.ticks

def ClockAt.ticksLeft : ClockAt → Nat
  | .timing => 1
  | _ => 0

structure Stopped (earlier state : State) : Prop where
  cleared : state.keepRunning = false
  ticks : state.ticks + state.position.ticksLeft ≤ earlier.ticks + earlier.position.ticksLeft

section
variable {interval looks : Nat} {earlier state next : State} {action : Action}

theorem Caught.step (positive : 0 < interval) (timed : Timed interval state)
    (caught : Caught interval earlier looks state) (moves : Moves interval state action next) :
    Caught interval earlier (looks + if action = .time then 1 else 0) next := by
  have ⟨begun, began, forward, enough⟩ := caught
  cases moves with
  | elapses span => exact ⟨begun, began, forward.trans (Nat.le_add_right _ _), enough⟩
  | stops | swaps => exact ⟨begun, began, forward, enough⟩
  | starts here | schedules here =>
      rw [here] at begun
      cases begun
  | goes | ends | pauses | resumes => exact ⟨rfl, began, forward, enough⟩
  | ticks here due =>
      refine ⟨rfl, began, forward, ?_⟩
      rw [ticks_tick, if_pos rfl]
      omega
  | waits here early =>
      refine ⟨rfl, began, forward, (min_le_right _ _).trans ?_⟩
      have deadline := timed.deadline begun
      have level : (state.pace interval).due state.clock ≤ state.ticks :=
        Pace.due_le_of_early positive (deadline ▸ early)
      have later : (earlier.pace interval).due earlier.clock ≤
          (earlier.pace interval).due state.clock := Pace.due_mono _ forward
      have same : (earlier.pace interval).due state.clock = (state.pace interval).due state.clock := by
        simp only [Pace.due, State.pace, began]
      exact later.trans (same.trans_le level)

theorem Stopped.step (stopped : Stopped earlier state)
    (moves : Moves interval state action next) : Stopped earlier next := by
  have ⟨cleared, few⟩ := stopped
  cases moves with
  | elapses | swaps => exact ⟨cleared, few⟩
  | stops => exact ⟨rfl, few⟩
  | starts here =>
      refine ⟨cleared, le_trans ?_ few⟩
      have fresh : clocks (state.bytes ++ [midiStatusStart]) = 0 := clocks_start state.bytes
      show clocks (state.bytes ++ [midiStatusStart]) + 0 ≤ _
      omega
  | goes here runs => cases cleared.symm.trans runs
  | schedules here | ends here | resumes here | pauses here =>
      rw [here] at few
      exact ⟨cleared, few⟩
  | ticks here | waits here =>
      rw [here] at few
      refine ⟨cleared, ?_⟩
      first
        | rw [ticks_tick]; exact few
        | exact (Nat.le_succ _).trans few

theorem goes_on (timed : Timed interval state) (busy : state.position ≠ .finished) :
    ∃ action, action.works = true ∧
      (SyntheticClock.step interval { state with clock := state.clock + pollInterval }
        action).isSome := by
  cases here : state.position with
  | finished => exact absurd here busy
  | starting => exact ⟨.start, rfl, rfl⟩
  | scheduling => exact ⟨.schedule, rfl, rfl⟩
  | checking => exact ⟨.check, rfl, rfl⟩
  | timing =>
      refine ⟨.time, rfl, ?_⟩
      rw [SyntheticClock.step, if_pos rfl]
      split <;> rfl
  | pausing => exact ⟨.pause, rfl, rfl⟩
  | sleeping wakes =>
      exact ⟨.resume, rfl, by simp [SyntheticClock.step, (timed.asleep wakes here).2]⟩

end

structure KeepsTime (interval : Nat) (start : State) (schedule : List Action) (last : State) :
    Prop where
  bytes : last.position ≠ .starting →
    last.bytes = midiStatusStart :: List.replicate last.ticks midiStatusTimingClock
  steps : last.cells.midiSteps = BitVec.ofNat 32 (last.ticks / 6)
  transport : last.position ≠ .starting →
    last.cells.midiTransportCount = 1 ∧ last.cells.midiTransportLatest = midiTransportStart
  punctual : last.position.begun = true →
    last.nextTick = last.began + (last.ticks + 1) * interval ∧
      last.ticks ≤ (last.clock - last.began) / interval
  asleep : ∀ wakes, last.position = .sleeping wakes →
    wakes ≤ max last.nextTick last.clock ∧ wakes ≤ last.clock + pollInterval
  catches_up : ∀ before after middle, schedule = before ++ after →
    exec (step interval) start before = some middle → middle.position.begun = true →
    min (middle.ticks + after.count .time) ((middle.clock - middle.began) / interval) ≤ last.ticks
  stops : ∀ before after middle, schedule = before ++ after →
    exec (step interval) start before = some middle → middle.keepRunning = false →
    last.ticks ≤ middle.ticks + 1
  goes_on : last.position ≠ .finished → ∃ action, action.works = true ∧
    (step interval { last with clock := last.clock + pollInterval } action).isSome

section
variable {interval : Nat} {middle last : State} {after : List Action}

theorem events_of_ticks (ticks : Nat) :
    events (midiStatusStart :: List.replicate ticks midiStatusTimingClock) =
      [midiTransportStart] := by
  induction ticks with
  | zero => rfl
  | succ ticks ih =>
      rw [List.replicate_succ', ← List.cons_append, events_other _ rfl, ih]

theorem timed_of_run {clock : Nat} {schedule : List Action}
    (run : exec (step interval) (.new clock) schedule = some last) : Timed interval last :=
  exec_invariant (timed_new interval clock)
    (fun _ _ _ timed moved => timed.step (moves_of_step moved)) run

theorem caught_of_run (positive : 0 < interval) (timed : Timed interval middle)
    (begun : middle.position.begun = true) (run : exec (step interval) middle after = some last) :
    Caught interval middle (after.count .time) last := by
  refine (exec_induction (motive := fun actions state => Timed interval state ∧
    Caught interval middle (actions.count .time) state) ?_ ?_ after last run).2
  · exact ⟨timed, begun, rfl, le_rfl, min_le_left _ _⟩
  · intro before state action next _ known moved
    have moves := moves_of_step moved
    refine ⟨known.1.step moves, ?_⟩
    rw [List.count_append, List.count_singleton]
    simpa using known.2.step positive known.1 moves

theorem stopped_of_run (cleared : middle.keepRunning = false)
    (run : exec (step interval) middle after = some last) : Stopped middle last :=
  exec_invariant ⟨cleared, le_rfl⟩ (fun _ _ _ stopped moved => stopped.step (moves_of_step moved)) run

end

theorem synthetic_clock_keeps_time {platform : Platform} {bpm : F32} {interval : Nat}
    (configured : midiTickInterval platform bpm = .ok interval) (clock : Nat)
    {schedule : List Action} {last : State}
    (run : exec (step interval) (.new clock) schedule = some last) :
    KeepsTime interval (.new clock) schedule last := by
  have positive : 0 < interval := midiTickInterval_positive configured
  have timed := timed_of_run run
  refine ⟨timed.recorded, timed.counts.steps, ?_, ?_, timed.asleep, ?_, ?_, goes_on timed⟩
  · intro started
    have one := events_of_ticks last.ticks
    rw [← timed.recorded started] at one
    have count := timed.counts.count
    have latest := timed.counts.latest
    rw [one] at count latest
    exact ⟨count, latest⟩
  · intro begun
    exact ⟨timed.deadline begun, (timed.kept begun).count_le_due positive⟩
  · intro before after middle split reached begun
    subst split
    rw [exec_append, reached] at run
    exact (caught_of_run positive (timed_of_run reached) begun run).caught
  · intro before after middle split reached cleared
    subst split
    rw [exec_append, reached] at run
    have few := (stopped_of_run cleared run).ticks
    have most : middle.position.ticksLeft ≤ 1 := by
      cases middle.position <;> simp [ClockAt.ticksLeft]
    omega

/-- At 120 beats per minute the thread is held up for three intervals and then stopped. -/
def lateRun : List Action :=
  [.start, .swap, .schedule, .check, .time, .pause, .elapse 62500000, .resume, .check, .time,
    .pause, .resume, .check, .time, .stop, .pause, .resume, .check]

theorem late_clock_catches_up : ∃ last,
    midiTickInterval defaultPlatform ⟨0x42F00000⟩ = .ok 20833333 ∧
    exec (step 20833333) (.new 5) lateRun = some last ∧ last.position = .finished ∧
    last.ticks = 2 ∧ KeepsTime 20833333 (.new 5) lateRun last := by
  have reached : (exec (step 20833333) (.new 5) lateRun).map (fun last =>
      (last.position, last.ticks)) = some (.finished, 2) := by
    decide +kernel
  obtain ⟨last, run, shape⟩ := Option.map_eq_some_iff.mp reached
  obtain ⟨finished, ticks⟩ := Prod.mk.inj shape
  have configured : midiTickInterval defaultPlatform ⟨0x42F00000⟩ = .ok 20833333 := by
    decide +kernel
  exact ⟨last, configured, run, finished, ticks, synthetic_clock_keeps_time configured 5 run⟩

end Phase4.Managers.SyntheticClock
