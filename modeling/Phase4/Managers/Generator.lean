import Phase4.Config.Types
import Phase4.Dsp.F64
import Phase4.Library.Pacing
import Phase4.Managers.Capture

namespace Phase4.Managers.Generator
open Library Dsp Config Audio Capture

/-! ## The test signal

The arithmetic of the floating point library is a parameter. -/

structure ToneOps where
  add : F32 → F32 → F32
  mul : F32 → F32 → F32
  div : F32 → F32 → F32
  rem : F32 → F32 → F32
  sin : F32 → F32
  powf : F32 → F32 → F32
  ofU32 : Nat → F32
  wideAdd : F64 → F64 → F64
  wideMul : F64 → F64 → F64
  wideDiv : F64 → F64 → F64
  wideRemEuclid : F64 → F64 → F64
  wideOfU32 : Nat → F64

def amplitude : F32 := ⟨0x3E800000⟩
def calibrationFrequencyCeilingRatio : F32 := ⟨0x3EE66666⟩
def half : F32 := ⟨0x3F000000⟩
def one : F32 := ⟨0x3F800000⟩
def two : F32 := ⟨0x40000000⟩
def pi : F32 := ⟨0x40490FDB⟩
def twenty : F32 := ⟨0x41A00000⟩
def tau : F64 := ⟨0x401921FB54442D18⟩

structure Oscillator where
  phase : F32
  lfoPhase : F32
deriving DecidableEq, Repr

def Oscillator.new : Oscillator := ⟨F32.zero, F32.zero⟩

section
variable (ops : ToneOps) (signal : TestSignal) (specs : Specs)

def currentFreq (lfoPhase : F32) : F32 × F32 :=
  match signal with
  | .fixedTone hz => (hz, lfoPhase)
  | .sweep lfoRate =>
      let sweepCeiling := ops.mul calibrationFrequencyCeilingRatio (ops.ofU32 specs.sampleRate)
      let lfoVal := ops.add (ops.mul (ops.sin (ops.mul (ops.mul lfoPhase two) pi)) half) half
      (ops.mul twenty (ops.powf (ops.div sweepCeiling twenty) lfoVal),
        ops.rem (ops.add lfoPhase (ops.div lfoRate (ops.ofU32 specs.sampleRate))) one)

def Oscillator.sample (oscillator : Oscillator) : F32 :=
  ops.mul (ops.sin oscillator.phase) amplitude

def Oscillator.advance (oscillator : Oscillator) : Oscillator :=
  let current := currentFreq ops signal specs oscillator.lfoPhase
  let phaseInc := ops.wideDiv (ops.wideMul tau current.1.toF64) (ops.wideOfU32 specs.sampleRate)
  { phase := (ops.wideRemEuclid (ops.wideAdd oscillator.phase.toF64 phaseInc) tau).toF32
    lfoPhase := current.2 }

def fillFrames : Nat → Oscillator → List (List F32) × Oscillator
  | 0, oscillator => ([], oscillator)
  | count + 1, oscillator =>
      let rest := fillFrames count (oscillator.advance ops signal specs)
      (List.replicate specs.channels (oscillator.sample ops) :: rest.1, rest.2)

def fillBuffer (chunkSize : Nat) (oscillator : Oscillator) : List F32 × Oscillator :=
  let filled := fillFrames ops signal specs (chunkSize / specs.channels) oscillator
  (filled.1.flatten, filled.2)

/-! ## What the signal is

The tone at an instant does not depend on how it was cut into chunks. -/

def toneAt (n : Nat) : F32 := ((Oscillator.advance ops signal specs)^[n] .new).sample ops

def frameAt (n : Nat) : List F32 := List.replicate specs.channels (toneAt ops signal specs n)

theorem fillFrames_eq (before count : Nat) :
    fillFrames ops signal specs count ((Oscillator.advance ops signal specs)^[before] .new) =
      ((List.range' before count).map (frameAt ops signal specs),
        (Oscillator.advance ops signal specs)^[before + count] .new) := by
  induction count generalizing before with
  | zero => rfl
  | succ count ih =>
      have next := ih (before + 1)
      rw [Function.iterate_succ_apply'] at next
      rw [fillFrames, next, List.range'_succ, List.map_cons, Nat.add_right_comm, Nat.add_assoc]
      rfl

end

/-! ## The generator thread

It runs beside the analyser and a clock that goes on. Times are in nanoseconds. -/

def chunkDuration : Nat := chunkMs * 1000000

inductive GeneratorAt where
  | scheduling
  | checking
  | filling
  | pushing
  | sleeping (wakes : Nat)
  | finished
deriving DecidableEq, Repr

/-- `began` is what the first deadline was counted from. -/
structure State (Filter : Type) where
  clock : Nat
  keepRunning : Bool
  position : GeneratorAt
  deadline : Nat
  oscillator : Oscillator
  capture : Capture.State Filter
  began : Nat
  rounds : Nat

inductive Action where
  | elapse (span : Nat)
  | stop
  | consume (count : Nat) (mapperGone : Bool)
  | schedule
  | check
  | fill
  | produce (observed : Nat)
  | pause
  | resume

section
variable {Filter : Type} (ops : Primitives Filter) (tone : ToneOps) (signal : TestSignal)
  (specs : Specs) (positive : 0 < specs.channels)

def State.new (clock capacity bufferLen : Nat) (setup : VocoderSetup Filter) : State Filter where
  clock
  keepRunning := true
  position := .scheduling
  deadline := 0
  oscillator := .new
  capture := .init (.generator specs positive) capacity bufferLen setup
  began := 0
  rounds := 0

def State.fill (state : State Filter) : Option (State Filter) :=
  let filled := fillBuffer tone signal specs (specs.frameAlignedSamplesForMs chunkMs)
    state.oscillator
  (state.capture.callPush (.generator specs positive) filled.1).map fun capture => { state with
    position := .pushing
    oscillator := filled.2
    capture }

def step (state : State Filter) : Action → Option (State Filter)
  | .elapse span => some { state with clock := state.clock + span }
  | .stop => some { state with keepRunning := false }
  | .consume count mapperGone =>
      (state.capture.consume ops count mapperGone).map fun capture => { state with capture }
  | .schedule =>
      if state.position = .scheduling then
        some { state with
          position := .checking
          began := state.clock
          deadline := state.clock + chunkDuration }
      else none
  | .check =>
      if state.position = .checking then
        some { state with position := if state.keepRunning then .filling else .finished }
      else none
  | .fill => if state.position = .filling then state.fill tone signal specs positive else none
  | .produce observed =>
      if state.position = .pushing then
        (state.capture.produce observed).map fun capture => { state with capture }
      else none
  | .pause =>
      if state.position = .pushing ∧ state.capture.pushing.isNone then
        some { state with
          position := .sleeping (state.clock + (state.deadline - state.clock)) }
      else none
  | .resume =>
      match state.position with
      | .sleeping wakes =>
          if wakes ≤ state.clock then
            some { state with
              position := .checking
              deadline := state.deadline + chunkDuration
              rounds := state.rounds + 1 }
          else none
      | _ => none

end

/-! ## What a step does -/

section
variable {Filter : Type} {ops : Primitives Filter} {tone : ToneOps} {signal : TestSignal}
  {specs : Specs} {positive : 0 < specs.channels} {state next : State Filter} {action : Action}

inductive Moves (ops : Primitives Filter) (tone : ToneOps) (signal : TestSignal) (specs : Specs)
    (positive : 0 < specs.channels) (state : State Filter) : Action → State Filter → Prop
  | elapses (span : Nat) : Moves ops tone signal specs positive state (.elapse span)
      { state with clock := state.clock + span }
  | stops : Moves ops tone signal specs positive state .stop { state with keepRunning := false }
  | consumes {count : Nat} {mapperGone : Bool} {capture : Capture.State Filter}
      (moved : state.capture.consume ops count mapperGone = some capture) :
      Moves ops tone signal specs positive state (.consume count mapperGone)
        { state with capture }
  | schedules (here : state.position = .scheduling) :
      Moves ops tone signal specs positive state .schedule { state with
        position := .checking
        began := state.clock
        deadline := state.clock + chunkDuration }
  | goes (here : state.position = .checking) (runs : state.keepRunning = true) :
      Moves ops tone signal specs positive state .check { state with position := .filling }
  | ends (here : state.position = .checking) (stopped : state.keepRunning = false) :
      Moves ops tone signal specs positive state .check { state with position := .finished }
  | fills {capture : Capture.State Filter} (here : state.position = .filling)
      (called : state.capture.callPush (.generator specs positive) (fillBuffer tone signal specs
        (specs.frameAlignedSamplesForMs chunkMs) state.oscillator).1 = some capture) :
      Moves ops tone signal specs positive state .fill { state with
        position := .pushing
        oscillator := (fillBuffer tone signal specs (specs.frameAlignedSamplesForMs chunkMs)
          state.oscillator).2
        capture }
  | produces {observed : Nat} {capture : Capture.State Filter} (here : state.position = .pushing)
      (moved : state.capture.produce observed = some capture) :
      Moves ops tone signal specs positive state (.produce observed) { state with capture }
  | pauses (here : state.position = .pushing) (returned : state.capture.pushing = none) :
      Moves ops tone signal specs positive state .pause { state with
        position := .sleeping (state.clock + (state.deadline - state.clock)) }
  | resumes {wakes : Nat} (here : state.position = .sleeping wakes) (slept : wakes ≤ state.clock) :
      Moves ops tone signal specs positive state .resume { state with
        position := .checking
        deadline := state.deadline + chunkDuration
        rounds := state.rounds + 1 }

theorem moves_of_step (moved : step ops tone signal specs positive state action = some next) :
    Moves ops tone signal specs positive state action next := by
  cases action with
  | elapse span =>
      cases moved
      exact .elapses span
  | stop =>
      cases moved
      exact .stops
  | consume count mapperGone =>
      obtain ⟨capture, consumed, rfl⟩ := Option.map_eq_some_iff.mp moved
      exact .consumes consumed
  | schedule =>
      simp only [step] at moved
      split_ifs at moved with here
      cases moved
      exact .schedules here
  | check =>
      simp only [step] at moved
      split_ifs at moved with here runs
      all_goals cases moved
      · exact .goes here runs
      · exact .ends here (Bool.eq_false_of_not_eq_true runs)
  | fill =>
      simp only [step] at moved
      split_ifs at moved with here
      obtain ⟨capture, called, rfl⟩ := Option.map_eq_some_iff.mp moved
      exact .fills here called
  | produce observed =>
      simp only [step] at moved
      split_ifs at moved with here
      obtain ⟨capture, produced, rfl⟩ := Option.map_eq_some_iff.mp moved
      exact .produces here produced
  | pause =>
      simp only [step] at moved
      split_ifs at moved with here
      cases moved
      exact .pauses here.1 (Option.isNone_iff_eq_none.mp here.2)
  | resume =>
      cases here : state.position with
      | sleeping wakes =>
          simp only [step, here] at moved
          split_ifs at moved with slept
          cases moved
          exact .resumes here slept
      | _ => simp [step, here] at moved

end

/-! ## Calls of the ring -/

section
variable {Filter : Type} {ops : Primitives Filter} {source : Source}
  {capture next : Capture.State Filter}

theorem offered_produce {observed : Nat} (moved : capture.produce observed = some next) :
    offered source next = offered source capture := by
  unfold Capture.State.produce at moved
  split at moved
  · cases moved
  · rename_i running
    cases moved
    simp [offered, running]
  · rename_i running
    split_ifs at moved
    cases moved
    simp [offered, running]
  · rename_i running
    cases moved
    simp [offered, running]
  · rename_i running
    cases moved
    simp [offered, running]

theorem offered_callPush {data : List F32} (moved : capture.callPush source data = some next) :
    offered source next = offered source capture ++ framesOf source.mode data := by
  unfold Capture.State.callPush at moved
  split_ifs at moved
  split at moved
  · cases moved
  · rename_i idle
    cases moved
    simp [offered, idle]

theorem consume_calls {count : Nat} {mapperGone : Bool}
    (moved : capture.consume ops count mapperGone = some next) :
    next.calls = capture.calls ∧ next.pushing = capture.pushing := by
  rw [Capture.State.consume] at moved
  obtain ⟨analyser, _, rfl⟩ := Option.map_eq_some_iff.mp moved
  exact ⟨rfl, rfl⟩

end

/-! ## The pipeline holds the tone, with gaps -/

def chunkFrames (specs : Specs) : Nat :=
  specs.frameAlignedSamplesForMs chunkMs / specs.channels

def GeneratorAt.filled : GeneratorAt → Nat
  | .pushing | .sleeping _ => 1
  | _ => 0

namespace State
variable {Filter : Type}

def chunks (state : State Filter) : Nat := state.rounds + state.position.filled

def pace (state : State Filter) : Pace := ⟨state.began, chunkDuration, state.rounds⟩

end State

structure Played {Filter : Type} (ops : Primitives Filter) (tone : ToneOps) (signal : TestSignal)
    (specs : Specs) (positive : 0 < specs.channels) (start state : State Filter) : Prop where
  captured : ∃ actions, exec (Capture.step ops (.generator specs positive)) start.capture actions =
    some state.capture
  oscillator : state.oscillator =
    (Oscillator.advance tone signal specs)^[state.chunks * chunkFrames specs] .new
  offered : offered (.generator specs positive) state.capture =
    (List.range (state.chunks * chunkFrames specs)).map (frameAt tone signal specs)
  idle : state.position ≠ .pushing → state.capture.pushing = none
  first : state.position = .scheduling → state.rounds = 0
  deadline : state.position ≠ .scheduling → state.deadline = state.pace.deadline
  kept : state.position ≠ .scheduling → state.pace.Kept state.clock
  asleep : ∀ wakes, state.position = .sleeping wakes →
    state.deadline ≤ wakes ∧ wakes ≤ max state.deadline state.clock

section
variable {Filter : Type} {ops : Primitives Filter} {tone : ToneOps} {signal : TestSignal}
  {specs : Specs} {positive : 0 < specs.channels} {start state next : State Filter}
  {action : Action}

theorem played_new (clock capacity bufferLen : Nat) (setup : VocoderSetup Filter) :
    Played ops tone signal specs positive (.new specs positive clock capacity bufferLen setup)
      (.new specs positive clock capacity bufferLen setup) where
  captured := ⟨[], rfl⟩
  oscillator := by
    show Oscillator.new = (Oscillator.advance tone signal specs)^[0 * _] _
    rw [Nat.zero_mul]
    rfl
  offered := by
    show [] = (List.range (0 * _)).map _
    rw [Nat.zero_mul]
    rfl
  idle _ := rfl
  first _ := rfl
  deadline other := absurd rfl other
  kept other := absurd rfl other
  asleep := nofun

theorem Played.move (played : Played ops tone signal specs positive start state)
    {position : GeneratorAt} {deadline rounds : Nat}
    (same : rounds + position.filled = state.chunks) (returned : state.capture.pushing = none)
    (begun : position ≠ .scheduling)
    (paced : deadline = (Pace.mk state.began chunkDuration rounds).deadline)
    (kept : (Pace.mk state.began chunkDuration rounds).Kept state.clock)
    (asleep : ∀ wakes, position = .sleeping wakes →
      deadline ≤ wakes ∧ wakes ≤ max deadline state.clock) :
    Played ops tone signal specs positive start { state with position, deadline, rounds } where
  captured := played.captured
  oscillator := by
    show _ = (Oscillator.advance tone signal specs)^[(rounds + position.filled) * _] _
    rw [same]
    exact played.oscillator
  offered := by
    show _ = (List.range ((rounds + position.filled) * _)).map _
    rw [same]
    exact played.offered
  idle _ := returned
  first here := absurd here begun
  deadline _ := paced
  kept _ := kept
  asleep

theorem Played.captures (played : Played ops tone signal specs positive start state)
    {capture : Capture.State Filter} (act : Capture.Action)
    (moved : Capture.step ops (.generator specs positive) state.capture act = some capture)
    (same : Capture.offered (.generator specs positive) capture =
      Capture.offered (.generator specs positive) state.capture)
    (idle : state.position ≠ .pushing → capture.pushing = none) :
    Played ops tone signal specs positive start { state with capture } := by
  obtain ⟨actions, reached⟩ := played.captured
  refine { played with captured := ⟨actions ++ [act], ?_⟩, offered := ?_, idle }
  · rw [exec_snoc, reached]
    exact moved
  · exact same.trans played.offered

theorem Played.fill (played : Played ops tone signal specs positive start state)
    (here : state.position = .filling) {capture : Capture.State Filter}
    (called : state.capture.callPush (.generator specs positive) (fillBuffer tone signal specs
      (specs.frameAlignedSamplesForMs chunkMs) state.oscillator).1 = some capture) :
    Played ops tone signal specs positive start { state with
      position := .pushing
      oscillator := (fillBuffer tone signal specs (specs.frameAlignedSamplesForMs chunkMs)
        state.oscillator).2
      capture } := by
  obtain ⟨actions, reached⟩ := played.captured
  have before : state.chunks = state.rounds := by rw [State.chunks, here]; rfl
  have more : (state.rounds + 1) * chunkFrames specs =
      state.chunks * chunkFrames specs + chunkFrames specs := by
    rw [before, Nat.add_mul, Nat.one_mul]
  have filled := fillFrames_eq tone signal specs (state.chunks * chunkFrames specs)
    (chunkFrames specs)
  rw [← played.oscillator] at filled
  have lengths : ∀ frame ∈ (List.range' (state.chunks * chunkFrames specs)
      (chunkFrames specs)).map (frameAt tone signal specs), frame.length = specs.channels := by
    intro frame member
    obtain ⟨n, _, rfl⟩ := List.mem_map.mp member
    exact List.length_replicate
  constructor
  · refine ⟨actions ++ [.push (fillBuffer tone signal specs
      (specs.frameAlignedSamplesForMs chunkMs) state.oscillator).1], ?_⟩
    rw [exec_snoc, reached]
    exact called
  · show (fillFrames tone signal specs (chunkFrames specs) state.oscillator).2 =
      (Oscillator.advance tone signal specs)^[(state.rounds + 1) * chunkFrames specs] _
    rw [filled, more]
  · show Capture.offered _ capture = (List.range ((state.rounds + 1) * chunkFrames specs)).map _
    rw [offered_callPush called, played.offered, more, List.range_add, List.map_append]
    congr 1
    show chunksExact specs.channels
      (fillFrames tone signal specs (chunkFrames specs) state.oscillator).1.flatten = _
    rw [filled, chunksExact_frames positive lengths, List.range'_eq_map_range]
  · exact fun other => absurd rfl other
  · exact nofun
  · exact fun _ => played.deadline (by rw [here]; nofun)
  · exact fun _ => played.kept (by rw [here]; nofun)
  · exact nofun

theorem Played.step (played : Played ops tone signal specs positive start state)
    (moves : Moves ops tone signal specs positive state action next) :
    Played ops tone signal specs positive start next := by
  cases moves with
  | elapses span =>
      refine { played with kept := ?_, asleep := ?_ }
      · exact fun begun => (played.kept begun).mono (Nat.le_add_right _ _)
      · intro wakes here
        obtain ⟨late, soon⟩ := played.asleep wakes here
        exact ⟨late, soon.trans (max_le_max_left _ (Nat.le_add_right _ _))⟩
  | stops => exact { played with }
  | @consumes count mapperGone capture moved =>
      obtain ⟨calls, pushing⟩ := consume_calls moved
      refine played.captures (.consume count mapperGone) moved ?_ fun idle => ?_
      · rw [Capture.offered, Capture.offered, calls, pushing]
      · rw [pushing]
        exact played.idle idle
  | schedules here =>
      have none_yet := played.first here
      refine { played with
        oscillator := ?_, offered := ?_, idle := ?_, first := nofun, deadline := ?_, kept := ?_
        asleep := nofun }
      · have oscillator := played.oscillator
        rwa [State.chunks, here] at oscillator
      · have offered := played.offered
        rwa [State.chunks, here] at offered
      · exact fun _ => played.idle (by rw [here]; nofun)
      · intro _
        show state.clock + chunkDuration = state.clock + (state.rounds + 1) * chunkDuration
        rw [none_yet, Nat.zero_add, Nat.one_mul]
      · intro _
        show state.clock + state.rounds * chunkDuration ≤ state.clock
        rw [none_yet, Nat.zero_mul, Nat.add_zero]
  | goes here | ends here =>
      have begun : state.position ≠ .scheduling := by rw [here]; nofun
      exact played.move (by rw [State.chunks, here]; rfl) (played.idle (by rw [here]; nofun))
        nofun (played.deadline begun) (played.kept begun) nofun
  | fills here called => exact played.fill here called
  | @produces observed capture here moved =>
      exact played.captures (.produce observed) moved (offered_produce moved)
        fun other => absurd here other
  | pauses here returned =>
      have begun : state.position ≠ .scheduling := by rw [here]; nofun
      refine played.move (by rw [State.chunks, here]; rfl) returned nofun (played.deadline begun)
        (played.kept begun) ?_
      rintro wakes ⟨⟩
      omega
  | @resumes wakes here slept =>
      have begun : state.position ≠ .scheduling := by rw [here]; nofun
      have deadline := played.deadline begun
      refine played.move (by rw [State.chunks, here]; rfl) (played.idle (by rw [here]; nofun))
        nofun ?_ ?_ nofun
      · rw [deadline]
        exact state.pace.deadline_beat.symm
      · exact Pace.kept_beat (deadline ▸ (played.asleep wakes here).1.trans slept)

end

def GeneratorAt.chunksLeft : GeneratorAt → Nat
  | .filling => 1
  | _ => 0

structure Stopped {Filter : Type} (earlier state : State Filter) : Prop where
  cleared : state.keepRunning = false
  chunks : state.chunks + state.position.chunksLeft ≤
    earlier.chunks + earlier.position.chunksLeft

theorem Stopped.step {Filter : Type} {ops : Primitives Filter} {tone : ToneOps}
    {signal : TestSignal} {specs : Specs} {positive : 0 < specs.channels}
    {earlier state next : State Filter} {action : Action} (stopped : Stopped earlier state)
    (moves : Moves ops tone signal specs positive state action next) : Stopped earlier next := by
  have ⟨cleared, few⟩ := stopped
  cases moves with
  | elapses | consumes | produces => exact ⟨cleared, few⟩
  | stops => exact ⟨rfl, few⟩
  | goes here runs => cases cleared.symm.trans runs
  | schedules here | ends here | fills here | pauses here | resumes here =>
      rw [State.chunks, here] at few
      exact ⟨cleared, few⟩

/-- `samples` is all that has gone into the ring: analysed, carried over or still queued. -/
structure PlaysTone {Filter : Type} (ops : Primitives Filter) (tone : ToneOps)
    (signal : TestSignal) (specs : Specs) (positive : 0 < specs.channels) (start : State Filter)
    (schedule : List Action) (last : State Filter) : Prop where
  heard : ∃ instants : List Nat,
    instants.Sublist (List.range (last.chunks * chunkFrames specs)) ∧
    let samples := last.capture.analysed.flatten ++
      last.capture.analyser.transferBuffer.take last.capture.analyser.pending ++
        last.capture.ring.items
    samples <+: instants.flatMap (frameAt tone signal specs) ∧
      (last.capture.pushing = none → samples = instants.flatMap (frameAt tone signal specs))
  whole : ∀ chunk ∈ last.capture.analysed, chunk.length % specs.channels = 0 ∧ chunk ≠ []
  punctual : last.position ≠ .scheduling →
    last.deadline = last.began + (last.rounds + 1) * chunkDuration ∧
      last.rounds ≤ (last.clock - last.began) / chunkDuration
  asleep : ∀ wakes, last.position = .sleeping wakes → wakes ≤ max last.deadline last.clock
  stops : ∀ before after middle, schedule = before ++ after →
    exec (step ops tone signal specs positive) start before = some middle →
    middle.keepRunning = false → last.chunks ≤ middle.chunks + 1

section
variable {Filter : Type} {ops : Primitives Filter} {tone : ToneOps} {signal : TestSignal}
  {specs : Specs} {positive : 0 < specs.channels} {schedule : List Action}
  {start last : State Filter}

theorem played_of_run {clock capacity bufferLen : Nat} {setup : VocoderSetup Filter}
    (run : exec (step ops tone signal specs positive)
      (.new specs positive clock capacity bufferLen setup) schedule = some last) :
    Played ops tone signal specs positive (.new specs positive clock capacity bufferLen setup)
      last :=
  exec_invariant (played_new clock capacity bufferLen setup)
    (fun _ _ _ played moved => played.step (moves_of_step moved)) run

theorem stopped_of_run (cleared : start.keepRunning = false)
    (run : exec (step ops tone signal specs positive) start schedule = some last) :
    Stopped start last :=
  exec_invariant ⟨cleared, le_rfl⟩ (fun _ _ _ stopped moved => stopped.step (moves_of_step moved)) run

end

theorem chunkDuration_positive : 0 < chunkDuration := by decide

theorem generator_plays_the_tone {Filter : Type} (ops : Primitives Filter) (tone : ToneOps)
    (signal : TestSignal) (specs : Specs) (positive : 0 < specs.channels)
    (clock capacity bufferLen : Nat) (setup : VocoderSetup Filter) {schedule : List Action}
    {last : State Filter} (run : exec (step ops tone signal specs positive)
      (.new specs positive clock capacity bufferLen setup) schedule = some last) :
    PlaysTone ops tone signal specs positive (.new specs positive clock capacity bufferLen setup)
      schedule last := by
  have played := played_of_run run
  obtain ⟨actions, reached⟩ := played.captured
  obtain ⟨consumed, pushed, captured⟩ := Capture.invariant_run reached
  constructor
  · have heard := accepted_sublist (.generator specs positive) last.capture
    rw [played.offered, List.sublist_map_iff] at heard
    obtain ⟨instants, within, frames⟩ := heard
    refine ⟨instants, within, ?_⟩
    rw [List.flatMap_def, ← frames]
    refine ⟨captured.samples_prefix, fun idle => ?_⟩
    have producer := captured.producer
    rw [ProducerAt, idle] at producer
    rw [captured.samples, accepted, idle, producer, List.append_nil, List.append_nil]
  · exact captured.whole
  · intro begun
    exact ⟨played.deadline begun, (played.kept begun).count_le_due chunkDuration_positive⟩
  · exact fun wakes here => (played.asleep wakes here).2
  · intro before after middle split reached cleared
    subst split
    rw [exec_append, reached] at run
    have few := (stopped_of_run cleared run).chunks
    have most : middle.position.chunksLeft ≤ 1 := by
      cases middle.position <;> simp [GeneratorAt.chunksLeft]
    omega

def doubling : ToneOps where
  add a _ := a
  mul a _ := a
  div a _ := a
  rem a _ := a
  sin a := a
  powf a _ := a
  ofU32 _ := F32.zero
  wideAdd a _ := if a.bits = 0 then ⟨0x3FF0000000000000⟩ else ⟨a.bits + 0x10000000000000⟩
  wideMul a _ := a
  wideDiv a _ := a
  wideRemEuclid a _ := a
  wideOfU32 _ := tau

/-- Two chunks of two frames, and a ring with room for three. -/
def crowdedRun : List Action :=
  [.schedule, .check, .fill, .produce 6, .produce 0, .produce 0, .pause, .elapse 10000000, .resume,
    .check, .fill, .produce 2, .produce 0, .produce 0, .consume 4 false, .stop, .pause,
    .elapse 10000000, .resume, .check]

theorem crowded_ring_cuts_the_tone : ∃ last : State Unit,
    exec (step Analyser.atRest doubling (.fixedTone ⟨0x43DC0000⟩) ⟨2, 200⟩ (by decide))
      (.new ⟨2, 200⟩ (by decide) 0 6 8 Analyser.restSetup) crowdedRun = some last ∧
    last.rounds = 2 ∧ last.capture.ring.items = [⟨0x40000000⟩, ⟨0x40000000⟩] ∧
    PlaysTone Analyser.atRest doubling (.fixedTone ⟨0x43DC0000⟩) ⟨2, 200⟩ (by decide)
      (.new ⟨2, 200⟩ (by decide) 0 6 8 Analyser.restSetup) crowdedRun last := by
  have observed : (exec (step Analyser.atRest doubling (.fixedTone ⟨0x43DC0000⟩) ⟨2, 200⟩
      (by decide)) (.new ⟨2, 200⟩ (by decide) 0 6 8 Analyser.restSetup) crowdedRun).any
        (fun last => decide (last.rounds = 2) &&
          decide (last.capture.ring.items = [⟨0x40000000⟩, ⟨0x40000000⟩])) = true := by
    decide +kernel
  obtain ⟨last, reached, checked⟩ := (Option.any_eq_true _ _).mp observed
  obtain ⟨rounds, items⟩ := Bool.and_eq_true_iff.mp checked
  exact ⟨last, reached, of_decide_eq_true rounds, of_decide_eq_true items,
    generator_plays_the_tone _ _ _ _ _ _ _ _ _ reached⟩

end Phase4.Managers.Generator
