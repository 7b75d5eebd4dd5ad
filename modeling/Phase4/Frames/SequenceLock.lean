import Phase4.Frames.Store

namespace Phase4.Frames
open Library Dsp

/-! ## One writer and its readers -/

structure Reading where
  startedAt : Nat
  program : MemoryProgram (Option Frame)

structure Read where
  reader : Nat
  startedAt : Nat
  endedAt : Nat
  result : Option Frame

/-- `clock` counts the steps, so that an instant of the run is a number. -/
structure State where
  memory : Memory
  writer : MemoryProgram Bool
  readers : Nat → Option Reading
  accepted : List Published
  completed : Nat
  clock : Nat
  reads : List Read

inductive Action where
  | publish (frame : Published)
  | write
  | read (reader len : Nat)
  | load (reader : Nat)

namespace State

def init (region : FrameRegion) : State where
  memory := region.base
  writer := .done false
  readers := fun _ => none
  accepted := []
  completed := 0
  clock := 0
  reads := []

def callPublish (channelCount : Nat) (state : State) (frame : Published) : Option State :=
  match state.writer with
  | .call _ _ => none
  | .done _ =>
      (publish channelCount frame.channels frame.midi frame.publishedNs).map fun program =>
        { state with
          writer := program
          accepted := if frame.channels.all ChannelLevel.isFinite then state.accepted ++ [frame]
            else state.accepted
          clock := state.clock + 1 }

def stepWriter (state : State) : Option State :=
  match state.writer with
  | .done _ => none
  | .call op next =>
      let answered := op.apply state.memory
      some { state with
        memory := answered.2
        writer := next answered.1
        completed := match next answered.1 with
          | .done _ => state.completed + 1
          | .call _ _ => state.completed
        clock := state.clock + 1 }

def callRead (state : State) (reader len : Nat) : Option State :=
  match state.readers reader with
  | some _ => none
  | none => some { state with
      readers := Function.update state.readers reader (some ⟨state.clock, readFrame len⟩)
      clock := state.clock + 1 }

def stepReader (state : State) (reader : Nat) : Option State :=
  match state.readers reader with
  | none => none
  | some reading => match reading.program with
      | .done result => some { state with
          readers := Function.update state.readers reader none
          clock := state.clock + 1
          reads := state.reads ++ [⟨reader, reading.startedAt, state.clock, result⟩] }
      | .call op next =>
          let answered := op.apply state.memory
          some { state with
            memory := answered.2
            readers := Function.update state.readers reader
              (some ⟨reading.startedAt, next answered.1⟩)
            clock := state.clock + 1 }

end State

def step (region : FrameRegion) (state : State) : Action → Option State
  | .publish frame => state.callPublish region.channelCount frame
  | .write => state.stepWriter
  | .read reader len => state.callRead reader len
  | .load reader => state.stepReader reader

/-- The `k`-th accepted publish was the latest completed one at an instant from `first` to
`last`. -/
def LatestDuring (region : FrameRegion) (schedule : List Action) (first last k : Nat) : Prop :=
  ∃ instant state, first ≤ instant ∧ instant ≤ last ∧
    exec (step region) (State.init region) (schedule.take instant) = some state ∧
    state.completed = k

theorem LatestDuring.later {region : FrameRegion} {before : List Action} {first last after k : Nat}
    (during : LatestDuring region before first last k) (inside : last ≤ before.length)
    (le : last ≤ after) (action : Action) :
    LatestDuring region (before ++ [action]) first after k := by
  obtain ⟨instant, state, started, ended, reached, completed⟩ := during
  refine ⟨instant, state, started, ended.trans le, ?_, completed⟩
  rwa [List.take_append_of_le_length (ended.trans inside)]

structure CallAt (region : FrameRegion) (schedule : List Action) (state : State)
    (reading : Reading) : Prop where
  started : reading.startedAt ≤ state.clock
  program : ∃ target, Reaches onceWords region.base reading.program target ∧
    (frameLayout region.channelCount).ReaderAt (decodeFrame region.channelCount) none
      (state.accepted.map Published.values) (state.memory.load (word64 offsetSequence))
      (LatestDuring region schedule reading.startedAt state.clock) target

def Returned (region : FrameRegion) (schedule : List Action) (accepted : List Published)
    (read : Read) : Prop :=
  ∀ frame, read.result = some frame → ∃ k published, frame = published.frame (k + 1) ∧
    accepted[k]? = some published ∧
    LatestDuring region schedule read.startedAt read.endedAt (k + 1)

structure Invariant (region : FrameRegion) (schedule : List Action) (state : State) : Prop where
  clock : state.clock = schedule.length
  once : ∀ word ∈ onceWords, state.memory.load word = region.base.load word
  lengths : ∀ frame ∈ state.accepted, frame.channels.length = region.channelCount
  writer : (frameLayout region.channelCount).WriterAt state.memory
    (state.accepted.map Published.values) state.completed state.writer
  calls : ∀ reader reading, state.readers reader = some reading →
    CallAt region schedule state reading
  returned : ∀ read ∈ state.reads, Returned region schedule state.accepted read
  past : ∀ read ∈ state.reads, read.endedAt ≤ state.clock
  inTurn : state.reads.Pairwise fun a b => a.reader = b.reader → a.endedAt ≤ b.startedAt
  turn : ∀ reader reading, state.readers reader = some reading → ∀ read ∈ state.reads,
    read.reader = reader → read.endedAt ≤ reading.startedAt

section
variable {region : FrameRegion} {before : List Action} {state next : State}

theorem invariant_init (created : Created region) : Invariant region [] (State.init region) where
  clock := rfl
  once := fun _ _ => rfl
  lengths := by simp [State.init]
  writer := .idle [] false created.sequence (by simp [SeqlockLayout.Latest])
  calls := by simp [State.init]
  returned := by simp [State.init]
  past := by simp [State.init]
  inTurn := .nil
  turn := by simp [State.init]

theorem CallAt.later {reading : Reading} (call : CallAt region before state reading)
    (clock : state.clock = before.length) (action : Action)
    (accepted : state.accepted <+: next.accepted)
    (sequence : state.memory.load (word64 offsetSequence) ≤
      next.memory.load (word64 offsetSequence))
    (tick : next.clock = state.clock + 1) :
    CallAt region (before ++ [action]) next reading := by
  obtain ⟨target, reaches, here⟩ := call.program
  refine ⟨by have := call.started; omega, target, reaches, ?_⟩
  exact here.mono (accepted.map _) sequence fun k during =>
    during.later clock.le (by omega) action

theorem Returned.later {accepted : List Published} {read : Read}
    (returned : Returned region before state.accepted read) (past : read.endedAt ≤ before.length)
    (action : Action) (extended : state.accepted <+: accepted) :
    Returned region (before ++ [action]) accepted read := by
  intro frame result
  obtain ⟨k, published, same, found, during⟩ := returned frame result
  refine ⟨k, published, same, ?_, during.later past le_rfl action⟩
  obtain ⟨rest, rfl⟩ := extended
  rw [List.getElem?_append_left (List.getElem?_eq_some_iff.mp found).1]
  exact found

theorem Invariant.writerStep (here : Invariant region before state) (action : Action)
    (readers : next.readers = state.readers) (reads : next.reads = state.reads)
    (tick : next.clock = state.clock + 1) (accepted : state.accepted <+: next.accepted)
    (sequence : state.memory.load (word64 offsetSequence) ≤
      next.memory.load (word64 offsetSequence))
    (once : ∀ word ∈ onceWords, next.memory.load word = region.base.load word)
    (lengths : ∀ frame ∈ next.accepted, frame.channels.length = region.channelCount)
    (writer : (frameLayout region.channelCount).WriterAt next.memory
      (next.accepted.map Published.values) next.completed next.writer) :
    Invariant region (before ++ [action]) next where
  clock := by simp [tick, here.clock]
  once
  lengths
  writer
  calls := by
    intro reader reading found
    rw [readers] at found
    exact (here.calls reader reading found).later here.clock action accepted sequence tick
  returned := by
    intro read member
    rw [reads] at member
    exact (here.returned read member).later (here.clock ▸ here.past read member) action accepted
  past := by
    intro read member
    rw [reads] at member
    have := here.past read member
    omega
  inTurn := by
    rw [reads]
    exact here.inTurn
  turn := by
    intro reader reading found read member
    rw [readers] at found
    rw [reads] at member
    exact here.turn reader reading found read member

theorem invariant_publish (here : Invariant region before state) (frame : Published)
    (moved : state.callPublish region.channelCount frame = some next) :
    Invariant region (before ++ [.publish frame]) next := by
  unfold State.callPublish at moved
  cases writing : state.writer with
  | call op rest =>
      rw [writing] at moved
      cases moved
  | done b =>
      rw [writing] at moved
      have writer := here.writer
      rw [writing] at writer
      by_cases length : frame.channels.length = region.channelCount
      · by_cases finite : frame.channels.all ChannelLevel.isFinite = true
        · simp only [publish_eq length finite, Option.map_some, if_pos finite] at moved
          cases moved
          obtain ⟨count, opened⟩ := writer.start true frame.values
          refine here.writerStep _ rfl rfl rfl (List.prefix_append _ _) le_rfl here.once ?_ ?_
          · intro other member
            rcases List.mem_append.mp member with earlier | new
            · exact here.lengths other earlier
            · rw [List.mem_singleton.mp new]
              exact length
          · simpa [count] using opened
        · simp only [publish, ne_eq, length, not_true_eq_false, if_false, finite]
            at moved
          cases moved
          exact here.writerStep _ rfl rfl rfl (List.prefix_refl _) le_rfl here.once here.lengths
            writer.skip
      · simp only [publish, ne_eq, length, not_false_eq_true, if_true] at moved
        cases moved

theorem invariant_write (here : Invariant region before state)
    (bound : state.accepted.length < 2 ^ 63) (moved : state.stepWriter = some next) :
    Invariant region (before ++ [.write]) next := by
  unfold State.stepWriter at moved
  cases writing : state.writer with
  | done b =>
      rw [writing] at moved
      cases moved
  | call op rest =>
      rw [writing] at moved
      cases moved
      have writer := here.writer
      rw [writing] at writer
      have fits : ∀ values ∈ state.accepted.map Published.values,
          (frameLayout region.channelCount).Fits values := by
        intro values member
        obtain ⟨frame, accepted, rfl⟩ := List.mem_map.mp member
        rw [← here.lengths frame accepted]
        exact frame.fits
      obtain ⟨sequence, after⟩ := writer.step fits (by simpa using bound)
      refine here.writerStep _ rfl rfl rfl (List.prefix_refl _) sequence ?_ here.lengths ?_
      · intro word isOnce
        rw [← here.once word isOnce]
        exact writer.untouched fun own member => onceWords_disjoint isOnce member
      · rcases after with ⟨b, finished, idle⟩ | ⟨⟨later, rest', continues⟩, open'⟩
        · simpa only [finished] using idle
        · simpa only [continues] using open'

theorem invariant_read (created : Created region) (here : Invariant region before state)
    (reader len : Nat) (moved : state.callRead reader len = some next) :
    Invariant region (before ++ [.read reader len]) next := by
  unfold State.callRead at moved
  cases calling : state.readers reader with
  | some reading =>
      rw [calling] at moved
      cases moved
  | none =>
      rw [calling] at moved
      cases moved
      have accepted : state.accepted <+: state.accepted := List.prefix_refl _
      have kept : Invariant region (before ++ [.read reader len])
          { state with clock := state.clock + 1 } :=
        here.writerStep _ rfl rfl rfl accepted le_rfl here.once here.lengths here.writer
      refine { kept with calls := ?_, turn := ?_ }
      · intro other reading found
        by_cases same : other = reader
        · subst same
          simp only [Function.update_self, Option.some.injEq] at found
          subst found
          obtain ⟨target, reaches, ends⟩ := readFrame_reaches created len
          refine ⟨by simp, target, reaches, ?_⟩
          rcases ends with ⟨_, rfl⟩ | ⟨_, rfl⟩
          · exact .attempting 0
          · exact .attempting readAttempts
        · simp only [Function.update_of_ne same] at found
          exact { kept.calls other reading found with }
      · intro other reading found read member own
        by_cases same : other = reader
        · subst same
          simp only [Function.update_self, Option.some.injEq] at found
          subst found
          exact here.past read member
        · simp only [Function.update_of_ne same] at found
          exact here.turn other reading found read member own

theorem CallAt.returned {reading : Reading} {result : Option Frame}
    (call : CallAt region before state reading) (ended : reading.program = .done result)
    (lengths : ∀ frame ∈ state.accepted, frame.channels.length = region.channelCount)
    (reader : Nat) :
    Returned region before state.accepted ⟨reader, reading.startedAt, state.clock, result⟩ := by
  intro frame some_frame
  obtain ⟨target, reaches, here⟩ := call.program
  rw [ended] at reaches
  rw [reaches.done] at here
  rcases here.returned with failed | ⟨k, values, decoded, found, during⟩
  · rw [failed] at some_frame
    cases some_frame
  · rw [List.getElem?_map, Option.map_eq_some_iff] at found
    obtain ⟨published, accepted, rfl⟩ := found
    have own : region.channelCount = published.channels.length :=
      (lengths published (List.mem_of_getElem? accepted)).symm
    rw [own, decodeFrame_values] at decoded
    refine ⟨k, published, ?_, accepted, during⟩
    exact Option.some.inj (some_frame.symm.trans decoded)

theorem CallAt.step {reading : Reading} {op : MemoryOp}
    {rest : op.Answer → MemoryProgram (Option Frame)}
    (call : CallAt region before state reading)
    (run : exec (step region) (State.init region) before = some state)
    (here : Invariant region before state) (asks : reading.program = .call op rest) :
    (op.apply state.memory).2 = state.memory ∧
      CallAt region before state ⟨reading.startedAt, rest (op.apply state.memory).1⟩ := by
  obtain ⟨target, reaches, there⟩ := call.program
  rw [asks] at reaches
  have now : LatestDuring region before reading.startedAt state.clock state.completed :=
    ⟨before.length, state, here.clock ▸ call.started, here.clock.ge, by rwa [List.take_length], rfl⟩
  rcases reaches.call here.once with rfl | ⟨same, further⟩
  · obtain ⟨same, moved⟩ := there.step here.writer now
    exact ⟨same, call.started, _, .here _, moved⟩
  · exact ⟨same, call.started, target, further, there⟩

theorem invariant_load (run : exec (step region) (State.init region) before = some state)
    (here : Invariant region before state) (reader : Nat)
    (moved : state.stepReader reader = some next) :
    Invariant region (before ++ [.load reader]) next := by
  unfold State.stepReader at moved
  cases calling : state.readers reader with
  | none =>
      rw [calling] at moved
      cases moved
  | some reading =>
      have call := here.calls reader reading calling
      rw [calling] at moved
      dsimp only at moved
      have accepted : state.accepted <+: state.accepted := List.prefix_refl _
      have kept : Invariant region (before ++ [.load reader])
          { state with clock := state.clock + 1 } :=
        here.writerStep _ rfl rfl rfl accepted le_rfl here.once here.lengths here.writer
      cases program : reading.program with
      | done result =>
          rw [program] at moved
          cases moved
          have answer := call.returned program here.lengths reader
          refine { kept with calls := ?_, returned := ?_, past := ?_, inTurn := ?_, turn := ?_ }
          · intro other reading found
            by_cases same : other = reader
            · simp [same] at found
            · simp only [Function.update_of_ne same] at found
              exact { kept.calls other reading found with }
          · intro read member
            rcases List.mem_append.mp member with earlier | new
            · exact kept.returned read earlier
            · rw [List.mem_singleton.mp new]
              exact answer.later here.clock.le _ accepted
          · intro read member
            rcases List.mem_append.mp member with earlier | new
            · exact kept.past read earlier
            · rw [List.mem_singleton.mp new]
              exact Nat.le_succ _
          · refine List.pairwise_append.mpr ⟨here.inTurn, List.pairwise_singleton _ _, ?_⟩
            intro read member new isNew own
            rw [List.mem_singleton.mp isNew] at own ⊢
            exact here.turn reader reading calling read member own
          · intro other later found read member own
            by_cases same : other = reader
            · simp [same] at found
            · simp only [Function.update_of_ne same] at found
              rcases List.mem_append.mp member with earlier | new
              · exact here.turn other later found read earlier own
              · rw [List.mem_singleton.mp new] at own
                exact absurd own.symm same
      | call op rest =>
          rw [program] at moved
          cases moved
          obtain ⟨same_memory, advanced⟩ := call.step run here program
          rw [same_memory]
          refine { kept with calls := ?_, turn := ?_ }
          · intro other later found
            by_cases same : other = reader
            · subst same
              simp only [Function.update_self, Option.some.injEq] at found
              subst found
              have later : CallAt region (before ++ [.load other])
                  { state with clock := state.clock + 1 }
                  ⟨reading.startedAt, rest (op.apply state.memory).1⟩ :=
                advanced.later here.clock (.load other) accepted le_rfl rfl
              exact { later with }
            · simp only [Function.update_of_ne same] at found
              exact { kept.calls other later found with }
          · intro other later found read member own
            by_cases same : other = reader
            · subst same
              simp only [Function.update_self, Option.some.injEq] at found
              subst found
              exact here.turn other reading calling read member own
            · simp only [Function.update_of_ne same] at found
              exact here.turn other later found read member own

end

theorem step_monotone {region : FrameRegion} {state next : State} {action : Action}
    (moved : step region state action = some next) :
    next.clock = state.clock + 1 ∧ state.accepted <+: next.accepted ∧
      state.completed ≤ next.completed := by
  cases action with
  | publish frame =>
      simp only [step, State.callPublish] at moved
      split at moved
      · cases moved
      · obtain ⟨program, _, rfl⟩ := Option.map_eq_some_iff.mp moved
        refine ⟨rfl, ?_, le_rfl⟩
        dsimp only
        split_ifs
        · exact List.prefix_append _ _
        · exact List.prefix_refl _
  | write =>
      simp only [step, State.stepWriter] at moved
      split at moved
      · cases moved
      · cases moved
        refine ⟨rfl, List.prefix_refl _, ?_⟩
        dsimp only
        split
        · exact Nat.le_succ _
        · exact le_rfl
  | read reader len =>
      simp only [step, State.callRead] at moved
      split at moved
      · cases moved
      · cases moved
        exact ⟨rfl, List.prefix_refl _, le_rfl⟩
  | load reader =>
      simp only [step, State.stepReader] at moved
      split at moved
      · cases moved
      · split at moved
        all_goals
          cases moved
          exact ⟨rfl, List.prefix_refl _, le_rfl⟩

theorem invariant_run {region : FrameRegion} (created : Created region) {schedule : List Action}
    {last : State} (run : exec (step region) (State.init region) schedule = some last)
    (bound : last.accepted.length < 2 ^ 63) : Invariant region schedule last := by
  refine exec_induction (motive := fun before state =>
    state.accepted.length < 2 ^ 63 → Invariant region before state)
    (fun _ => invariant_init created) ?_ schedule last run bound
  intro before state action next reached ih moved bound
  have earlier := (step_monotone moved).2.1.length_le
  have here := ih (by omega)
  cases action with
  | publish frame => exact invariant_publish here frame moved
  | write => exact invariant_write here (by omega) moved
  | read reader len => exact invariant_read created here reader len moved
  | load reader => exact invariant_load reached here reader moved

theorem completed_monotone {region : FrameRegion} {schedule : List Action} {i j : Nat}
    {earlier later : State} (le : i ≤ j)
    (first : exec (step region) (State.init region) (schedule.take i) = some earlier)
    (second : exec (step region) (State.init region) (schedule.take j) = some later) :
    earlier.completed ≤ later.completed := by
  have split : schedule.take j = schedule.take i ++ (schedule.take j).drop i := by
    conv_lhs => rw [← List.take_append_drop i (schedule.take j), List.take_take, min_eq_left le]
  rw [split, exec_append, first, Option.bind_some] at second
  exact exec_invariant (motive := fun state => earlier.completed ≤ state.completed) le_rfl
    (fun state action next holds moved => holds.trans (step_monotone moved).2.2) second

/-! ## What a reader sees -/

/-- A frame returned by `readFrame` is one accepted publish, word for word, which was the
latest completed one at some instant of the call. -/
theorem read_frame_returns_a_whole_publish {pageSize channelCount : Nat} {mapped : Bool}
    {sampleRate : BitVec 32} {midiConfigured : Bool} {region : FrameRegion}
    (created : FrameRegion.new pageSize mapped channelCount sampleRate midiConfigured = .ok region)
    {schedule : List Action} {last : State}
    (run : exec (step region) (State.init region) schedule = some last)
    (bound : last.accepted.length < 2 ^ 63) :
    (∀ read ∈ last.reads, ∀ frame, read.result = some frame →
      ∃ k published, 1 ≤ k ∧ last.accepted[k - 1]? = some published ∧
        frame.sequence.toNat = 2 * k ∧ frame.publishedNs = published.publishedNs ∧
        frame.midi = published.midi ∧ frame.channels = published.channels ∧
        LatestDuring region schedule read.startedAt read.endedAt k) ∧
    last.reads.Pairwise fun a b => a.reader = b.reader → ∀ earlier later,
      a.result = some earlier → b.result = some later →
        earlier.sequence.toNat ≤ later.sequence.toNat := by
  have here := invariant_run (new_created created) run bound
  have sequence {k : Nat} {published : Published} (accepted : last.accepted[k]? = some published) :
      (published.frame (k + 1)).sequence.toNat = 2 * (k + 1) := by
    have inside := (List.getElem?_eq_some_iff.mp accepted).1
    rw [Published.frame, BitVec.toNat_ofNat, Nat.mod_eq_of_lt (by omega)]
  constructor
  · intro read member frame result
    obtain ⟨k, published, rfl, accepted, during⟩ := here.returned read member frame result
    exact ⟨k + 1, published, by omega, accepted, sequence accepted, rfl, rfl, rfl, during⟩
  · apply here.inTurn.imp_of_mem
    intro a b memberA memberB turn same earlier later resultA resultB
    obtain ⟨i, publishedA, rfl, acceptedA, instantA, stateA, _, endedA, reachedA, completedA⟩ :=
      here.returned a memberA earlier resultA
    obtain ⟨j, publishedB, rfl, acceptedB, instantB, stateB, startedB, _, reachedB, completedB⟩ :=
      here.returned b memberB later resultB
    have order : instantA ≤ instantB := endedA.trans ((turn same).trans startedB)
    have completed := completed_monotone order reachedA reachedB
    rw [sequence acceptedA, sequence acceptedB]
    omega

def overlappedRead : List Action :=
  .publish ⟨[⟨⟨0x3F800000⟩, fun band => ⟨BitVec.ofNat 32 band⟩⟩], ⟨4, 1, 1⟩, 1000⟩ ::
    List.replicate 35 .write ++ [.read 0 16384] ++ List.replicate 7 (.load 0) ++
    List.replicate 5 .write ++ List.replicate 40 (.load 0)

theorem overlapped_read_retries : ∃ region last,
    FrameRegion.new 16384 true 1 48000 true = .ok region ∧
    exec (step region) (State.init region) overlappedRead = some last ∧
    last.reads.map (fun read => read.result.map (·.sequence)) = [some 2] ∧
    ∀ read ∈ last.reads, ∀ frame, read.result = some frame → ∃ k published, 1 ≤ k ∧
      last.accepted[k - 1]? = some published ∧ frame.channels = published.channels := by
  obtain ⟨region, created⟩ : ∃ region, FrameRegion.new 16384 true 1 48000 true = .ok region :=
    ⟨_, rfl⟩
  have observed : ((FrameRegion.new 16384 true 1 48000 true).toOption.bind fun region =>
      exec (step region) (State.init region) overlappedRead).any (fun last =>
        last.reads.map (fun read => read.result.map (·.sequence)) = [some 2] ∧
          last.accepted.length < 2 ^ 63) = true := by
    decide +kernel
  rw [created] at observed
  obtain ⟨last, reached, checked⟩ := (Option.any_eq_true _ _).mp observed
  obtain ⟨results, bound⟩ := of_decide_eq_true checked
  refine ⟨region, last, created, reached, results, ?_⟩
  intro read member frame result
  obtain ⟨k, published, positive, accepted, _, _, _, channels, _⟩ :=
    (read_frame_returns_a_whole_publish created reached bound).1 read member frame result
  exact ⟨k, published, positive, accepted, channels⟩

end Phase4.Frames
