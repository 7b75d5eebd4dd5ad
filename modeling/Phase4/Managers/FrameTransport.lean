import Phase4.Managers.MidiCounters
import Phase4.Managers.MidiRun

namespace Phase4.Managers.MidiRun
open Library Dsp Frames

/-! ## Transport events by number

Event `n` is the `n`-th transport byte received, counted from 1. Its code goes into
`midi_transport_latest` before `midi_transport_count` reaches `n`. -/

def received (schedule : List Action) : List (BitVec 8) :=
  schedule.filterMap fun
    | .receive byte => some byte
    | _ => none

def codeOf (events : List (BitVec 8)) (number : Nat) : BitVec 8 := lastEvent (events.take number)

def Recording.pending (recording : Recording) : List (BitVec 8) :=
  match recording.program with
  | .done _ | .call .fetchAddSteps _ => []
  | .call _ _ => (transportCode recording.byte).toList

def Recording.kept (recording : Recording) : Nat :=
  match recording.program with
  | .call .fetchAddCount _ => 1
  | _ => 0

/-- The number of the event whose code `midi_transport_latest` holds. -/
def State.latestNumber (state : State) : Nat := state.counted.length + state.recording.kept

def numberAt (schedule : List Action) (instant : Nat) : Nat :=
  ((exec step State.init (schedule.take instant)).map State.latestNumber).getD 0

theorem codeOf_prefix {before after : List (BitVec 8)} (first : before <+: after) {number : Nat}
    (inside : number ≤ before.length) : codeOf after number = codeOf before number := by
  obtain ⟨later, rfl⟩ := first
  rw [codeOf, codeOf, List.take_append_of_le_length inside]

theorem codeOf_succ {events : List (BitVec 8)} {number : Nat} {code : BitVec 8}
    (found : events[number]? = some code) : codeOf events (number + 1) = code := by
  rw [codeOf, List.take_add_one, found]
  exact lastEvent_snoc _ code

theorem received_append (before after : List Action) :
    received (before ++ after) = received before ++ received after :=
  List.filterMap_append

theorem events_append (before after : List (BitVec 8)) :
    events (before ++ after) = events before ++ events after :=
  List.filterMap_append

/-- The log of counted events and the one that is being recorded are all that was received. -/
structure Numbered (schedule : List Action) (state : State) : Prop where
  transport : ∀ count ∈ state.counted, ∃ code, transportCode count.byte = some code
  received : events (received schedule) =
    events (state.counted.map Counted.byte) ++ state.recording.pending
  latest : state.cells.midiTransportLatest =
    codeOf (events (MidiRun.received schedule)) state.latestNumber

theorem numbered_init : Numbered [] State.init where
  transport := by simp [State.init]
  received := rfl
  latest := rfl

section
variable {before : List Action} {state next : State} {action : Action}

theorem Numbered.length (numbered : Numbered before state) :
    (events (state.counted.map Counted.byte)).length = state.counted.length := by
  have size : (state.counted.map Counted.byte).length = state.counted.length := List.length_map _
  rw [← size, events, List.length_filterMap_eq_countP, List.countP_eq_length]
  intro byte member
  obtain ⟨count, logged, rfl⟩ := List.mem_map.mp member
  obtain ⟨code, own⟩ := numbered.transport count logged
  simp [own]

structure Unrecorded (state next : State) : Prop where
  recording : next.recording = state.recording
  counted : next.counted = state.counted
  latest : next.cells.midiTransportLatest = state.cells.midiTransportLatest
  count : next.cells.midiTransportCount = state.cells.midiTransportCount

theorem unrecorded_of_mapper (here : Invariant before state)
    (moved : step state action = some next) (mapper : action = .callMapper ∨ action = .map) :
    Unrecorded state next ∧ next.framing = state.framing ∧ next.frames = state.frames := by
  rcases mapper with rfl | rfl
  · simp only [step, State.callMapper] at moved
    split at moved
    · cases moved
    · cases moved
      exact ⟨⟨rfl, rfl, rfl, rfl⟩, rfl, rfl⟩
  · simp only [step, State.map] at moved
    generalize standing : state.mapping = mapping at moved
    have position := here.mapping
    rw [standing] at position
    cases position with
    | idle => cases moved
    | swapping | loading | returning =>
        cases moved
        exact ⟨⟨rfl, rfl, rfl, rfl⟩, rfl, rfl⟩

theorem unrecorded_of_frame_writer (here : Invariant before state)
    (moved : step state action = some next) (writer : action = .callFrameWriter ∨ action = .frame) :
    Unrecorded state next := by
  rcases writer with rfl | rfl
  · simp only [step, State.callFrameWriter] at moved
    split at moved
    · cases moved
    · cases moved
      exact ⟨rfl, rfl, rfl, rfl⟩
  · simp only [step, State.frame] at moved
    generalize standing : state.framing = framing at moved
    have position := here.framing
    rw [standing] at position
    cases position with
    | idle => cases moved
    | beginning | counting | keeping | returning =>
        cases moved
        exact ⟨rfl, rfl, rfl, rfl⟩

theorem Numbered.unrecorded (numbered : Numbered before state) (same : Unrecorded state next)
    (quiet : MidiRun.received [action] = []) : Numbered (before ++ [action]) next where
  transport := by
    rw [same.counted]
    exact numbered.transport
  received := by
    rw [received_append, quiet, List.append_nil, same.counted, same.recording]
    exact numbered.received
  latest := by
    rw [received_append, quiet, List.append_nil, same.latest, State.latestNumber, same.counted,
      same.recording]
    exact numbered.latest

theorem recordByte_pending (byte : BitVec 8) (resetAt : Option Nat) (ticks : BitVec 8) :
    Recording.pending ⟨byte, resetAt, recordByte byte ticks⟩ = (transportCode byte).toList ∧
      Recording.kept ⟨byte, resetAt, recordByte byte ticks⟩ = 0 := by
  by_cases start : byte = midiStatusStart
  · rw [start]
    exact ⟨rfl, rfl⟩
  · rcases recordByte_cases start ticks with ⟨code, own, same⟩ | ⟨own, same | ⟨later, same⟩⟩
    · rw [same]
      exact ⟨rfl, rfl⟩
    · rw [same, own]
      exact ⟨rfl, rfl⟩
    · rw [same, own]
      exact ⟨rfl, rfl⟩

theorem numbered_receive (numbered : Numbered before state) {byte : BitVec 8}
    (moved : state.receive byte = some next) : Numbered (before ++ [.receive byte]) next := by
  unfold State.receive at moved
  split at moved
  next => cases moved
  next ticks idle =>
    cases moved
    obtain ⟨pending, kept⟩ := recordByte_pending byte none ticks
    have nothing : state.recording.pending = [] := by rw [Recording.pending, idle]
    have unkept : state.recording.kept = 0 := by rw [Recording.kept, idle]
    have more : received (before ++ [.receive byte]) = received before ++ [byte] :=
      received_append _ _
    have all := numbered.received
    rw [nothing, List.append_nil] at all
    have one : events [byte] = (transportCode byte).toList := by
      rw [events, List.filterMap_cons]
      cases transportCode byte <;> rfl
    refine ⟨numbered.transport, ?_, ?_⟩
    · rw [more, events_append, all, pending, one]
    · have same := numbered.latest
      rw [State.latestNumber, unkept] at same
      rw [State.latestNumber, kept, more, events_append,
        codeOf_prefix (List.prefix_append _ _) (by rw [all, numbered.length]; rfl)]
      exact same

theorem Numbered.recorded (numbered : Numbered before state) (counted : next.counted = state.counted)
    (latest : next.cells.midiTransportLatest = state.cells.midiTransportLatest)
    (pending : next.recording.pending = state.recording.pending)
    (kept : next.recording.kept = state.recording.kept) :
    Numbered (before ++ [.record]) next where
  transport := by
    rw [counted]
    exact numbered.transport
  received := by
    rw [received_append, counted, pending]
    exact (congrArg events (List.append_nil _)).trans numbered.received
  latest := by
    rw [received_append, latest, State.latestNumber, counted, kept]
    exact numbered.latest.trans (congrArg (codeOf · _) (congrArg events (List.append_nil _).symm))

theorem numbered_record (here : Invariant before state) (numbered : Numbered before state)
    (moved : state.record = some next) : Numbered (before ++ [.record]) next := by
  have quiet : received (before ++ [.record]) = received before :=
    (received_append _ _).trans (List.append_nil _)
  have all := numbered.received
  have counted := numbered.length
  rw [State.record] at moved
  generalize standing : state.recording = recording at moved
  have position := here.recording
  rw [standing] at position
  cases position with
  | idle => cases moved
  | starting ticks =>
      rw [recordByte_start] at moved
      cases moved
      exact numbered.recorded rfl rfl (by rw [standing]; rfl) (by rw [standing]; rfl)
  | stepping byte =>
      cases moved
      exact numbered.recorded rfl rfl (by rw [standing]; rfl) (by rw [standing]; rfl)
  | storing byte code resetAt ticks own reset =>
      cases moved
      exact numbered.recorded rfl rfl (by rw [standing]; rfl) (by rw [standing]; rfl)
  | keeping byte code resetAt ticks own reset =>
      cases moved
      have pending : state.recording.pending = [code] := by
        rw [standing, Recording.pending]
        simp [own]
      rw [pending] at all
      refine ⟨numbered.transport, ?_, ?_⟩
      · rw [quiet, all]
        simp [Recording.pending, own]
      · rw [quiet]
        have found : (events (received before))[state.counted.length]? = some code := by
          rw [all, ← counted, List.getElem?_concat_length]
        exact (codeOf_succ found).symm
  | counting byte code resetAt ticks own reset =>
      cases moved
      have pending : state.recording.pending = [code] := by
        rw [standing, Recording.pending]
        simp [own]
      have kept : state.recording.kept = 1 := by rw [standing, Recording.kept]
      rw [pending] at all
      refine ⟨?_, ?_, ?_⟩
      · intro count member
        rcases List.mem_append.mp member with old | new
        · exact numbered.transport count old
        · rw [List.mem_singleton.mp new]
          exact ⟨code, own⟩
      · rw [quiet, all]
        simp [Recording.pending, events, own]
      · have latest := numbered.latest
        rw [State.latestNumber, kept] at latest
        rw [quiet]
        change state.cells.midiTransportLatest = codeOf _ ((state.counted ++ [_]).length + 0)
        rw [List.length_append]
        exact latest

theorem numbered_step (here : Invariant before state) (numbered : Numbered before state)
    (moved : step state action = some next) : Numbered (before ++ [action]) next := by
  cases action with
  | receive byte => exact numbered_receive numbered moved
  | record => exact numbered_record here numbered moved
  | callMapper => exact numbered.unrecorded (unrecorded_of_mapper here moved (.inl rfl)).1 rfl
  | map => exact numbered.unrecorded (unrecorded_of_mapper here moved (.inr rfl)).1 rfl
  | callFrameWriter => exact numbered.unrecorded (unrecorded_of_frame_writer here moved (.inl rfl)) rfl
  | frame => exact numbered.unrecorded (unrecorded_of_frame_writer here moved (.inr rfl)) rfl

theorem numbered_of_run {schedule : List Action} {last : State}
    (run : exec step State.init schedule = some last) : Numbered schedule last :=
  exec_induction (motive := Numbered) numbered_init
    (fun _ _ _ _ reached numbered moved =>
      numbered_step (invariant_run reached) numbered moved) schedule last run

/-! ## What a reading carries, by number -/

theorem kept_le_pending {recording : Recording} (position : RecordingAt before recording) :
    recording.kept ≤ recording.pending.length := by
  cases position with
  | idle => exact le_rfl
  | starting => exact Nat.zero_le _
  | stepping => exact Nat.zero_le _
  | storing => exact Nat.zero_le _
  | keeping => exact Nat.zero_le _
  | counting byte code resetAt ticks own =>
      rw [Recording.pending, own]
      exact le_rfl

theorem number_bounds (here : Invariant before state) (numbered : Numbered before state) :
    state.counted.length ≤ state.latestNumber ∧
      state.latestNumber ≤ (events (received before)).length := by
  have kept := kept_le_pending here.recording
  have all := congrArg List.length numbered.received
  rw [List.length_append, numbered.length] at all
  unfold State.latestNumber
  omega

theorem counted_step (moved : step state action = some next) :
    next.clock = state.clock + 1 ∧ (next.counted = state.counted ∨
      ∃ byte resetAt, next.counted = state.counted ++ [⟨byte, resetAt, state.clock⟩]) := by
  cases action with
  | receive byte =>
      simp only [step, State.receive] at moved
      split at moved
      next => cases moved
      next =>
        cases moved
        exact ⟨rfl, .inl rfl⟩
  | record =>
      simp only [step, State.record] at moved
      split at moved
      next => cases moved
      next op rest _ =>
        cases moved
        refine ⟨rfl, ?_⟩
        cases op with
        | fetchAddCount => exact .inr ⟨_, _, rfl⟩
        | _ => exact .inl rfl
  | callMapper =>
      simp only [step, State.callMapper] at moved
      split at moved
      next => cases moved
      next =>
        cases moved
        exact ⟨rfl, .inl rfl⟩
  | map =>
      simp only [step, State.map] at moved
      split at moved
      next => cases moved
      next =>
        split at moved
        all_goals
          cases moved
          exact ⟨rfl, .inl rfl⟩
  | callFrameWriter =>
      simp only [step, State.callFrameWriter] at moved
      split at moved
      next => cases moved
      next =>
        cases moved
        exact ⟨rfl, .inl rfl⟩
  | frame =>
      simp only [step, State.frame] at moved
      split at moved
      next => cases moved
      next =>
        split at moved
        all_goals
          cases moved
          exact ⟨rfl, .inl rfl⟩

theorem counted_grows {schedule : List Action} {start last : State}
    (run : exec step start schedule = some last) :
    start.clock ≤ last.clock ∧ ∃ later, last.counted = start.counted ++ later ∧
      ∀ count ∈ later, start.clock ≤ count.countedAt := by
  refine exec_invariant (motive := fun state => start.clock ≤ state.clock ∧ ∃ later,
    state.counted = start.counted ++ later ∧ ∀ count ∈ later, start.clock ≤ count.countedAt)
    ⟨le_rfl, [], (List.append_nil _).symm, by simp⟩ ?_ run
  rintro state action next ⟨past, later, grown, after⟩ moved
  obtain ⟨tick, same | ⟨byte, resetAt, more⟩⟩ := counted_step moved
  · exact ⟨by omega, later, same.trans grown, after⟩
  · refine ⟨by omega, later ++ [⟨byte, resetAt, state.clock⟩], ?_, ?_⟩
    · rw [more, grown, List.append_assoc]
    · intro count member
      rcases List.mem_append.mp member with old | new
      · exact after count old
      · rw [List.mem_singleton.mp new]
        exact past

theorem window_at {schedule : List Action} {held last : State} {instant : Nat}
    (reached : exec step State.init (schedule.take instant) = some held)
    (run : exec step State.init schedule = some last) (inside : instant ≤ schedule.length) :
    window Counted.countedAt last.counted 0 instant = held.counted := by
  have here := invariant_run reached
  have now : (schedule.take instant).length = instant := List.length_take_of_le inside
  rw [← List.take_append_drop instant schedule, exec_append, reached] at run
  obtain ⟨_, later, grown, after⟩ := counted_grows run
  have clock := here.clock
  rw [grown, window, List.filter_append, List.filter_eq_self.mpr, List.filter_eq_nil_iff.mpr,
    List.append_nil]
  · intro count member
    have := after count member
    simp
    omega
  · intro count member
    have := here.countedPast count member
    simp
    omega

theorem latestNumber_mono (here : Invariant before state) (moved : step state action = some next) :
    state.latestNumber ≤ next.latestNumber := by
  have reader (same : Unrecorded state next) : state.latestNumber ≤ next.latestNumber := by
    rw [State.latestNumber, State.latestNumber, same.counted, same.recording]
  cases action with
  | receive byte =>
      simp only [step, State.receive] at moved
      split at moved
      next => cases moved
      next ticks idle =>
        cases moved
        rw [State.latestNumber, Recording.kept, idle]
        exact Nat.le_add_right _ _
  | record =>
      simp only [step, State.record] at moved
      generalize standing : state.recording = recording at moved
      have position := here.recording
      rw [standing] at position
      rw [State.latestNumber, standing]
      cases position with
      | idle => cases moved
      | starting =>
          rw [recordByte_start] at moved
          cases moved
          exact le_rfl
      | stepping | storing =>
          cases moved
          exact le_rfl
      | keeping =>
          cases moved
          exact Nat.le_succ _
      | counting =>
          cases moved
          show _ ≤ (state.counted ++ [_]).length + 0
          rw [List.length_append]
          exact le_rfl
  | callMapper => exact reader (unrecorded_of_mapper here moved (.inl rfl)).1
  | map => exact reader (unrecorded_of_mapper here moved (.inr rfl)).1
  | callFrameWriter => exact reader (unrecorded_of_frame_writer here moved (.inl rfl))
  | frame => exact reader (unrecorded_of_frame_writer here moved (.inr rfl))

theorem numberAt_mono {schedule : List Action} {last : State}
    (run : exec step State.init schedule = some last) {first second : Nat} (le : first ≤ second) :
    numberAt schedule first ≤ numberAt schedule second := by
  induction second, le using Nat.le_induction with
  | base => exact le_rfl
  | succ second _ ih =>
      apply ih.trans
      by_cases inside : second < schedule.length
      · obtain ⟨next, reached⟩ := exec_take run (second + 1)
        rw [numberAt, numberAt, reached]
        rw [List.take_succ_eq_append_getElem inside] at reached
        obtain ⟨state, before, moved⟩ := exec_snoc_some reached
        rw [before]
        exact latestNumber_mono (invariant_run before) moved
      · rw [numberAt, numberAt, List.take_of_length_le (by omega), List.take_of_length_le (by omega)]

def LoadsLatest (schedule : List Action) (latestAt : Nat) (transportLast : BitVec 32) : Prop :=
  ∃ held, exec step State.init (schedule.take latestAt) = some held ∧
    transportLast = held.cells.midiTransportLatest.setWidth 32

theorem LoadsLatest.later {latestAt : Nat} {transportLast : BitVec 32}
    (loads : LoadsLatest before latestAt transportLast) (past : latestAt < before.length)
    (action : Action) : LoadsLatest (before ++ [action]) latestAt transportLast := by
  obtain ⟨held, reached, same⟩ := loads
  exact ⟨held, by rwa [List.take_append_of_le_length past.le], same⟩

/-- Where a reading in progress stands. One that has loaded anything came after every reading
that is over. -/
structure Reading (schedule : List Action) (frames : List FrameReading) (framing : Framing) :
    Prop where
  after : framing.program = readFrameMidi ∨ ∀ frame ∈ frames, frame.latestAt < framing.stepsAt
  loaded : ∀ midi, framing.program = .done midi → framing.latestAt < schedule.length ∧
    LoadsLatest schedule framing.latestAt midi.transportLast

structure Loads (schedule : List Action) (state : State) : Prop where
  reading : ∀ framing, state.framing = some framing → Reading schedule state.frames framing
  frames : ∀ frame ∈ state.frames, LoadsLatest schedule frame.latestAt frame.midi.transportLast
  ordered : state.frames.Pairwise fun first second => first.latestAt < second.stepsAt

theorem Loads.later (here : Invariant before state) (loads : Loads before state)
    (framing : next.framing = state.framing) (frames : next.frames = state.frames)
    (action : Action) : Loads (before ++ [action]) next where
  reading := by
    rw [framing, frames]
    intro reading stands
    obtain ⟨after, loaded⟩ := loads.reading reading stands
    refine ⟨after, fun midi ended => ?_⟩
    obtain ⟨past, held⟩ := loaded midi ended
    exact ⟨by rw [List.length_append]; omega, held.later past action⟩
  frames := by
    rw [frames]
    exact fun frame member =>
      (loads.frames frame member).later (here.frames frame member).past action
  ordered := by
    rw [frames]
    exact loads.ordered

theorem loads_step (reached : exec step State.init before = some state)
    (here : Invariant before state) (loads : Loads before state)
    (moved : step state action = some next) : Loads (before ++ [action]) next := by
  cases action with
  | receive byte =>
      simp only [step, State.receive] at moved
      split at moved
      next => cases moved
      next =>
        cases moved
        refine loads.later here ?_ ?_ _
        all_goals rfl
  | record =>
      simp only [step, State.record] at moved
      split at moved
      next => cases moved
      next =>
        cases moved
        refine loads.later here ?_ ?_ _
        all_goals rfl
  | callMapper =>
      obtain ⟨_, framing, frames⟩ := unrecorded_of_mapper here moved (.inl rfl)
      exact loads.later here framing frames _
  | map =>
      obtain ⟨_, framing, frames⟩ := unrecorded_of_mapper here moved (.inr rfl)
      exact loads.later here framing frames _
  | callFrameWriter =>
      simp only [step, State.callFrameWriter] at moved
      split at moved
      next => cases moved
      next =>
        cases moved
        refine ⟨?_, fun frame member =>
          (loads.frames frame member).later (here.frames frame member).past _, loads.ordered⟩
        rintro _ ⟨⟩
        exact ⟨.inl rfl, fun midi ended => by cases ended⟩
  | frame =>
      have frames (frame : FrameReading) (member : frame ∈ state.frames) :=
        (loads.frames frame member).later (here.frames frame member).past .frame
      simp only [step, State.frame] at moved
      generalize standing : state.framing = framing at moved
      have position := here.framing
      have reading := loads.reading
      rw [standing] at position reading
      cases position with
      | idle => cases moved
      | beginning =>
          cases moved
          refine ⟨?_, frames, loads.ordered⟩
          rintro _ ⟨⟩
          refine ⟨.inr fun frame member => ?_, fun midi ended => by cases ended⟩
          show frame.latestAt < state.clock
          rw [here.clock]
          exact (here.frames frame member).past
      | counting stepsAt countAt latestAt steps past held =>
          cases moved
          refine ⟨?_, frames, loads.ordered⟩
          rintro _ ⟨⟩
          refine ⟨.inr ?_, fun midi ended => by cases ended⟩
          exact (reading _ rfl).after.resolve_left (by rintro ⟨⟩)
      | keeping stepsAt countAt latestAt steps after past held =>
          cases moved
          refine ⟨?_, frames, loads.ordered⟩
          rintro _ ⟨⟩
          refine ⟨.inr ((reading _ rfl).after.resolve_left (by rintro ⟨⟩)), ?_⟩
          rintro midi ⟨⟩
          refine ⟨?_, state, ?_, rfl⟩
          · show state.clock < (before ++ [Action.frame]).length
            rw [here.clock, List.length_append]
            exact Nat.lt_succ_self _
          · show exec step State.init ((before ++ [Action.frame]).take state.clock) = some state
            rw [here.clock, List.take_left]
            exact reached
      | returning stepsAt countAt latestAt steps transportLast after later past held =>
          cases moved
          obtain ⟨apart, loaded⟩ := reading _ rfl
          obtain ⟨past, latest⟩ := loaded _ rfl
          refine ⟨?_, ?_, ?_⟩
          · rintro _ ⟨⟩
          · intro frame member
            rcases List.mem_append.mp member with old | new
            · exact frames frame old
            · rw [List.mem_singleton.mp new]
              exact latest.later past _
          · refine List.pairwise_append.mpr ⟨loads.ordered, List.pairwise_singleton _ _, ?_⟩
            intro frame old _ new
            rw [List.mem_singleton.mp new]
            exact apart.resolve_left (by rintro ⟨⟩) frame old

theorem loads_of_run {schedule : List Action} {last : State}
    (run : exec step State.init schedule = some last) : Loads schedule last := by
  refine exec_induction (motive := Loads) ⟨?_, ?_, ?_⟩
    (fun _ _ _ _ reached loads moved => loads_step reached (invariant_run reached) loads moved)
    schedule last run
  · simp [State.init]
  · simp [State.init]
  · exact .nil

theorem transportCode_ne_zero {byte code : BitVec 8} (own : transportCode byte = some code) :
    code.setWidth 32 ≠ (0 : BitVec 32) := by
  unfold transportCode at own
  split_ifs at own <;> cases own <;> decide

/-- Of every reading, the event behind its last code is numbered at least its count. Over the
readings neither goes back, and the counts tell how many events were counted in between. The
mapper touches none of this. -/
theorem frames_lose_no_transport {schedule : List Action} {last : State}
    (run : exec step State.init schedule = some last)
    (few : (events (received schedule)).length < 2 ^ 32) :
    (∀ frame ∈ last.frames,
      frame.midi.transportCount.toNat ≤ numberAt schedule frame.latestAt ∧
      (numberAt schedule frame.latestAt = 0 ∧ frame.midi.transportLast = 0 ∨
        ∃ index code, numberAt schedule frame.latestAt = index + 1 ∧
          (events (received schedule))[index]? = some code ∧
          frame.midi.transportLast = code.setWidth 32) ∧
      (frame.midi.transportCount ≠ 0 → frame.midi.transportLast ≠ 0)) ∧
    (last.frames.Pairwise fun first second =>
      first.midi.transportCount.toNat +
          (window Counted.countedAt last.counted first.countAt second.countAt).length =
        second.midi.transportCount.toNat ∧
      numberAt schedule first.latestAt ≤ numberAt schedule second.latestAt) ∧
    ∀ before state action next, exec step State.init before = some state →
      action = .callMapper ∨ action = .map → step state action = some next →
      next.cells.midiTransportCount = state.cells.midiTransportCount ∧
      next.cells.midiTransportLatest = state.cells.midiTransportLatest ∧
      next.latestNumber = state.latestNumber ∧
      next.framing = state.framing ∧ next.frames = state.frames := by
  have here := invariant_run run
  have loads := loads_of_run run
  have bounded := number_bounds here (numbered_of_run run)
  have count (frame : FrameReading) (member : frame ∈ last.frames) :
      frame.midi.transportCount.toNat =
        (window Counted.countedAt last.counted 0 frame.countAt).length := by
    have part : (window Counted.countedAt last.counted 0 frame.countAt).length ≤
        last.counted.length := List.length_filter_le _ _
    rw [(here.frames frame member).count, countedBefore, BitVec.toNat_ofNat]
    exact Nat.mod_eq_of_lt (by omega)
  refine ⟨fun frame member => ?_, ?_, ?_⟩
  · have shows := here.frames frame member
    obtain ⟨held, reached, latest⟩ := loads.frames frame member
    have number : numberAt schedule frame.latestAt = held.latestNumber := by
      rw [numberAt, reached]
      rfl
    have numbered := numbered_of_run reached
    obtain ⟨low, high⟩ := number_bounds (invariant_run reached) numbered
    have covered : frame.midi.transportCount.toNat ≤ held.latestNumber := by
      have later : (window Counted.countedAt last.counted 0 frame.countAt).length +
          (window Counted.countedAt last.counted frame.countAt frame.latestAt).length =
            (window Counted.countedAt last.counted 0 frame.latestAt).length :=
        window_cut (Nat.zero_le _) shows.countFirst.le
      rw [window_at reached run shows.past.le, ← count frame member] at later
      omega
    rw [number]
    rw [numbered.latest] at latest
    refine ⟨covered, ?_⟩
    cases index : held.latestNumber with
    | zero =>
        rw [index] at latest covered
        have none_yet : frame.midi.transportCount = 0 := BitVec.eq_of_toNat_eq (by simpa using covered)
        exact ⟨.inl ⟨rfl, latest⟩, fun some_yet => absurd none_yet some_yet⟩
    | succ index' =>
        rw [index] at latest high
        obtain ⟨code, found⟩ : ∃ code,
            (events (received (schedule.take frame.latestAt)))[index']? = some code :=
          ⟨_, List.getElem?_eq_getElem (Nat.lt_of_succ_le high)⟩
        have whole : events (received schedule) = events (received (schedule.take frame.latestAt)) ++
            events (received (schedule.drop frame.latestAt)) := by
          rw [← events_append, ← received_append, List.take_append_drop]
        rw [codeOf_succ found] at latest
        refine ⟨.inr ⟨index', code, rfl, ?_, latest⟩, fun _ => ?_⟩
        · rw [whole, List.getElem?_append_left (Nat.lt_of_succ_le high)]
          exact found
        · obtain ⟨byte, _, own⟩ := List.mem_filterMap.mp (List.mem_of_getElem? found)
          rw [latest]
          exact transportCode_ne_zero own
  · refine loads.ordered.imp_of_mem fun {first second} before after apart => ?_
    have left := here.frames first before
    have right := here.frames second after
    have order : first.latestAt < second.countAt := apart.trans right.stepsFirst
    constructor
    · rw [count first before, count second after]
      exact window_cut (Nat.zero_le _) (left.countFirst.trans order).le
    · exact numberAt_mono run (order.trans right.countFirst).le
  · intro before state action next reached mapper moved
    obtain ⟨same, framing, frames⟩ := unrecorded_of_mapper (invariant_run reached) moved mapper
    refine ⟨same.count, same.latest, ?_, framing, frames⟩
    rw [State.latestNumber, State.latestNumber, same.counted, same.recording]

end
def countedLate : List Action :=
  [.receive midiStatusStart, .record, .record, .record, .record, .callFrameWriter, .frame, .frame,
    .frame, .frame, .receive midiStatusStop, .record, .record, .callFrameWriter, .frame, .frame,
    .frame, .frame]

theorem counted_late_is_read_ahead : ∃ last, exec step State.init countedLate = some last ∧
    last.frames.map FrameReading.midi = [⟨0, 1, 1⟩, ⟨0, 1, 2⟩] ∧
    last.frames.Pairwise fun first second => numberAt countedLate first.latestAt ≤
      numberAt countedLate second.latestAt := by
  have run : exec step State.init countedLate = some _ := rfl
  refine ⟨_, run, by decide, ?_⟩
  exact (frames_lose_no_transport run (by decide)).2.1.imp fun facts => facts.2

end Phase4.Managers.MidiRun
