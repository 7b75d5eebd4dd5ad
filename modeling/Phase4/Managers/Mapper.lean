import Phase4.Library.Watch
import Phase4.Library.Schedule
import Phase4.Frames.Region
import Phase4.Managers.Analyser

namespace Phase4.Managers.Mapper
open Library Dsp

/-! ## From analyser to display

The analyser, the mapper and the frame writer run on threads of their own and meet in two
watch channels. Each thread's position is where it may be interrupted. -/

inductive AnalyserAt where
  | idle
  | written
  | taken (payload : RawPayload)
  | exited
deriving DecidableEq

inductive MapperAt where
  | firstCheck
  | awaitFirst
  | check
  | select
  | copied
  | midiRead
  | taken (payload : DisplayPayload)
  | exited
deriving DecidableEq

/-- What was sent so far, and how many snapshots there were at each read of the mapper. -/
structure History where
  snapshots : List RawPayload
  reads : List Nat
  frames : List DisplayPayload
deriving DecidableEq

structure Pipeline where
  frameData : RawPayload
  rawTx : Watch RawPayload
  analyser : AnalyserAt
  displayData : DisplayPayload
  displayTx : Watch DisplayPayload
  mapper : MapperAt
  mapperSeen : Nat
  latestFrameAvailable : Bool
  writerSeen : Nat
  keepRunning : Bool
  panicked : Bool
  history : History

def Pipeline.new (channels : Nat) : Pipeline where
  frameData := .new channels
  rawTx := .new (.new channels)
  analyser := .idle
  displayData := .new channels
  displayTx := .new (.new channels)
  mapper := .firstCheck
  mapperSeen := 0
  latestFrameAvailable := false
  writerSeen := 0
  keepRunning := true
  panicked := false
  history := ⟨[], [], []⟩

/-- Where a thread takes its next write buffer from. The program recycles what
`send_replace` hands back. -/
inductive Buffers where
  | recycled
  | fresh
deriving DecidableEq

def Buffers.pick {α : Type} (spare new : α) : Buffers → α
  | .recycled => spare
  | .fresh => new

inductive Action where
  | write (level : Nat → ChannelLevel)
  | closed
  | takeRaw
  | replaceRaw
  | analyserExits
  | mapperChecks
  | rawChanged
  | tick
  | readMidi (midi : Option MidiSnapshot)
  | takeDisplay
  | replaceDisplay
  | writeFrame (midi : Frames.FrameMidi) (publishedNs : BitVec 64)
  | stop

def writeLevels (level : Nat → ChannelLevel) (channels : Nat) (payload : RawPayload) :
    Option RawPayload :=
  (List.range channels).foldlM (fun payload ch => do
    let _ ← payload.channels[ch]?
    return ⟨payload.channels.set ch (level ch)⟩) payload

def copyFromSlice (target source : List ChannelLevel) : Option (List ChannelLevel) :=
  if target.length = source.length then some source else none

namespace Pipeline

def panic (state : Pipeline) : Pipeline := { state with panicked := true }

def analyserWrites (buffers : Buffers) (channels : Nat) (level : Nat → ChannelLevel)
    (state : Pipeline) : Pipeline :=
  match writeLevels level channels (buffers.pick state.frameData (.new channels)) with
  | none => state.panic
  | some frameData => { state with frameData, analyser := .written }

def replaceRaw (payload : RawPayload) (state : Pipeline) : Pipeline :=
  { state with
    frameData := state.rawTx.value
    rawTx := state.rawTx.send payload
    analyser := .idle
    history := { state.history with snapshots := state.history.snapshots ++ [payload] } }

def rawChanged (state : Pipeline) : Option Pipeline :=
  if state.rawTx.version ≠ state.mapperSeen then
    let seen := { state with mapperSeen := state.rawTx.version }
    let available := !state.rawTx.value.channels.isEmpty
    match state.mapper with
    | .awaitFirst =>
        if available then some { seen with latestFrameAvailable := true, mapper := .check }
        else some { seen with mapper := .firstCheck }
    | .select => some { seen with latestFrameAvailable := available, mapper := .check }
    | _ => none
  else if state.analyser = .exited then
    match state.mapper with
    | .awaitFirst | .select => some { state with mapper := .exited }
    | _ => none
  else none

def copyRaw (buffers : Buffers) (channels : Nat) (state : Pipeline) : Pipeline :=
  let spare := buffers.pick state.displayData (.new channels)
  match copyFromSlice spare.channels state.rawTx.value.channels with
  | none => state.panic
  | some copied => { state with
      displayData := { spare with channels := copied }
      mapperSeen := state.rawTx.version
      mapper := .copied
      history := { state.history with
        reads := state.history.reads ++ [state.history.snapshots.length] } }

def replaceDisplay (payload : DisplayPayload) (state : Pipeline) : Pipeline :=
  { state with
    displayData := state.displayTx.value
    displayTx := state.displayTx.send payload
    mapper := .check
    history := { state.history with frames := state.history.frames ++ [payload] } }

def writeFrame (channels : Nat) (midi : Frames.FrameMidi) (publishedNs : BitVec 64)
    (state : Pipeline) : Pipeline :=
  let seen := { state with writerSeen := state.rawTx.version }
  if state.rawTx.value.channels.isEmpty then seen
  else
    match Frames.publish channels state.rawTx.value.channels midi publishedNs with
    | none => seen.panic
    | some _ => seen

end Pipeline

def step (buffers : Buffers) (channels : Nat) (state : Pipeline) : Action → Option Pipeline
  | .write level =>
      if state.analyser = .idle then some (state.analyserWrites buffers channels level) else none
  | .closed =>
      if state.analyser = .written then some { state with analyser := .idle } else none
  | .takeRaw =>
      if state.analyser = .written then
        some { state with frameData := ⟨[]⟩, analyser := .taken state.frameData }
      else none
  | .replaceRaw =>
      match state.analyser with
      | .taken payload => some (state.replaceRaw payload)
      | _ => none
  | .analyserExits =>
      if state.analyser = .idle ∧ state.keepRunning = false then
        some { state with analyser := .exited }
      else none
  | .mapperChecks =>
      match state.mapper, state.keepRunning with
      | .firstCheck, true => some { state with mapper := .awaitFirst }
      | .firstCheck, false => some { state with latestFrameAvailable := true, mapper := .check }
      | .check, true => some { state with mapper := .select }
      | .check, false => some { state with mapper := .exited }
      | _, _ => none
  | .rawChanged => state.rawChanged
  | .tick =>
      if state.mapper = .select then
        if state.latestFrameAvailable then some (state.copyRaw buffers channels)
        else some { state with mapper := .check }
      else none
  | .readMidi midi =>
      if state.mapper = .copied then
        some { state with
          displayData := { state.displayData with midi }
          mapper := .midiRead }
      else none
  | .takeDisplay =>
      if state.mapper = .midiRead then
        some { state with displayData := ⟨[], none⟩, mapper := .taken state.displayData }
      else none
  | .replaceDisplay =>
      match state.mapper with
      | .taken payload => some (state.replaceDisplay payload)
      | _ => none
  | .writeFrame midi publishedNs =>
      if state.rawTx.version ≠ state.writerSeen then
        some (state.writeFrame channels midi publishedNs)
      else none
  | .stop => some { state with keepRunning := false }

/-! ## Every buffer keeps its length -/

def Pipeline.rawSpare (state : Pipeline) : RawPayload :=
  match state.analyser with
  | .taken payload => payload
  | _ => state.frameData

def Pipeline.displaySpare (state : Pipeline) : DisplayPayload :=
  match state.mapper with
  | .taken payload => payload
  | _ => state.displayData

structure Sized (channels : Nat) (state : Pipeline) : Prop where
  raw : state.rawTx.value.channels.length = channels
  rawSpare : state.rawSpare.channels.length = channels
  display : state.displayTx.value.channels.length = channels
  displaySpare : state.displaySpare.channels.length = channels
  calm : state.panicked = false

theorem writeLevels_eq (level : Nat → ChannelLevel) {channels : Nat} {payload : RawPayload}
    (length : payload.channels.length = channels) :
    writeLevels level channels payload = some ⟨(List.range channels).map level⟩ := by
  have rounds (n : Nat) (inside : n ≤ channels) : writeLevels level n payload =
      some ⟨(List.range n).map level ++ payload.channels.drop n⟩ := by
    induction n with
    | zero => rfl
    | succ n ih =>
        have bound : n < payload.channels.length := by omega
        have earlier := ih (by omega)
        have rest := List.drop_eq_getElem_cons bound
        generalize payload.channels[n] = old, payload.channels.drop (n + 1) = later at rest
        rw [rest, writeLevels] at earlier
        rw [writeLevels, List.range_succ, List.foldlM_append, earlier]
        simp
  rw [rounds channels le_rfl, List.drop_of_length_le length.le, List.append_nil]

theorem copyFromSlice_eq {target source : List ChannelLevel}
    (length : target.length = source.length) : copyFromSlice target source = some source :=
  if_pos length

/-- Neither the spare the writer starts from nor the policy shows in what it writes. -/
theorem analyserWrites_eq (buffers : Buffers) {channels : Nat} (state : Pipeline)
    (idle : state.analyser = .idle) (sized : Sized channels state) (level : Nat → ChannelLevel) :
    state.analyserWrites buffers channels level =
      { state with frameData := ⟨(List.range channels).map level⟩, analyser := .written } := by
  have spare := sized.rawSpare
  rw [Pipeline.rawSpare, idle] at spare
  have length : (buffers.pick state.frameData (.new channels)).channels.length = channels := by
    cases buffers with
    | recycled => exact spare
    | fresh => exact List.length_replicate
  rw [Pipeline.analyserWrites, writeLevels_eq level length]

theorem copyRaw_eq (buffers : Buffers) {channels : Nat} (state : Pipeline)
    (selecting : state.mapper = .select) (sized : Sized channels state) :
    state.copyRaw buffers channels = { state with
      displayData := ⟨state.rawTx.value.channels,
        (buffers.pick state.displayData (.new channels)).midi⟩
      mapperSeen := state.rawTx.version
      mapper := .copied
      history := { state.history with
        reads := state.history.reads ++ [state.history.snapshots.length] } } := by
  have spare := sized.displaySpare
  rw [Pipeline.displaySpare, selecting] at spare
  have length : (buffers.pick state.displayData (.new channels)).channels.length =
      state.rawTx.value.channels.length := by
    rw [sized.raw]
    cases buffers with
    | recycled => exact spare
    | fresh => exact List.length_replicate
  unfold Pipeline.copyRaw
  simp only [copyFromSlice_eq length]

theorem writeFrame_eq {channels : Nat} {state : Pipeline} (sized : Sized channels state)
    (midi : Frames.FrameMidi) (publishedNs : BitVec 64) :
    state.writeFrame channels midi publishedNs = { state with writerSeen := state.rawTx.version } := by
  unfold Pipeline.writeFrame
  split_ifs
  · rfl
  · have asserted : Frames.publish channels state.rawTx.value.channels midi publishedNs ≠ none := by
      rw [Frames.publish, if_neg (not_not.mpr sized.raw)]
      split_ifs
      all_goals exact Option.some_ne_none _
    split
    · exact absurd ‹_› asserted
    · rfl

inductive Moves (channels : Nat) (state : Pipeline) : Action → Pipeline → Prop
  | write (level : Nat → ChannelLevel) (idle : state.analyser = .idle) :
      Moves channels state (.write level)
        { state with frameData := ⟨(List.range channels).map level⟩, analyser := .written }
  | closed (written : state.analyser = .written) :
      Moves channels state .closed { state with analyser := .idle }
  | takeRaw (written : state.analyser = .written) :
      Moves channels state .takeRaw
        { state with frameData := ⟨[]⟩, analyser := .taken state.frameData }
  | replaceRaw {payload : RawPayload} (taken : state.analyser = .taken payload) :
      Moves channels state .replaceRaw (state.replaceRaw payload)
  | analyserExits (idle : state.analyser = .idle) (stopped : state.keepRunning = false) :
      Moves channels state .analyserExits { state with analyser := .exited }
  | await (first : state.mapper = .firstCheck) (running : state.keepRunning = true) :
      Moves channels state .mapperChecks { state with mapper := .awaitFirst }
  | skip (first : state.mapper = .firstCheck) (stopped : state.keepRunning = false) :
      Moves channels state .mapperChecks
        { state with latestFrameAvailable := true, mapper := .check }
  | select (check : state.mapper = .check) (running : state.keepRunning = true) :
      Moves channels state .mapperChecks { state with mapper := .select }
  | leave (check : state.mapper = .check) (stopped : state.keepRunning = false) :
      Moves channels state .mapperChecks { state with mapper := .exited }
  | changed {position : MapperAt} {available : Bool}
      (waiting : state.mapper = .awaitFirst ∨ state.mapper = .select)
      (unseen : state.rawTx.version ≠ state.mapperSeen)
      (after : position = .check ∨ position = .firstCheck) :
      Moves channels state .rawChanged { state with
        mapperSeen := state.rawTx.version, latestFrameAvailable := available, mapper := position }
  | senderGone (waiting : state.mapper = .awaitFirst ∨ state.mapper = .select) :
      Moves channels state .rawChanged { state with mapper := .exited }
  | copy (midi : Option MidiSnapshot) (selecting : state.mapper = .select)
      (available : state.latestFrameAvailable = true) :
      Moves channels state .tick { state with
        displayData := ⟨state.rawTx.value.channels, midi⟩
        mapperSeen := state.rawTx.version
        mapper := .copied
        history := { state.history with
          reads := state.history.reads ++ [state.history.snapshots.length] } }
  | idleTick (selecting : state.mapper = .select) (none_new : state.latestFrameAvailable = false) :
      Moves channels state .tick { state with mapper := .check }
  | readMidi (midi : Option MidiSnapshot) (copied : state.mapper = .copied) :
      Moves channels state (.readMidi midi) { state with
        displayData := { state.displayData with midi }, mapper := .midiRead }
  | takeDisplay (midiRead : state.mapper = .midiRead) :
      Moves channels state .takeDisplay
        { state with displayData := ⟨[], none⟩, mapper := .taken state.displayData }
  | replaceDisplay {payload : DisplayPayload} (taken : state.mapper = .taken payload) :
      Moves channels state .replaceDisplay (state.replaceDisplay payload)
  | writeFrame (midi : Frames.FrameMidi) (publishedNs : BitVec 64)
      (unseen : state.rawTx.version ≠ state.writerSeen) :
      Moves channels state (.writeFrame midi publishedNs)
        { state with writerSeen := state.rawTx.version }
  | stop : Moves channels state .stop { state with keepRunning := false }

theorem moves_rawChanged {channels : Nat} {state next : Pipeline}
    (changed : state.rawChanged = some next) : Moves channels state .rawChanged next := by
  unfold Pipeline.rawChanged at changed
  by_cases unseen : state.rawTx.version ≠ state.mapperSeen
  · rw [if_pos unseen] at changed
    dsimp only at changed
    split at changed
    · split_ifs at changed
      all_goals cases changed
      · exact .changed (.inl ‹_›) unseen (.inl rfl)
      · exact .changed (.inl ‹_›) unseen (.inr rfl)
    · cases changed
      exact .changed (.inr ‹_›) unseen (.inl rfl)
    · cases changed
  · rw [if_neg unseen] at changed
    split_ifs at changed
    split at changed
    · cases changed
      exact .senderGone (.inl ‹_›)
    · cases changed
      exact .senderGone (.inr ‹_›)
    · cases changed

theorem moves_of_step {buffers : Buffers} {channels : Nat} {state next : Pipeline}
    {action : Action} (sized : Sized channels state)
    (moved : step buffers channels state action = some next) :
    Moves channels state action next := by
  cases action with
  | write level =>
      simp only [step] at moved
      split_ifs at moved with idle
      cases moved
      rw [analyserWrites_eq buffers state idle sized]
      exact .write level idle
  | closed =>
      simp only [step] at moved
      split_ifs at moved with written
      cases moved
      exact .closed written
  | takeRaw =>
      simp only [step] at moved
      split_ifs at moved with written
      cases moved
      exact .takeRaw written
  | replaceRaw =>
      simp only [step] at moved
      split at moved
      all_goals cases moved
      exact .replaceRaw ‹_›
  | analyserExits =>
      simp only [step] at moved
      split_ifs at moved with idle
      cases moved
      exact .analyserExits idle.1 idle.2
  | mapperChecks =>
      simp only [step] at moved
      split at moved
      all_goals cases moved
      · exact .await ‹_› ‹_›
      · exact .skip ‹_› ‹_›
      · exact .select ‹_› ‹_›
      · exact .leave ‹_› ‹_›
  | rawChanged => exact moves_rawChanged moved
  | tick =>
      simp only [step] at moved
      split_ifs at moved with selecting available
      all_goals cases moved
      · rw [copyRaw_eq buffers state selecting sized]
        exact .copy _ selecting available
      · exact .idleTick selecting (by simpa using available)
  | readMidi midi =>
      simp only [step] at moved
      split_ifs at moved with copied
      cases moved
      exact .readMidi midi copied
  | takeDisplay =>
      simp only [step] at moved
      split_ifs at moved with midiRead
      cases moved
      exact .takeDisplay midiRead
  | replaceDisplay =>
      simp only [step] at moved
      split at moved
      all_goals cases moved
      exact .replaceDisplay ‹_›
  | writeFrame midi publishedNs =>
      simp only [step] at moved
      split_ifs at moved with unseen
      cases moved
      rw [writeFrame_eq sized]
      exact .writeFrame midi publishedNs unseen
  | stop =>
      cases moved
      exact .stop

theorem sized_new (channels : Nat) : Sized channels (.new channels) := by
  constructor
  all_goals simp [Pipeline.new, Pipeline.rawSpare, Pipeline.displaySpare, RawPayload.new,
    DisplayPayload.new]

theorem Sized.moves {channels : Nat} {state next : Pipeline} {action : Action}
    (sized : Sized channels state) (moves : Moves channels state action next) :
    Sized channels next := by
  obtain ⟨raw, rawSpare, display, displaySpare, calm⟩ := sized
  rw [Pipeline.rawSpare] at rawSpare
  rw [Pipeline.displaySpare] at displaySpare
  cases moves with
  | write level idle => exact ⟨raw, by simp [Pipeline.rawSpare], display, displaySpare, calm⟩
  | closed written | takeRaw written =>
      rw [written] at rawSpare
      exact ⟨raw, rawSpare, display, displaySpare, calm⟩
  | replaceRaw taken =>
      rw [taken] at rawSpare
      exact ⟨rawSpare, raw, display, displaySpare, calm⟩
  | analyserExits idle _ =>
      rw [idle] at rawSpare
      exact ⟨raw, rawSpare, display, displaySpare, calm⟩
  | await here _ | skip here _ | select here _ | leave here _ | idleTick here _ =>
      rw [here] at displaySpare
      exact ⟨raw, rawSpare, display, displaySpare, calm⟩
  | changed waiting _ after =>
      refine ⟨raw, rawSpare, display, ?_, calm⟩
      rcases waiting with waiting | waiting
      all_goals
        rw [waiting] at displaySpare
        rcases after with rfl | rfl
        all_goals exact displaySpare
  | senderGone waiting =>
      refine ⟨raw, rawSpare, display, ?_, calm⟩
      rcases waiting with waiting | waiting
      all_goals
        rw [waiting] at displaySpare
        exact displaySpare
  | copy midi _ _ => exact ⟨raw, rawSpare, display, raw, calm⟩
  | readMidi midi here | takeDisplay here =>
      rw [here] at displaySpare
      exact ⟨raw, rawSpare, display, displaySpare, calm⟩
  | replaceDisplay taken =>
      rw [taken] at displaySpare
      exact ⟨raw, rawSpare, displaySpare, display, calm⟩
  | writeFrame | stop => exact ⟨raw, rawSpare, display, displaySpare, calm⟩

/-! ## Every frame shows the snapshot it was read from -/

def Pipeline.inHand (state : Pipeline) : List DisplayPayload :=
  match state.mapper with
  | .copied | .midiRead => [state.displayData]
  | .taken payload => [payload]
  | _ => []

def Shows (snapshots : List RawPayload) (n : Nat) (frame : DisplayPayload) : Prop :=
  ∃ snapshot, 0 < n ∧ snapshots[n - 1]? = some snapshot ∧ frame.channels = snapshot.channels

theorem Shows.append {snapshots : List RawPayload} {n : Nat} {frame : DisplayPayload}
    (shows : Shows snapshots n frame) (later : List RawPayload) :
    Shows (snapshots ++ later) n frame := by
  obtain ⟨snapshot, positive, found, same⟩ := shows
  have bound := (List.getElem?_eq_some_iff.mp found).1
  exact ⟨snapshot, positive, by rw [List.getElem?_append_left bound, found], same⟩

theorem Shows.midi {snapshots : List RawPayload} {reads : List Nat} {frames : List DisplayPayload}
    {frame : DisplayPayload} (midi : Option MidiSnapshot)
    (shows : List.Forall₂ (Shows snapshots) reads (frames ++ [frame])) :
    List.Forall₂ (Shows snapshots) reads (frames ++ [{ frame with midi }]) := by
  induction frames generalizing reads with
  | nil =>
      obtain ⟨n, rest, shown, nothing, rfl⟩ := List.forall₂_cons_right_iff.mp shows
      exact .cons shown nothing
  | cons first rest ih =>
      obtain ⟨n, others, shown, later, rfl⟩ := List.forall₂_cons_right_iff.mp shows
      exact .cons shown (ih later)

structure Recorded (state : Pipeline) : Prop where
  sent : state.rawTx.version = state.history.snapshots.length
  latest : 0 < state.history.snapshots.length →
    state.history.snapshots[state.history.snapshots.length - 1]? = some state.rawTx.value
  seen : state.mapperSeen ≤ state.rawTx.version
  shown : state.displayTx.version = state.history.frames.length
  current : ∀ frame, state.history.frames.getLast? = some frame → state.displayTx.value = frame
  started : state.mapper = .select ∨ state.mapper = .check ∧ state.keepRunning = true →
    0 < state.history.snapshots.length
  ordered : state.history.reads.Pairwise (· ≤ ·)
  bounded : ∀ n ∈ state.history.reads, 0 < n ∧ n ≤ state.history.snapshots.length
  shows : List.Forall₂ (Shows state.history.snapshots) state.history.reads
    (state.history.frames ++ state.inHand)

theorem recorded_new (channels : Nat) : Recorded (.new channels) := by
  constructor
  all_goals simp [Pipeline.new, Pipeline.inHand]

theorem Recorded.moves {channels : Nat} {state next : Pipeline} {action : Action}
    (recorded : Recorded state) (moves : Moves channels state action next) : Recorded next := by
  obtain ⟨sent, latest, seen, shown, current, started, ordered, bounded, shows⟩ := recorded
  rw [Pipeline.inHand] at shows
  cases moves with
  | write level _ | closed _ | takeRaw _ | analyserExits _ _ | writeFrame =>
      exact ⟨sent, latest, seen, shown, current, started, ordered, bounded, shows⟩
  | @replaceRaw payload _ =>
      refine ⟨?_, ?_, ?_, shown, current, ?_, ordered, ?_, ?_⟩
      · simp [Pipeline.replaceRaw, sent]
      · simp [Pipeline.replaceRaw]
      · simp only [Pipeline.replaceRaw, Watch.send_version]
        omega
      · simp [Pipeline.replaceRaw]
      · intro n member
        obtain ⟨positive, bound⟩ := bounded n member
        refine ⟨positive, bound.trans ?_⟩
        simp [Pipeline.replaceRaw]
      · exact shows.imp fun n frame held => held.append [payload]
  | await first _ =>
      rw [first] at shows
      exact ⟨sent, latest, seen, shown, current, by simp, ordered, bounded, shows⟩
  | skip first stopped =>
      rw [first] at shows
      exact ⟨sent, latest, seen, shown, current, by simp [stopped], ordered, bounded, shows⟩
  | select check running =>
      rw [check] at shows
      exact ⟨sent, latest, seen, shown, current, fun _ => started (.inr ⟨check, running⟩), ordered, bounded,
        shows⟩
  | leave check _ =>
      rw [check] at shows
      exact ⟨sent, latest, seen, shown, current, by simp, ordered, bounded, shows⟩
  | changed waiting unseen after =>
      have some_sent : 0 < state.history.snapshots.length := by omega
      refine ⟨sent, latest, le_rfl, shown, current, fun _ => some_sent, ordered, bounded, ?_⟩
      rcases waiting with waiting | waiting
      all_goals
        rw [waiting] at shows
        rcases after with rfl | rfl
        all_goals exact shows
  | senderGone waiting =>
      refine ⟨sent, latest, seen, shown, current, by simp, ordered, bounded, ?_⟩
      rcases waiting with waiting | waiting
      all_goals
        rw [waiting] at shows
        exact shows
  | copy midi selecting _ =>
      rw [selecting, List.append_nil] at shows
      have some_sent := started (.inl selecting)
      refine ⟨sent, latest, le_rfl, shown, current, by simp, ?_, ?_, ?_⟩
      · refine List.pairwise_append.mpr ⟨ordered, List.pairwise_singleton _ _, ?_⟩
        intro n member last isLast
        rw [List.mem_singleton.mp isLast]
        exact (bounded n member).2
      · intro n member
        rcases List.mem_append.mp member with earlier | isLast
        · exact bounded n earlier
        · rw [List.mem_singleton.mp isLast]
          exact ⟨some_sent, le_rfl⟩
      · refine List.rel_append shows (.cons ?_ .nil)
        exact ⟨state.rawTx.value, some_sent, latest some_sent, rfl⟩
  | idleTick selecting _ =>
      rw [selecting] at shows
      exact ⟨sent, latest, seen, shown, current, fun _ => started (.inl selecting), ordered, bounded, shows⟩
  | readMidi midi copied =>
      rw [copied] at shows
      exact ⟨sent, latest, seen, shown, current, by simp, ordered, bounded, Shows.midi midi shows⟩
  | takeDisplay midiRead =>
      rw [midiRead] at shows
      exact ⟨sent, latest, seen, shown, current, by simp, ordered, bounded, shows⟩
  | @replaceDisplay payload taken =>
      rw [taken] at shows
      refine ⟨sent, latest, seen, ?_, ?_, ?_, ordered, bounded, ?_⟩
      · simp [Pipeline.replaceDisplay, shown]
      · simp [Pipeline.replaceDisplay]
      · intro _
        have reads : 0 < state.history.reads.length := by
          rw [shows.length_eq, List.length_append, List.length_singleton]
          exact Nat.succ_pos _
        obtain ⟨n, member⟩ := List.exists_mem_of_length_pos reads
        obtain ⟨positive, bound⟩ := bounded n member
        exact positive.trans_le bound
      · simpa [Pipeline.replaceDisplay, Pipeline.inHand] using shows
  | stop => exact ⟨sent, latest, seen, shown, current, by simpa using fun h => started (.inl h), ordered,
      bounded, shows⟩

/-! ## Recycled buffers against fresh ones -/

def Pipeline.withSpares (frameData : RawPayload) (displayData : DisplayPayload)
    (state : Pipeline) : Pipeline :=
  { state with frameData, displayData }

structure Mirrors (channels : Nat) (state partner : Pipeline) : Prop where
  sized : Sized channels state
  partnerSized : Sized channels partner
  same : partner = state.withSpares partner.frameData partner.displayData
  written : state.analyser = .written → partner.frameData = state.frameData
  copied : state.mapper = .copied → partner.displayData.channels = state.displayData.channels
  midiRead : state.mapper = .midiRead → partner.displayData = state.displayData

theorem rawChanged_withSpares (frameData : RawPayload) (displayData : DisplayPayload)
    (state : Pipeline) : (state.withSpares frameData displayData).rawChanged =
      state.rawChanged.map (Pipeline.withSpares frameData displayData) := by
  rw [Pipeline.rawChanged, Pipeline.rawChanged]
  by_cases unseen : state.rawTx.version = state.mapperSeen
  · by_cases gone : state.analyser = .exited
    · cases position : state.mapper <;> simp [Pipeline.withSpares, unseen, gone, position]
    · simp [Pipeline.withSpares, unseen, gone]
  · by_cases empty : state.rawTx.value.channels = []
    · cases position : state.mapper <;> simp [Pipeline.withSpares, unseen, empty, position]
    · cases position : state.mapper <;> simp [Pipeline.withSpares, unseen, empty, position]

/-- A thread that writes into fresh payloads sends what the recycling one sends. -/
theorem mirrors_step (channels : Nat) (state partner : Pipeline) (action : Action) (next : Pipeline)
    (mirrors : Mirrors channels state partner)
    (moved : step .recycled channels state action = some next) :
    ∃ image, step .fresh channels partner action = some image ∧ Mirrors channels next image := by
  obtain ⟨sized, partnerSized, same, written, copied, midiRead⟩ := mirrors
  have moves := moves_of_step sized moved
  have nextSized := sized.moves moves
  generalize partner.frameData = frameData, partner.displayData = displayData at *
  subst same
  suffices enabled : ∃ image, step .fresh channels (state.withSpares frameData displayData) action =
      some image ∧ image = next.withSpares image.frameData image.displayData ∧
      (next.analyser = .written → image.frameData = next.frameData) ∧
      (next.mapper = .copied → image.displayData.channels = next.displayData.channels) ∧
      (next.mapper = .midiRead → image.displayData = next.displayData) by
    obtain ⟨image, stepped, same, facts⟩ := enabled
    have imageSized := partnerSized.moves (moves_of_step partnerSized stepped)
    exact ⟨image, stepped, nextSized, imageSized, same, facts.1, facts.2.1, facts.2.2⟩
  cases moves with
  | write level idle =>
      refine ⟨_, if_pos idle, ?_⟩
      rw [analyserWrites_eq .fresh (state.withSpares frameData displayData) idle partnerSized]
      exact ⟨rfl, fun _ => rfl, copied, midiRead⟩
  | closed here => exact ⟨_, if_pos here, rfl, by simp, copied, midiRead⟩
  | takeRaw here =>
      refine ⟨_, if_pos here, ?_, by simp, copied, midiRead⟩
      simp [Pipeline.withSpares, written here]
  | replaceRaw here =>
      refine ⟨(state.withSpares frameData displayData).replaceRaw _, ?_, rfl, ?_, copied, midiRead⟩
      · simp only [step, Pipeline.withSpares, here]
      · simp [Pipeline.replaceRaw]
  | analyserExits idle stopped =>
      exact ⟨_, if_pos ⟨idle, stopped⟩, rfl, by simp, copied, midiRead⟩
  | await here running | skip here running | select here running | leave here running =>
      refine ⟨Pipeline.withSpares frameData displayData _, ?_, rfl, written, ?_, ?_⟩
      · simp [step, Pipeline.withSpares, here, running]
      all_goals simp
  | changed waiting unseen after =>
      refine ⟨Pipeline.withSpares frameData displayData _, ?_, rfl, written, ?_, ?_⟩
      · simp only [step] at moved ⊢
        rw [rawChanged_withSpares, moved, Option.map_some]
      · rcases after with rfl | rfl <;> simp
      · rcases after with rfl | rfl <;> simp
  | senderGone waiting =>
      refine ⟨Pipeline.withSpares frameData displayData _, ?_, rfl, written, ?_, ?_⟩
      · simp only [step] at moved ⊢
        rw [rawChanged_withSpares, moved, Option.map_some]
      · simp
      · simp
  | copy midi selecting available =>
      refine ⟨_, (if_pos selecting).trans (if_pos available), ?_⟩
      rw [copyRaw_eq .fresh (state.withSpares frameData displayData) selecting partnerSized]
      exact ⟨rfl, written, fun _ => rfl, by simp⟩
  | idleTick selecting none_new =>
      refine ⟨_, (if_pos selecting).trans (if_neg (by simp [Pipeline.withSpares, none_new])), rfl, written, ?_, ?_⟩
      all_goals simp
  | readMidi midi here =>
      refine ⟨_, if_pos here, rfl, written, by simp, fun _ => ?_⟩
      simp [Pipeline.withSpares, copied here]
  | takeDisplay here =>
      refine ⟨_, if_pos here, ?_, written, by simp, by simp⟩
      simp [Pipeline.withSpares, midiRead here]
  | replaceDisplay here =>
      refine ⟨(state.withSpares frameData displayData).replaceDisplay _, ?_, rfl, written, ?_, ?_⟩
      · simp only [step, Pipeline.withSpares, here]
      all_goals simp [Pipeline.replaceDisplay]
  | writeFrame midi publishedNs unseen =>
      refine ⟨_, if_pos unseen, ?_⟩
      rw [writeFrame_eq partnerSized]
      exact ⟨rfl, written, copied, midiRead⟩
  | stop => exact ⟨_, rfl, rfl, written, copied, midiRead⟩

/-! ## What the writes wrote -/

structure Written where
  level : Nat → ChannelLevel
  snapshots : List RawPayload

def Written.payload (channels : Nat) (written : Written) : RawPayload :=
  ⟨(List.range channels).map written.level⟩

def Written.record (channels : Nat) (written : Written) : Action → Written
  | .write level => { written with level }
  | .replaceRaw => { written with
      snapshots := written.snapshots ++ [written.payload channels] }
  | _ => written

def writtenBy (channels : Nat) (schedule : List Action) : Written :=
  schedule.foldl (Written.record channels) ⟨fun _ => default, []⟩

/-- Nothing of an earlier frame is in what the analyser holds or has sent. -/
structure Wrote (channels : Nat) (schedule : List Action) (state : Pipeline) : Prop where
  snapshots : state.history.snapshots = (writtenBy channels schedule).snapshots
  written : state.analyser = .written →
    state.frameData = (writtenBy channels schedule).payload channels
  taken : ∀ payload, state.analyser = .taken payload →
    payload = (writtenBy channels schedule).payload channels

theorem Wrote.moves {channels : Nat} {schedule : List Action} {state next : Pipeline}
    {action : Action} (wrote : Wrote channels schedule state)
    (moves : Moves channels state action next) : Wrote channels (schedule ++ [action]) next := by
  obtain ⟨snapshots, written, taken⟩ := wrote
  have recorded : writtenBy channels (schedule ++ [action]) =
      (writtenBy channels schedule).record channels action := List.foldl_append
  cases moves with
  | write level idle =>
      refine ⟨recorded ▸ snapshots, fun _ => recorded ▸ rfl, ?_⟩
      rintro _ ⟨⟩
  | closed | analyserExits =>
      refine ⟨recorded ▸ snapshots, ?_, ?_⟩
      · rintro ⟨⟩
      · rintro _ ⟨⟩
  | takeRaw here =>
      refine ⟨recorded ▸ snapshots, ?_, ?_⟩
      · rintro ⟨⟩
      · rintro _ ⟨⟩
        exact recorded ▸ written here
  | @replaceRaw payload here =>
      refine ⟨?_, ?_, ?_⟩
      · rw [recorded, Pipeline.replaceRaw, taken payload here, snapshots]
        rfl
      · rintro ⟨⟩
      · rintro _ ⟨⟩
  | await | skip | select | leave | changed | senderGone | copy | idleTick | readMidi | takeDisplay
  | replaceDisplay | writeFrame | stop =>
      exact ⟨recorded ▸ snapshots, recorded ▸ written, recorded ▸ taken⟩

/-! ## Whole runs -/

theorem reachable {channels : Nat} {schedule : List Action} {last : Pipeline}
    (run : exec (step .recycled channels) (.new channels) schedule = some last) :
    Sized channels last ∧ Recorded last ∧ Wrote channels schedule last := by
  refine exec_induction (motive := fun before state =>
    Sized channels state ∧ Recorded state ∧ Wrote channels before state)
    ⟨sized_new channels, recorded_new channels, rfl, ?_, ?_⟩ ?_ schedule last run
  · rintro ⟨⟩
  · rintro _ ⟨⟩
  · rintro before state action next - ⟨sized, recorded, wrote⟩ moved
    have moves := moves_of_step sized moved
    exact ⟨sized.moves moves, recorded.moves moves, wrote.moves moves⟩

/-- Buffers keep their length, no call panics, every snapshot is what its write wrote, every frame
shows the snapshot that was latest when it was read, and allocating a payload for each write would send the same values. -/
theorem recycling_sends_what_fresh_buffers_send (channels : Nat) {schedule : List Action}
    {last : Pipeline}
    (run : exec (step .recycled channels) (.new channels) schedule = some last) :
    (last.panicked = false ∧
      last.rawTx.value.channels.length = channels ∧
      last.displayTx.value.channels.length = channels ∧
      ((∀ payload, last.analyser ≠ .taken payload) → last.frameData.channels.length = channels) ∧
      ((∀ payload, last.mapper ≠ .taken payload) → last.displayData.channels.length = channels)) ∧
    (last.rawTx.version = 0 → last.displayTx.version = 0) ∧
    last.history.snapshots = (writtenBy channels schedule).snapshots ∧
    (last.rawTx.version = last.history.snapshots.length ∧
      last.displayTx.version = last.history.frames.length ∧
      (∀ frame, last.history.frames.getLast? = some frame → last.displayTx.value = frame) ∧
      List.Forall₂ (Shows last.history.snapshots)
        (last.history.reads.take last.history.frames.length) last.history.frames ∧
      last.history.reads.Pairwise (· ≤ ·)) ∧
    ∃ fresh, exec (step .fresh channels) (.new channels) schedule = some fresh ∧
      fresh.rawTx = last.rawTx ∧ fresh.displayTx = last.displayTx ∧
      fresh.history = last.history := by
  obtain ⟨sized, recorded, wrote⟩ := reachable run
  have shows := List.forall₂_take_append _ _ _ recorded.shows
  refine ⟨⟨sized.calm, sized.raw, sized.display, ?_, ?_⟩, ?_, wrote.snapshots,
    ⟨recorded.sent, recorded.shown, recorded.current, shows, recorded.ordered⟩, ?_⟩
  · intro owns
    have spare := sized.rawSpare
    unfold Pipeline.rawSpare at spare
    split at spare
    · exact absurd ‹_› (owns _)
    · exact spare
  · intro owns
    have spare := sized.displaySpare
    unfold Pipeline.displaySpare at spare
    split at spare
    · exact absurd ‹_› (owns _)
    · exact spare
  · intro unsent
    rw [recorded.shown]
    by_contra sent
    have reads : 0 < last.history.reads.length := by
      rw [recorded.shows.length_eq, List.length_append]
      omega
    obtain ⟨n, member⟩ := List.exists_mem_of_length_pos reads
    have bound := recorded.bounded n member
    have none_sent := recorded.sent
    omega
  · have initial : Mirrors channels (.new channels) (.new channels) :=
      ⟨sized_new channels, sized_new channels, rfl, fun _ => rfl, fun _ => rfl, fun _ => rfl⟩
    obtain ⟨fresh, freshRun, mirrors⟩ := exec_simulation (mirrors_step channels) initial run
    refine ⟨fresh, freshRun, ?_, ?_, ?_⟩
    all_goals
      rw [mirrors.same]
      rfl

def oneFrame : List Action :=
  [.mapperChecks, .write (fun _ => ⟨⟨0x3F800000⟩, fun _ => F32.zero⟩), .takeRaw, .replaceRaw,
    .rawChanged, .mapperChecks, .write (fun _ => default), .tick, .takeRaw, .readMidi none,
    .takeDisplay, .replaceRaw, .replaceDisplay]

theorem one_frame_shows_first_snapshot : ∃ last fresh : Pipeline,
    exec (step .recycled 2) (.new 2) oneFrame = some last ∧ last.panicked = false ∧
    last.history.snapshots = (writtenBy 2 oneFrame).snapshots ∧
    last.displayTx.value.channels.map ChannelLevel.peak = [⟨0x3F800000⟩, ⟨0x3F800000⟩] ∧
    exec (step .fresh 2) (.new 2) oneFrame = some fresh ∧ fresh.displayTx = last.displayTx := by
  have reached : (exec (step .recycled 2) (.new 2) oneFrame).map (fun last =>
      last.displayTx.value.channels.map ChannelLevel.peak) =
        some [⟨0x3F800000⟩, ⟨0x3F800000⟩] := by
    decide +kernel
  obtain ⟨last, run, peaks⟩ := Option.map_eq_some_iff.mp reached
  obtain ⟨⟨calm, _⟩, _, wrote, _, fresh, freshRun, _, same, _⟩ :=
    recycling_sends_what_fresh_buffers_send 2 run
  exact ⟨last, fresh, run, calm, wrote, peaks, freshRun, same⟩

/-! ## The analyser's own code takes these steps -/

theorem levels_of_payload (payload : RawPayload) : payload =
    ⟨(List.range payload.channels.length).map fun ch => (payload.channels[ch]?).getD default⟩ := by
  refine congrArg RawPayload.mk (List.ext_getElem (by simp) ?_)
  intro ch inside _
  simp [inside]

theorem analyse_rotates {Filter : Type} (ops : Primitives Filter)
    {before after : Analyser.State Filter} (sized : Analyser.Sized before) {count : Nat}
    {mapperGone : Bool} (analysed : before.analyse ops mapperGone count = some after)
    {state : Pipeline} (idle : state.analyser = .idle) (whole : Sized before.channels state)
    (rawTx : state.rawTx = ⟨before.rawTx.payload, before.rawTx.version⟩) :
    ∃ level last, exec (step .recycled before.channels) state
        (.write level :: if mapperGone then [.closed] else [.takeRaw, .replaceRaw]) = some last ∧
      last.analyser = .idle ∧ last.frameData = after.frameData ∧
      last.rawTx = ⟨after.rawTx.payload, after.rawTx.version⟩ := by
  obtain ⟨middle, reached, rounds⟩ :=
    Analyser.foldlM_analyseChannel ops count before sized before.channels le_rfl
  have length : middle.frameData.channels.length = before.channels := by
    rw [rounds.sized.frameData, rounds.channels]
  let level (ch : Nat) : ChannelLevel := (middle.frameData.channels[ch]?).getD default
  have results : ⟨(List.range before.channels).map level⟩ = middle.frameData := by
    rw [← length]
    exact (levels_of_payload middle.frameData).symm
  have first : step .recycled before.channels state (.write level) =
      some { state with frameData := middle.frameData, analyser := .written } := by
    rw [step, if_pos idle, analyserWrites_eq .recycled state idle whole, results]
  unfold Analyser.State.analyse at analysed
  by_cases short : before.transferBuffer.length < count
  · rw [if_pos short] at analysed
    cases analysed
  rw [if_neg short, reached] at analysed
  refine ⟨level, ?_⟩
  cases mapperGone with
  | true =>
      cases analysed
      refine ⟨_, by rw [exec, first]; rfl, rfl, rfl, ?_⟩
      simp [rawTx, rounds.rawTx]
  | false =>
      cases analysed
      refine ⟨_, by rw [exec, first]; rfl, rfl, ?_, ?_⟩
      · simp [Pipeline.replaceRaw, rawTx, rounds.rawTx]
      · simp [Pipeline.replaceRaw, Watch.send, rawTx, rounds.rawTx]

end Phase4.Managers.Mapper
