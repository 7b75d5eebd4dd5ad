import Phase4.Library.Schedule
import Phase4.Library.Window
import Phase4.Managers.Midi

namespace Phase4.Managers.MidiRun
open Library Dsp Frames

/-! ## The MIDI thread, the mapper and the frame writer

Each step is one atomic operation of one thread, or the call or return of one of its
functions. The logs say when each operation happened. -/

structure Stored where
  byte : BitVec 8
  resetAt : Option Nat
  storedAt : Nat
deriving DecidableEq

structure Counted where
  byte : BitVec 8
  resetAt : Option Nat
  countedAt : Nat
deriving DecidableEq

structure Recording where
  byte : BitVec 8
  resetAt : Option Nat
  program : MidiProgram (BitVec 8)

structure Mapping where
  swappedAt : Nat
  loadedAt : Nat
  program : MidiProgram (Option MidiSnapshot)

structure Publication where
  midi : Option MidiSnapshot
  swappedAt : Nat
  loadedAt : Nat
deriving DecidableEq

structure Framing where
  stepsAt : Nat
  countAt : Nat
  latestAt : Nat
  program : MidiProgram FrameMidi

structure FrameReading where
  midi : FrameMidi
  stepsAt : Nat
  countAt : Nat
  latestAt : Nat
deriving DecidableEq

structure State where
  cells : MidiCells
  recording : Recording
  mapping : Option Mapping
  framing : Option Framing
  stored : List Stored
  counted : List Counted
  publications : List Publication
  frames : List FrameReading
  clock : Nat

inductive Action where
  | receive (byte : BitVec 8)
  | record
  | callMapper
  | map
  | callFrameWriter
  | frame
deriving DecidableEq, Repr

namespace State

def init : State where
  cells := .new
  recording := ⟨0, none, .done 0⟩
  mapping := none
  framing := none
  stored := []
  counted := []
  publications := []
  frames := []
  clock := 0

def receive (state : State) (byte : BitVec 8) : Option State :=
  match state.recording.program with
  | .call _ _ => none
  | .done ticks => some { state with
      recording := ⟨byte, none, recordByte byte ticks⟩
      clock := state.clock + 1 }

def record (state : State) : Option State :=
  match state.recording.program with
  | .done _ => none
  | .call op next =>
      let answered := op.apply state.cells
      let byte := state.recording.byte
      let resetAt := state.recording.resetAt
      some { state with
        cells := answered.2
        recording := {
          byte
          resetAt := match op with
            | .storeSteps _ => some state.clock
            | _ => resetAt
          program := next answered.1 }
        stored := match op with
          | .storeLast _ => state.stored ++ [⟨byte, resetAt, state.clock⟩]
          | _ => state.stored
        counted := match op with
          | .fetchAddCount => state.counted ++ [⟨byte, resetAt, state.clock⟩]
          | _ => state.counted
        clock := state.clock + 1 }

def callMapper (state : State) : Option State :=
  match state.mapping with
  | some _ => none
  | none => some { state with
      mapping := some ⟨0, 0, readMidiSnapshot true⟩
      clock := state.clock + 1 }

def map (state : State) : Option State :=
  match state.mapping with
  | none => none
  | some mapping => match mapping.program with
      | .done midi => some { state with
          mapping := none
          publications := state.publications ++ [⟨midi, mapping.swappedAt, mapping.loadedAt⟩]
          clock := state.clock + 1 }
      | .call op next =>
          let answered := op.apply state.cells
          some { state with
            cells := answered.2
            mapping := some {
              swappedAt := match op with
                | .swapLast _ => state.clock
                | _ => mapping.swappedAt
              loadedAt := match op with
                | .loadSteps => state.clock
                | _ => mapping.loadedAt
              program := next answered.1 }
            clock := state.clock + 1 }

def callFrameWriter (state : State) : Option State :=
  match state.framing with
  | some _ => none
  | none => some { state with
      framing := some ⟨0, 0, 0, readFrameMidi⟩
      clock := state.clock + 1 }

def frame (state : State) : Option State :=
  match state.framing with
  | none => none
  | some framing => match framing.program with
      | .done midi => some { state with
          framing := none
          frames := state.frames ++
            [⟨midi, framing.stepsAt, framing.countAt, framing.latestAt⟩]
          clock := state.clock + 1 }
      | .call op next =>
          let answered := op.apply state.cells
          some { state with
            cells := answered.2
            framing := some {
              stepsAt := match op with
                | .loadSteps => state.clock
                | _ => framing.stepsAt
              countAt := match op with
                | .loadCount => state.clock
                | _ => framing.countAt
              latestAt := match op with
                | .loadLatest => state.clock
                | _ => framing.latestAt
              program := next answered.1 }
            clock := state.clock + 1 }

end State

def step (state : State) : Action → Option State
  | .receive byte => state.receive byte
  | .record => state.record
  | .callMapper => state.callMapper
  | .map => state.map
  | .callFrameWriter => state.callFrameWriter
  | .frame => state.frame

def Steps (schedule : List Action) (instant : Nat) (value : BitVec 32) : Prop :=
  ∃ state, exec step State.init (schedule.take instant) = some state ∧
    state.cells.midiSteps = value

theorem Steps.later {schedule : List Action} {instant : Nat} {value : BitVec 32}
    (held : Steps schedule instant value) (inside : instant ≤ schedule.length) (action : Action) :
    Steps (schedule ++ [action]) instant value := by
  obtain ⟨state, reached, same⟩ := held
  exact ⟨state, by rwa [List.take_append_of_le_length inside], same⟩

theorem Steps.now {schedule : List Action} {state : State}
    (run : exec step State.init schedule = some state) :
    Steps schedule schedule.length state.cells.midiSteps :=
  ⟨state, by rwa [List.take_length], rfl⟩

theorem Steps.unique {schedule : List Action} {instant : Nat} {a b : BitVec 32}
    (first : Steps schedule instant a) (second : Steps schedule instant b) : a = b := by
  obtain ⟨s, reached, rfl⟩ := first
  obtain ⟨t, again, rfl⟩ := second
  rw [reached] at again
  cases again
  rfl

/-! ## Where each thread stands -/

/-- A Start byte resets `midi_steps` before anything else of it shows. -/
def ResetBefore (schedule : List Action) (byte : BitVec 8) (resetAt : Option Nat) (now : Nat) :
    Prop :=
  byte = midiStatusStart → ∃ reset, resetAt = some reset ∧ reset < now ∧
    Steps schedule (reset + 1) 0

inductive RecordingAt (schedule : List Action) : Recording → Prop
  | idle (byte : BitVec 8) (resetAt : Option Nat) (ticks : BitVec 8) :
      RecordingAt schedule ⟨byte, resetAt, .done ticks⟩
  | starting (ticks : BitVec 8) :
      RecordingAt schedule ⟨midiStatusStart, none, recordByte midiStatusStart ticks⟩
  | stepping (byte : BitVec 8) :
      RecordingAt schedule ⟨byte, none, .call .fetchAddSteps fun _ => .done 0⟩
  | storing (byte code : BitVec 8) (resetAt : Option Nat) (ticks : BitVec 8)
      (own : transportCode byte = some code)
      (reset : ResetBefore schedule byte resetAt schedule.length) :
      RecordingAt schedule ⟨byte, resetAt, recordTransport code >>= fun _ => .done ticks⟩
  | keeping (byte code : BitVec 8) (resetAt : Option Nat) (ticks : BitVec 8)
      (own : transportCode byte = some code)
      (reset : ResetBefore schedule byte resetAt schedule.length) :
      RecordingAt schedule ⟨byte, resetAt,
        .call (.storeLatest code) fun _ => .call .fetchAddCount fun _ => .done ticks⟩
  | counting (byte code : BitVec 8) (resetAt : Option Nat) (ticks : BitVec 8)
      (own : transportCode byte = some code)
      (reset : ResetBefore schedule byte resetAt schedule.length) :
      RecordingAt schedule ⟨byte, resetAt, .call .fetchAddCount fun _ => .done ticks⟩

/-- The code left by the last of the stores, `none` cleared by the swap before them. -/
def lastCode (stores : List Stored) : BitVec 8 :=
  (stores.getLast?.bind fun store => transportCode store.byte).getD midiTransportNone

inductive MappingAt (schedule : List Action) (stored : List Stored) (cuts : List Nat)
    (last : BitVec 8) : Option Mapping → Prop
  | idle (pending : last = lastCode
        (window Stored.storedAt stored (opensAt cuts cuts.length) schedule.length)) :
      MappingAt schedule stored cuts last none
  | swapping (pending : last = lastCode
        (window Stored.storedAt stored (opensAt cuts cuts.length) schedule.length)) :
      MappingAt schedule stored cuts last (some ⟨0, 0, readMidiSnapshot true⟩)
  | loading (swappedAt loadedAt : Nat) (ordered : ∀ cut ∈ cuts, cut < swappedAt)
      (past : swappedAt < schedule.length)
      (pending : last = lastCode (window Stored.storedAt stored swappedAt schedule.length)) :
      MappingAt schedule stored cuts last (some ⟨swappedAt, loadedAt,
        .call .loadSteps fun steps => .done (some {
          transport := transportCodeToStr (lastCode
            (window Stored.storedAt stored (opensAt cuts cuts.length) swappedAt))
          steps })⟩)
  | returning (swappedAt loadedAt : Nat) (steps : BitVec 32)
      (ordered : ∀ cut ∈ cuts, cut < swappedAt)
      (after : swappedAt < loadedAt) (past : loadedAt < schedule.length)
      (held : Steps schedule loadedAt steps)
      (pending : last = lastCode (window Stored.storedAt stored swappedAt schedule.length)) :
      MappingAt schedule stored cuts last (some ⟨swappedAt, loadedAt, .done (some {
        transport := transportCodeToStr (lastCode
          (window Stored.storedAt stored (opensAt cuts cuts.length) swappedAt))
        steps })⟩)

def countedBefore (counted : List Counted) (instant : Nat) : BitVec 32 :=
  BitVec.ofNat 32 (window Counted.countedAt counted 0 instant).length

inductive FramingAt (schedule : List Action) (counted : List Counted) : Option Framing → Prop
  | idle : FramingAt schedule counted none
  | beginning : FramingAt schedule counted (some ⟨0, 0, 0, readFrameMidi⟩)
  | counting (stepsAt countAt latestAt : Nat) (steps : BitVec 32)
      (past : stepsAt < schedule.length) (held : Steps schedule stepsAt steps) :
      FramingAt schedule counted (some ⟨stepsAt, countAt, latestAt,
        .call .loadCount fun transportCount => .call .loadLatest fun transportLast =>
          .done { steps, transportCount, transportLast := transportLast.setWidth 32 }⟩)
  | keeping (stepsAt countAt latestAt : Nat) (steps : BitVec 32) (after : stepsAt < countAt)
      (past : countAt < schedule.length) (held : Steps schedule stepsAt steps) :
      FramingAt schedule counted (some ⟨stepsAt, countAt, latestAt,
        .call .loadLatest fun transportLast => .done {
          steps
          transportCount := countedBefore counted countAt
          transportLast := transportLast.setWidth 32 }⟩)
  | returning (stepsAt countAt latestAt : Nat) (steps transportLast : BitVec 32)
      (after : stepsAt < countAt) (later : countAt < latestAt) (past : latestAt < schedule.length)
      (held : Steps schedule stepsAt steps) :
      FramingAt schedule counted (some ⟨stepsAt, countAt, latestAt, .done {
        steps
        transportCount := countedBefore counted countAt
        transportLast }⟩)

structure Carries (schedule : List Action) (stored : List Stored) (opened : Nat)
    (publication : Publication) : Prop where
  swappedFirst : publication.swappedAt < publication.loadedAt
  past : publication.loadedAt < schedule.length
  midi : ∃ steps, Steps schedule publication.loadedAt steps ∧ publication.midi = some {
    transport := transportCodeToStr
      (lastCode (window Stored.storedAt stored opened publication.swappedAt))
    steps }

structure Shows (schedule : List Action) (counted : List Counted) (frame : FrameReading) :
    Prop where
  stepsFirst : frame.stepsAt < frame.countAt
  countFirst : frame.countAt < frame.latestAt
  past : frame.latestAt < schedule.length
  held : Steps schedule frame.stepsAt frame.midi.steps
  count : frame.midi.transportCount = countedBefore counted frame.countAt

def cuts (state : State) : List Nat := state.publications.map Publication.swappedAt

structure Invariant (schedule : List Action) (state : State) : Prop where
  clock : state.clock = schedule.length
  recording : RecordingAt schedule state.recording
  mapping : MappingAt schedule state.stored (cuts state) state.cells.midiLastTransport
    state.mapping
  framing : FramingAt schedule state.counted state.framing
  count : state.cells.midiTransportCount = BitVec.ofNat 32 state.counted.length
  storedOrdered : Ordered Stored.storedAt state.stored
  storedPast : Past Stored.storedAt state.stored schedule.length
  storedReset : ∀ store ∈ state.stored, transportCode store.byte ≠ none ∧
    ResetBefore schedule store.byte store.resetAt store.storedAt
  countedOrdered : Ordered Counted.countedAt state.counted
  countedPast : Past Counted.countedAt state.counted schedule.length
  countedReset : ∀ count ∈ state.counted,
    ResetBefore schedule count.byte count.resetAt count.countedAt
  cutsSorted : (cuts state).Pairwise (· < ·)
  cutsPast : ∀ cut ∈ cuts state, cut < schedule.length
  publications : ∀ k publication, state.publications[k]? = some publication →
    Carries schedule state.stored (opensAt (cuts state) k) publication
  frames : ∀ frame ∈ state.frames, Shows schedule state.counted frame

theorem invariant_init : Invariant [] State.init where
  clock := rfl
  recording := .idle 0 none 0
  mapping := .idle rfl
  framing := .idle
  count := rfl
  storedOrdered := .nil
  storedPast := by simp [State.init, Past]
  storedReset := by simp [State.init]
  countedOrdered := .nil
  countedPast := by simp [State.init, Past]
  countedReset := by simp [State.init]
  cutsSorted := .nil
  cutsPast := by simp [State.init, cuts]
  publications := by simp [State.init]
  frames := by simp [State.init]

section
variable {before : List Action} {action : Action} {stored stores : List Stored}
  {counted counts : List Counted}

theorem ResetBefore.later {byte : BitVec 8} {resetAt : Option Nat} {now soon : Nat}
    (reset : ResetBefore before byte resetAt now) (inside : now ≤ before.length)
    (le : now ≤ soon) : ResetBefore (before ++ [action]) byte resetAt soon := by
  intro start
  obtain ⟨at', found, past, held⟩ := reset start
  exact ⟨at', found, by omega, held.later (by omega) action⟩

theorem RecordingAt.later {recording : Recording} (here : RecordingAt before recording) :
    RecordingAt (before ++ [action]) recording := by
  have tick : before.length ≤ (before ++ [action]).length := by simp
  cases here with
  | idle byte resetAt ticks => exact .idle byte resetAt ticks
  | starting ticks => exact .starting ticks
  | stepping byte => exact .stepping byte
  | storing byte code resetAt ticks own reset =>
      exact .storing byte code resetAt ticks own (reset.later le_rfl tick)
  | keeping byte code resetAt ticks own reset =>
      exact .keeping byte code resetAt ticks own (reset.later le_rfl tick)
  | counting byte code resetAt ticks own reset =>
      exact .counting byte code resetAt ticks own (reset.later le_rfl tick)

def Extends (before : List Action) (stored : List Stored) (last : BitVec 8) (stores : List Stored)
    (code : BitVec 8) : Prop :=
  stores = stored ∧ code = last ∨ ∃ store, stores = stored ++ [store] ∧
    store.storedAt = before.length ∧ transportCode store.byte = some code

theorem Extends.refl (before : List Action) (stored : List Stored) (last : BitVec 8) :
    Extends before stored last stored last := Or.inl ⟨rfl, rfl⟩

theorem lastCode_snoc {store : Stored} {code : BitVec 8} (own : transportCode store.byte = some code)
    (earlier : List Stored) : lastCode (earlier ++ [store]) = code := by
  simp [lastCode, own]

theorem Extends.window {last code : BitVec 8} (ext : Extends before stored last stores code)
    {first until' : Nat} (closed : until' ≤ before.length) :
    window Stored.storedAt stores first until' = window Stored.storedAt stored first until' := by
  rcases ext with ⟨rfl, _⟩ | ⟨store, rfl, now, _⟩
  · rfl
  · exact window_snoc_late (by omega)

theorem Extends.pending {last code : BitVec 8} (ext : Extends before stored last stores code)
    (past : Past Stored.storedAt stored before.length) {opened : Nat}
    (le : opened ≤ before.length)
    (pending : last = lastCode (Library.window Stored.storedAt stored opened before.length)) :
    code = lastCode (Library.window Stored.storedAt stores opened (before ++ [action]).length) := by
  rw [List.length_append, List.length_singleton]
  rcases ext with ⟨rfl, rfl⟩ | ⟨store, rfl, now, own⟩
  · rw [window_later past, pending]
  · rw [window_snoc_now (by omega) (by omega), lastCode_snoc own]

theorem opensAt_past {cuts : List Nat} {now : Nat} (past : ∀ cut ∈ cuts, cut < now) :
    opensAt cuts cuts.length ≤ now := by
  rw [opensAt_length]
  cases found : cuts.getLast? with
  | none => simp
  | some cut => exact (past cut (List.mem_of_getLast? found)).le

theorem MappingAt.later {cuts : List Nat} {last code : BitVec 8} {mapping : Option Mapping}
    (here : MappingAt before stored cuts last mapping)
    (past : Past Stored.storedAt stored before.length) (cutsPast : ∀ cut ∈ cuts, cut < before.length)
    (ext : Extends before stored last stores code) :
    MappingAt (before ++ [action]) stores cuts code mapping := by
  have tick : (before ++ [action]).length = before.length + 1 := by simp
  have opened := opensAt_past cutsPast
  cases here with
  | idle pending => exact .idle (ext.pending past opened pending)
  | swapping pending => exact .swapping (ext.pending past opened pending)
  | loading swappedAt loadedAt ordered swapped pending =>
      rw [← ext.window swapped.le]
      exact .loading swappedAt loadedAt ordered (by omega) (ext.pending past swapped.le pending)
  | returning swappedAt loadedAt steps ordered after loaded held pending =>
      rw [← ext.window (after.trans loaded).le]
      exact .returning swappedAt loadedAt steps ordered after (by omega)
        (held.later loaded.le action) (ext.pending past (after.trans loaded).le pending)

theorem countedBefore_later (past : Past Counted.countedAt counted before.length)
    (ext : counts = counted ∨ ∃ count, counts = counted ++ [count] ∧
      count.countedAt = before.length) {instant : Nat} (inside : instant ≤ before.length) :
    countedBefore counts instant = countedBefore counted instant := by
  rcases ext with rfl | ⟨count, rfl, now⟩
  · rfl
  · rw [countedBefore, countedBefore, window_snoc_late (by omega)]

theorem FramingAt.later {framing : Option Framing} (here : FramingAt before counted framing)
    (past : Past Counted.countedAt counted before.length)
    (ext : counts = counted ∨ ∃ count, counts = counted ++ [count] ∧
      count.countedAt = before.length) : FramingAt (before ++ [action]) counts framing := by
  have tick : (before ++ [action]).length = before.length + 1 := by simp
  cases here with
  | idle => exact .idle
  | beginning => exact .beginning
  | counting stepsAt countAt latestAt steps loaded held =>
      exact .counting stepsAt countAt latestAt steps (by omega) (held.later loaded.le action)
  | keeping stepsAt countAt latestAt steps after loaded held =>
      rw [← countedBefore_later past ext loaded.le]
      exact .keeping stepsAt countAt latestAt steps after (by omega)
        (held.later (after.trans loaded).le action)
  | returning stepsAt countAt latestAt steps transportLast after later loaded held =>
      rw [← countedBefore_later past ext (later.trans loaded).le]
      exact .returning stepsAt countAt latestAt steps transportLast after later (by omega)
        (held.later (after.trans (later.trans loaded)).le action)

theorem Carries.later {opened : Nat} {publication : Publication} {last code : BitVec 8}
    (here : Carries before stored opened publication)
    (ext : Extends before stored last stores code) :
    Carries (before ++ [action]) stores opened publication := by
  have tick : (before ++ [action]).length = before.length + 1 := by simp
  have past := here.past
  refine ⟨here.swappedFirst, by omega, ?_⟩
  obtain ⟨steps, held, midi⟩ := here.midi
  rw [ext.window (here.swappedFirst.trans past).le]
  exact ⟨steps, held.later past.le action, midi⟩

theorem Shows.later {frame : FrameReading} (here : Shows before counted frame)
    (past : Past Counted.countedAt counted before.length)
    (ext : counts = counted ∨ ∃ count, counts = counted ++ [count] ∧
      count.countedAt = before.length) : Shows (before ++ [action]) counts frame := by
  have tick : (before ++ [action]).length = before.length + 1 := by simp
  have loaded := here.past
  have countPast := here.countFirst.trans loaded
  refine ⟨here.stepsFirst, here.countFirst, by omega,
    here.held.later (here.stepsFirst.trans countPast).le action, ?_⟩
  rw [here.count, countedBefore_later past ext countPast.le]

theorem Invariant.midiStep {state next : State} (here : Invariant before state)
    (tick : next.clock = state.clock + 1) (mapping : next.mapping = state.mapping)
    (framing : next.framing = state.framing)
    (publications : next.publications = state.publications) (frames : next.frames = state.frames)
    (recording : RecordingAt (before ++ [action]) next.recording)
    (stores : Extends before state.stored state.cells.midiLastTransport next.stored
      next.cells.midiLastTransport)
    (storedReset : ∀ store ∈ next.stored, store ∉ state.stored →
      ResetBefore before store.byte store.resetAt before.length)
    (counts : next.counted = state.counted ∧
        next.cells.midiTransportCount = state.cells.midiTransportCount ∨
      ∃ count, next.counted = state.counted ++ [count] ∧ count.countedAt = before.length ∧
        next.cells.midiTransportCount = state.cells.midiTransportCount + 1 ∧
        ResetBefore before count.byte count.resetAt before.length) :
    Invariant (before ++ [action]) next := by
  have length : (before ++ [action]).length = before.length + 1 := by simp
  have same : cuts next = cuts state := by rw [cuts, publications, cuts]
  have counted : next.counted = state.counted ∨ ∃ count, next.counted = state.counted ++ [count] ∧
      count.countedAt = before.length := by
    rcases counts with ⟨kept, _⟩ | ⟨count, added, now, _⟩
    · exact Or.inl kept
    · exact Or.inr ⟨count, added, now⟩
  constructor
  case clock => rw [tick, here.clock, length]
  case recording => exact recording
  case mapping =>
    rw [same, mapping]
    exact here.mapping.later here.storedPast here.cutsPast stores
  case framing =>
    rw [framing]
    exact here.framing.later here.countedPast counted
  case count =>
    rcases counts with ⟨kept, held⟩ | ⟨count, added, _, raised, _⟩
    · rw [held, here.count, kept]
    · rw [raised, here.count, added, List.length_append, List.length_singleton, BitVec.ofNat_add]
      rfl
  case storedOrdered =>
    rcases stores with ⟨kept, _⟩ | ⟨store, added, now, _⟩
    · rw [kept]
      exact here.storedOrdered
    · rw [added]
      exact here.storedOrdered.snoc here.storedPast now
  case storedPast =>
    rw [length]
    rcases stores with ⟨kept, _⟩ | ⟨store, added, now, _⟩
    · rw [kept]
      exact here.storedPast.later
    · rw [added]
      exact here.storedPast.snoc now
  case storedReset =>
    intro store member
    by_cases old : store ∈ state.stored
    · exact ⟨(here.storedReset store old).1,
        (here.storedReset store old).2.later (here.storedPast store old).le le_rfl⟩
    · have reset := storedReset store member old
      rcases stores with ⟨kept, _⟩ | ⟨new, added, now, own⟩
      · exact absurd (kept ▸ member) old
      · rw [added] at member
        rcases List.mem_append.mp member with earlier | isNew
        · exact absurd earlier old
        · rw [List.mem_singleton.mp isNew] at reset ⊢
          exact ⟨by simp [own], reset.later le_rfl now.ge⟩
  case countedOrdered =>
    rcases counted with kept | ⟨count, added, now⟩
    · rw [kept]
      exact here.countedOrdered
    · rw [added]
      exact here.countedOrdered.snoc here.countedPast now
  case countedPast =>
    rw [length]
    rcases counted with kept | ⟨count, added, now⟩
    · rw [kept]
      exact here.countedPast.later
    · rw [added]
      exact here.countedPast.snoc now
  case countedReset =>
    intro count member
    rcases counts with ⟨kept, _⟩ | ⟨new, added, now, _, reset⟩
    · rw [kept] at member
      exact (here.countedReset count member).later (here.countedPast count member).le le_rfl
    · rw [added] at member
      rcases List.mem_append.mp member with earlier | isNew
      · exact (here.countedReset count earlier).later (here.countedPast count earlier).le le_rfl
      · rw [List.mem_singleton.mp isNew]
        exact reset.later le_rfl now.ge
  case cutsSorted =>
    rw [same]
    exact here.cutsSorted
  case cutsPast =>
    rw [same, length]
    exact fun cut member => (here.cutsPast cut member).trans (Nat.lt_succ_self _)
  case publications =>
    intro k publication found
    rw [publications] at found
    rw [same]
    exact (here.publications k publication found).later stores
  case frames =>
    intro frame member
    rw [frames] at member
    exact (here.frames frame member).later here.countedPast counted

end

section
variable {before : List Action} {state next : State}

theorem invariant_receive (here : Invariant before state) (byte : BitVec 8)
    (moved : state.receive byte = some next) : Invariant (before ++ [.receive byte]) next := by
  rw [State.receive] at moved
  split at moved
  · cases moved
  · rename_i ticks idle
    cases moved
    refine here.midiStep rfl rfl rfl rfl rfl ?_ (Or.inl ⟨rfl, rfl⟩)
      (fun store member new => absurd member new) (Or.inl ⟨rfl, rfl⟩)
    by_cases start : byte = midiStatusStart
    · rw [start]
      exact .starting ticks
    · rcases recordByte_cases start ticks with ⟨code, own, same⟩ | ⟨_, same | ⟨later, same⟩⟩
      · rw [same]
        exact .storing byte code none ticks own fun isStart => absurd isStart start
      · rw [same]
        exact .stepping byte
      · rw [same]
        exact .idle byte none later

theorem invariant_record (run : exec step State.init (before ++ [.record]) = some next)
    (here : Invariant before state) (moved : state.record = some next) :
    Invariant (before ++ [.record]) next := by
  have clock := here.clock
  have length : (before ++ [Action.record]).length = before.length + 1 := by simp
  unfold State.record at moved
  generalize standing : state.recording = recording at moved
  have position := here.recording
  rw [standing] at position
  cases position with
  | idle byte resetAt ticks => cases moved
  | starting ticks =>
      rw [recordByte_start] at moved
      cases moved
      refine here.midiStep rfl rfl rfl rfl rfl ?_ (Or.inl ⟨rfl, rfl⟩)
        (fun store member new => absurd member new) (Or.inl ⟨rfl, rfl⟩)
      refine .storing _ _ _ _ rfl fun _ => ⟨state.clock, rfl, by omega, ?_⟩
      have now := Steps.now run
      rwa [length, ← clock] at now
  | stepping byte =>
      cases moved
      exact here.midiStep rfl rfl rfl rfl rfl (.idle _ _ _) (Or.inl ⟨rfl, rfl⟩)
        (fun store member new => absurd member new) (Or.inl ⟨rfl, rfl⟩)
  | storing byte code resetAt ticks own reset =>
      cases moved
      refine here.midiStep rfl rfl rfl rfl rfl ?_ (Or.inr ⟨_, rfl, clock, own⟩) ?_
        (Or.inl ⟨rfl, rfl⟩)
      · exact (RecordingAt.keeping byte code resetAt ticks own reset).later
      · intro store member new
        rw [List.mem_singleton.mp ((List.mem_append.mp member).resolve_left new)]
        exact reset
  | keeping byte code resetAt ticks own reset =>
      cases moved
      exact here.midiStep rfl rfl rfl rfl rfl
        (RecordingAt.counting byte code resetAt ticks own reset).later (Or.inl ⟨rfl, rfl⟩)
        (fun store member new => absurd member new) (Or.inl ⟨rfl, rfl⟩)
  | counting byte code resetAt ticks own reset =>
      cases moved
      exact here.midiStep rfl rfl rfl rfl rfl (.idle _ _ _) (Or.inl ⟨rfl, rfl⟩)
        (fun store member new => absurd member new)
        (Or.inr ⟨⟨byte, resetAt, state.clock⟩, rfl, clock, rfl, reset⟩)

theorem Invariant.readerStep {action : Action} (here : Invariant before state)
    (tick : next.clock = state.clock + 1) (recording : next.recording = state.recording)
    (stored : next.stored = state.stored) (counted : next.counted = state.counted)
    (count : next.cells.midiTransportCount = state.cells.midiTransportCount)
    (mapping : MappingAt (before ++ [action]) state.stored (cuts next)
      next.cells.midiLastTransport next.mapping)
    (framing : FramingAt (before ++ [action]) state.counted next.framing)
    (cutsSorted : (cuts next).Pairwise (· < ·))
    (cutsPast : ∀ cut ∈ cuts next, cut < before.length)
    (publications : ∀ k publication, next.publications[k]? = some publication →
      Carries (before ++ [action]) state.stored (opensAt (cuts next) k) publication)
    (frames : ∀ frame ∈ next.frames, Shows (before ++ [action]) state.counted frame) :
    Invariant (before ++ [action]) next where
  clock := by simp [tick, here.clock]
  recording := by
    rw [recording]
    exact here.recording.later
  mapping := by
    rw [stored]
    exact mapping
  framing := by
    rw [counted]
    exact framing
  count := by rw [count, counted, here.count]
  storedOrdered := by
    rw [stored]
    exact here.storedOrdered
  storedPast := by
    rw [stored, List.length_append]
    exact here.storedPast.later
  storedReset := by
    intro store member
    rw [stored] at member
    obtain ⟨own, reset⟩ := here.storedReset store member
    exact ⟨own, reset.later (here.storedPast store member).le le_rfl⟩
  countedOrdered := by
    rw [counted]
    exact here.countedOrdered
  countedPast := by
    rw [counted, List.length_append]
    exact here.countedPast.later
  countedReset := by
    intro entry member
    rw [counted] at member
    exact (here.countedReset entry member).later (here.countedPast entry member).le le_rfl
  cutsSorted
  cutsPast := by
    intro cut member
    rw [List.length_append]
    exact (cutsPast cut member).trans (Nat.lt_succ_self _)
  publications := by
    rw [stored]
    exact publications
  frames := by
    rw [counted]
    exact frames

theorem kept_publications (here : Invariant before state) (action : Action) (k : Nat)
    (publication : Publication) (found : state.publications[k]? = some publication) :
    Carries (before ++ [action]) state.stored (opensAt (cuts state) k) publication :=
  (here.publications k publication found).later (.refl _ _ state.cells.midiLastTransport)

theorem kept_frames (here : Invariant before state) (action : Action) (frame : FrameReading)
    (member : frame ∈ state.frames) : Shows (before ++ [action]) state.counted frame :=
  (here.frames frame member).later here.countedPast (Or.inl rfl)

theorem Invariant.mapperStep {action : Action} (here : Invariant before state)
    (tick : next.clock = state.clock + 1) (recording : next.recording = state.recording)
    (stored : next.stored = state.stored) (counted : next.counted = state.counted)
    (count : next.cells.midiTransportCount = state.cells.midiTransportCount)
    (framing : next.framing = state.framing) (published : next.publications = state.publications)
    (frames : next.frames = state.frames)
    (mapping : MappingAt (before ++ [action]) state.stored (cuts state)
      next.cells.midiLastTransport next.mapping) :
    Invariant (before ++ [action]) next := by
  have same : cuts next = cuts state := by rw [cuts, published, cuts]
  refine here.readerStep tick recording stored counted count (by rwa [same]) ?_
    (same ▸ here.cutsSorted) (same ▸ here.cutsPast) ?_ ?_
  · rw [framing]
    exact here.framing.later here.countedPast (Or.inl rfl)
  · rw [published, same]
    exact kept_publications here _
  · rw [frames]
    exact kept_frames here _

theorem Invariant.publishStep {action : Action} {publication : Publication}
    (here : Invariant before state) (tick : next.clock = state.clock + 1)
    (recording : next.recording = state.recording) (stored : next.stored = state.stored)
    (counted : next.counted = state.counted) (cells : next.cells = state.cells)
    (framing : next.framing = state.framing) (frames : next.frames = state.frames)
    (idle : next.mapping = none)
    (published : next.publications = state.publications ++ [publication])
    (ordered : ∀ cut ∈ cuts state, cut < publication.swappedAt)
    (carries : Carries before state.stored (opensAt (cuts state) (cuts state).length) publication)
    (pending : state.cells.midiLastTransport =
      lastCode (window Stored.storedAt state.stored publication.swappedAt before.length)) :
    Invariant (before ++ [action]) next := by
  have added : cuts next = cuts state ++ [publication.swappedAt] := by simp [cuts, published]
  have past := carries.swappedFirst.trans carries.past
  have count : (cuts state).length = state.publications.length := by simp [cuts]
  refine here.readerStep tick recording stored counted (by rw [cells]) ?_ ?_ ?_ ?_ ?_ ?_
  · rw [idle, cells, added]
    refine .idle ?_
    rw [opensAt_snoc_last, List.length_append, List.length_singleton,
      window_later here.storedPast]
    exact pending
  · rw [framing]
    exact here.framing.later here.countedPast (Or.inl rfl)
  · rw [added]
    refine List.pairwise_append.mpr ⟨here.cutsSorted, List.pairwise_singleton _ _, ?_⟩
    intro cut member last isLast
    rw [List.mem_singleton.mp isLast]
    exact ordered cut member
  · rw [added]
    intro cut member
    rcases List.mem_append.mp member with old | new
    · exact here.cutsPast cut old
    · rw [List.mem_singleton.mp new]
      exact past
  · rw [added, published]
    intro k other found
    rcases Nat.lt_trichotomy k state.publications.length with old | rfl | beyond
    · rw [List.getElem?_append_left old] at found
      rw [opensAt_snoc_old (count ▸ old.le)]
      exact kept_publications here _ k other found
    · rw [List.getElem?_concat_length] at found
      rw [← Option.some.inj found, opensAt_snoc_old count.ge, ← count]
      exact carries.later (.refl _ _ state.cells.midiLastTransport)
    · rw [List.getElem?_eq_none (by simpa using beyond)] at found
      cases found
  · rw [frames]
    exact kept_frames here _

theorem invariant_callMapper (here : Invariant before state)
    (moved : state.callMapper = some next) : Invariant (before ++ [.callMapper]) next := by
  rw [State.callMapper] at moved
  split at moved
  · cases moved
  · rename_i idle
    cases moved
    refine here.mapperStep rfl rfl rfl rfl rfl rfl rfl rfl ?_
    have position := here.mapping
    rw [idle] at position
    cases position with
    | idle pending =>
        exact (MappingAt.swapping pending).later here.storedPast here.cutsPast (.refl _ _ _)

theorem invariant_map (run : exec step State.init before = some state)
    (here : Invariant before state) (moved : state.map = some next) :
    Invariant (before ++ [.map]) next := by
  have clock := here.clock
  have length : (before ++ [Action.map]).length = before.length + 1 := by simp
  rw [State.map] at moved
  generalize standing : state.mapping = mapping at moved
  have position := here.mapping
  rw [standing] at position
  cases position with
  | idle => cases moved
  | swapping pending =>
      cases moved
      refine here.mapperStep rfl rfl rfl rfl rfl rfl rfl rfl ?_
      have cleared : midiTransportNone =
          lastCode (window Stored.storedAt state.stored state.clock (before ++ [Action.map]).length) := by
        rw [window_fresh (clock ▸ here.storedPast)]
        rfl
      have position : MappingAt (before ++ [.map]) state.stored (cuts state) midiTransportNone
          (some ⟨state.clock, 0, .call .loadSteps fun steps => .done (some {
            transport := transportCodeToStr (lastCode (window Stored.storedAt state.stored
              (opensAt (cuts state) (cuts state).length) state.clock))
            steps })⟩) :=
        .loading state.clock 0 (clock ▸ here.cutsPast) (by omega) cleared
      rw [clock, ← pending, ← clock] at position
      exact position
  | loading swappedAt loadedAt ordered past pending =>
      cases moved
      refine here.mapperStep rfl rfl rfl rfl rfl rfl rfl rfl ?_
      have held := (Steps.now run).later le_rfl .map
      rw [← clock] at held
      refine .returning swappedAt state.clock _ ordered (by omega) (by omega) held ?_
      rw [length, window_later here.storedPast]
      exact pending
  | returning swappedAt loadedAt steps ordered after past held pending =>
      cases moved
      exact here.publishStep rfl rfl rfl rfl rfl rfl rfl rfl rfl ordered
        ⟨after, past, steps, held, rfl⟩ pending

theorem invariant_callFrameWriter (here : Invariant before state)
    (moved : state.callFrameWriter = some next) :
    Invariant (before ++ [.callFrameWriter]) next := by
  unfold State.callFrameWriter at moved
  split at moved
  · cases moved
  · have publications := kept_publications here .callFrameWriter
    have frames := kept_frames here .callFrameWriter
    cases moved
    exact here.readerStep rfl rfl rfl rfl rfl
      (here.mapping.later here.storedPast here.cutsPast (Or.inl ⟨rfl, rfl⟩)) .beginning
      here.cutsSorted here.cutsPast publications frames

theorem invariant_frame (run : exec step State.init before = some state)
    (here : Invariant before state) (moved : state.frame = some next) :
    Invariant (before ++ [.frame]) next := by
  have clock := here.clock
  have length : (before ++ [Action.frame]).length = before.length + 1 := by simp
  have mapping : MappingAt (before ++ [.frame]) state.stored (cuts state)
      state.cells.midiLastTransport state.mapping :=
    here.mapping.later here.storedPast here.cutsPast (Or.inl ⟨rfl, rfl⟩)
  have publications := kept_publications here .frame
  have frames := kept_frames here .frame
  unfold State.frame at moved
  generalize standing : state.framing = framing at moved
  have position := here.framing
  rw [standing] at position
  cases position with
  | idle => cases moved
  | beginning =>
      cases moved
      refine here.readerStep rfl rfl rfl rfl rfl mapping ?_ here.cutsSorted here.cutsPast
        publications frames
      have held := (Steps.now run).later le_rfl .frame
      rw [← clock] at held
      exact .counting state.clock 0 0 _ (by omega) held
  | counting stepsAt countAt latestAt steps past held =>
      cases moved
      refine here.readerStep rfl rfl rfl rfl rfl mapping ?_ here.cutsSorted here.cutsPast
        publications frames
      have all : state.cells.midiTransportCount = countedBefore state.counted state.clock := by
        rw [here.count, countedBefore, window, List.filter_eq_self.mpr]
        intro count member
        have := here.countedPast count member
        simp only [decide_eq_true_eq]
        omega
      have position : FramingAt (before ++ [.frame]) state.counted
          (some ⟨stepsAt, state.clock, latestAt, .call .loadLatest fun transportLast => .done {
            steps
            transportCount := countedBefore state.counted state.clock
            transportLast := transportLast.setWidth 32 }⟩) :=
        .keeping stepsAt state.clock latestAt steps (by omega) (by omega)
          (held.later past.le .frame)
      rw [← all] at position
      exact position
  | keeping stepsAt countAt latestAt steps after past held =>
      cases moved
      refine here.readerStep rfl rfl rfl rfl rfl mapping ?_ here.cutsSorted here.cutsPast
        publications frames
      exact .returning stepsAt countAt state.clock steps _ after (by omega) (by omega)
        (held.later (after.trans past).le .frame)
  | returning stepsAt countAt latestAt steps transportLast after later past held =>
      cases moved
      refine here.readerStep rfl rfl rfl rfl rfl mapping .idle here.cutsSorted here.cutsPast
        publications ?_
      intro frame member
      rcases List.mem_append.mp member with old | new
      · exact frames frame old
      · rw [List.mem_singleton.mp new]
        exact ⟨after, later, past.trans (by omega),
          held.later (after.trans (later.trans past)).le .frame, rfl⟩

theorem invariant_run {schedule : List Action} {last : State}
    (run : exec step State.init schedule = some last) : Invariant schedule last := by
  refine exec_induction (motive := Invariant) invariant_init ?_ schedule last run
  intro before state action next reached here moved
  cases action with
  | receive byte => exact invariant_receive here byte moved
  | record => exact invariant_record (by rw [exec_snoc, reached]; exact moved) here moved
  | callMapper => exact invariant_callMapper here moved
  | map => exact invariant_map reached here moved
  | callFrameWriter => exact invariant_callFrameWriter here moved
  | frame => exact invariant_frame reached here moved

end

end Phase4.Managers.MidiRun
