import Phase4.Library.Program
import Phase4.Frames.Region

namespace Phase4.Managers
open Library Dsp Frames

/-! ## The MIDI cells of `AppState` -/

def midiClockTicksPerStep : BitVec 8 := 6

def midiStatusTimingClock : BitVec 8 := 0xF8
def midiStatusStart : BitVec 8 := 0xFA
def midiStatusContinue : BitVec 8 := 0xFB
def midiStatusStop : BitVec 8 := 0xFC

def midiTransportNone : BitVec 8 := 0
def midiTransportStart : BitVec 8 := 1
def midiTransportStop : BitVec 8 := 2
def midiTransportContinue : BitVec 8 := 3

@[ext] structure MidiCells where
  midiSteps : BitVec 32
  midiLastTransport : BitVec 8
  midiTransportLatest : BitVec 8
  midiTransportCount : BitVec 32
deriving DecidableEq, Repr

def MidiCells.new : MidiCells := ⟨0, midiTransportNone, midiTransportNone, 0⟩

inductive MidiOp where
  | storeSteps (value : BitVec 32)
  | fetchAddSteps
  | loadSteps
  | storeLast (code : BitVec 8)
  | swapLast (code : BitVec 8)
  | storeLatest (code : BitVec 8)
  | loadLatest
  | fetchAddCount
  | loadCount
deriving DecidableEq, Repr

abbrev MidiOp.Answer : MidiOp → Type
  | .storeSteps _ | .storeLast _ | .storeLatest _ => Unit
  | .fetchAddSteps | .loadSteps | .fetchAddCount | .loadCount => BitVec 32
  | .swapLast _ | .loadLatest => BitVec 8

abbrev MidiProgram := Program MidiOp MidiOp.Answer

def MidiOp.apply : (op : MidiOp) → MidiCells → op.Answer × MidiCells
  | .storeSteps value, cells => ((), { cells with midiSteps := value })
  | .fetchAddSteps, cells => (cells.midiSteps, { cells with midiSteps := cells.midiSteps + 1 })
  | .loadSteps, cells => (cells.midiSteps, cells)
  | .storeLast code, cells => ((), { cells with midiLastTransport := code })
  | .swapLast code, cells => (cells.midiLastTransport, { cells with midiLastTransport := code })
  | .storeLatest code, cells => ((), { cells with midiTransportLatest := code })
  | .loadLatest, cells => (cells.midiTransportLatest, cells)
  | .fetchAddCount, cells =>
      (cells.midiTransportCount, { cells with midiTransportCount := cells.midiTransportCount + 1 })
  | .loadCount, cells => (cells.midiTransportCount, cells)

def perform (op : MidiOp) : MidiProgram op.Answer := Program.perform op

/-! ## The MIDI thread -/

def recordTransport (code : BitVec 8) : MidiProgram Unit := do
  perform (.storeLast code)
  perform (.storeLatest code)
  let _ ← perform .fetchAddCount

/-- Returns the new `ticks_since_step`, which only the MIDI thread sees. -/
def recordByte (byte : BitVec 8) (ticksSinceStep : BitVec 8) : MidiProgram (BitVec 8) :=
  if byte = midiStatusStart then do
    perform (.storeSteps 0)
    recordTransport midiTransportStart
    return 0
  else if byte = midiStatusStop then do
    recordTransport midiTransportStop
    return ticksSinceStep
  else if byte = midiStatusContinue then do
    recordTransport midiTransportContinue
    return ticksSinceStep
  else if byte = midiStatusTimingClock then
    let ticks := ticksSinceStep + 1
    if ticks ≥ midiClockTicksPerStep then do
      let _ ← perform .fetchAddSteps
      return 0
    else return ticks
  else return ticksSinceStep

/-! ## The two readers -/

def transportCodeToStr (code : BitVec 8) : Option Transport :=
  if code = midiTransportStart then some .start
  else if code = midiTransportStop then some .stop
  else if code = midiTransportContinue then some .continue
  else none

def readMidiSnapshot (midiEnabled : Bool) : MidiProgram (Option MidiSnapshot) :=
  if !midiEnabled then return none
  else do
    let transportCode ← perform (.swapLast midiTransportNone)
    let steps ← perform .loadSteps
    return some { transport := transportCodeToStr transportCode, steps }

def readFrameMidi : MidiProgram FrameMidi := do
  let steps ← perform .loadSteps
  let transportCount ← perform .loadCount
  let transportLast ← perform .loadLatest
  return { steps, transportCount, transportLast := transportLast.setWidth 32 }

/-! ## What one byte makes the MIDI thread do -/

def transportCode (byte : BitVec 8) : Option (BitVec 8) :=
  if byte = midiStatusStart then some midiTransportStart
  else if byte = midiStatusStop then some midiTransportStop
  else if byte = midiStatusContinue then some midiTransportContinue
  else none

theorem recordByte_start (ticks : BitVec 8) :
    recordByte midiStatusStart ticks =
      .call (.storeSteps 0) fun _ => recordTransport midiTransportStart >>= fun _ => .done 0 := rfl

theorem recordByte_cases {byte : BitVec 8} (other : byte ≠ midiStatusStart) (ticks : BitVec 8) :
    (∃ code, transportCode byte = some code ∧
      recordByte byte ticks = recordTransport code >>= fun _ => .done ticks) ∨
    transportCode byte = none ∧ (recordByte byte ticks = .call .fetchAddSteps (fun _ => .done 0) ∨
      ∃ later, recordByte byte ticks = .done later) := by
  rw [recordByte, transportCode, if_neg other, if_neg other]
  by_cases stop : byte = midiStatusStop
  · rw [if_pos stop, if_pos stop]
    exact Or.inl ⟨_, rfl, rfl⟩
  · rw [if_neg stop, if_neg stop]
    by_cases again : byte = midiStatusContinue
    · rw [if_pos again, if_pos again]
      exact Or.inl ⟨_, rfl, rfl⟩
    · rw [if_neg again, if_neg again]
      refine Or.inr ⟨rfl, ?_⟩
      dsimp only
      split_ifs
      · exact Or.inl rfl
      · exact Or.inr ⟨_, rfl⟩
      · exact Or.inr ⟨_, rfl⟩

/-- A byte that starts below a full step leaves the ticks below one, so the `u8` never wraps. -/
theorem recordByte_ticks (byte ticks : BitVec 8) (cells : MidiCells)
    (partialStep : ticks < midiClockTicksPerStep) :
    ((recordByte byte ticks).run MidiOp.apply cells).1 < midiClockTicksPerStep := by
  have whole : (0 : BitVec 8) < midiClockTicksPerStep := by decide
  unfold recordByte
  dsimp only
  split_ifs with start stop again clock full
  · exact whole
  · exact partialStep
  · exact partialStep
  · exact whole
  · exact BitVec.not_le.mp full
  · exact partialStep

end Phase4.Managers
