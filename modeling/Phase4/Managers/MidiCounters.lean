import Phase4.Managers.Midi

namespace Phase4.Managers
open Library

/-! ## What the bytes received so far say -/

def events (bytes : List (BitVec 8)) : List (BitVec 8) := bytes.filterMap transportCode

def lastEvent (events : List (BitVec 8)) : BitVec 8 := events.getLast?.getD midiTransportNone

/-- The clock ticks since the last Start, or since the beginning. -/
def clocks (bytes : List (BitVec 8)) : Nat :=
  (bytes.reverse.takeWhile (· ≠ midiStatusStart)).countP (· = midiStatusTimingClock)

section
variable (bytes : List (BitVec 8)) {byte : BitVec 8}

theorem clocks_start : clocks (bytes ++ [midiStatusStart]) = 0 := by
  simp [clocks]

theorem clocks_clock : clocks (bytes ++ [midiStatusTimingClock]) = clocks bytes + 1 := by
  simp [clocks, midiStatusTimingClock, midiStatusStart]

theorem clocks_other (start : byte ≠ midiStatusStart) (clock : byte ≠ midiStatusTimingClock) :
    clocks (bytes ++ [byte]) = clocks bytes := by
  simp [clocks, start, clock]

theorem events_transport {code : BitVec 8} (own : transportCode byte = some code) :
    events (bytes ++ [byte]) = events bytes ++ [code] := by
  simp [events, own]

theorem events_other (own : transportCode byte = none) : events (bytes ++ [byte]) = events bytes := by
  simp [events, own]

theorem lastEvent_snoc (events : List (BitVec 8)) (code : BitVec 8) :
    lastEvent (events ++ [code]) = code := by
  simp [lastEvent]

end

/-! ## The counters -/

def recordBytes (thread : BitVec 8 × MidiCells) (packet : List (BitVec 8)) : BitVec 8 × MidiCells :=
  packet.foldl (fun thread byte => (recordByte byte thread.1).run MidiOp.apply thread.2) thread

def recordPackets (packets : List (List (BitVec 8))) : BitVec 8 × MidiCells :=
  packets.foldl recordBytes (0, .new)

structure Counts (bytes : List (BitVec 8)) (thread : BitVec 8 × MidiCells) : Prop where
  steps : thread.2.midiSteps = BitVec.ofNat 32 (clocks bytes / 6)
  ticks : thread.1.toNat = clocks bytes % 6
  count : thread.2.midiTransportCount = BitVec.ofNat 32 (events bytes).length
  latest : thread.2.midiTransportLatest = lastEvent (events bytes)

section
variable {bytes : List (BitVec 8)} {thread : BitVec 8 × MidiCells} {byte : BitVec 8}

theorem recordByte_other (own : transportCode byte = none) (clock : byte ≠ midiStatusTimingClock)
    (ticks : BitVec 8) : recordByte byte ticks = .done ticks := by
  unfold transportCode at own
  split_ifs at own with start stop again
  rw [recordByte, if_neg start, if_neg stop, if_neg again, if_neg clock]
  rfl

theorem recordByte_clock (ticks : BitVec 8) : recordByte midiStatusTimingClock ticks =
    if ticks + 1 ≥ midiClockTicksPerStep then .call .fetchAddSteps fun _ => .done 0
    else .done (ticks + 1) := rfl

theorem ofNat_succ_div (clocks : Nat) : BitVec.ofNat 32 ((clocks + 1) / 6) =
    if clocks % 6 = 5 then BitVec.ofNat 32 (clocks / 6) + 1 else BitVec.ofNat 32 (clocks / 6) := by
  split_ifs with full
  · rw [show (clocks + 1) / 6 = clocks / 6 + 1 by omega]
    exact BitVec.ofNat_add _ _
  · rw [show (clocks + 1) / 6 = clocks / 6 by omega]

theorem counts_snoc (here : Counts bytes thread) (byte : BitVec 8) :
    Counts (bytes ++ [byte]) ((recordByte byte thread.1).run MidiOp.apply thread.2) := by
  obtain ⟨steps, ticks, count, latest⟩ := here
  obtain ⟨accumulated, cells⟩ := thread
  have counted (code : BitVec 8) (own : transportCode byte = some code) :
      cells.midiTransportCount + 1 = BitVec.ofNat 32 (events (bytes ++ [byte])).length := by
    rw [events_transport bytes own, List.length_append, count]
    exact (BitVec.ofNat_add _ _).symm
  have last (code : BitVec 8) (own : transportCode byte = some code) :
      code = lastEvent (events (bytes ++ [byte])) := by
    rw [events_transport bytes own, lastEvent_snoc]
  by_cases start : byte = midiStatusStart
  · subst start
    exact ⟨by rw [clocks_start]; rfl, by rw [clocks_start]; rfl, counted _ rfl, last _ rfl⟩
  by_cases clock : byte = midiStatusTimingClock
  · subst clock
    have same : events (bytes ++ [midiStatusTimingClock]) = events bytes := events_other bytes rfl
    have small : clocks bytes % 6 < 6 := Nat.mod_lt _ (by norm_num)
    have more : (accumulated + 1).toNat = clocks bytes % 6 + 1 := by
      rw [BitVec.toNat_add, ticks]
      exact Nat.mod_eq_of_lt (by simp; omega)
    have full : accumulated + 1 ≥ midiClockTicksPerStep ↔ clocks bytes % 6 = 5 := by
      rw [ge_iff_le, BitVec.le_def, more]
      simp [midiClockTicksPerStep]
      omega
    rw [recordByte_clock]
    by_cases sixth : clocks bytes % 6 = 5
    · rw [if_pos (full.mpr sixth)]
      refine ⟨?_, ?_, by rw [same]; exact count, by rw [same]; exact latest⟩
      · rw [clocks_clock, ofNat_succ_div, if_pos sixth, ← steps]
        rfl
      · rw [clocks_clock]
        change 0 = _
        omega
    · rw [if_neg (fun enough => sixth (full.mp enough))]
      refine ⟨?_, ?_, by rw [same]; exact count, by rw [same]; exact latest⟩
      · rw [clocks_clock, ofNat_succ_div, if_neg sixth, ← steps]
        rfl
      · rw [clocks_clock]
        change (accumulated + 1).toNat = _
        omega
  cases own : transportCode byte with
  | none =>
      rw [recordByte_other own clock]
      refine ⟨?_, ?_, ?_, ?_⟩
      · rw [clocks_other bytes start clock]
        exact steps
      · rw [clocks_other bytes start clock]
        exact ticks
      · rw [events_other bytes own]
        exact count
      · rw [events_other bytes own]
        exact latest
  | some code =>
      obtain ⟨_, same, records⟩ | ⟨absent, _⟩ := recordByte_cases start accumulated
      · cases own.symm.trans same
        rw [records]
        refine ⟨?_, ?_, counted code own, last code own⟩
        · rw [clocks_other bytes start clock]
          exact steps
        · rw [clocks_other bytes start clock]
          exact ticks
      · cases own.symm.trans absent

end

theorem recordBytes_append (thread : BitVec 8 × MidiCells) (first second : List (BitVec 8)) :
    recordBytes thread (first ++ second) = recordBytes (recordBytes thread first) second :=
  List.foldl_append

theorem recordPackets_eq (packets : List (List (BitVec 8))) :
    recordPackets packets = recordBytes (0, .new) packets.flatten := by
  rw [recordPackets, recordBytes, List.foldl_flatten]
  rfl

theorem counts_recordBytes (bytes : List (BitVec 8)) :
    Counts bytes (recordBytes (0, .new) bytes) := by
  induction bytes using List.reverseRecOn with
  | nil => exact ⟨rfl, rfl, rfl, rfl⟩
  | append_singleton bytes byte ih =>
      rw [recordBytes_append]
      exact counts_snoc ih byte

/-- Whatever the packets, the counters are those of the bytes, the tick accumulator has room for
each byte, and a byte that is neither a tick nor a transport event changes nothing. -/
theorem counters_follow_bytes (packets : List (List (BitVec 8))) :
    (recordPackets packets).2.midiSteps = BitVec.ofNat 32 (clocks packets.flatten / 6) ∧
    (recordPackets packets).1.toNat = clocks packets.flatten % 6 ∧
    (recordPackets packets).2.midiTransportCount =
      BitVec.ofNat 32 (events packets.flatten).length ∧
    (recordPackets packets).2.midiTransportLatest = lastEvent (events packets.flatten) ∧
    (∀ before byte after, packets.flatten = before ++ byte :: after →
      (recordBytes (0, .new) before).1.toNat + 1 < 2 ^ 8) ∧
    ∀ byte, byte ∉ [midiStatusTimingClock, midiStatusStart, midiStatusContinue, midiStatusStop] →
      ∀ ticks cells, (recordByte byte ticks).run MidiOp.apply cells = (ticks, cells) := by
  have counts := counts_recordBytes packets.flatten
  rw [← recordPackets_eq] at counts
  refine ⟨counts.steps, counts.ticks, counts.count, counts.latest, fun before _ _ _ => ?_, ?_⟩
  · rw [(counts_recordBytes before).ticks]
    omega
  · intro byte other ticks cells
    simp only [List.mem_cons, List.not_mem_nil, or_false, not_or] at other
    obtain ⟨clock, start, again, stop⟩ := other
    rw [recordByte_other (by rw [transportCode, if_neg start, if_neg stop, if_neg again]) clock]
    rfl

end Phase4.Managers
