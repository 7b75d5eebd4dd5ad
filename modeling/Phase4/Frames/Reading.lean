import Phase4.Frames.Words

namespace Phase4.Frames
open Library Dsp

/-! ## Reading a region of any content

Nothing is known of the memory here: every load may meet other bytes. -/

theorem observe_load32 (memories : Nat → Memory) {α : Type} (offset : Nat)
    (next : BitVec 32 → MemoryProgram α) (time : Nat) :
    ∃ answer, observe memories (load32 offset >>= next) time =
      ((observe memories (next answer) (time + 1)).1,
        .load (word32 offset) :: (observe memories (next answer) (time + 1)).2) :=
  ⟨BitVec.ofNat 32 ((memories time).load (word32 offset)), rfl⟩

theorem observe_readHeader (memories : Nat → Memory) (len time : Nat) :
    ∃ words : List Word, (observe memories (readHeader len) time).2 = words.map .load ∧
      ∀ word ∈ words, Inside len word := by
  by_cases short : len < frameHeaderBytes
  · rw [readHeader, if_pos short]
    exact ⟨[], rfl, by simp⟩
  · have inside : ∀ word ∈ onceWords, Inside len word := by
      intro word member
      have header : Inside frameHeaderBytes word := header_inside (by simp [member])
      exact header.mono (Nat.le_of_not_lt short)
    rw [readHeader, if_neg short]
    obtain ⟨magic, first⟩ := observe_load32 memories offsetMagic _ time
    rw [first]
    by_cases other : magic ≠ frameMagic
    · rw [if_pos other]
      refine ⟨[word32 offsetMagic], rfl, ?_⟩
      intro word member
      exact inside word (List.mem_singleton.mp member ▸ List.mem_cons_self)
    · rw [if_neg other]
      exact ⟨onceWords, rfl, inside⟩

theorem inside_pass {len channelCount : Nat} (covers : frameBytes channelCount ≤ len)
    {pass : List Word} (shape : (frameLayout channelCount).Pass pass) :
    ∀ word ∈ pass, Inside len word := by
  intro word member
  have own : word = (frameLayout channelCount).sequence ∨
      word ∈ (frameLayout channelCount).words := by
    rcases shape with rfl | rfl
    · exact .inl (List.mem_singleton.mp member)
    · simpa [or_assoc, or_comm, or_left_comm] using member
  exact (frameLayout_inside own).mono covers

def readKnown (len : Nat) : Option FrameHeader → MemoryProgram (Option Frame)
  | none => .done none
  | some header =>
      if header.layoutVersion ≠ frameLayoutVersion ∨ header.bandCount.toNat ≠ bandCount then
        .done none
      else if len < frameBytes header.channelCount.toNat then .done none
      else readAttempt (List.replicate header.channelCount.toNat default) readAttempts

theorem readFrame_eq (len : Nat) : readFrame len = readHeader len >>= readKnown len := by
  unfold readFrame
  congr 1

theorem observe_readKnown (memories : Nat → Memory) (len : Nat) (header : Option FrameHeader)
    (time : Nat) :
    ∃ passes : List (List Word), passes.length ≤ readAttempts ∧
      (observe memories (readKnown len header) time).2 = passes.flatten.map .load ∧
      (∀ pass ∈ passes, ∃ known, header = some known ∧
        frameBytes known.channelCount.toNat ≤ len ∧
        (frameLayout known.channelCount.toNat).Pass pass) ∧
      ∀ result, (observe memories (readKnown len header) time).1 = some result →
        result.sequence ≠ 0 ∧ result.sequence.toNat % 2 = 0 ∧
        ∃ known, header = some known ∧ result.channels.length = known.channelCount.toNat := by
  cases header with
  | none => exact ⟨[], Nat.zero_le _, rfl, by simp, by simp [readKnown]⟩
  | some known =>
      rw [readKnown]
      split_ifs with foreign short
      · exact ⟨[], Nat.zero_le _, rfl, by simp, by simp⟩
      · exact ⟨[], Nat.zero_le _, rfl, by simp, by simp⟩
      · rw [readAttempt_eq _ List.length_replicate]
        obtain ⟨passes, few, shaped, loads, returned⟩ := SeqlockLayout.observe_attempts memories
          (decodeFrame known.channelCount.toNat) none readAttempts time
        refine ⟨passes, few, loads, ?_, ?_⟩
        · exact fun pass member => ⟨known, rfl, Nat.le_of_not_lt short, shaped pass member⟩
        · intro result found
          rcases returned with failed | ⟨before, values, unset, even, bound, _, decoded⟩
          · rw [failed] at found
            cases found
          · rw [decoded, decodeFrame, Option.some.injEq] at found
            subst found
            have kept : (BitVec.ofNat 64 before).toNat = before := by
              rw [BitVec.toNat_ofNat, Nat.mod_eq_of_lt bound]
            refine ⟨?_, by rw [kept, even], known, rfl, by simp⟩
            intro zero
            exact unset (kept.symm.trans (congrArg BitVec.toNat zero))

/-- For every content, length and course of concurrent writes: all loads are aligned and
inside, there are few passes, and a frame has an even sequence and the header's channels.
The offsets of any channel count fit 64 bits. -/
theorem reading_is_safe (memories : Nat → Memory) (len : Nat) :
    let header := observe memories (readHeader len) 0
    let frame := observe memories (readFrame len) 0
    (∀ op ∈ header.2 ++ frame.2, ∃ word, op = .load word ∧ Inside len word) ∧
    (∃ passes : List (List Word), passes.length ≤ readAttempts ∧
      frame.2 = header.2 ++ passes.flatten.map .load ∧
      ∀ pass ∈ passes, ∃ known, header.1 = some known ∧
        (frameLayout known.channelCount.toNat).Pass pass) ∧
    (∀ result, frame.1 = some result → result.sequence ≠ 0 ∧ result.sequence.toNat % 2 = 0 ∧
      ∃ known, header.1 = some known ∧ result.channels.length = known.channelCount.toNat) ∧
    ∀ channelCount : BitVec 32, frameBytes channelCount.toNat < 2 ^ 64 ∧
      ∀ index < channelCount.toNat, recordOffset index + recordPeakOffset < 2 ^ 64 ∧
        ∀ band, binOffset (recordOffset index) band < 2 ^ 64 := by
  dsimp only
  obtain ⟨words, headerLoads, headerInside⟩ := observe_readHeader memories len 0
  obtain ⟨later, ran⟩ := observe_bind memories (readHeader len) (readKnown len) 0
  obtain ⟨passes, few, loads, shaped, returned⟩ :=
    observe_readKnown memories len (observe memories (readHeader len) 0).1 later
  rw [readFrame_eq, ran]
  refine ⟨?_, ⟨passes, few, by rw [loads], ?_⟩, returned, ?_⟩
  · have inHeader (op : MemoryOp) (member : op ∈ words.map MemoryOp.load) :
        ∃ word, op = .load word ∧ Inside len word := by
      obtain ⟨word, among, rfl⟩ := List.mem_map.mp member
      exact ⟨word, rfl, headerInside word among⟩
    intro op member
    rw [loads, headerLoads] at member
    rcases List.mem_append.mp member with first | second
    · exact inHeader op first
    · rcases List.mem_append.mp second with again | inPasses
      · exact inHeader op again
      · obtain ⟨word, among, rfl⟩ := List.mem_map.mp inPasses
        obtain ⟨pass, isPass, inPass⟩ := List.mem_flatten.mp among
        obtain ⟨known, _, covers, shape⟩ := shaped pass isPass
        exact ⟨word, rfl, inside_pass covers shape word inPass⟩
  · intro pass member
    obtain ⟨known, found, _, shape⟩ := shaped pass member
    exact ⟨known, found, shape⟩
  · intro channelCount
    have bound := channelCount.isLt
    simp only [frameBytes, recordOffset, binOffset, frameHeaderBytes, channelRecordBytes,
      recordPeakOffset, recordBinsOffset, wordBytes, bandCount]
    refine ⟨by omega, fun index inside => ⟨by omega, fun band => ?_⟩⟩
    have last := band.isLt
    omega

end Phase4.Frames
