import Phase4.Frames.Region

namespace Phase4.Frames
open Library Dsp

/-! ## The words of a frame

The loops of `publish` and `readAttempt` visit one list of words, in order. -/

def headWords : List Word :=
  [word64 offsetPublishedNs, word32 offsetMidiSteps, word32 offsetMidiTransportCount,
    word32 offsetMidiTransportLast]

def recordWords (index : Nat) : List Word :=
  word32 (recordOffset index + recordPeakOffset) ::
    bands.map fun band => word32 (binOffset (recordOffset index) band)

def channelWords (start count : Nat) : List Word := (List.range' start count).flatMap recordWords

def levelValues (channel : ChannelLevel) : List Nat :=
  channel.peak.toBits.toNat :: bands.map fun band => (channel.bins band).toBits.toNat

structure Published where
  channels : List ChannelLevel
  midi : FrameMidi
  publishedNs : BitVec 64
deriving DecidableEq

def Published.headValues (frame : Published) : List Nat :=
  [frame.publishedNs.toNat, frame.midi.steps.toNat, frame.midi.transportCount.toNat,
    frame.midi.transportLast.toNat]

def Published.values (frame : Published) : List Nat :=
  frame.headValues ++ frame.channels.flatMap levelValues

/-- The frame `readFrame` makes of a publish whose sequence is `2k`. -/
def Published.frame (published : Published) (k : Nat) : Frame where
  sequence := BitVec.ofNat 64 (2 * k)
  publishedNs := published.publishedNs
  midi := published.midi
  channels := published.channels

@[simp] theorem bands_length : bands.length = bandCount := List.length_finRange

@[simp] theorem recordWords_length (index : Nat) : (recordWords index).length = 1 + bandCount := by
  simp [recordWords, Nat.add_comm]

@[simp] theorem levelValues_length (channel : ChannelLevel) :
    (levelValues channel).length = 1 + bandCount := by
  simp [levelValues, Nat.add_comm]

@[simp] theorem channelWords_length (start count : Nat) :
    (channelWords start count).length = count * (1 + bandCount) := by
  simp [channelWords, List.length_flatMap]

@[simp] theorem flatMap_levelValues_length (channels : List ChannelLevel) :
    (channels.flatMap levelValues).length = channels.length * (1 + bandCount) := by
  simp [List.length_flatMap]

theorem channelWords_succ (start count : Nat) :
    channelWords start (count + 1) = recordWords start ++ channelWords (start + 1) count := by
  simp [channelWords, List.range'_succ]

/-! ### No two words overlap -/

def Before (a b : Word) : Prop := a.offset + a.width ≤ b.offset

theorem Before.disjoint {a b : Word} (h : Before a b) : a.Disjoint b := Or.inl h

theorem mem_recordWords {index : Nat} {word : Word} (member : word ∈ recordWords index) :
    recordOffset index ≤ word.offset ∧ word.offset + word.width ≤ recordOffset (index + 1) := by
  simp only [recordWords, List.mem_cons, List.mem_map] at member
  rcases member with rfl | ⟨band, _, rfl⟩
  · simp [word32, recordPeakOffset, recordOffset, channelRecordBytes, bandCount, wordBytes]
    omega
  · have := band.isLt
    simp only [bandCount] at this
    simp [word32, binOffset, recordBinsOffset, recordOffset, channelRecordBytes, bandCount,
      wordBytes]
    omega

theorem recordWords_ordered (index : Nat) : (recordWords index).Pairwise Before := by
  refine List.pairwise_cons.mpr ⟨?_, ?_⟩
  · intro word member
    obtain ⟨band, _, rfl⟩ := List.mem_map.mp member
    simp only [Before, word32, binOffset, recordPeakOffset, recordBinsOffset, wordBytes]
    omega
  · refine List.pairwise_map.mpr ((List.pairwise_lt_finRange bandCount).imp ?_)
    intro a b less
    simp only [Before, word32, binOffset, recordBinsOffset, wordBytes]
    have : a.val < b.val := less
    omega

theorem recordOffset_mono {i j : Nat} (le : i ≤ j) : recordOffset i ≤ recordOffset j := by
  simp only [recordOffset]
  exact Nat.add_le_add_left (Nat.mul_le_mul_right _ le) _

theorem channelWords_ordered (start count : Nat) : (channelWords start count).Pairwise Before := by
  refine List.pairwise_flatMap.mpr ⟨fun index _ => recordWords_ordered index, ?_⟩
  refine (List.pairwise_lt_range' 1 one_pos).imp ?_
  intro i j less a inFirst b inSecond
  exact (mem_recordWords inFirst).2.trans
    ((recordOffset_mono less).trans (mem_recordWords inSecond).1)

theorem mem_channelWords {start count : Nat} {word : Word}
    (member : word ∈ channelWords start count) :
    frameHeaderBytes ≤ word.offset ∧ word.offset + word.width ≤ frameBytes (start + count) := by
  obtain ⟨index, inRange, inRecord⟩ := List.mem_flatMap.mp member
  have bound := (List.mem_range'_1.mp inRange).2
  have inside := mem_recordWords inRecord
  exact ⟨(recordOffset_mono (Nat.zero_le index)).trans inside.1,
    inside.2.trans (recordOffset_mono bound)⟩

theorem headWords_ordered : headWords.Pairwise Before := by
  simp [headWords, Before, word32, word64, offsetPublishedNs, offsetMidiSteps,
    offsetMidiTransportCount, offsetMidiTransportLast]

theorem mem_headWords {word : Word} (member : word ∈ headWords) :
    offsetPublishedNs ≤ word.offset ∧ word.offset + word.width ≤ frameHeaderBytes := by
  revert word
  decide

def frameLayout (channelCount : Nat) : SeqlockLayout where
  sequence := word64 offsetSequence
  words := headWords ++ channelWords 0 channelCount
  sequence_width := rfl
  words_disjoint := by
    refine List.Pairwise.imp Before.disjoint (List.pairwise_append.mpr
      ⟨headWords_ordered, channelWords_ordered 0 channelCount, ?_⟩)
    intro a inHead b inRecords
    exact (mem_headWords inHead).2.trans (mem_channelWords inRecords).1
  sequence_disjoint := by
    intro word member
    left
    rcases List.mem_append.mp member with inHead | inRecords
    · exact (mem_headWords inHead).1
    · exact le_trans (by decide) (mem_channelWords inRecords).1

@[simp] theorem frameLayout_sequence (channelCount : Nat) :
    (frameLayout channelCount).sequence = word64 offsetSequence := rfl

@[simp] theorem frameLayout_words (channelCount : Nat) :
    (frameLayout channelCount).words = headWords ++ channelWords 0 channelCount := rfl

theorem zip_values (published : Published) :
    (frameLayout published.channels.length).words.zip published.values =
      headWords.zip published.headValues ++
        (channelWords 0 published.channels.length).zip
          (published.channels.flatMap levelValues) :=
  List.zip_append rfl

def onceWords : List Word :=
  [word32 offsetMagic, word32 offsetLayoutVersion, word32 offsetChannelCount,
    word32 offsetBandCount, word32 offsetSampleRate, word32 offsetMidiFlags]

theorem onceWords_disjoint {channelCount : Nat} {once word : Word} (isOnce : once ∈ onceWords)
    (member : word = (frameLayout channelCount).sequence ∨ word ∈ (frameLayout channelCount).words) :
    word.Disjoint once := by
  rcases member with rfl | member
  · revert once
    show ∀ once ∈ onceWords, (word64 offsetSequence).Disjoint once
    decide
  · rcases List.mem_append.mp member with inHead | inRecords
    · have apart : ∀ word ∈ headWords, ∀ once ∈ onceWords, word.Disjoint once := by decide
      exact apart word inHead once isOnce
    · have low := (mem_channelWords inRecords).1
      have high : once.offset + once.width ≤ frameHeaderBytes := by
        revert once
        decide
      exact Or.inr (high.trans low)

def Inside (len : Nat) (word : Word) : Prop :=
  word.offset + word.width ≤ len ∧ word.offset % word.width = 0

instance (len : Nat) (word : Word) : Decidable (Inside len word) :=
  inferInstanceAs (Decidable (_ ∧ _))

theorem Inside.mono {word : Word} {short long : Nat} (inside : Inside short word)
    (le : short ≤ long) : Inside long word := ⟨inside.1.trans le, inside.2⟩

theorem header_inside {word : Word} (member : word ∈ word64 offsetSequence :: headWords ++ onceWords) :
    Inside frameHeaderBytes word := by
  revert word
  decide

theorem recordWords_aligned {index : Nat} {word : Word} (member : word ∈ recordWords index) :
    word.offset % word.width = 0 := by
  simp only [recordWords, List.mem_cons, List.mem_map] at member
  rcases member with rfl | ⟨band, _, rfl⟩
  · simp only [word32, recordPeakOffset, recordOffset, frameHeaderBytes, channelRecordBytes,
      bandCount, wordBytes]
    omega
  · simp only [word32, binOffset, recordBinsOffset, recordOffset, frameHeaderBytes,
      channelRecordBytes, bandCount, wordBytes]
    omega

/-- Every word has an aligned place of its own inside the frame's bytes. -/
theorem frameLayout_inside {channelCount : Nat} {word : Word}
    (member : word = (frameLayout channelCount).sequence ∨ word ∈ (frameLayout channelCount).words) :
    Inside (frameBytes channelCount) word := by
  have low : frameHeaderBytes ≤ frameBytes channelCount := Nat.le_add_right _ _
  rcases member with rfl | member
  · exact (header_inside List.mem_cons_self).mono low
  · rcases List.mem_append.mp member with inHead | inRecords
    · exact (header_inside (by simp [inHead])).mono low
    · obtain ⟨index, _, inRecord⟩ := List.mem_flatMap.mp inRecords
      have within := (mem_channelWords inRecords).2
      rw [Nat.zero_add] at within
      exact ⟨within, recordWords_aligned inRecord⟩

/-! ### `publish` writes these words -/

theorem storeBins_eq (record : Nat) (bins : Bins) (rest : List (Fin bandCount)) :
    storeBins record bins rest =
      storeAll ((rest.map fun band => word32 (binOffset record band)).zip
        (rest.map fun band => (bins band).toBits.toNat)) := by
  induction rest with
  | nil => rfl
  | cons band rest ih => simp [storeBins, storeAll, ih, store32]

theorem storeChannels_eq (index : Nat) (channels : List ChannelLevel) :
    storeChannels index channels =
      storeAll ((channelWords index channels.length).zip (channels.flatMap levelValues)) := by
  induction channels generalizing index with
  | nil => rfl
  | cons channel rest ih =>
      rw [List.length_cons, channelWords_succ, List.flatMap_cons,
        List.zip_append (by simp), storeAll_append, ← ih]
      simp [storeChannels, storeBins_eq, recordWords, levelValues, storeAll, store32]

theorem publish_eq {channelCount : Nat} {frame : Published}
    (length : frame.channels.length = channelCount)
    (finite : frame.channels.all ChannelLevel.isFinite = true) :
    publish channelCount frame.channels frame.midi frame.publishedNs =
      some ((frameLayout channelCount).write frame.values >>= fun _ => .done true) := by
  subst length
  have stores : storeAll ((frameLayout frame.channels.length).words.zip frame.values) = (do
      store64 offsetPublishedNs frame.publishedNs
      store32 offsetMidiSteps frame.midi.steps
      store32 offsetMidiTransportCount frame.midi.transportCount
      store32 offsetMidiTransportLast frame.midi.transportLast
      storeChannels 0 frame.channels) := by
    rw [zip_values, storeAll_append, storeChannels_eq]
    rfl
  have raised (answer : Nat) (n : BitVec 64) :
      (BitVec.ofNat 64 answer + n).toNat = (answer + n.toNat) % 2 ^ 64 := by
    rw [BitVec.toNat_add, BitVec.toNat_ofNat, Nat.mod_add_mod]
  simp only [publish, ne_eq, not_true_eq_false, if_false, finite, Bool.not_true,
    Bool.false_eq_true, SeqlockLayout.write, stores]
  simp only [load64, store64, raised, load_bind, Program.call_bind, Program.bind_assoc,
    Program.pure_eq, Program.done_bind]
  rfl

/-! ### `readAttempt` copies these words -/

def decodeBins : List (Fin bandCount) → List Nat → Bins → Bins
  | [], _, bins => bins
  | band :: rest, values, bins =>
      decodeBins rest values.tail
        (Function.update bins band (F32.fromBits (BitVec.ofNat 32 (values.headD 0))))

def decodeLevels : List ChannelLevel → List Nat → List ChannelLevel
  | [], _ => []
  | channel :: rest, values =>
      ⟨F32.fromBits (BitVec.ofNat 32 (values.headD 0)),
        decodeBins bands values.tail channel.bins⟩ ::
        decodeLevels rest (values.drop (1 + bandCount))

def decodeFrame (channelCount before : Nat) (values : List Nat) : Option Frame :=
  some {
    sequence := BitVec.ofNat 64 before
    publishedNs := BitVec.ofNat 64 (values.headD 0)
    midi := {
      steps := BitVec.ofNat 32 ((values.drop 1).headD 0)
      transportCount := BitVec.ofNat 32 ((values.drop 2).headD 0)
      transportLast := BitVec.ofNat 32 ((values.drop 3).headD 0) }
    channels := decodeLevels (List.replicate channelCount default) (values.drop 4) }

theorem decodeBins_append (rest : List (Fin bandCount)) (values more : List Nat) (bins : Bins)
    (length : values.length = rest.length) :
    decodeBins rest (values ++ more) bins = decodeBins rest values bins := by
  induction rest generalizing values bins with
  | nil => rfl
  | cons band rest ih =>
      cases values with
      | nil => cases length
      | cons value values => simpa [decodeBins] using ih values _ (by simpa using length)

theorem decodeLevels_cons (channel : ChannelLevel) (rest : List ChannelLevel) (peak : Nat)
    (bins values : List Nat) (length : bins.length = bandCount) :
    decodeLevels (channel :: rest) (peak :: (bins ++ values)) =
      ⟨F32.fromBits (BitVec.ofNat 32 peak), decodeBins bands bins channel.bins⟩ ::
        decodeLevels rest values := by
  have remaining : (peak :: (bins ++ values)).drop (1 + bandCount) = values := by
    rw [Nat.add_comm, List.drop_succ_cons, ← length, List.drop_left]
  rw [decodeLevels, remaining, List.headD_cons, List.tail_cons,
    decodeBins_append bands bins values channel.bins (by rw [length, bands_length])]

theorem loadBins_eq (record : Nat) (rest : List (Fin bandCount)) (bins : Bins) :
    loadBins record rest bins =
      loadAll (rest.map fun band => word32 (binOffset record band)) >>= fun values =>
        .done (decodeBins rest values bins) := by
  induction rest generalizing bins with
  | nil => rfl
  | cons band rest ih => simp [loadBins, loadAll, decodeBins, load32, ih]

theorem loadChannels_eq (index : Nat) (buffer : List ChannelLevel) :
    loadChannels index buffer =
      loadAll (channelWords index buffer.length) >>= fun values =>
        .done (decodeLevels buffer values) := by
  induction buffer generalizing index with
  | nil => rfl
  | cons channel rest ih =>
      rw [List.length_cons, channelWords_succ, loadAll_append]
      simp only [loadChannels, recordWords, loadAll, load32, load_bind, ih, loadBins_eq,
        Program.pure_eq, Program.call_bind, Program.done_bind, Program.bind_assoc,
        List.cons_append]
      refine congrArg (Program.call _) (funext fun peak => loadAll_bind_congr ?_)
      intro bins length
      rw [List.length_map, bands_length] at length
      simp only [decodeLevels_cons channel rest peak bins _ length]

theorem decodeBins_apply (rest : List (Fin bandCount)) (source bins : Bins)
    (band : Fin bandCount) :
    decodeBins rest (rest.map fun b => (source b).toBits.toNat) bins band =
      if band ∈ rest then source band else bins band := by
  induction rest generalizing bins with
  | nil => simp [decodeBins]
  | cons first rest ih =>
      simp only [List.map_cons, decodeBins, List.headD_cons, List.tail_cons, ih,
        BitVec.ofNat_toNat, BitVec.setWidth_eq, F32.fromBits_toBits, List.mem_cons]
      by_cases later : band ∈ rest
      · simp [later]
      · by_cases same : band = first
        · subst same
          simp [later]
        · simp [later, same]

theorem decodeBins_bands (source bins : Bins) :
    decodeBins bands (bands.map fun band => (source band).toBits.toNat) bins = source := by
  funext band
  rw [decodeBins_apply, if_pos (List.mem_finRange band)]

theorem decodeLevels_levelValues (buffer channels : List ChannelLevel)
    (length : buffer.length = channels.length) :
    decodeLevels buffer (channels.flatMap levelValues) = channels := by
  induction channels generalizing buffer with
  | nil =>
      rw [List.length_eq_zero_iff.mp length]
      rfl
  | cons channel rest ih =>
      cases buffer with
      | nil => cases length
      | cons old buffer =>
          rw [List.flatMap_cons, levelValues, List.cons_append,
            decodeLevels_cons old buffer _ _ _ (by simp), ih buffer (by simpa using length),
            decodeBins_bands]
          simp

@[simp] theorem decodeLevels_length (buffer : List ChannelLevel) (values : List Nat) :
    (decodeLevels buffer values).length = buffer.length := by
  induction buffer generalizing values with
  | nil => rfl
  | cons channel rest ih => simp [decodeLevels, ih]

theorem decodeBins_overwrites (rest : List (Fin bandCount)) (values : List Nat) (a b : Bins)
    (agree : ∀ band, band ∉ rest → a band = b band) :
    decodeBins rest values a = decodeBins rest values b := by
  induction rest generalizing values a b with
  | nil => exact funext fun band => agree band (List.not_mem_nil)
  | cons first rest ih =>
      apply ih
      intro band outside
      by_cases same : band = first
      · simp [same]
      · simpa [same] using agree band (by simp [same, outside])

theorem decodeLevels_overwrites (values : List Nat) {a b : List ChannelLevel}
    (length : a.length = b.length) : decodeLevels a values = decodeLevels b values := by
  induction a generalizing b values with
  | nil => rw [List.length_eq_zero_iff.mp length.symm]
  | cons old a ih =>
      cases b with
      | nil => cases length
      | cons other b =>
          rw [decodeLevels, decodeLevels, ih _ (by simpa using length),
            decodeBins_overwrites bands _ old.bins other.bins
              fun band outside => absurd (List.mem_finRange band) outside]

theorem loadAll_layout (channelCount : Nat) :
    loadAll (frameLayout channelCount).words = do
      let publishedNs ← load (word64 offsetPublishedNs)
      let steps ← load (word32 offsetMidiSteps)
      let transportCount ← load (word32 offsetMidiTransportCount)
      let transportLast ← load (word32 offsetMidiTransportLast)
      let records ← loadAll (channelWords 0 channelCount)
      return publishedNs :: steps :: transportCount :: transportLast :: records := by
  simp [headWords, loadAll]

theorem readAttempt_eq {channelCount : Nat} (buffer : List ChannelLevel)
    (length : buffer.length = channelCount) (n : Nat) :
    readAttempt buffer n =
      (frameLayout channelCount).attempts (decodeFrame channelCount) none n := by
  induction n generalizing buffer with
  | zero => rfl
  | succ n ih =>
      have sequence (a b : Nat) :
          BitVec.ofNat 64 a = BitVec.ofNat 64 b ↔ a % 2 ^ 64 = b % 2 ^ 64 := by
        rw [← BitVec.toNat_inj, BitVec.toNat_ofNat, BitVec.toNat_ofNat]
      have unset (a : Nat) : BitVec.ofNat 64 a = 0 ↔ a % 2 ^ 64 = 0 := sequence a 0
      have loaded_eq (a : Nat) : BitVec.ofNat 64 (a % 2 ^ 64) = BitVec.ofNat 64 a := by
        rw [sequence, Nat.mod_mod]
      have copied (values : List Nat) : readAttempt (decodeLevels buffer values) n =
          (frameLayout channelCount).attempts (decodeFrame channelCount) none n :=
        ih _ (by rw [decodeLevels_length, length])
      have fresh (values : List Nat) : decodeLevels buffer values =
          decodeLevels (List.replicate channelCount default) values :=
        decodeLevels_overwrites values (by rw [length, List.length_replicate])
      rw [readAttempt, SeqlockLayout.attempts]
      simp only [load64, load_bind, Program.call_bind, Program.pure_eq, Program.done_bind, ih buffer length]
      refine congrArg (Program.call _) (funext fun loaded => ?_)
      simp only [ne_eq, unset, BitVec.toNat_ofNat]
      by_cases empty : loaded % 2 ^ 64 = 0
      · rw [if_pos empty, if_pos empty]
      · by_cases even : loaded % 2 ^ 64 % 2 = 0
        · rw [if_neg empty, if_neg empty, if_neg (not_not.mpr even), if_pos even]
          simp only [load32, load_bind, Program.call_bind, Program.pure_eq, Program.done_bind,
            loadChannels_eq, Program.bind_assoc, copied, length, sequence]
          simp only [loadAll_layout, SeqlockLayout.validate, decodeFrame, load_bind,
            Program.call_bind, Program.bind_assoc, Program.pure_eq, Program.done_bind,
            List.headD_cons, List.drop_succ_cons, List.drop_zero, loaded_eq, fresh,
            frameLayout_sequence]
        · rw [if_neg empty, if_neg empty, if_pos even, if_neg even]

theorem recordWords_fit (index : Nat) (channel : ChannelLevel) :
    ∀ entry ∈ (recordWords index).zip (levelValues channel), entry.2 < 256 ^ entry.1.width := by
  intro entry member
  rw [recordWords, levelValues, List.zip_cons_cons, List.zip_map', List.mem_cons,
    List.mem_map] at member
  rcases member with rfl | ⟨band, _, rfl⟩
  · exact channel.peak.toBits.isLt
  · exact (channel.bins band).toBits.isLt

theorem channelWords_fit (start : Nat) (channels : List ChannelLevel) :
    ∀ entry ∈ (channelWords start channels.length).zip (channels.flatMap levelValues),
      entry.2 < 256 ^ entry.1.width := by
  induction channels generalizing start with
  | nil => simp [channelWords]
  | cons channel rest ih =>
      intro entry member
      rw [List.length_cons, channelWords_succ, List.flatMap_cons, List.zip_append (by simp),
        List.mem_append] at member
      rcases member with here | later
      · exact recordWords_fit start channel entry here
      · exact ih (start + 1) entry later

theorem Published.fits (published : Published) :
    (frameLayout published.channels.length).Fits published.values := by
  constructor
  · simp [Published.values, Published.headValues, headWords]
  · intro entry member
    rw [zip_values, List.mem_append] at member
    rcases member with inHead | inRecords
    · simp only [headWords, Published.headValues, List.zip_cons_cons, List.zip_nil_right, List.mem_cons,
        List.not_mem_nil, or_false] at inHead
      rcases inHead with rfl | rfl | rfl | rfl
      · exact published.publishedNs.isLt
      · exact published.midi.steps.isLt
      · exact published.midi.transportCount.isLt
      · exact published.midi.transportLast.isLt
    · exact channelWords_fit 0 published.channels entry inRecords

theorem decodeFrame_values (published : Published) (k : Nat) :
    decodeFrame published.channels.length (2 * k) published.values = some (published.frame k) := by
  have levels := decodeLevels_levelValues
    (List.replicate published.channels.length default) published.channels (by simp)
  simp only [decodeFrame, Published.values, Published.headValues, List.cons_append, List.nil_append,
    List.headD_cons, List.drop_succ_cons, List.drop_zero, BitVec.ofNat_toNat,
    BitVec.setWidth_eq, levels, Published.frame]

end Phase4.Frames
