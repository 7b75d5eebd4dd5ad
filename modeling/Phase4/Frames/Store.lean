import Phase4.Library.Schedule
import Phase4.Frames.Words

namespace Phase4.Frames
open Library Dsp

/-! ## The words written once -/

structure Created (region : FrameRegion) : Prop where
  magic : region.base.load (word32 offsetMagic) = frameMagic.toNat
  layoutVersion : region.base.load (word32 offsetLayoutVersion) = frameLayoutVersion.toNat
  channelCount : region.base.load (word32 offsetChannelCount) = region.channelCount
  bandCount : region.base.load (word32 offsetBandCount) = headerBandCount.toNat
  sequence : region.base.load (word64 offsetSequence) = 0
  bound : region.channelCount < 2 ^ 32

theorem new_created {pageSize : Nat} {mapped : Bool} {channelCount : Nat}
    {sampleRate : BitVec 32} {midiConfigured : Bool} {region : FrameRegion}
    (created : FrameRegion.new pageSize mapped channelCount sampleRate midiConfigured = .ok region) :
    Created region := by
  unfold FrameRegion.new at created
  by_cases tooMany : 2 ^ 32 ≤ channelCount
  · rw [if_pos tooMany] at created
    cases created
  · rw [if_neg tooMany] at created
    cases mapped with
    | false => cases created
    | true =>
        cases created
        constructor
        case bound => exact Nat.lt_of_not_le tooMany
        all_goals
          dsimp only
          simp (disch := decide) only [Memory.load_store_disjoint, Memory.load_store_self]
        case channelCount => exact Nat.mod_eq_of_lt (Nat.lt_of_not_le tooMany)
        all_goals decide

theorem load32_reaches {base : Memory} {offset : Nat} (once : word32 offset ∈ onceWords) :
    Reaches onceWords base (load32 offset)
      (.done (BitVec.ofNat 32 (base.load (word32 offset)))) :=
  .load once (.here _)

theorem readHeader_reaches {region : FrameRegion} (created : Created region) {len : Nat}
    (long : ¬len < frameHeaderBytes) :
    ∃ sampleRate midiFlags, Reaches onceWords region.base (readHeader len) (.done (some {
      layoutVersion := frameLayoutVersion
      channelCount := BitVec.ofNat 32 region.channelCount
      bandCount := headerBandCount
      sampleRate
      midiFlags })) := by
  have word (value : BitVec 32) : BitVec.ofNat 32 value.toNat = value := by simp
  refine ⟨BitVec.ofNat 32 (region.base.load (word32 offsetSampleRate)),
    BitVec.ofNat 32 (region.base.load (word32 offsetMidiFlags)), ?_⟩
  rw [readHeader, if_neg long]
  refine (load32_reaches (by decide)).followed ?_
  rw [created.magic, word, if_neg (not_not.mpr rfl)]
  refine (load32_reaches (by decide)).followed ((load32_reaches (by decide)).followed
    ((load32_reaches (by decide)).followed ((load32_reaches (by decide)).followed
      ((load32_reaches (by decide)).followed ?_))))
  rw [created.layoutVersion, created.channelCount, created.bandCount, word, word]
  exact .here _

/-- The header checks of `readFrame` load words written once and either fail or leave the
attempts, on a buffer of one record for each channel. -/
theorem readFrame_reaches {region : FrameRegion} (created : Created region) (len : Nat) :
    ∃ target, Reaches onceWords region.base (readFrame len) target ∧
      (len < frameBytes region.channelCount ∧ target = .done none ∨
        frameBytes region.channelCount ≤ len ∧
          target = (frameLayout region.channelCount).attempts
            (decodeFrame region.channelCount) none readAttempts) := by
  by_cases short : len < frameHeaderBytes
  · refine ⟨.done none, ?_, Or.inl ⟨short.trans_le (Nat.le_add_right _ _), rfl⟩⟩
    rw [readFrame, readHeader, if_pos short]
    exact .here _
  · obtain ⟨sampleRate, midiFlags, header⟩ := readHeader_reaches created short
    have count : (BitVec.ofNat 32 region.channelCount).toNat = region.channelCount := by
      rw [BitVec.toNat_ofNat, Nat.mod_eq_of_lt created.bound]
    have valid : ¬(frameLayoutVersion ≠ frameLayoutVersion ∨
        headerBandCount.toNat ≠ bandCount) := by decide
    by_cases tooShort : len < frameBytes region.channelCount
    · refine ⟨.done none, header.followed ?_, Or.inl ⟨tooShort, rfl⟩⟩
      simp only [count, if_neg valid, if_pos tooShort]
      exact .here _
    · refine ⟨_, header.followed ?_, Or.inr ⟨Nat.le_of_not_lt tooShort, rfl⟩⟩
      simp only [count, if_neg valid, if_neg tooShort,
        readAttempt_eq _ List.length_replicate]
      exact .here _

/-! ## One call after another -/

structure Store where
  memory : Memory
  accepted : List Published

def Store.publish (region : FrameRegion) (store : Store) (frame : Published) : Option Store :=
  (Frames.publish region.channelCount frame.channels frame.midi frame.publishedNs).map
    fun program =>
      let (published, memory) := program.run MemoryOp.apply store.memory
      ⟨memory, if published then store.accepted ++ [frame] else store.accepted⟩

def Store.read (region : FrameRegion) (store : Store) : Option Frame × Memory :=
  (readFrame region.mappedLen).run MemoryOp.apply store.memory

def Reserved (region : FrameRegion) (address : Nat) : Prop :=
  offsetMidiTransportLast + 4 ≤ address ∧ address < frameHeaderBytes ∨
    frameBytes region.channelCount ≤ address

theorem reserved_outside {region : FrameRegion} {address : Nat} (reserved : Reserved region address)
    {own : Word} (isOwn : own = (frameLayout region.channelCount).sequence ∨
      own ∈ (frameLayout region.channelCount).words) :
    address < own.offset ∨ own.offset + own.width ≤ address := by
  have head : ∀ word ∈ word64 offsetSequence :: headWords,
      word.offset + word.width ≤ offsetMidiTransportLast + 4 := by decide
  have low (member : own ∈ word64 offsetSequence :: headWords) :
      own.offset + own.width ≤ address := by
    rcases reserved with ⟨above, _⟩ | above
    · exact (head own member).trans above
    · exact (head own member).trans (le_trans (by decide : _ ≤ frameHeaderBytes)
        ((Nat.le_add_right _ _).trans above))
  rcases isOwn with rfl | member
  · exact .inr (low List.mem_cons_self)
  · rcases List.mem_append.mp member with inHead | inRecords
    · exact .inr (low (List.mem_cons_of_mem _ inHead))
    · obtain ⟨after, before⟩ := mem_channelWords inRecords
      rw [Nat.zero_add] at before
      rcases reserved with ⟨_, below⟩ | above
      · exact .inl (below.trans_le after)
      · exact .inr (before.trans above)

/-- After any calls: the fields written once and the reserved bytes are untouched, the
sequence counts the accepted calls, and the words hold the last of them. -/
structure Intact (region : FrameRegion) (store : Store) : Prop where
  once : ∀ word ∈ onceWords, store.memory.load word = region.base.load word
  reserved : ∀ address, Reserved region address → store.memory address = region.base address
  sequence : store.memory.load (word64 offsetSequence) = 2 * store.accepted.length
  latest : ∀ frame, store.accepted.getLast? = some frame →
    frame.channels.length = region.channelCount ∧
      (frameLayout region.channelCount).Holds store.memory frame.values

theorem intact_new {region : FrameRegion} (created : Created region) :
    Intact region ⟨region.base, []⟩ := by
  refine ⟨fun _ _ => rfl, fun _ _ => rfl, created.sequence, ?_⟩
  intro frame found
  cases found

theorem Store.publish_rejected {region : FrameRegion} {store : Store} {frame : Published}
    (length : frame.channels.length = region.channelCount)
    (rejected : ¬frame.channels.all ChannelLevel.isFinite = true) :
    store.publish region frame = some store := by
  rw [Store.publish, Frames.publish, if_neg (not_not.mpr length), if_pos (by simpa using rejected)]
  rfl

theorem Intact.publish {region : FrameRegion} {store : Store} (intact : Intact region store)
    {frame : Published} (length : frame.channels.length = region.channelCount)
    (bound : store.accepted.length + 1 < 2 ^ 63) :
    ∃ next, store.publish region frame = some next ∧ Intact region next ∧
      (frame.channels.all ChannelLevel.isFinite = true ∧
          next.accepted = store.accepted ++ [frame] ∨
        ¬frame.channels.all ChannelLevel.isFinite = true ∧ next = store) := by
  by_cases finite : frame.channels.all ChannelLevel.isFinite = true
  · have fits := frame.fits
    rw [length] at fits
    have even : store.memory.load (frameLayout region.channelCount).sequence =
        2 * store.accepted.length := intact.sequence
    obtain ⟨after, ran, sequence, holds, kept, outside⟩ :=
      SeqlockLayout.write_law even bound fits
    refine ⟨⟨after, store.accepted ++ [frame]⟩, ?_, ?_, .inl ⟨finite, rfl⟩⟩
    · rw [Store.publish, publish_eq length finite, Option.map_some, Program.run_bind, ran]
      rfl
    · refine ⟨?_, ?_, ?_, ?_⟩
      · intro word member
        rw [← intact.once word member]
        exact kept word fun own isOwn => onceWords_disjoint member isOwn
      · intro address reserved
        rw [← intact.reserved address reserved]
        exact outside address fun own isOwn => reserved_outside reserved isOwn
      · simpa using sequence
      · intro last found
        rw [List.getLast?_append, List.getLast?_singleton, Option.some_or] at found
        cases found
        exact ⟨length, holds⟩
  · exact ⟨store, Store.publish_rejected length finite, intact, .inr ⟨finite, rfl⟩⟩

theorem mappedLen_covers {pageSize channelCount : Nat} {mapped : Bool} {sampleRate : BitVec 32}
    {midiConfigured : Bool} {region : FrameRegion} (page : 0 < pageSize)
    (created : FrameRegion.new pageSize mapped channelCount sampleRate midiConfigured = .ok region) :
    region.channelCount = channelCount ∧ frameBytes channelCount ≤ region.mappedLen := by
  unfold FrameRegion.new at created
  by_cases tooMany : 2 ^ 32 ≤ channelCount
  · rw [if_pos tooMany] at created
    cases created
  · rw [if_neg tooMany] at created
    cases mapped with
    | false => cases created
    | true =>
        cases created
        have rounded : frameBytes channelCount + pageSize - 1 <
            (frameBytes channelCount + pageSize - 1) / pageSize * pageSize + pageSize :=
          Nat.lt_div_mul_add page
        refine ⟨rfl, ?_⟩
        dsimp only
        omega

theorem Intact.read {region : FrameRegion} {store : Store} (created : Created region)
    (covers : frameBytes region.channelCount ≤ region.mappedLen) (intact : Intact region store) :
    store.read region =
      (store.accepted.getLast?.map (Published.frame · store.accepted.length), store.memory) := by
  obtain ⟨target, reaches, ⟨short, _⟩ | ⟨_, rfl⟩⟩ := readFrame_reaches created region.mappedLen
  · omega
  · rw [Store.read, reaches.run intact.once]
    rcases List.eq_nil_or_concat store.accepted with none_yet | ⟨earlier, frame, shape⟩
    · have unset : store.memory.load (frameLayout region.channelCount).sequence = 0 := by
        rw [frameLayout_sequence, intact.sequence, none_yet, List.length_nil]
      rw [SeqlockLayout.attempts_unset unset, none_yet]
      rfl
    · rw [List.concat_eq_append] at shape
      have last : store.accepted.getLast? = some frame := by rw [shape]; simp
      obtain ⟨length, holds⟩ := intact.latest frame last
      have count : earlier.length + 1 = store.accepted.length := by rw [shape]; simp
      have even : store.memory.load (frameLayout region.channelCount).sequence =
          2 * (earlier.length + 1) := by
        rw [count]
        exact intact.sequence
      have attempts : readAttempts = 2 + 1 := rfl
      rw [attempts, SeqlockLayout.attempts_law even holds, last, ← length, decodeFrame_values, count]
      rfl

theorem intact_run {region : FrameRegion} (created : Created region) (frames : List Published)
    (lengths : ∀ frame ∈ frames, frame.channels.length = region.channelCount)
    (bound : (frames.filter fun frame => frame.channels.all ChannelLevel.isFinite).length < 2 ^ 63) :
    ∃ store, exec (Store.publish region) ⟨region.base, []⟩ frames = some store ∧
      Intact region store ∧
      store.accepted = frames.filter fun frame => frame.channels.all ChannelLevel.isFinite := by
  induction frames using List.reverseRecOn with
  | nil => exact ⟨_, rfl, intact_new created, rfl⟩
  | append_singleton before frame ih =>
      rw [List.filter_append, List.length_append] at bound
      obtain ⟨store, run, intact, accepted⟩ := ih
        (fun other member => lengths other (List.mem_append_left _ member)) (by omega)
      have length := lengths frame (by simp)
      by_cases finite : frame.channels.all ChannelLevel.isFinite = true
      · simp only [finite, List.filter_cons_of_pos, List.filter_nil, List.length_singleton,
          ← accepted] at bound
        obtain ⟨next, published, kept, ⟨_, more⟩ | ⟨rejected, _⟩⟩ := intact.publish length bound
        · refine ⟨next, ?_, kept, ?_⟩
          · rw [exec_snoc, run, Option.bind_some, published]
          · rw [more, accepted, List.filter_append]
            simp [finite]
        · exact absurd finite rejected
      · refine ⟨store, ?_, intact, ?_⟩
        · rw [exec_snoc, run, Option.bind_some, Store.publish_rejected length finite]
        · rw [accepted, List.filter_append]
          simp [finite]

/-- The mapping is a store for one frame: reading gives back the last accepted frame bit for
bit, a rejected call changes nothing, and no call touches the rest of the mapping. -/
theorem read_returns_last_accepted {pageSize channelCount : Nat} {mapped : Bool}
    {sampleRate : BitVec 32} {midiConfigured : Bool} {region : FrameRegion} (page : 0 < pageSize)
    (created : FrameRegion.new pageSize mapped channelCount sampleRate midiConfigured = .ok region)
    (frames : List Published) (lengths : ∀ frame ∈ frames, frame.channels.length = channelCount)
    (bound : (frames.filter fun frame => frame.channels.all ChannelLevel.isFinite).length < 2 ^ 63) :
    (∀ word, word ∈ onceWords ∨ word = (frameLayout channelCount).sequence ∨
      word ∈ (frameLayout channelCount).words → Inside region.mappedLen word) ∧
    ∃ store, exec (Store.publish region) ⟨region.base, []⟩ frames = some store ∧
      (store.accepted = frames.filter fun frame => frame.channels.all ChannelLevel.isFinite) ∧
      (∀ word ∈ onceWords, store.memory.load word = region.base.load word) ∧
      (∀ address, Reserved region address → store.memory address = region.base address) ∧
      store.memory.load (word64 offsetSequence) = 2 * store.accepted.length ∧
      (∀ frame : Published, frame.channels.length = channelCount →
        ¬frame.channels.all ChannelLevel.isFinite = true → store.publish region frame = some store) ∧
      store.read region =
        (store.accepted.getLast?.map (Published.frame · store.accepted.length), store.memory) := by
  obtain ⟨count, covers⟩ := mappedLen_covers page created
  subst count
  obtain ⟨store, run, intact, accepted⟩ := intact_run (new_created created) frames lengths bound
  refine ⟨?_, store, run, accepted, intact.once, intact.reserved, intact.sequence,
    fun frame length rejected => Store.publish_rejected length rejected,
    intact.read (new_created created) covers⟩
  rintro word (member | own)
  · have header : Inside frameHeaderBytes word := header_inside (by simp [member])
    exact header.mono ((Nat.le_add_right _ _).trans covers)
  · exact (frameLayout_inside own).mono covers

def oneAcceptedOneRejected : List Published :=
  [⟨[⟨⟨0x3F800000⟩, fun band => ⟨BitVec.ofNat 32 band⟩⟩], ⟨4, 1, 1⟩, 1000⟩,
    ⟨[⟨⟨0x7F800000⟩, fun _ => F32.zero⟩], ⟨5, 1, 1⟩, 2000⟩]

theorem rejected_frame_leaves_accepted_one : ∃ region store,
    FrameRegion.new 4096 true 1 48000 true = .ok region ∧
    exec (Store.publish region) ⟨region.base, []⟩ oneAcceptedOneRejected = some store ∧
    (store.read region).1 = (oneAcceptedOneRejected.head?.map (Published.frame · 1)) := by
  obtain ⟨region, created⟩ : ∃ region, FrameRegion.new 4096 true 1 48000 true = .ok region :=
    ⟨_, rfl⟩
  obtain ⟨_, store, run, accepted, _, _, _, _, read⟩ :=
    read_returns_last_accepted (by decide) created oneAcceptedOneRejected (by decide) (by decide)
  refine ⟨region, store, created, run, ?_⟩
  have chosen : oneAcceptedOneRejected.filter (fun frame =>
      frame.channels.all ChannelLevel.isFinite) = oneAcceptedOneRejected.take 1 := by decide
  rw [read, accepted, chosen]
  rfl

end Phase4.Frames
