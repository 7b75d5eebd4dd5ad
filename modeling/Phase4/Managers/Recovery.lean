import Phase4.Frames.Words
import Phase4.Managers.Analyser
import Phase4.Managers.Server

namespace Phase4.Managers.Analyser
open Library Dsp Server

/-! ## Recovery from bad audio -/

def Spoilt (channels : Nat) (chunk : List F32) : Prop :=
  ∃ ch < channels, ∃ sample ∈ channelSamples channels chunk ch, sample.isInfinite = true

section
variable {Filter : Type} {ops : Primitives Filter} {setup : VocoderSetup Filter}
  {channels bufferLen : Nat} {before : List Pop} {pop : Pop} {prior last : State Filter}

theorem published_levels (positive : 0 < channels)
    (earlier : exec (step ops) (State.new channels bufferLen setup) before = some prior)
    (process : step ops prior pop = some last)
    (publishes : last.rawTx.version ≠ prior.rawTx.version) :
    last.rawTx.payload.channels.length = channels ∧ ∀ ch, ch < channels →
      ∃ level analyser, last.rawTx.payload.channels[ch]? = some level ∧
        last.analysers[ch]? = some analyser ∧
        level.peak =
          loudest (channelSamples channels (prior.activeBuffer pop.samples) ch) ∧
        level.bins = analyser.bins ∧ ∀ band, (analyser.band band).Settled := by
  have here := follows_run positive earlier
  obtain ⟨after, reached, follows, sent⟩ := drain_spec positive here (drain_fits here process)
    pop.mapperGone
  rw [step, reached] at process
  cases process
  rcases sent with ⟨_, same⟩ | ⟨_, _, _, length, levels⟩
  · exact absurd (congrArg Watch.version same) publishes
  · refine ⟨length, fun ch inside => ⟨_, _, levels ch inside, follows.analysers ch inside, ?_, rfl,
      VocoderAnalyser.settled_band ops setup _⟩⟩
    rw [activeBuffer_eq here, channelSamples_take_aligned positive]

theorem level_isFinite_iff {level : ChannelLevel} (bins : ∀ band, (level.bins band).isFinite = true)
    (number : level.peak.isNan = false) :
    level.isFinite = true ↔ ¬level.peak.isInfinite = true := by
  have all : (bands.all fun band => (level.bins band).isFinite) = true :=
    List.all_eq_true.mpr fun band _ => bins band
  rw [ChannelLevel.isFinite, all, Bool.and_true, F32.isFinite_iff, Bool.not_eq_true]
  exact and_iff_right number

theorem publish_rejects_iff {count : Nat} {levels : List ChannelLevel}
    (length : levels.length = count) (midi : Frames.FrameMidi) (publishedNs : BitVec 64)
    (memory : Memory) :
    ∃ program, Frames.publish count levels midi publishedNs = some program ∧
      ((program.run MemoryOp.apply memory).1 = false ↔
        ¬levels.all ChannelLevel.isFinite = true) := by
  by_cases finite : levels.all ChannelLevel.isFinite = true
  · let frame : Frames.Published := ⟨levels, midi, publishedNs⟩
    have sameLength : frame.channels.length = count := length
    refine ⟨_, Frames.publish_eq sameLength finite, ?_⟩
    simp [Program.run_bind, finite]
  · refine ⟨.done false, ?_, by simpa using finite⟩
    rw [Frames.publish, if_neg (not_not.mpr length), if_pos (by simpa using finite)]

/-- Every published bin is a finite number its follower holds, a peak is infinite only on an
infinite sample of the chunk, and both output checks turn a snapshot down for nothing else. -/
theorem rejected_iff_chunk_spoilt (ops : Primitives Filter) (setup : VocoderSetup Filter)
    {channels : Nat} (positive : 0 < channels) (bufferLen : Nat)
    (toJson : DisplayPayload → Option String)
    (total : ∀ payload, AllFinite payload → (toJson payload).isSome = true)
    {before : List Pop} {pop : Pop} {prior last : State Filter}
    (earlier : exec (step ops) (State.new channels bufferLen setup) before = some prior)
    (process : step ops prior pop = some last)
    (publishes : last.rawTx.version ≠ prior.rawTx.version) :
    let chunk := prior.activeBuffer pop.samples
    let levels := last.rawTx.payload.channels
    (∀ ch, ch < channels → ∃ level analyser,
      levels[ch]? = some level ∧ last.analysers[ch]? = some analyser ∧
      (∀ band, (level.bins band).isFinite = true ∧
        level.bins band = (analyser.envelopes band).value) ∧
      level.peak.isNan = false ∧ (level.peak.isInfinite = true ↔
        ∃ sample ∈ channelSamples channels chunk ch, sample.isInfinite = true)) ∧
    (∀ midi publishedNs memory, ∃ program,
      Frames.publish channels levels midi publishedNs = some program ∧
      ((program.run MemoryOp.apply memory).1 = false ↔ Spoilt channels chunk)) ∧
    ∀ midi alreadyLogged,
      (serialiseDisplayPayload toJson ⟨levels, midi⟩ alreadyLogged).json = none ↔
        Spoilt channels chunk := by
  obtain ⟨length, levels⟩ := published_levels positive earlier process publishes
  have classes (ch : Nat) (inside : ch < channels) : ∃ level analyser,
      last.rawTx.payload.channels[ch]? = some level ∧ last.analysers[ch]? = some analyser ∧
      (∀ band, (level.bins band).isFinite = true ∧
        level.bins band = (analyser.envelopes band).value) ∧
      level.peak.isNan = false ∧ (level.peak.isInfinite = true ↔ ∃ sample ∈ channelSamples channels
        (prior.activeBuffer pop.samples) ch, sample.isInfinite = true) := by
    obtain ⟨level, analyser, found, owner, peak, bins, settled⟩ := levels ch inside
    obtain ⟨number, infinite⟩ :=
      loudest_class (channelSamples channels (prior.activeBuffer pop.samples) ch)
    refine ⟨level, analyser, found, owner, fun band => ?_, ?_, ?_⟩
    · rw [bins]
      exact ⟨(settled band).2, (settled band).1⟩
    · rw [peak, number]
    · rw [peak, infinite]
  have unsound : ¬last.rawTx.payload.channels.all ChannelLevel.isFinite = true ↔
      Spoilt channels (prior.activeBuffer pop.samples) := by
    rw [List.all_eq_true, not_forall]
    constructor
    · rintro ⟨level, bad⟩
      obtain ⟨member, notFinite⟩ := Classical.not_imp.mp bad
      obtain ⟨ch, found⟩ := List.mem_iff_getElem?.mp member
      have inside : ch < channels := length ▸ (List.getElem?_eq_some_iff.mp found).1
      obtain ⟨other, _, same, _, bins, number, infinite⟩ := classes ch inside
      cases found.symm.trans same
      rw [level_isFinite_iff (fun band => (bins band).1) number, not_not] at notFinite
      exact ⟨ch, inside, infinite.mp notFinite⟩
    · rintro ⟨ch, inside, bad⟩
      obtain ⟨level, _, found, _, bins, number, infinite⟩ := classes ch inside
      refine ⟨level, fun sound => ?_⟩
      have finite := sound (List.mem_of_getElem? found)
      rw [level_isFinite_iff (fun band => (bins band).1) number] at finite
      exact finite (infinite.mpr bad)
  refine ⟨classes, fun midi publishedNs memory => ?_, fun midi alreadyLogged => ?_⟩
  · rw [← unsound]
    exact publish_rejects_iff length midi publishedNs memory
  · rw [← unsound, serialiseDisplayPayload_json]
    by_cases finite : AllFinite ⟨last.rawTx.payload.channels, midi⟩
    · rw [if_pos finite]
      constructor
      · intro failed
        have text := total _ finite
        rw [failed] at text
        cases text
      · exact fun bad => absurd finite bad
    · rw [if_neg finite]
      exact iff_of_true rfl finite

end

def silence : Pop := ⟨[F32.zero, F32.zero], false⟩

theorem silence_after_infinity_is_broadcast : ∃ prior last : State Unit,
    exec (step atRest) (State.new 2 6 restSetup) tornStream = some prior ∧
    step atRest prior silence = some last ∧
    (serialiseDisplayPayload (fun payload => some (displayJson (fun _ => "0.0") payload))
      ⟨last.rawTx.payload.channels, none⟩ false).json ≠ none := by
  have counts : (exec (step atRest) (State.new 2 6 restSetup) tornStream).bind
      (fun prior => (step atRest prior silence).map fun last => (prior.rawTx.version,
        last.rawTx.version, prior.activeBuffer silence.samples)) =
        some (2, 3, [F32.zero, F32.zero]) := by
    decide +kernel
  obtain ⟨prior, earlier, rest⟩ := Option.bind_eq_some_iff.mp counts
  obtain ⟨last, process, answers⟩ := Option.map_eq_some_iff.mp rest
  simp only [Prod.mk.injEq] at answers
  obtain ⟨first, second, chunk⟩ := answers
  have publishes : last.rawTx.version ≠ prior.rawTx.version := by
    rw [first, second]
    decide
  obtain ⟨_, _, broadcast⟩ := rejected_iff_chunk_spoilt atRest restSetup (by decide : 0 < 2) 6
    (fun payload => some (displayJson (fun _ => "0.0") payload)) (fun _ _ => rfl) earlier process
    publishes
  refine ⟨prior, last, earlier, process, fun rejected => ?_⟩
  obtain ⟨ch, inside, sample, member, infinite⟩ := (broadcast none false).mp rejected
  rw [chunk] at member
  have quiet : ∀ ch < 2, ∀ sample ∈ channelSamples 2 [F32.zero, F32.zero] ch,
      sample.isInfinite = false := by
    decide
  rw [quiet ch inside sample member] at infinite
  cases infinite

end Phase4.Managers.Analyser
