import Phase4.Library.Schedule
import Phase4.Dsp.Vocoder

namespace Phase4.Managers.Analyser
open Library Dsp

def chunkSizeMs : Nat := 10

def interleavedPeak (buffer : List F32) (channel channels : Nat) : F32 :=
  (strided buffer channel channels).foldl
    (fun peak sample => if sample.abs.gt peak then sample.abs else peak) F32.zero

structure Watch where
  payload : RawPayload
  version : Nat

structure State (Filter : Type) where
  channels : Nat
  transferBuffer : List F32
  pending : Nat
  frameData : RawPayload
  rawTx : Watch
  analysers : List (VocoderAnalyser Filter)
  mapperGoneLogged : Bool

def copyWithin (buffer : List F32) (start stop : Nat) : List F32 :=
  (buffer.take stop).drop start ++ buffer.drop (stop - start)

namespace State
variable {Filter : Type} (ops : Primitives Filter)

def new (channels bufferLen : Nat) (setup : VocoderSetup Filter) : State Filter where
  channels
  transferBuffer := List.replicate bufferLen F32.zero
  pending := 0
  frameData := .new channels
  rawTx := ⟨.new channels, 0⟩
  analysers := List.replicate channels (.new setup)
  mapperGoneLogged := false

def analyseChannel (count : Nat) (state : State Filter) (ch : Nat) : Option (State Filter) := do
  let activeBuffer := state.transferBuffer.take count
  let peak := interleavedPeak activeBuffer ch state.channels
  let analyser ← state.analysers[ch]?
  let analyser := analyser.processInterleaved ops activeBuffer ch state.channels
  let _ ← state.frameData.channels[ch]?
  return { state with
    analysers := state.analysers.set ch analyser
    frameData := ⟨state.frameData.channels.set ch ⟨peak, analyser.currentBins⟩⟩ }

/-- `mapperGone` is what `raw_tx.is_closed()` answers. -/
def analyse (mapperGone : Bool) (count : Nat) (state : State Filter) : Option (State Filter) := do
  if state.transferBuffer.length < count then none
  else
    let state ← (List.range state.channels).foldlM (analyseChannel ops count) state
    if mapperGone then return { state with mapperGoneLogged := true }
    else return { state with
      frameData := state.rawTx.payload
      rawTx := ⟨state.frameData, state.rawTx.version + 1⟩ }

def process (mapperGone : Bool) (popped : Nat) (state : State Filter) :
    Option (State Filter) := do
  let total := state.pending + popped
  let aligned := total - total % state.channels
  let analysed ← (if aligned > 0 then state.analyse ops mapperGone aligned else some state)
  if analysed.transferBuffer.length < total then none
  else return { analysed with
    transferBuffer := copyWithin analysed.transferBuffer aligned total
    pending := total - aligned }

def fill (state : State Filter) (samples : List F32) : State Filter :=
  { state with
    transferBuffer := state.transferBuffer.take state.pending ++ samples ++
      state.transferBuffer.drop (state.pending + samples.length) }

def drain (mapperGone : Bool) (samples : List F32) (state : State Filter) :
    Option (State Filter) :=
  if state.transferBuffer.length < state.pending + samples.length then none
  else if samples.length > 0 then (state.fill samples).process ops mapperGone samples.length
  else some state

/-- The slice `process` hands to `analyse` in that round, empty where it does not call it. -/
def activeBuffer (state : State Filter) (samples : List F32) : List F32 :=
  let total := state.pending + samples.length
  (state.fill samples).transferBuffer.take (total - total % state.channels)

end State

/-! ## The peak of a channel -/

def ofMagnitude (magnitude : Nat) : F32 := ⟨BitVec.ofNat 32 magnitude⟩

def loudest (samples : List F32) : F32 :=
  ofMagnitude (((samples.filter fun sample => !sample.isNan).map F32.magnitude).foldl max 0)

theorem bits_ofMagnitude {m : Nat} (bound : m ≤ F32.infiniteMagnitude) :
    (ofMagnitude m).bits.toNat = m := by
  have small : m < 2 ^ 31 := lt_of_le_of_lt bound (by decide)
  rw [ofMagnitude, BitVec.toNat_ofNat]
  exact Nat.mod_eq_of_lt (by omega)

theorem magnitude_ofMagnitude {m : Nat} (bound : m ≤ F32.infiniteMagnitude) :
    (ofMagnitude m).magnitude = m := by
  rw [F32.magnitude, bits_ofMagnitude bound]
  exact Nat.mod_eq_of_lt (lt_of_le_of_lt bound (by decide))

theorem ofMagnitude_facts {m : Nat} (bound : m ≤ F32.infiniteMagnitude) :
    (ofMagnitude m).isNan = false ∧ (ofMagnitude m).key = m := by
  have small : m < 2 ^ 31 := lt_of_le_of_lt bound (by decide)
  have bits := bits_ofMagnitude bound
  have magnitude := magnitude_ofMagnitude bound
  constructor
  · rw [F32.isNan, magnitude]
    exact decide_eq_false (Nat.not_lt.mpr bound)
  · rw [F32.key, F32.isNegative, bits, if_neg (by simpa using small), magnitude]

theorem peak_step {m : Nat} (bound : m ≤ F32.infiniteMagnitude) (sample : F32) :
    (if sample.abs.gt (ofMagnitude m) then sample.abs else ofMagnitude m) =
      ofMagnitude (if sample.isNan then m else max m sample.magnitude) := by
  obtain ⟨number, key⟩ := ofMagnitude_facts bound
  rw [F32.gt, number, key, F32.isNan_abs, F32.key_abs]
  cases sample.isNan with
  | true => simp
  | false =>
      by_cases louder : m < sample.magnitude
      · simp [louder, max_eq_right louder.le, F32.abs, ofMagnitude]
      · simp [louder, max_eq_left (Nat.le_of_not_lt louder)]

theorem foldl_peak (samples : List F32) {m : Nat} (bound : m ≤ F32.infiniteMagnitude) :
    samples.foldl (fun peak sample => if sample.abs.gt peak then sample.abs else peak)
      (ofMagnitude m) = ofMagnitude
        (((samples.filter fun sample => !sample.isNan).map F32.magnitude).foldl max m) := by
  induction samples generalizing m with
  | nil => rfl
  | cons sample rest ih =>
      rw [List.foldl_cons, peak_step bound]
      cases number : sample.isNan with
      | true => simpa [number] using ih bound
      | false =>
          have finite : sample.magnitude ≤ F32.infiniteMagnitude := by
            simpa [F32.isNan] using number
          simpa [number] using ih (max_le bound finite)

theorem loudest_class (samples : List F32) :
    (loudest samples).isNan = false ∧
      ((loudest samples).isInfinite = true ↔ ∃ sample ∈ samples, sample.isInfinite = true) := by
  let heard := (samples.filter fun sample => !sample.isNan).map F32.magnitude
  obtain ⟨isOne, greatest⟩ :=
    List.max?_eq_some_iff.mp (List.max?_cons' : (0 :: heard).max? = some (heard.foldl max 0))
  have below : ∀ m ∈ 0 :: heard, m ≤ F32.infiniteMagnitude := by
    intro m member
    rcases List.mem_cons.mp member with rfl | member
    · exact Nat.zero_le _
    · obtain ⟨sample, kept, rfl⟩ := List.mem_map.mp member
      simpa [F32.isNan] using (List.mem_filter.mp kept).2
  obtain ⟨number, _⟩ := ofMagnitude_facts (below _ isOne)
  refine ⟨number, ?_⟩
  rw [loudest, F32.isInfinite, magnitude_ofMagnitude (below _ isOne), decide_eq_true_iff]
  constructor
  · intro infinite
    rw [infinite] at isOne
    rcases List.mem_cons.mp isOne with zero | member
    · cases zero
    · obtain ⟨sample, kept, magnitude⟩ := List.mem_map.mp member
      exact ⟨sample, (List.mem_filter.mp kept).1, by simpa [F32.isInfinite] using magnitude⟩
  · rintro ⟨sample, member, infinite⟩
    have magnitude : sample.magnitude = F32.infiniteMagnitude := by
      simpa [F32.isInfinite] using infinite
    have number : sample.isNan = false := by simp [F32.isNan, magnitude]
    have isHeard : F32.infiniteMagnitude ∈ heard :=
      List.mem_map.mpr ⟨sample, List.mem_filter.mpr ⟨member, by simp [number]⟩, magnitude⟩
    exact (below _ isOne).antisymm (greatest _ (List.mem_cons_of_mem _ isHeard))

theorem interleavedPeak_eq {channels channel : Nat} (inside : channel < channels)
    (buffer : List F32) (whole : buffer.length % channels = 0) :
    interleavedPeak buffer channel channels = loudest (channelSamples channels buffer channel) := by
  rw [interleavedPeak, strided_eq inside buffer whole]
  exact foldl_peak _ (Nat.zero_le _)

/-! ## One call of `analyse` -/

section
variable {Filter : Type} (ops : Primitives Filter)

structure Sized (state : State Filter) : Prop where
  analysers : state.analysers.length = state.channels
  frameData : state.frameData.channels.length = state.channels
  rawTx : state.rawTx.payload.channels.length = state.channels

structure Rounds (count n : Nat) (before after : State Filter) : Prop where
  channels : after.channels = before.channels
  transferBuffer : after.transferBuffer = before.transferBuffer
  pending : after.pending = before.pending
  rawTx : after.rawTx = before.rawTx
  sized : Sized after
  analysers : ∀ ch, after.analysers[ch]? = (before.analysers[ch]?).map fun analyser =>
    if ch < n then
      analyser.processInterleaved ops (before.transferBuffer.take count) ch before.channels
    else analyser
  levels : ∀ ch, ch < n → ∀ analyser, after.analysers[ch]? = some analyser →
    after.frameData.channels[ch]? = some
      ⟨interleavedPeak (before.transferBuffer.take count) ch before.channels, analyser.bins⟩

theorem foldlM_analyseChannel (count : Nat) (before : State Filter) (sized : Sized before) (n : Nat)
    (inside : n ≤ before.channels) :
    ∃ after, (List.range n).foldlM (State.analyseChannel ops count) before = some after ∧
      Rounds ops count n before after := by
  induction n with
  | zero =>
      refine ⟨before, rfl, rfl, rfl, rfl, rfl, sized, ?_, ?_⟩
      · intro ch
        simp
      · intro ch less
        omega
  | succ n ih =>
      obtain ⟨middle, reached, rounds⟩ := ih (by omega)
      have less : n < before.channels := by omega
      have atN : n < middle.analysers.length := by
        rw [rounds.sized.analysers, rounds.channels]
        exact less
      have levelN : n < middle.frameData.channels.length := by
        rw [rounds.sized.frameData, rounds.channels]
        exact less
      have here : middle.analysers[n]? = some middle.analysers[n] := List.getElem?_eq_getElem atN
      have level : middle.frameData.channels[n]? = some middle.frameData.channels[n] :=
        List.getElem?_eq_getElem levelN
      have old : before.analysers[n]? = some middle.analysers[n] := by
        have same := rounds.analysers n
        rw [here] at same
        simpa using same.symm
      rw [List.range_succ, List.foldlM_append, reached]
      simp only [Option.bind_eq_bind, Option.bind_some, List.foldlM_cons, List.foldlM_nil,
        State.analyseChannel, here, level, Option.pure_def]
      refine ⟨_, rfl, rounds.channels, rounds.transferBuffer, rounds.pending, rounds.rawTx,
        ⟨?_, ?_, rounds.sized.rawTx⟩, ?_, ?_⟩
      · simpa using rounds.sized.analysers
      · simpa using rounds.sized.frameData
      · intro ch
        rw [rounds.transferBuffer, rounds.channels]
        by_cases own : ch = n
        · rw [own, List.getElem?_set_self atN, old, Option.map_some, if_pos (Nat.lt_succ_self n)]
        · have before_n : ch < n + 1 ↔ ch < n := by omega
          rw [List.getElem?_set_ne (Ne.symm own), rounds.analysers ch]
          simp only [before_n]
      · intro ch bound analyser found
        rw [rounds.transferBuffer, rounds.channels] at found ⊢
        by_cases own : ch = n
        · rw [own, List.getElem?_set_self atN, Option.some.injEq] at found
          rw [own, List.getElem?_set_self levelN, ← found]
          rfl
        · rw [List.getElem?_set_ne (Ne.symm own)] at found ⊢
          exact rounds.levels ch (by omega) analyser found

/-! ## The analyser thread -/

structure Follows (setup : VocoderSetup Filter) (channels bufferLen : Nat) (stream : List F32)
    (state : State Filter) : Prop where
  width : state.channels = channels
  capacity : state.transferBuffer.length = bufferLen
  pending : state.pending = stream.length % channels
  carried : state.transferBuffer.take state.pending = stream.drop (aligned channels stream)
  sized : Sized state
  analysers : ∀ ch, ch < channels → state.analysers[ch]? = some
    ((channelSamples channels stream ch).foldl (VocoderAnalyser.processSample ops) (.new setup))

theorem follows_new (setup : VocoderSetup Filter) {channels : Nat} (positive : 0 < channels)
    (bufferLen : Nat) : Follows ops setup channels bufferLen [] (State.new channels bufferLen setup) where
  width := rfl
  capacity := by simp [State.new]
  pending := by simp [State.new]
  carried := by simp [State.new]
  sized := by
    constructor
    all_goals simp [State.new, RawPayload.new]
  analysers := by
    intro ch inside
    rw [channelSamples, chunksExact_short (by simpa using positive)]
    simp [State.new, inside]

variable {setup : VocoderSetup Filter} {channels bufferLen : Nat} {stream : List F32}
  {state : State Filter} {ops}

def waiting (channels : Nat) (stream samples : List F32) : List F32 :=
  stream.drop (aligned channels stream) ++ samples

theorem waiting_length (here : Follows ops setup channels bufferLen stream state)
    (samples : List F32) :
    (waiting channels stream samples).length = state.pending + samples.length := by
  rw [waiting, List.length_append, List.length_drop, length_sub_aligned, here.pending]

theorem fill_take (here : Follows ops setup channels bufferLen stream state)
    (samples : List F32) :
    (state.fill samples).transferBuffer.take (state.pending + samples.length) =
      waiting channels stream samples := by
  rw [← waiting_length here, waiting, ← here.carried]
  exact List.take_left

theorem fill_length (here : Follows ops setup channels bufferLen stream state)
    {samples : List F32} (fits : state.pending + samples.length ≤ bufferLen) :
    (state.fill samples).transferBuffer.length = bufferLen := by
  have length := here.capacity
  simp only [State.fill, List.length_append, List.length_take, List.length_drop]
  omega

theorem activeBuffer_eq (here : Follows ops setup channels bufferLen stream state)
    (samples : List F32) : state.activeBuffer samples =
      (waiting channels stream samples).take (aligned channels (waiting channels stream samples)) := by
  have short : aligned channels (waiting channels stream samples) ≤
      state.pending + samples.length := (aligned_le _ _).trans (waiting_length here samples).le
  have prefix_of : (waiting channels stream samples).take
      (aligned channels (waiting channels stream samples)) = (state.fill samples).transferBuffer.take
        (aligned channels (waiting channels stream samples)) := by
    conv_lhs => rw [← fill_take here, List.take_take, fill_take here, min_eq_left short]
  rw [prefix_of, State.activeBuffer, here.width, ← waiting_length here, length_sub_mod]

def Publishes (ops : Primitives Filter) (setup : VocoderSetup Filter) (channels : Nat)
    (stream call : List F32) (payload : RawPayload) : Prop :=
  payload.channels.length = channels ∧ ∀ ch, ch < channels → payload.channels[ch]? = some
    ⟨loudest (channelSamples channels call ch), ((channelSamples channels stream ch).foldl
      (VocoderAnalyser.processSample ops) (.new setup)).bins⟩

theorem analyse_spec (positive : 0 < channels)
    (here : Follows ops setup channels bufferLen stream state) {samples : List F32}
    (fits : state.pending + samples.length ≤ bufferLen) (mapperGone : Bool) :
    ∃ after, (state.fill samples).analyse ops mapperGone
        (aligned channels (waiting channels stream samples)) = some after ∧
      after.channels = channels ∧ after.transferBuffer = (state.fill samples).transferBuffer ∧
      after.pending = state.pending ∧ Sized after ∧
      (∀ ch, ch < channels → after.analysers[ch]? = some
        ((channelSamples channels (stream ++ samples) ch).foldl
          (VocoderAnalyser.processSample ops) (.new setup))) ∧
      (mapperGone = true ∧ after.rawTx = state.rawTx ∨
        mapperGone = false ∧ after.rawTx.version = state.rawTx.version + 1 ∧
          Publishes ops setup channels (stream ++ samples) (waiting channels stream samples)
            after.rawTx.payload) := by
  set count := aligned channels (waiting channels stream samples)
  have width : (state.fill samples).channels = channels := here.width
  have short : count ≤ state.pending + samples.length :=
    (aligned_le _ _).trans (waiting_length here samples).le
  have active : (state.fill samples).transferBuffer.take count =
      (waiting channels stream samples).take count := by
    rw [← fill_take here, List.take_take, min_eq_left short]
  have whole : ((waiting channels stream samples).take count).length % channels = 0 := by
    rw [List.length_take, min_eq_left (aligned_le _ _)]
    exact Nat.mul_mod_left _ _
  have sized : Sized (state.fill samples) := ⟨here.sized.1, here.sized.2, here.sized.3⟩
  obtain ⟨middle, reached, rounds⟩ :=
    foldlM_analyseChannel ops count (state.fill samples) sized channels width.ge
  have analysers (ch : Nat) (inside : ch < channels) : middle.analysers[ch]? = some
      ((channelSamples channels (stream ++ samples) ch).foldl
        (VocoderAnalyser.processSample ops) (.new setup)) := by
    have old : (state.fill samples).analysers[ch]? = _ := here.analysers ch inside
    rw [rounds.analysers ch, old, Option.map_some, if_pos inside, active, width,
      VocoderAnalyser.processInterleaved, strided_eq inside _ whole,
      channelSamples_take_aligned positive, channelSamples_append positive, List.foldl_append]
    rfl
  have levels (ch : Nat) (inside : ch < channels) : middle.frameData.channels[ch]? = some
      ⟨loudest (channelSamples channels (waiting channels stream samples) ch),
        ((channelSamples channels (stream ++ samples) ch).foldl
          (VocoderAnalyser.processSample ops) (.new setup)).bins⟩ := by
    rw [rounds.levels ch inside _ (analysers ch inside), active, width,
      interleavedPeak_eq inside _ whole, channelSamples_take_aligned positive]
  have enough : ¬(state.fill samples).transferBuffer.length < count := by
    rw [fill_length here fits]
    omega
  rw [State.analyse, if_neg enough, width, reached]
  have size := rounds.sized
  cases mapperGone with
  | true =>
      refine ⟨{ middle with mapperGoneLogged := true }, rfl, rounds.channels.trans width,
        rounds.transferBuffer, rounds.pending, ⟨size.1, size.2, size.3⟩, analysers,
        Or.inl ⟨rfl, rounds.rawTx⟩⟩
  | false =>
      refine ⟨{ middle with
          frameData := middle.rawTx.payload
          rawTx := ⟨middle.frameData, middle.rawTx.version + 1⟩ }, rfl,
        rounds.channels.trans width, rounds.transferBuffer, rounds.pending,
        ⟨size.1, size.3, size.2⟩, analysers, Or.inr ⟨rfl, ?_, ?_, levels⟩⟩
      · exact congrArg (fun rawTx : Watch => rawTx.version + 1) rounds.rawTx
      · exact size.2.trans (rounds.channels.trans width)

/-- A round publishes when a whole frame is waiting and the mapper still listens. -/
def Sent (ops : Primitives Filter) (setup : VocoderSetup Filter) (channels : Nat)
    (stream samples : List F32) (mapperGone : Bool) (before after : Watch) : Prop :=
  (mapperGone = true ∨ (waiting channels stream samples).length < channels) ∧ after = before ∨
    mapperGone = false ∧ channels ≤ (waiting channels stream samples).length ∧
      after.version = before.version + 1 ∧ Publishes ops setup channels (stream ++ samples)
        (waiting channels stream samples) after.payload

theorem analyse_if (positive : 0 < channels)
    (here : Follows ops setup channels bufferLen stream state) {samples : List F32}
    (fits : state.pending + samples.length ≤ bufferLen) (mapperGone : Bool) :
    ∃ middle, (if aligned channels (waiting channels stream samples) > 0 then
        (state.fill samples).analyse ops mapperGone
          (aligned channels (waiting channels stream samples))
        else some (state.fill samples)) = some middle ∧
      middle.channels = channels ∧ middle.transferBuffer = (state.fill samples).transferBuffer ∧
      middle.pending = state.pending ∧ Sized middle ∧
      (∀ ch, ch < channels → middle.analysers[ch]? = some
        ((channelSamples channels (stream ++ samples) ch).foldl
          (VocoderAnalyser.processSample ops) (.new setup))) ∧
      Sent ops setup channels stream samples mapperGone state.rawTx middle.rawTx := by
  by_cases whole : channels ≤ (waiting channels stream samples).length
  · have some_frame : aligned channels (waiting channels stream samples) > 0 :=
      Nat.mul_pos (Nat.div_pos whole positive) positive
    rw [if_pos some_frame]
    obtain ⟨after, reached, width, buffer, pending, sized, analysers, publishes⟩ :=
      analyse_spec positive here fits mapperGone
    refine ⟨after, reached, width, buffer, pending, sized, analysers, ?_⟩
    rcases publishes with ⟨gone, same⟩ | ⟨listens, version, levels⟩
    · exact Or.inl ⟨Or.inl gone, same⟩
    · exact Or.inr ⟨listens, whole, version, levels⟩
  · have no_frame : aligned channels (waiting channels stream samples) = 0 := by
      rw [aligned, Nat.div_eq_of_lt (Nat.lt_of_not_le whole), Nat.zero_mul]
    rw [no_frame, if_neg (lt_irrefl 0)]
    refine ⟨state.fill samples, rfl, here.width, rfl, rfl,
      ⟨here.sized.1, here.sized.2, here.sized.3⟩, ?_,
      Or.inl ⟨Or.inr (Nat.lt_of_not_le whole), rfl⟩⟩
    intro ch inside
    have none_new : channelSamples channels
        (stream.drop (aligned channels stream) ++ samples) ch = [] := by
      have no_frames : chunksExact channels
          (stream.drop (aligned channels stream) ++ samples) = [] :=
        chunksExact_short (Nat.lt_of_not_le whole)
      rw [channelSamples, no_frames]
      rfl
    rw [channelSamples_append positive, none_new, List.append_nil]
    exact here.analysers ch inside

theorem drain_spec (positive : 0 < channels)
    (here : Follows ops setup channels bufferLen stream state) {samples : List F32}
    (fits : state.pending + samples.length ≤ bufferLen) (mapperGone : Bool) :
    ∃ next, state.drain ops mapperGone samples = some next ∧
      Follows ops setup channels bufferLen (stream ++ samples) next ∧
      Sent ops setup channels stream samples mapperGone state.rawTx next.rawTx := by
  have room : ¬state.transferBuffer.length < state.pending + samples.length := by
    rw [here.capacity]
    omega
  have size := waiting_length here samples
  rw [State.drain, if_neg room]
  by_cases idle : samples = []
  · subst idle
    rw [List.append_nil]
    refine ⟨state, rfl, here, Or.inl ⟨Or.inr ?_, rfl⟩⟩
    rw [size, here.pending]
    exact Nat.mod_lt stream.length positive
  · rw [if_pos (List.length_pos_iff.mpr idle)]
    obtain ⟨middle, analysed, width, buffer, pending, sized, analysers, publishes⟩ :=
      analyse_if positive here fits mapperGone
    have total : (state.fill samples).pending + samples.length =
        (waiting channels stream samples).length := size.symm
    have channel_count : (state.fill samples).channels = channels := here.width
    have long : ¬middle.transferBuffer.length < (waiting channels stream samples).length := by
      rw [buffer, fill_length here fits, size]
      omega
    have carry := fill_take here samples
    rw [← size, ← buffer] at carry
    rw [State.process, total, channel_count]
    simp only [length_sub_mod, analysed, Option.bind_eq_bind, Option.bind_some, if_neg long,
      Option.pure_def]
    refine ⟨_, rfl, ⟨width, ?_, ?_, ?_, ⟨sized.1, sized.2, sized.3⟩, analysers⟩, publishes⟩
    · have start := aligned_le channels (waiting channels stream samples)
      have enough := Nat.le_of_not_lt long
      have length : middle.transferBuffer.length = bufferLen := by
        rw [buffer, fill_length here fits]
      simp only [copyWithin, List.length_append, List.length_drop, List.length_take]
      omega
    · dsimp only
      rw [length_sub_aligned, waiting, List.length_append, List.length_drop, length_sub_aligned,
        List.length_append, Nat.mod_add_mod]
    · dsimp only
      rw [copyWithin, carry, drop_aligned_append positive]
      exact List.take_left' (List.length_drop ..)

structure Pop where
  samples : List F32
  mapperGone : Bool

def received (pops : List Pop) : List F32 := pops.flatMap Pop.samples

def step (ops : Primitives Filter) (state : State Filter) (pop : Pop) : Option (State Filter) :=
  state.drain ops pop.mapperGone pop.samples

theorem drain_fits {samples : List F32} {mapperGone : Bool} {next : State Filter}
    (here : Follows ops setup channels bufferLen stream state)
    (moved : state.drain ops mapperGone samples = some next) :
    state.pending + samples.length ≤ bufferLen := by
  by_contra tooMany
  rw [State.drain, if_pos (by rw [here.capacity]; omega)] at moved
  cases moved

theorem follows_run (positive : 0 < channels) {pops : List Pop} {last : State Filter}
    (run : exec (step ops) (State.new channels bufferLen setup) pops = some last) :
    Follows ops setup channels bufferLen (received pops) last := by
  refine exec_induction (motive := fun before state =>
    Follows ops setup channels bufferLen (received before) state)
    (follows_new ops setup positive bufferLen) ?_ pops last run
  intro before state pop next _ here moved
  obtain ⟨after, reached, follows, _⟩ :=
    drain_spec positive here (drain_fits here moved) pop.mapperGone
  rw [step, reached] at moved
  cases moved
  rw [received, List.flatMap_append, List.flatMap_singleton]
  exact follows

theorem call_samples (positive : 0 < channels) {ch : Nat} (inside : ch < channels)
    (stream samples : List F32) :
    channelSamples channels (waiting channels stream samples) ch =
      (channelSamples channels (stream ++ samples) ch).drop (stream.length / channels) := by
  rw [channelSamples_append positive,
    List.drop_left' (channelSamples_length inside stream)]
  rfl

/-- Each channel of a published payload shows the bins of a mono analyser of its own that
heard the finite samples of all whole frames so far, and the peak of the frames of the call. -/
theorem published_payload_refines_mono (ops : Primitives Filter) (setup : VocoderSetup Filter)
    {channels : Nat} (positive : 0 < channels) (bufferLen : Nat) {before : List Pop} {pop : Pop}
    {prior last : State Filter}
    (earlier : exec (step ops) (State.new channels bufferLen setup) before = some prior)
    (process : step ops prior pop = some last)
    (publishes : last.rawTx.version ≠ prior.rawTx.version) (ch : Nat) (inside : ch < channels) :
    let heard := channelSamples channels (received (before ++ [pop])) ch
    ∃ level, last.rawTx.payload.channels[ch]? = some level ∧
      level.bins = (VocoderAnalyser.mono ops setup (heard.filter F32.isFinite)).currentBins ∧
      (∀ band, level.bins band = ((heard.filter F32.isFinite).foldl
        (Band.process ops setup.attackCoeff setup.releaseCoeff)
        ⟨setup.filters band, .new, F32.zero⟩).bin) ∧
      level.peak = loudest (heard.drop ((received before).length / channels)) := by
  have here := follows_run positive earlier
  obtain ⟨after, reached, _, sent⟩ := drain_spec positive here (drain_fits here process)
    pop.mapperGone
  rw [step, reached] at process
  cases process
  have all : received (before ++ [pop]) = received before ++ pop.samples := by
    rw [received, List.flatMap_append, List.flatMap_singleton]
    rfl
  rcases sent with ⟨_, same⟩ | ⟨_, _, _, _, levels⟩
  · exact absurd (congrArg Watch.version same) publishes
  · refine ⟨_, levels ch inside, ?_, ?_, ?_⟩
    · rw [all, VocoderAnalyser.mono_eq, ← VocoderAnalyser.foldl_processSample_finite]
      rfl
    · intro band
      rw [all]
      exact congrArg Band.bin
        (VocoderAnalyser.foldl_processSample_band ops _ (.new setup) band)
    · rw [all, call_samples positive inside]

end

def atRest : Primitives Unit where
  add _ _ := F32.zero
  sub _ _ := F32.zero
  mul _ _ := F32.zero
  run _ _ := (F32.zero, ())
  resetState _ := ()

def restSetup : VocoderSetup Unit := ⟨fun _ => (), ⟨0x3D000000⟩, ⟨0x3B000000⟩⟩

/-- A stereo stream cut in the middle of its second frame, whose right channel is not finite. -/
def tornStream : List Pop :=
  [⟨[⟨0⟩, ⟨0x7FC00000⟩, ⟨0x80000000⟩], false⟩, ⟨[⟨0xFF800000⟩, ⟨0⟩], false⟩]

theorem torn_stream_publishes_right_peak : ∃ prior last : State Unit,
    exec (step atRest) (State.new 2 6 restSetup) (tornStream.take 1) = some prior ∧
    step atRest prior tornStream[1] = some last ∧
    ∃ level, last.rawTx.payload.channels[1]? = some level ∧ level.peak = ⟨0x7F800000⟩ := by
  have versions : (exec (step atRest) (State.new 2 6 restSetup) (tornStream.take 1)).bind
      (fun prior => (step atRest prior tornStream[1]).map fun last =>
        (prior.rawTx.version, last.rawTx.version)) = some (1, 2) := by
    decide +kernel
  obtain ⟨prior, earlier, rest⟩ := Option.bind_eq_some_iff.mp versions
  obtain ⟨last, process, counts⟩ := Option.map_eq_some_iff.mp rest
  have publishes : last.rawTx.version ≠ prior.rawTx.version := by
    rw [(Prod.mk.inj counts).1, (Prod.mk.inj counts).2]
    decide
  obtain ⟨level, found, _, _, peak⟩ := published_payload_refines_mono atRest restSetup
    (by decide : 0 < 2) 6 earlier process publishes 1 (by decide)
  exact ⟨prior, last, earlier, process, level, found, peak.trans (by decide +kernel)⟩

end Phase4.Managers.Analyser
