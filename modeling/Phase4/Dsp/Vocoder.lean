import Phase4.Dsp.Payload
import Phase4.Library.Chunks

namespace Phase4.Dsp
open Library

/-! ## The filter bank

What a band does with f32 sums and products and with its biquad is not read off the bits: any
fixed functions will do. -/

structure Primitives (Filter : Type) where
  add : F32 → F32 → F32
  sub : F32 → F32 → F32
  mul : F32 → F32 → F32
  run : Filter → F32 → F32 × Filter
  resetState : Filter → Filter

structure EnvelopeFollower where
  value : F32
deriving DecidableEq

namespace EnvelopeFollower

def new : EnvelopeFollower := ⟨F32.zero⟩

def processSample {Filter : Type} (ops : Primitives Filter) (follower : EnvelopeFollower)
    (rectified attack release : F32) : EnvelopeFollower :=
  let coeff := if rectified.gt follower.value then attack else release
  ⟨ops.add follower.value (ops.mul coeff (ops.sub rectified follower.value))⟩

end EnvelopeFollower

structure VocoderSetup (Filter : Type) where
  filters : Fin bandCount → Filter
  attackCoeff : F32
  releaseCoeff : F32

structure VocoderAnalyser (Filter : Type) where
  filters : Fin bandCount → Filter
  envelopes : Fin bandCount → EnvelopeFollower
  bins : Bins
  attackCoeff : F32
  releaseCoeff : F32

/-- The samples a loop visits from `i` in steps of `stride`, given enough fuel. -/
def stridedFrom (buffer : List F32) (stride : Nat) : Nat → Nat → List F32
  | 0, _ => []
  | fuel + 1, i =>
      match buffer[i]? with
      | none => []
      | some sample => sample :: stridedFrom buffer stride fuel (i + stride)

/-- `while i < buffer.len()`, which ends within `buffer.len()` rounds when `stride` is not 0. -/
def strided (buffer : List F32) (channel stride : Nat) : List F32 :=
  stridedFrom buffer stride buffer.length channel

namespace VocoderAnalyser
variable {Filter : Type} (ops : Primitives Filter)

def new (setup : VocoderSetup Filter) : VocoderAnalyser Filter where
  filters := setup.filters
  envelopes := fun _ => .new
  bins := fun _ => F32.zero
  attackCoeff := setup.attackCoeff
  releaseCoeff := setup.releaseCoeff

def setBand (analyser : VocoderAnalyser Filter) (band : Fin bandCount) (filter : Filter)
    (envelope : EnvelopeFollower) (bin : F32) : VocoderAnalyser Filter :=
  { analyser with
    filters := Function.update analyser.filters band filter
    envelopes := Function.update analyser.envelopes band envelope
    bins := Function.update analyser.bins band bin }

def processBand (sample : F32) (analyser : VocoderAnalyser Filter) (band : Fin bandCount) :
    VocoderAnalyser Filter :=
  let (filtered, filter) := ops.run (analyser.filters band) sample
  if !filtered.isFinite then
    analyser.setBand band (ops.resetState filter) .new F32.zero
  else
    let envelope := (analyser.envelopes band).processSample ops filtered.abs
      analyser.attackCoeff analyser.releaseCoeff
    if !envelope.value.isFinite then
      analyser.setBand band (ops.resetState filter) .new F32.zero
    else analyser.setBand band filter envelope envelope.value

def processSample (analyser : VocoderAnalyser Filter) (sample : F32) : VocoderAnalyser Filter :=
  if !sample.isFinite then analyser
  else bands.foldl (processBand ops sample) analyser

def processInterleaved (analyser : VocoderAnalyser Filter) (buffer : List F32)
    (channel totalChannels : Nat) : VocoderAnalyser Filter :=
  (strided buffer channel totalChannels).foldl (processSample ops) analyser

def currentBins (analyser : VocoderAnalyser Filter) : Bins := analyser.bins

end VocoderAnalyser

/-! ## The loop over a channel -/

def channelSamples (channels : Nat) (stream : List F32) (channel : Nat) : List F32 :=
  (chunksExact channels stream).filterMap fun frame => frame[channel]?

theorem stridedFrom_frames {channels channel : Nat} (inside : channel < channels)
    (frames : List (List F32)) (lengths : ∀ frame ∈ frames, frame.length = channels)
    (before : List F32) (fuel : Nat) (enough : frames.length ≤ fuel) :
    stridedFrom (before ++ frames.flatten) channels fuel (before.length + channel) =
      frames.filterMap fun frame => frame[channel]? := by
  induction frames generalizing before fuel with
  | nil =>
      cases fuel with
      | zero => rfl
      | succ fuel => simp [stridedFrom]
  | cons frame rest ih =>
      cases fuel with
      | zero => simp at enough
      | succ fuel =>
          have length := lengths frame List.mem_cons_self
          have tail : ∀ frame ∈ rest, frame.length = channels :=
            fun other member => lengths other (List.mem_cons_of_mem _ member)
          have bound : channel < frame.length := by omega
          have here : (before ++ (frame :: rest).flatten)[before.length + channel]? =
              some frame[channel] := by
            rw [List.getElem?_append_right (Nat.le_add_right _ _), Nat.add_sub_cancel_left,
              List.flatten_cons, List.getElem?_append_left (by omega),
              List.getElem?_eq_getElem (by omega)]
          have there := ih tail (before ++ frame) fuel (by simpa using enough)
          rw [List.length_append, length, Nat.add_assoc, Nat.add_comm channels channel,
            ← Nat.add_assoc] at there
          rw [stridedFrom, here, List.filterMap_cons, List.getElem?_eq_getElem (by omega)]
          simp only [List.flatten_cons, ← List.append_assoc]
          rw [there]

theorem strided_eq {channels channel : Nat} (inside : channel < channels) (buffer : List F32)
    (whole : buffer.length % channels = 0) :
    strided buffer channel channels = channelSamples channels buffer channel := by
  have positive : 0 < channels := by omega
  have all : (chunksExact channels buffer).flatten = buffer := by
    rw [chunksExact_flatten positive, aligned, Nat.div_mul_cancel (Nat.dvd_of_mod_eq_zero whole),
      List.take_length]
  have walk := stridedFrom_frames inside (chunksExact channels buffer)
    (fun _ => mem_chunksExact positive) [] buffer.length
    (by rw [chunksExact_length]; exact Nat.div_le_self _ _)
  rwa [all, List.nil_append, List.length_nil, Nat.zero_add] at walk

theorem channelSamples_append {channels : Nat} (positive : 0 < channels)
    (stream later : List F32) (channel : Nat) :
    channelSamples channels (stream ++ later) channel =
      channelSamples channels stream channel ++ channelSamples channels
        (stream.drop (aligned channels stream) ++ later) channel := by
  rw [channelSamples, chunksExact_append positive, List.filterMap_append]
  rfl

theorem channelSamples_take_aligned {channels : Nat} (positive : 0 < channels)
    (stream : List F32) (channel : Nat) :
    channelSamples channels (stream.take (aligned channels stream)) channel =
      channelSamples channels stream channel := by
  rw [channelSamples, chunksExact_take_aligned positive, channelSamples]

theorem channelSamples_length {channels channel : Nat} (inside : channel < channels)
    (stream : List F32) :
    (channelSamples channels stream channel).length = stream.length / channels := by
  have all : ∀ frame ∈ chunksExact channels stream, (frame[channel]?).isSome = true := by
    intro frame member
    rw [List.getElem?_eq_getElem (by rw [mem_chunksExact (by omega) member]; exact inside)]
    rfl
  have count : (channelSamples channels stream channel).length =
      (chunksExact channels stream).length := by
    rw [channelSamples, List.length_filterMap_eq_countP]
    exact List.countP_eq_length.mpr all
  rw [count, chunksExact_length]

theorem channelSamples_mono (stream : List F32) : channelSamples 1 stream 0 = stream := by
  induction stream with
  | nil => rfl
  | cons sample rest ih =>
      have single : [sample].length = 1 := rfl
      have shape := chunksExact_cons single one_pos rest
      rw [channelSamples, show sample :: rest = [sample] ++ rest from rfl, shape,
        List.filterMap_cons]
      simp only [List.getElem?_cons_zero]
      exact congrArg (sample :: ·) ih

/-! ## Each band on its own -/

structure Band (Filter : Type) where
  filter : Filter
  envelope : EnvelopeFollower
  bin : F32

section
variable {Filter : Type} (ops : Primitives Filter)

def Band.reset (band : Band Filter) : Band Filter where
  filter := ops.resetState band.filter
  envelope := .new
  bin := F32.zero

def Band.process (attack release : F32) (band : Band Filter) (sample : F32) : Band Filter :=
  let (filtered, filter) := ops.run band.filter sample
  let envelope := band.envelope.processSample ops filtered.abs attack release
  if filtered.isFinite && envelope.value.isFinite then ⟨filter, envelope, envelope.value⟩
  else Band.reset ops { band with filter }

def Band.Settled (band : Band Filter) : Prop :=
  band.bin = band.envelope.value ∧ band.bin.isFinite = true

theorem Band.settled_process (attack release : F32) (band : Band Filter) (sample : F32) :
    (band.process ops attack release sample).Settled := by
  unfold Band.process
  dsimp only
  split_ifs with finite
  · exact ⟨rfl, (Bool.and_eq_true_iff.mp finite).2⟩
  · exact ⟨rfl, F32.isFinite_zero⟩

theorem Band.settled_foldl (attack release : F32) (samples : List F32) {band : Band Filter}
    (settled : band.Settled) : (samples.foldl (Band.process ops attack release) band).Settled := by
  induction samples generalizing band with
  | nil => exact settled
  | cons sample rest ih => exact ih (band.settled_process ops attack release sample)

namespace VocoderAnalyser

def band (analyser : VocoderAnalyser Filter) (index : Fin bandCount) : Band Filter :=
  ⟨analyser.filters index, analyser.envelopes index, analyser.bins index⟩

@[simp] theorem setBand_band (analyser : VocoderAnalyser Filter) (index other : Fin bandCount)
    (filter : Filter) (envelope : EnvelopeFollower) (bin : F32) :
    (analyser.setBand index filter envelope bin).band other =
      if other = index then ⟨filter, envelope, bin⟩ else analyser.band other := by
  by_cases same : other = index
  · subst same
    simp [setBand, band]
  · simp [setBand, band, same]

theorem processBand_band (sample : F32) (analyser : VocoderAnalyser Filter)
    (index other : Fin bandCount) :
    (processBand ops sample analyser index).band other =
      if other = index then
        (analyser.band other).process ops analyser.attackCoeff analyser.releaseCoeff sample
      else analyser.band other := by
  unfold processBand
  dsimp only
  by_cases same : other = index
  · subst same
    rw [if_pos rfl, Band.process]
    by_cases finite : (ops.run (analyser.filters other) sample).1.isFinite = true
    · by_cases settled : ((analyser.envelopes other).processSample ops
          (ops.run (analyser.filters other) sample).1.abs analyser.attackCoeff
          analyser.releaseCoeff).value.isFinite = true
      · simp [finite, settled, setBand, band]
      · simp [finite, settled, setBand, band, Band.reset]
    · simp [finite, setBand, band, Band.reset]
  · split_ifs <;> simp [same]

@[simp] theorem processBand_coeffs (sample : F32) (analyser : VocoderAnalyser Filter)
    (index : Fin bandCount) :
    (processBand ops sample analyser index).attackCoeff = analyser.attackCoeff ∧
      (processBand ops sample analyser index).releaseCoeff = analyser.releaseCoeff := by
  unfold processBand
  dsimp only
  split_ifs <;> exact ⟨rfl, rfl⟩

theorem foldl_processBand (sample : F32) (indices : List (Fin bandCount)) (once : indices.Nodup)
    (analyser : VocoderAnalyser Filter) (other : Fin bandCount) :
    let after := indices.foldl (processBand ops sample) analyser
    after.attackCoeff = analyser.attackCoeff ∧ after.releaseCoeff = analyser.releaseCoeff ∧
      after.band other = if other ∈ indices then
          (analyser.band other).process ops analyser.attackCoeff analyser.releaseCoeff sample
        else analyser.band other := by
  induction indices generalizing analyser with
  | nil => simp
  | cons index rest ih =>
      obtain ⟨fresh, unique⟩ := List.nodup_cons.mp once
      have coeffs := processBand_coeffs ops sample analyser index
      obtain ⟨attack, release, bands⟩ := ih unique (processBand ops sample analyser index)
      refine ⟨attack.trans coeffs.1, release.trans coeffs.2, ?_⟩
      rw [List.foldl_cons, bands, coeffs.1, coeffs.2, processBand_band]
      by_cases same : other = index
      · subst same
        simp [fresh]
      · simp [same]

theorem processSample_band (analyser : VocoderAnalyser Filter) (sample : F32)
    (index : Fin bandCount) :
    let after := analyser.processSample ops sample
    after.attackCoeff = analyser.attackCoeff ∧ after.releaseCoeff = analyser.releaseCoeff ∧
      after.band index = if sample.isFinite then
          (analyser.band index).process ops analyser.attackCoeff analyser.releaseCoeff sample
        else analyser.band index := by
  cases finite : sample.isFinite with
  | false => simp [processSample, finite]
  | true =>
      have loop := foldl_processBand ops sample bands (List.nodup_finRange _) analyser index
      simpa [processSample, finite] using loop

/-- Bands never meet: each one folds over the finite samples on its own. -/
theorem foldl_processSample_band (samples : List F32) (analyser : VocoderAnalyser Filter)
    (index : Fin bandCount) :
    (samples.foldl (processSample ops) analyser).band index =
      (samples.filter F32.isFinite).foldl
        (Band.process ops analyser.attackCoeff analyser.releaseCoeff) (analyser.band index) := by
  induction samples generalizing analyser with
  | nil => rfl
  | cons sample rest ih =>
      obtain ⟨attack, release, band⟩ := processSample_band ops analyser sample index
      rw [List.foldl_cons, ih, attack, release, band]
      cases finite : sample.isFinite with
      | false => simp [finite]
      | true => simp [finite]

theorem settled_band (setup : VocoderSetup Filter) (samples : List F32) (index : Fin bandCount) :
    ((samples.foldl (processSample ops) (new setup)).band index).Settled := by
  rw [foldl_processSample_band]
  exact Band.settled_foldl ops _ _ _ ⟨rfl, F32.isFinite_zero⟩

theorem foldl_processSample_finite (samples : List F32) (analyser : VocoderAnalyser Filter) :
    samples.foldl (processSample ops) analyser =
      (samples.filter F32.isFinite).foldl (processSample ops) analyser := by
  induction samples generalizing analyser with
  | nil => rfl
  | cons sample rest ih =>
      cases finite : sample.isFinite with
      | false =>
          rw [List.filter_cons_of_neg (by simp [finite]), List.foldl_cons, processSample]
          simpa [finite] using ih analyser
      | true =>
          rw [List.filter_cons_of_pos finite, List.foldl_cons, List.foldl_cons, ih]

def mono (setup : VocoderSetup Filter) (samples : List F32) : VocoderAnalyser Filter :=
  (new setup).processInterleaved ops samples 0 1

theorem mono_eq (setup : VocoderSetup Filter) (samples : List F32) :
    mono ops setup samples = samples.foldl (processSample ops) (new setup) := by
  rw [mono, processInterleaved, strided_eq one_pos samples (Nat.mod_one _), channelSamples_mono]

theorem mono_band (setup : VocoderSetup Filter) (samples : List F32) (index : Fin bandCount) :
    (mono ops setup samples).bins index = ((samples.filter F32.isFinite).foldl
      (Band.process ops setup.attackCoeff setup.releaseCoeff)
      ⟨setup.filters index, .new, F32.zero⟩).bin := by
  rw [mono_eq]
  exact congrArg Band.bin (foldl_processSample_band ops samples (new setup) index)

end VocoderAnalyser
end

end Phase4.Dsp
