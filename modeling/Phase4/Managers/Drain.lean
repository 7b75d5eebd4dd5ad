import Phase4.Managers.Analyser
import Phase4.Managers.Audio

namespace Phase4.Managers.Drain
open Library Dsp Audio Analyser

variable {Filter : Type} {ops : Primitives Filter} {setup : VocoderSetup Filter}

/-! ## The loop once `keep_running` is false

The producer has stopped, so the ring holds all that is left. `analysed` collects the slices
handed to `analyse` from here on. -/

structure Draining (Filter : Type) where
  analyser : Analyser.State Filter
  ring : Fifo F32
  analysed : List (List F32)

namespace Draining

def begin (analyser : Analyser.State Filter) (ring : Fifo F32) : Draining Filter :=
  ⟨analyser, ring, []⟩

def free (state : Draining Filter) : Nat :=
  state.analyser.transferBuffer.length - state.analyser.pending

def carried (state : Draining Filter) : List F32 :=
  state.analyser.transferBuffer.take state.analyser.pending

def pass (ops : Primitives Filter) (state : Draining Filter) (mapperGone : Bool) :
    Option (Draining Filter) :=
  if state.ring.items = [] then none
  else
    let popped := state.ring.popSlice state.free
    let active := state.analyser.activeBuffer popped.1
    (state.analyser.drain ops mapperGone popped.1).map fun analyser =>
      ⟨analyser, popped.2, if active = [] then state.analysed else state.analysed ++ [active]⟩

end Draining

open Draining

structure Roomy (analyser : Analyser.State Filter) : Prop where
  positive : 0 < analyser.transferBuffer.length
  whole : analyser.transferBuffer.length % analyser.channels = 0
  room : analyser.pending < analyser.transferBuffer.length

/-- The loop makes progress, ends, and by then has analysed every whole frame. -/
structure Drains (ops : Primitives Filter) (start : Draining Filter) : Prop where
  progress : ∀ answers state, exec (pass ops) start answers = some state →
    state.ring.items ≠ [] → ∀ mapperGone, ∃ next, pass ops state mapperGone = some next ∧
      next.ring.items.length < state.ring.items.length
  ends : ∀ answers : Nat → Bool, ∃ passes ≤ start.ring.items.length, ∃ last,
    exec (pass ops) start ((List.range passes).map answers) = some last ∧ last.ring.items = []
  complete : ∀ answers last, exec (pass ops) start answers = some last → last.ring.items = [] →
    last.analysed.flatten ++ last.carried = start.carried ++ start.ring.items ∧
    (∀ slice ∈ last.analysed, slice.length % start.analyser.channels = 0) ∧
    last.analyser.pending < start.analyser.channels

/-! ## The size of the transfer buffer -/

theorem samplesForMs_positive_iff (specs : Specs) :
    0 < specs.samplesForMs chunkSizeMs ↔ 100 ≤ specs.sampleRate * specs.channels := by
  rw [Specs.samplesForMs, chunkSizeMs, Nat.div_pos_iff]
  omega

theorem frameAligned_cases (specs : Specs) (positive : 0 < specs.channels) :
    (100 ≤ specs.sampleRate * specs.channels ∧
      specs.channels ≤ specs.frameAlignedSamplesForMs chunkSizeMs) ∨
    (specs.sampleRate * specs.channels < 100 ∧
      specs.frameAlignedSamplesForMs chunkSizeMs = 0) := by
  rcases Nat.lt_or_ge (specs.sampleRate * specs.channels) 100 with low | enough
  · right
    have none_needed : specs.samplesForMs chunkSizeMs = 0 := by
      have := samplesForMs_positive_iff specs
      omega
    refine ⟨low, ?_⟩
    rw [Specs.frameAlignedSamplesForMs, none_needed, Nat.div_eq_of_lt (by omega), Nat.zero_mul]
  · left
    have needed := (samplesForMs_positive_iff specs).mpr enough
    refine ⟨enough, Nat.le_mul_of_pos_left _ (Nat.div_pos (by omega) positive)⟩

/-! ## Passes -/

section
variable {channels bufferLen : Nat} {stream : List F32}

theorem pending_le {analyser : Analyser.State Filter}
    (follows : Follows ops setup channels bufferLen stream analyser) :
    analyser.pending ≤ bufferLen := by
  have lengths := congrArg List.length follows.carried
  rw [List.length_take, List.length_drop, length_sub_aligned, ← follows.pending,
    follows.capacity] at lengths
  exact min_eq_left_iff.mp lengths

structure Reached (ops : Primitives Filter) (setup : VocoderSetup Filter) (channels bufferLen : Nat)
    (stream : List F32) (start state : Draining Filter) (popped : List F32) : Prop where
  follows : Follows ops setup channels bufferLen (stream ++ popped) state.analyser
  ring : popped ++ state.ring.items = start.ring.items
  analysed : stream.take (aligned channels stream) ++ state.analysed.flatten =
    (stream ++ popped).take (aligned channels (stream ++ popped))
  whole : ∀ slice ∈ state.analysed, slice.length % channels = 0

theorem reached_begin {analyser : Analyser.State Filter} (ring : Fifo F32)
    (follows : Follows ops setup channels bufferLen stream analyser) :
    Reached ops setup channels bufferLen stream (begin analyser ring) (begin analyser ring) [] where
  follows := by rwa [List.append_nil]
  ring := rfl
  analysed := by simp [begin]
  whole := by simp [begin]

theorem pass_spec (positive : 0 < channels) {start state : Draining Filter} {popped : List F32}
    (here : Reached ops setup channels bufferLen stream start state popped)
    (more : state.ring.items ≠ []) (mapperGone : Bool) :
    ∃ next, pass ops state mapperGone = some next ∧
      next.ring.items = state.ring.items.drop state.free ∧
      Reached ops setup channels bufferLen stream start next
        (popped ++ state.ring.items.take state.free) := by
  have capacity := here.follows.capacity
  have room := pending_le here.follows
  have fits : state.analyser.pending + (state.ring.items.take state.free).length ≤ bufferLen := by
    have := List.length_take_le state.free state.ring.items
    simp only [free] at this ⊢
    omega
  obtain ⟨next, drained, follows, -⟩ := drain_spec positive here.follows fits mapperGone
  have active := activeBuffer_eq here.follows (state.ring.items.take state.free)
  have added := take_aligned_append positive (stream ++ popped) (state.ring.items.take state.free)
  rw [← waiting, ← active, ← here.analysed, List.append_assoc, List.append_assoc] at added
  let slice := state.analyser.activeBuffer (state.ring.items.take state.free)
  let analysed := if slice = [] then state.analysed else state.analysed ++ [slice]
  have flat : analysed.flatten = state.analysed.flatten ++ slice := by
    by_cases idle : slice = []
    · simp [analysed, idle]
    · simp [analysed, idle]
  refine ⟨⟨next, (state.ring.popSlice state.free).2, analysed⟩, ?_, rfl, ?_, ?_, ?_, ?_⟩
  · rw [Draining.pass, if_neg more]
    exact congrArg (Option.map _) drained
  · rw [← List.append_assoc]
    exact follows
  · rw [List.append_assoc, ← here.ring]
    exact congrArg (popped ++ ·) (state.ring.popSlice_items state.free)
  · exact (congrArg (_ ++ ·) flat).trans added.symm
  · intro part member
    have of_slice : slice.length % channels = 0 := by
      show (state.analyser.activeBuffer _).length % channels = 0
      rw [active, List.length_take_of_le (aligned_le _ _)]
      exact Nat.mul_mod_left _ _
    by_cases idle : slice = []
    · exact here.whole part (by simpa [analysed, idle] using member)
    · rcases List.mem_append.mp (by simpa only [analysed, if_neg idle] using member) with old | new
      · exact here.whole part old
      · exact (List.mem_singleton.mp new) ▸ of_slice

theorem reached_run (positive : 0 < channels) {start : Draining Filter}
    (initial : Reached ops setup channels bufferLen stream start start []) {answers : List Bool}
    {last : Draining Filter} (run : exec (Draining.pass ops) start answers = some last) :
    ∃ popped, Reached ops setup channels bufferLen stream start last popped := by
  refine exec_invariant (motive := fun state =>
    ∃ popped, Reached ops setup channels bufferLen stream start state popped)
    ⟨[], initial⟩ ?_ run
  rintro state mapperGone next ⟨popped, here⟩ moved
  by_cases more : state.ring.items = []
  · rw [Draining.pass, if_pos more] at moved
    cases moved
  · obtain ⟨after, passed, -, kept⟩ := pass_spec positive here more mapperGone
    obtain rfl := Option.some.inj (passed.symm.trans moved)
    exact ⟨_, kept⟩

theorem pass_shortens (positive : 0 < channels) (roomy : channels ≤ bufferLen)
    {start state : Draining Filter} {popped : List F32}
    (here : Reached ops setup channels bufferLen stream start state popped)
    (more : state.ring.items ≠ []) (mapperGone : Bool) :
    ∃ next, Draining.pass ops state mapperGone = some next ∧
      (∃ popped, Reached ops setup channels bufferLen stream start next popped) ∧
      next.ring.items.length < state.ring.items.length := by
  obtain ⟨next, passed, ring, kept⟩ := pass_spec positive here more mapperGone
  have few : state.analyser.pending < channels := by
    rw [here.follows.pending]
    exact Nat.mod_lt _ positive
  have some_room : 0 < state.free := by
    rw [free, here.follows.capacity]
    omega
  have some_left := List.length_pos_iff.mpr more
  refine ⟨next, passed, ⟨_, kept⟩, ?_⟩
  rw [ring, List.length_drop]
  omega

theorem complete_of_reached (positive : 0 < channels) {start last : Draining Filter}
    {popped : List F32} (here : Reached ops setup channels bufferLen stream start last popped)
    (initial : Follows ops setup channels bufferLen stream start.analyser)
    (over' : last.ring.items = []) :
    last.analysed.flatten ++ last.carried = start.carried ++ start.ring.items ∧
      (∀ slice ∈ last.analysed, slice.length % start.analyser.channels = 0) ∧
      last.analyser.pending < start.analyser.channels := by
  have all : popped = start.ring.items := by
    rw [← here.ring, over', List.append_nil]
  refine ⟨?_, ?_, ?_⟩
  · have heard : stream.take (aligned channels stream) ++ (last.analysed.flatten ++ last.carried) =
        stream.take (aligned channels stream) ++ (start.carried ++ start.ring.items) := by
      rw [← List.append_assoc, here.analysed, carried, here.follows.carried,
        List.take_append_drop, carried, initial.carried, ← List.append_assoc,
        List.take_append_drop, all]
    exact List.append_cancel_left heard
  · rw [initial.width]
    exact here.whole
  · rw [initial.width, here.follows.pending]
    exact Nat.mod_lt _ positive

theorem drains_of_roomy (positive : 0 < channels) (roomy : channels ≤ bufferLen)
    {analyser : Analyser.State Filter} (ring : Fifo F32)
    (follows : Follows ops setup channels bufferLen stream analyser) :
    Drains ops (begin analyser ring) where
  progress answers state run more mapperGone := by
    obtain ⟨popped, here⟩ := reached_run positive (reached_begin ring follows) run
    obtain ⟨next, passed, -, shorter⟩ := pass_shortens positive roomy here more mapperGone
    exact ⟨next, passed, shorter⟩
  ends answers := by
    let length (state : Draining Filter) : Nat := state.ring.items.length
    have closer (state : Draining Filter) (mapperGone : Bool)
        (here : ∃ popped, Reached ops setup channels bufferLen stream (begin analyser ring) state
          popped) (more : ¬state.ring.items = []) :
        ∃ next, Draining.pass ops state mapperGone = some next ∧
          (∃ popped, Reached ops setup channels bufferLen stream (begin analyser ring) next popped) ∧
          length next < length state :=
      pass_shortens positive roomy here.choose_spec more mapperGone
    have initial := reached_begin ring follows
    exact exec_ends length closer answers ⟨[], initial⟩
  complete answers last run none_left := by
    obtain ⟨popped, here⟩ := reached_run positive (reached_begin ring follows) run
    exact complete_of_reached positive here follows none_left

theorem drains_of_empty (positive : 0 < channels) {analyser : Analyser.State Filter}
    {ring : Fifo F32} (empty : ring.items = [])
    (follows : Follows ops setup channels bufferLen stream analyser) :
    Drains ops (begin analyser ring) where
  progress answers state run more := by
    obtain ⟨popped, here⟩ := reached_run positive (reached_begin ring follows) run
    have left := here.ring
    rw [begin, empty] at left
    exact absurd (List.append_eq_nil_iff.mp left).2 more
  ends answers := ⟨0, Nat.zero_le _, _, rfl, empty⟩
  complete answers last run none_left := by
    obtain ⟨popped, here⟩ := reached_run positive (reached_begin ring follows) run
    exact complete_of_reached positive here follows none_left

theorem run_spins (positive : 0 < channels) {start state : Draining Filter} {popped : List F32}
    (here : Reached ops setup channels 0 stream start state popped)
    (more : state.ring.items ≠ []) (answers : List Bool) :
    ∃ last, exec (Draining.pass ops) state answers = some last ∧
      last.ring.items = state.ring.items := by
  induction answers generalizing state popped with
  | nil => exact ⟨state, rfl, rfl⟩
  | cons mapperGone later ih =>
      obtain ⟨next, passed, ring, kept⟩ := pass_spec positive here more mapperGone
      have no_room : state.free = 0 := by rw [free, here.follows.capacity, Nat.zero_sub]
      rw [no_room, List.drop_zero] at ring
      obtain ⟨last, run, same⟩ := ih kept (ring ▸ more)
      exact ⟨last, by rw [exec, passed]; exact run, same.trans ring⟩

theorem not_drains_of_no_buffer (positive : 0 < channels) {analyser : Analyser.State Filter}
    {ring : Fifo F32} (more : ring.items ≠ [])
    (follows : Follows ops setup channels 0 stream analyser) :
    ¬Drains ops (begin analyser ring) := by
  intro drains
  obtain ⟨passes, -, last, run, none_left⟩ := drains.ends fun _ => false
  obtain ⟨same, run', left⟩ := run_spins positive (reached_begin ring follows) more
    ((List.range passes).map fun _ => false)
  obtain rfl := Option.some.inj (run.symm.trans run')
  exact more (left.symm.trans none_left)

end

/-! ## When the drain ends -/

/-- At shutdown the ring drains to the last whole frame exactly when 10 ms are at least one
sample, or nothing is left in it. -/
theorem shutdown_drain_iff (ops : Primitives Filter) (setup : VocoderSetup Filter) (specs : Specs)
    (positive : 0 < specs.channels) {earlier : List Pop} {analyser : Analyser.State Filter}
    (reached : exec (Analyser.step ops) (.new specs.channels
      (specs.frameAlignedSamplesForMs chunkSizeMs) setup) earlier = some analyser) :
    ((Roomy analyser ∧ ∀ ring, Drains ops (begin analyser ring)) ↔
      100 ≤ specs.sampleRate * specs.channels) ∧
    ∀ ring, Drains ops (begin analyser ring) ↔
      ring.items = [] ∨ 100 ≤ specs.sampleRate * specs.channels := by
  have follows := follows_run positive reached
  rcases frameAligned_cases specs positive with ⟨enough, roomy⟩ | ⟨low, none_there⟩
  · have drains (ring : Fifo F32) : Drains ops (begin analyser ring) :=
      drains_of_roomy positive roomy ring follows
    refine ⟨iff_of_true ⟨⟨?_, ?_, ?_⟩, drains⟩ enough,
      fun ring => iff_of_true (drains ring) (.inr enough)⟩
    · rw [follows.capacity]
      exact Nat.lt_of_lt_of_le positive roomy
    · rw [follows.capacity, follows.width]
      exact specs.frameAligned_mod chunkSizeMs
    · rw [follows.capacity, follows.pending]
      exact Nat.lt_of_lt_of_le (Nat.mod_lt _ positive) roomy
  · rw [none_there] at follows
    have few := Nat.not_le_of_lt low
    constructor
    · refine iff_of_false ?_ few
      intro claimed
      have := claimed.1.positive
      rw [follows.capacity] at this
      exact lt_irrefl 0 this
    · intro ring
      by_cases empty : ring.items = []
      · exact iff_of_true (drains_of_empty positive empty follows) (.inl empty)
      · exact iff_of_false (not_drains_of_no_buffer positive empty follows) (by simp [empty, few])

theorem stereo_drains : Drains atRest
    (begin (.new 2 (Specs.frameAlignedSamplesForMs ⟨2, 50⟩ chunkSizeMs) restSetup)
      ⟨4, [⟨0⟩, ⟨1⟩, ⟨2⟩], by decide⟩) := by
  have reached : exec (Analyser.step atRest)
      (.new 2 (Specs.frameAlignedSamplesForMs ⟨2, 50⟩ chunkSizeMs) restSetup) [] = some _ := rfl
  exact ((shutdown_drain_iff atRest restSetup ⟨2, 50⟩ (by decide) reached).2 _).mpr
    (.inr (by decide))

/-- At 96 Hz mono there is no buffer, and one sample in the ring outlasts every pass. -/
theorem slow_mono_never_drains :
    let analyser : Analyser.State Unit :=
      .new 1 (Specs.frameAlignedSamplesForMs ⟨1, 96⟩ chunkSizeMs) restSetup
    let start := begin analyser ⟨64, [⟨0⟩], by decide⟩
    ¬Roomy analyser ∧ ¬Drains atRest start ∧
      ∀ answers, ∃ last, exec (Draining.pass atRest) start answers = some last ∧
        last.ring.items = start.ring.items := by
  have follows := follows_new atRest restSetup (by decide : 0 < 1) 0
  have more : (⟨64, [⟨0⟩], by decide⟩ : Fifo F32).items ≠ [] := List.cons_ne_nil _ _
  exact ⟨fun roomy => absurd roomy.positive (lt_irrefl 0),
    not_drains_of_no_buffer (by decide) more follows,
    run_spins (by decide) (reached_begin _ follows) more⟩

end Phase4.Managers.Drain
