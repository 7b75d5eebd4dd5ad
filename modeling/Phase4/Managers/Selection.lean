import Phase4.Bootstrap
import Phase4.Config.Agreement
import Phase4.Managers.Capture

namespace Phase4.Managers
open Library Dsp Config Audio

/-! ## Bare indices

The sink as the source has it: no type keeps an index inside a frame, and an access outside of
it panics. -/

namespace Audio

inductive BareMode where
  | all
  | selected (indices : List ChannelIndex)

def BareMode.resolve (selection : Option (List ChannelIndex)) (specs : Specs) :
    BareMode × Specs :=
  match selection with
  | some indices => (.selected indices, { specs with channels := indices.length % 2 ^ 16 })
  | none => (.all, specs)

def pushBareIndices (frame : List F32) : List ChannelIndex → RingProgram (Option Unit)
  | [] => return some ()
  | index :: rest =>
      match frame[index.val]? with
      | none => return none
      | some sample => do
          let _ ← perform (.tryPush sample)
          pushBareIndices frame rest

def pushBareFrames (indices : List ChannelIndex) (dropped : Bool) :
    List (List F32) → RingProgram (Option Bool)
  | [] => return some dropped
  | frame :: rest => do
      let vacant ← perform .vacantLen
      if vacant < indices.length then pushBareFrames indices true rest
      else
        match ← pushBareIndices frame indices with
        | none => return none
        | some _ => pushBareFrames indices dropped rest

/-- `none` where the call panics, which it does on frames of no channels. -/
def pushBare (mode : BareMode) (data : List F32) (hwChannels : Nat) : RingProgram (Option Bool) :=
  if hwChannels = 0 then return none
  else
    match mode with
    | .all => push (.all : ChannelMode hwChannels) data >>= fun dropped => return some dropped
    | .selected indices => pushBareFrames indices false (chunksExact hwChannels data)

section
variable {hwChannels : Nat} {indices : List ChannelIndex}

def within (indices : List ChannelIndex) (inside : ∀ index ∈ indices, index.val < hwChannels) :
    List (Fin hwChannels) :=
  indices.pmap (fun index bound => ⟨index.val, bound⟩) inside

theorem within_val (inside : ∀ index ∈ indices, index.val < hwChannels) :
    (within indices inside).map Fin.val = indices.map Fin.val := by
  rw [within, List.map_pmap]
  exact List.pmap_eq_map _

theorem within_length (inside : ∀ index ∈ indices, index.val < hwChannels) :
    (within indices inside).length = indices.length := List.length_pmap

theorem within_nodup (inside : ∀ index ∈ indices, index.val < hwChannels)
    (once : indices.Nodup) : (within indices inside).Nodup := by
  apply List.Nodup.of_map Fin.val
  rw [within_val]
  exact once.map Fin.val_injective

theorem pushBareIndices_within {frame : List F32} (length : frame.length = hwChannels)
    (inside : ∀ index ∈ indices, index.val < hwChannels) :
    pushBareIndices frame indices =
      pushIndices frame (within indices inside) >>= fun _ => return some () := by
  induction indices with
  | nil => rfl
  | cons index rest ih =>
      have bound : index.val < frame.length := by
        rw [length]
        exact inside index List.mem_cons_self
      have later := ih fun other member => inside other (List.mem_cons_of_mem _ member)
      have read : frame.getD index.val F32.zero = frame[index.val] :=
        List.getD_eq_getElem frame F32.zero bound
      rw [pushBareIndices, List.getElem?_eq_getElem bound]
      show (perform (.tryPush frame[index.val]) >>= fun _ => pushBareIndices frame rest) =
        (perform (.tryPush (frame.getD index.val F32.zero)) >>= fun _ =>
          pushIndices frame (within rest _)) >>= fun _ => return some ()
      rw [read, later, Program.bind_assoc]

theorem pushBareFrames_within (inside : ∀ index ∈ indices, index.val < hwChannels)
    {frames : List (List F32)} (lengths : ∀ frame ∈ frames, frame.length = hwChannels)
    (dropped : Bool) : pushBareFrames indices dropped frames =
      pushFrames (within indices inside) dropped frames >>= fun dropped =>
        return some dropped := by
  induction frames generalizing dropped with
  | nil => rfl
  | cons frame rest ih =>
      have length := lengths frame List.mem_cons_self
      have later (dropped : Bool) := ih
        (fun other member => lengths other (List.mem_cons_of_mem _ member)) dropped
      rw [pushBareFrames, pushFrames, Program.bind_assoc, within_length,
        pushBareIndices_within length inside]
      congr 1
      funext vacant
      by_cases full : vacant < indices.length
      · rw [if_pos full, if_pos full, later]
      · rw [if_neg full, if_neg full, Program.bind_assoc, Program.bind_assoc]
        congr 1
        funext pushed
        exact later dropped

/-- Bare indices that lie inside the hardware's frames never panic, whatever the buffer. -/
theorem pushBare_within (positive : 0 < hwChannels)
    (inside : ∀ index ∈ indices, index.val < hwChannels)
    (nonempty : within indices inside ≠ []) (data : List F32) :
    pushBare (.selected indices) data hwChannels =
      push (.selected (within indices inside) nonempty) data >>= fun dropped =>
        return some dropped := by
  rw [pushBare, if_neg positive.ne', push]
  exact pushBareFrames_within inside (fun frame member => mem_chunksExact positive member) false

end
end Audio

/-! ## A selection that passes its checks -/

theorem mem_sortedChannels {raw : List ChannelIndex} {channel : ChannelIndex} :
    channel ∈ sortedChannels raw ↔ channel ∈ raw := by
  have ordered : (raw.mergeSort (fun a b => decide (a ≤ b))).Pairwise (· ≤ ·) := by
    simpa using @List.pairwise_mergeSort _ (fun a b : ChannelIndex => decide (a ≤ b))
      (fun _ _ _ => by simpa using le_trans) (fun a b => by simpa using le_total a b) raw
  rw [sortedChannels, ordered.destutter_eq_dedup, List.mem_dedup, List.mem_mergeSort]

theorem normaliseChannelSelection_indices {raw : List ChannelIndex} {selection : ChannelSelection}
    (normal : normaliseChannelSelection (some raw) = .ok (some selection)) :
    selection.indices = sortedChannels raw := by
  rw [normaliseChannelSelection] at normal
  split_ifs at normal
  cases normal
  rfl

theorem normaliseChannelSelection_again (selection : ChannelSelection) :
    normaliseChannelSelection (some selection.indices) = .ok (some selection) := by
  obtain ⟨indices, sorted, nonempty⟩ := selection
  simp [normaliseChannelSelection, nonempty, sortedChannels_of_sorted sorted]

theorem inside_of_validate {selection : ChannelSelection} {specs : Specs}
    (valid : Bootstrap.validateChannelSelection (some selection.indices) specs = .ok ()) :
    ∀ index ∈ selection.indices, index.val < specs.channels := by
  intro index member
  rw [Bootstrap.validateChannelSelection, Option.bind_some] at valid
  cases largest : selection.indices.max? with
  | none => exact absurd (List.max?_eq_none_iff.mp largest) selection.nonempty
  | some idx =>
      have below : index ≤ idx := (List.max?_eq_some_iff.mp largest).2 index member
      rw [largest] at valid
      dsimp only at valid
      split_ifs at valid with outside
      exact lt_of_le_of_lt below (not_le.mp outside)

structure Selected (raw indices : List ChannelIndex) (hwSpecs : Specs) : Prop where
  increasing : indices.Pairwise (· < ·)
  members : ∀ channel, channel ∈ indices ↔ channel ∈ raw
  again : ∃ selection, normaliseChannelSelection (some indices) = .ok (some selection) ∧
    selection.indices = indices
  least : 1 ≤ indices.length
  most : indices.length ≤ hwSpecs.channels
  counted : (BareMode.resolve (some indices) hwSpecs).2.channels = indices.length
  inside : ∀ data : List F32, ∀ frame ∈ chunksExact hwSpecs.channels data, ∀ index ∈ indices,
    index.val < frame.length

theorem length_le_of_inside {hwChannels : Nat} {indices : List ChannelIndex}
    (inside : ∀ index ∈ indices, index.val < hwChannels) (once : indices.Nodup) :
    indices.length ≤ hwChannels := by
  have pigeons := (within_nodup inside once).length_le_card
  rwa [within_length, Fintype.card_fin] at pigeons

theorem selected_of_checks {hwChannels : ChannelIndex} {sampleRate : Nat}
    {raw : List ChannelIndex} {selection : ChannelSelection}
    (normal : normaliseChannelSelection (some raw) = .ok (some selection))
    (inside : ∀ index ∈ selection.indices, index.val < hwChannels.val) :
    Selected raw selection.indices ⟨hwChannels.val, sampleRate⟩ := by
  have positive : 0 < selection.indices.length := List.length_pos_iff.mpr selection.nonempty
  have once : selection.indices.Nodup := selection.sorted.imp fun below => below.ne
  have most := length_le_of_inside inside once
  have small : selection.indices.length < 2 ^ 16 := lt_of_le_of_lt most hwChannels.isLt
  exact {
    increasing := selection.sorted
    members := fun channel => by
      rw [normaliseChannelSelection_indices normal, mem_sortedChannels]
    again := ⟨selection, normaliseChannelSelection_again selection, rfl⟩
    least := positive
    most
    counted := Nat.mod_eq_of_lt small
    inside := fun data frame member index selected => by
      have some_channel : 0 < hwChannels.val := positive.trans_le most
      rw [mem_chunksExact some_channel member]
      exact inside index selected }

/-! ## From the hardware to the ring -/

section
variable {Filter : Type}

def hardwareFrames (hwChannels : Nat) (state : Capture.State Filter) : List (List F32) :=
  state.calls.flatMap (fun call => chunksExact hwChannels call.data) ++
    match state.pushing with
    | none => []
    | some pushing => chunksExact hwChannels pushing.data

def channelFrame (channels : List Nat) (whole : List F32) : List F32 :=
  channels.map fun channel => whole.getD channel F32.zero

variable {hwChannels : Nat} {indices : List ChannelIndex}

theorem framesOf_within (inside : ∀ index ∈ indices, index.val < hwChannels)
    (nonempty : within indices inside ≠ []) (data : List F32) :
    Capture.framesOf (.selected (within indices inside) nonempty) data =
      (chunksExact hwChannels data).map (channelFrame (indices.map Fin.val)) := by
  unfold Capture.framesOf
  apply List.map_congr_left
  intro whole _
  rw [ChannelMode.project, channelFrame, ← within_val inside, List.map_map]
  rfl

theorem offered_within (positive : 0 < hwChannels)
    (inside : ∀ index ∈ indices, index.val < hwChannels)
    (nonempty : within indices inside ≠ []) (state : Capture.State Filter) :
    Capture.offered (.sink hwChannels positive (.selected (within indices inside) nonempty)) state =
      (hardwareFrames hwChannels state).map (channelFrame (indices.map Fin.val)) := by
  have frames := framesOf_within inside nonempty
  unfold Capture.offered hardwareFrames
  show state.calls.flatMap (fun call =>
    Capture.framesOf (.selected (within indices inside) nonempty) call.data) ++ _ = _
  rw [List.map_append, List.map_flatMap]
  simp only [frames]
  cases state.pushing with
  | none => rfl
  | some pushing => exact congrArg _ (frames pushing.data)

end

/-- However long the list that was asked for, it comes down to at least one channel and no more
than the device has, and what the ready report says of a position is what the ring holds there. -/
theorem selection_end_to_end (hwChannels : ChannelIndex) (sampleRate : Nat)
    (raw : List ChannelIndex) (selection : ChannelSelection)
    (normal : normaliseChannelSelection (some raw) = .ok (some selection))
    (valid : Bootstrap.validateChannelSelection (some selection.indices)
      ⟨hwChannels.val, sampleRate⟩ = .ok ()) :
    Selected raw selection.indices ⟨hwChannels.val, sampleRate⟩ ∧
    ∃ (positive : 0 < hwChannels.val) (mode : ChannelMode hwChannels.val),
      (∀ data, pushBare (BareMode.resolve (some selection.indices)
        ⟨hwChannels.val, sampleRate⟩).1 data hwChannels.val =
          (Capture.Source.sink hwChannels.val positive mode).call data) ∧
      ∀ (source : Bootstrap.InputSource) {Filter : Type} (ops : Primitives Filter)
        (setup : VocoderSetup Filter) (capacity bufferLen : Nat)
        (schedule : List Capture.Action) (last : Capture.State Filter),
        exec (Capture.step ops (.sink hwChannels.val positive mode))
          (.init (.sink hwChannels.val positive mode) capacity bufferLen setup) schedule =
            some last →
        let report := Bootstrap.ResolvedInput.readyAudio
          ⟨⟨hwChannels.val, sampleRate⟩, source, some selection.indices⟩
        ∃ wholes : List (List F32), wholes.Sublist (hardwareFrames hwChannels.val last) ∧
          last.analysed.flatten ++ last.analyser.transferBuffer.take last.analyser.pending ++
            last.ring.items <+: (wholes.map (channelFrame report.channels)).flatten := by
  have inside := inside_of_validate valid
  have selected : Selected raw selection.indices ⟨hwChannels.val, sampleRate⟩ :=
    selected_of_checks normal inside
  have positive : 0 < hwChannels.val := selected.least.trans selected.most
  have nonempty : within selection.indices inside ≠ [] := by
    rw [← List.length_pos_iff, within_length]
    exact selected.least
  refine ⟨selected, positive, .selected (within selection.indices inside) nonempty, ?_, ?_⟩
  · exact pushBare_within positive inside nonempty
  · intro source Filter ops setup capacity bufferLen schedule last run report
    obtain ⟨consumed, pushed, here⟩ := Capture.invariant_run run
    have accepted := Capture.accepted_sublist
      (.sink hwChannels.val positive (.selected (within selection.indices inside) nonempty)) last
    rw [offered_within positive inside nonempty, List.sublist_map_iff] at accepted
    obtain ⟨wholes, heard, same⟩ := accepted
    exact ⟨wholes, heard, same ▸ here.samples_prefix⟩

theorem two_of_four_channels_selected : Selected [3, 1, 3] [1, 3] ⟨4, 48000⟩ :=
  (selection_end_to_end 4 48000 [3, 1, 3] ⟨[1, 3], by decide, by decide⟩
    (by simp [normaliseChannelSelection, sortedChannels, List.mergeSort, List.destutter,
      List.destutter']) rfl).1

end Phase4.Managers
