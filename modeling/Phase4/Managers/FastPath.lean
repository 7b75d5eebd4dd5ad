import Phase4.Managers.Capture

namespace Phase4.Managers.Capture
open Library Dsp Audio

/-! ## A call that nobody disturbs -/

/-- What the ring answers the producer while nothing is popped. -/
def answer : (op : RingOp) → Fifo F32 → op.Answer × Fifo F32
  | .vacantLen, ring => (ring.vacant, ring)
  | .pushSlice data, ring => (min data.length ring.vacant, ring.pushSlice data)
  | .tryPush sample, ring => (decide (0 < ring.vacant), ring.pushSlice [sample])

section
variable {Filter : Type} {ops : Primitives Filter} {source : Source}

theorem produce_answer {state : State Filter} {data : List F32} {answers : List Nat} {op : RingOp}
    {next : op.Answer → RingProgram (Option Bool)}
    (here : state.pushing = some ⟨data, answers, .call op next⟩) :
    ∃ seen, state.produce state.ring.vacant = some { state with
      ring := (answer op state.ring).2
      pushing := some ⟨data, seen, next (answer op state.ring).1⟩ } := by
  cases op with
  | vacantLen => exact ⟨answers ++ [state.ring.vacant], by simp [State.produce, here, answer]⟩
  | pushSlice slice => exact ⟨answers, by simp [State.produce, here, answer]⟩
  | tryPush sample => exact ⟨answers, by simp [State.produce, here, answer]⟩

theorem exec_alone (program : RingProgram (Option Bool)) {state : State Filter} {data : List F32}
    {answers : List Nat} (here : state.pushing = some ⟨data, answers, program⟩) :
    ∃ (seen observed : List Nat), exec (step ops source) state (observed.map Action.produce) = some { state with
      ring := (program.run answer state.ring).2
      pushing := none
      calls := state.calls ++ [⟨data, seen, (program.run answer state.ring).1⟩] } := by
  induction program generalizing state answers with
  | done result =>
      refine ⟨answers, [0], ?_⟩
      simp [exec, step, State.produce, here]
  | call op next ih =>
      obtain ⟨seen, moved⟩ := produce_answer here
      obtain ⟨later, observed, run⟩ := @ih (answer op state.ring).1 { state with
        ring := (answer op state.ring).2
        pushing := some ⟨data, seen, next (answer op state.ring).1⟩ } seen rfl
      refine ⟨later, state.ring.vacant :: observed, ?_⟩
      rw [List.map_cons, exec, step, moved]
      exact run

end

/-! ## The two ways of pushing every channel -/

section
variable {hwChannels : Nat}

theorem run_pushIndices (frame : List F32) (indices : List (Fin hwChannels)) (ring : Fifo F32) :
    (pushIndices frame indices).run answer ring =
      ((), ring.pushSlice (ChannelMode.project frame indices)) := by
  induction indices generalizing ring with
  | nil => exact Prod.ext rfl ring.pushSlice_nil.symm
  | cons index rest ih =>
      show (pushIndices frame rest).run answer (ring.pushSlice [_]) = _
      rw [ih, Fifo.pushSlice_pushSlice]
      rfl

theorem project_finRange {frame : List F32} (length : frame.length = hwChannels) :
    ChannelMode.project frame (List.finRange hwChannels) = frame := by
  rw [ChannelMode.project, ← List.ofFn_eq_map]
  refine List.ext_getElem (by rw [List.length_ofFn, length]) fun index small large => ?_
  rw [List.getElem_ofFn, List.getD_eq_getElem]

theorem finRange_ne_nil (positive : 0 < hwChannels) : List.finRange hwChannels ≠ [] := by
  rw [← List.length_pos_iff, List.length_finRange]
  exact positive

theorem run_pushFrames (positive : 0 < hwChannels) {frames : List (List F32)}
    (lengths : ∀ frame ∈ frames, frame.length = hwChannels) (dropped : Bool) (ring : Fifo F32) :
    (pushFrames (List.finRange hwChannels) dropped frames).run answer ring =
      (dropped || decide (ring.vacant / hwChannels < frames.length),
        ring.pushSlice (frames.take (ring.vacant / hwChannels)).flatten) := by
  induction frames generalizing dropped ring with
  | nil => simp [pushFrames]
  | cons frame rest ih =>
      have length := lengths frame List.mem_cons_self
      have tail : ∀ frame ∈ rest, frame.length = hwChannels :=
        fun other member => lengths other (List.mem_cons_of_mem _ member)
      have width : (List.finRange hwChannels).length = hwChannels := List.length_finRange
      change (if ring.vacant < (List.finRange hwChannels).length then _ else _ :
        RingProgram Bool).run answer ring = _
      rw [width]
      split_ifs with full
      · have none_fits : ring.vacant / hwChannels = 0 := Nat.div_eq_of_lt full
        rw [ih tail, none_fits]
        cases rest <;> simp
      · have room : (ring.pushSlice frame).vacant = ring.vacant - hwChannels := by
          rw [Fifo.pushSlice_vacant _ (by omega), length]
        have count : ring.vacant / hwChannels = (ring.vacant - hwChannels) / hwChannels + 1 := by
          rw [← Nat.add_div_right _ positive, Nat.sub_add_cancel (by omega)]
        rw [Program.run_bind, run_pushIndices, project_finRange length, ih tail, room, count,
          Fifo.pushSlice_pushSlice, List.take_succ_cons, List.flatten_cons]
        simp

/-- With nobody popping, a sink for all channels and one that selects every channel leave the
same ring and report the same. -/
theorem all_agrees_with_every_channel (positive : 0 < hwChannels) (ring : Fifo F32)
    (data : List F32) :
    (push (.all : ChannelMode hwChannels) data).run answer ring =
      (push (.selected (List.finRange hwChannels) (finRange_ne_nil positive)) data).run answer
        ring := by
  have frames := run_pushFrames positive
    (fun frame (member : frame ∈ chunksExact hwChannels data) => mem_chunksExact positive member)
    false ring
  have slice := PushAt.slice_eq positive data ring.vacant
  have dropped := PushAt.slice_dropped positive data ring.vacant
  show (decide _, ring.pushSlice _) = (pushFrames _ _ _).run answer ring
  rw [frames, slice, dropped]
  simp [acceptedOf, framesOf]

theorem stereo_paths_agree :
    (push (.all : ChannelMode 2) [⟨1⟩, ⟨2⟩, ⟨3⟩, ⟨4⟩, ⟨5⟩]).run answer ⟨4, [⟨9⟩], by decide⟩ =
      (push (.selected [0, 1] (by decide) : ChannelMode 2) [⟨1⟩, ⟨2⟩, ⟨3⟩, ⟨4⟩, ⟨5⟩]).run answer
        ⟨4, [⟨9⟩], by decide⟩ :=
  all_agrees_with_every_channel (by decide) _ _

end
end Phase4.Managers.Capture
