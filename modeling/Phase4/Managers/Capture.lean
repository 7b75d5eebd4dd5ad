import Phase4.Managers.Analyser
import Phase4.Managers.Audio

namespace Phase4.Managers.Capture
open Library Dsp Audio

/-! ## A producer, the ring and the analyser -/

def chunkMs : Nat := 10

inductive Source where
  | sink (hwChannels : Nat) (positive : 0 < hwChannels) (mode : ChannelMode hwChannels)
  | generator (specs : Specs) (positive : 0 < specs.channels)

namespace Source

def hwChannels : Source → Nat
  | .sink hwChannels _ _ => hwChannels
  | .generator specs _ => specs.channels

def mode : (source : Source) → ChannelMode source.hwChannels
  | .sink _ _ mode => mode
  | .generator _ _ => .all

/-- Samples of one frame in the ring, which are the channels the analyser is given. -/
def width (source : Source) : Nat := source.mode.width

def Feeds : Source → List F32 → Prop
  | .sink _ _ _, _ => True
  | .generator specs _, data => data.length = specs.frameAlignedSamplesForMs chunkMs

instance (source : Source) (data : List F32) : Decidable (source.Feeds data) :=
  match source with
  | .sink _ _ _ => inferInstanceAs (Decidable True)
  | .generator _ _ => inferInstanceAs (Decidable (_ = _))

def call : (source : Source) → List F32 → RingProgram (Option Bool)
  | .sink _ _ mode, data => push mode data >>= fun dropped => return some dropped
  | .generator specs _, data => generate specs data >>= fun _ => return none

def report : Source → Bool → Option Bool
  | .sink _ _ _, dropped => some dropped
  | .generator _ _, _ => none

theorem call_eq {source : Source} {data : List F32} (feeds : source.Feeds data) :
    source.call data = push source.mode data >>= fun dropped => .done (source.report dropped) := by
  cases source with
  | sink hwChannels positive mode => rfl
  | generator specs positive =>
      have whole : data.length % specs.channels = 0 := by
        rw [show data.length = _ from feeds]
        exact specs.frameAligned_mod chunkMs
      rw [call, generate_eq specs data whole, Program.bind_assoc]
      rfl

theorem hwChannels_positive (source : Source) : 0 < source.hwChannels := by
  cases source with
  | sink hwChannels positive mode => exact positive
  | generator specs positive => exact positive

theorem width_positive (source : Source) : 0 < source.width := by
  unfold width
  cases shape : source.mode with
  | all => exact source.hwChannels_positive
  | selected indices nonempty => exact List.length_pos_iff.mpr nonempty

end Source

structure Pushing where
  data : List F32
  answers : List Nat
  program : RingProgram (Option Bool)

structure Call where
  data : List F32
  answers : List Nat
  result : Option Bool

structure State (Filter : Type) where
  ring : Fifo F32
  pushing : Option Pushing
  calls : List Call
  analyser : Analyser.State Filter
  analysed : List (List F32)

inductive Action where
  | push (data : List F32)
  | produce (observed : Nat)
  | consume (count : Nat) (mapperGone : Bool)

section
variable {Filter : Type} (ops : Primitives Filter) (source : Source)

namespace State

def init (capacity bufferLen : Nat) (setup : VocoderSetup Filter) : State Filter where
  ring := .empty capacity
  pushing := none
  calls := []
  analyser := .new source.width bufferLen setup
  analysed := []

def callPush (state : State Filter) (data : List F32) : Option (State Filter) :=
  if source.Feeds data then
    match state.pushing with
    | some _ => none
    | none => some { state with pushing := some ⟨data, [], source.call data⟩ }
  else none

/-- One operation of the producer on the ring, or its return. What it sees of the vacant space
may be out of date, but then there is only more of it. -/
def produce (state : State Filter) (observed : Nat) : Option (State Filter) :=
  match state.pushing with
  | none => none
  | some ⟨data, answers, .done result⟩ => some { state with
      pushing := none
      calls := state.calls ++ [⟨data, answers, result⟩] }
  | some ⟨data, answers, .call .vacantLen next⟩ =>
      if observed ≤ state.ring.vacant then
        some { state with pushing := some ⟨data, answers ++ [observed], next observed⟩ }
      else none
  | some ⟨data, answers, .call (.pushSlice slice) next⟩ => some { state with
      ring := state.ring.pushSlice slice
      pushing := some ⟨data, answers, next (min slice.length state.ring.vacant)⟩ }
  | some ⟨data, answers, .call (.tryPush sample) next⟩ => some { state with
      ring := state.ring.pushSlice [sample]
      pushing := some ⟨data, answers, next (decide (0 < state.ring.vacant))⟩ }

/-- One round of the analyser thread, which asks for `count` samples or fewer than are free in
its transfer buffer. -/
def consume (state : State Filter) (count : Nat) (mapperGone : Bool) : Option (State Filter) :=
  let popped := state.ring.popSlice count
  let active := state.analyser.activeBuffer popped.1
  (state.analyser.drain ops mapperGone popped.1).map fun analyser => { state with
    ring := popped.2
    analyser
    analysed := if active = [] then state.analysed else state.analysed ++ [active] }

end State

def step (state : State Filter) : Action → Option (State Filter)
  | .push data => state.callPush source data
  | .produce observed => state.produce observed
  | .consume count mapperGone => state.consume ops count mapperGone

end

/-! ## What a call accepts -/

section
variable {hwChannels : Nat}

def framesOf (mode : ChannelMode hwChannels) (data : List F32) : List (List F32) :=
  match mode with
  | .all => chunksExact hwChannels data
  | .selected indices _ => (chunksExact hwChannels data).map fun frame =>
      ChannelMode.project frame indices

/-- The frames a call lets in, given the vacant space it saw: a run of leading frames in one
slice, or each frame that found room. -/
def acceptedOf (mode : ChannelMode hwChannels) (data : List F32) (answers : List Nat) :
    List (List F32) :=
  match mode with
  | .all => match answers with
      | [] => []
      | vacant :: _ => (framesOf (.all : ChannelMode hwChannels) data).take (vacant / hwChannels)
  | .selected indices nonempty => (((framesOf (.selected indices nonempty) data).zip answers).filter
      fun entry => decide (indices.length ≤ entry.2)).map Prod.fst

theorem zip_fst_sublist {α β : Type} (items : List α) (marks : List β) :
    ((items.zip marks).map Prod.fst).Sublist items := by
  induction items generalizing marks with
  | nil => simp
  | cons item rest ih =>
      cases marks with
      | nil => simp
      | cons mark marks => exact (ih marks).cons_cons item

theorem acceptedOf_sublist (mode : ChannelMode hwChannels) (data : List F32)
    (answers : List Nat) : (acceptedOf mode data answers).Sublist (framesOf mode data) := by
  cases mode with
  | all =>
      cases answers with
      | nil => exact List.nil_sublist _
      | cons vacant rest => exact List.take_sublist _ _
  | selected indices nonempty =>
      have zipped : (((framesOf (.selected indices nonempty) data).zip answers).map Prod.fst).Sublist
          (framesOf (.selected indices nonempty) data) := zip_fst_sublist _ _
      exact (List.filter_sublist.map Prod.fst).trans zipped

theorem mem_framesOf {mode : ChannelMode hwChannels} {data frame : List F32}
    (positive : 0 < hwChannels) (member : frame ∈ framesOf mode data) :
    frame.length = mode.width := by
  cases mode with
  | all => exact mem_chunksExact positive member
  | selected indices nonempty =>
      obtain ⟨whole, _, rfl⟩ := List.mem_map.mp member
      simp [ChannelMode.project, ChannelMode.width]

theorem acceptedOf_snoc {indices : List (Fin hwChannels)} (nonempty : indices ≠ [])
    {data frame : List F32} {before rest : List (List F32)} {answers : List Nat} {vacant : Nat}
    (split : chunksExact hwChannels data = before ++ frame :: rest)
    (count : answers.length = before.length) :
    acceptedOf (.selected indices nonempty) data (answers ++ [vacant]) =
      acceptedOf (.selected indices nonempty) data answers ++
        if indices.length ≤ vacant then [ChannelMode.project frame indices] else [] := by
  have frames : framesOf (.selected indices nonempty) data =
      before.map (fun frame => ChannelMode.project frame indices) ++
        ChannelMode.project frame indices ::
          rest.map fun frame => ChannelMode.project frame indices := by
    rw [framesOf, split, List.map_append, List.map_cons]
  have seen : (before.map fun frame => ChannelMode.project frame indices).length =
      answers.length := by
    rw [List.length_map, count]
  simp only [acceptedOf, frames]
  rw [List.zip_append seen, List.zip_cons_cons, List.zip_nil_right]
  conv_rhs => rw [← List.append_nil answers, List.zip_append seen, List.zip_nil_right, List.append_nil]
  rw [List.filter_append, List.map_append]
  congr 1
  by_cases room : indices.length ≤ vacant
  · simp [room]
  · simp [room]

theorem acceptedOf_length_le {indices : List (Fin hwChannels)} (nonempty : indices ≠ [])
    (data : List F32) (answers : List Nat) :
    (acceptedOf (.selected indices nonempty) data answers).length ≤ answers.length := by
  rw [acceptedOf, List.length_map]
  refine (List.length_filter_le _ _).trans ?_
  rw [List.length_zip]
  exact min_le_right _ _

inductive PushAt (report : Bool → Option Bool) (data : List F32) (vacant : Nat) :
    ChannelMode hwChannels → List Nat → List F32 → RingProgram (Option Bool) → Prop
  | asking : PushAt report data vacant .all [] []
      (push (.all : ChannelMode hwChannels) data >>= fun dropped => .done (report dropped))
  | writing (seen : Nat) (fits : seen ≤ vacant) :
      PushAt report data vacant .all [seen] []
        (.call (.pushSlice (data.take (min (data.length / hwChannels * hwChannels)
            (seen / hwChannels * hwChannels)))) fun _ =>
          .done (report (decide (min (data.length / hwChannels * hwChannels)
            (seen / hwChannels * hwChannels) < data.length / hwChannels * hwChannels))))
  | written (seen : Nat) :
      PushAt report data vacant .all [seen] (data.take (min (data.length / hwChannels * hwChannels)
          (seen / hwChannels * hwChannels)))
        (.done (report (decide (min (data.length / hwChannels * hwChannels)
          (seen / hwChannels * hwChannels) < data.length / hwChannels * hwChannels))))
  | choosing (indices : List (Fin hwChannels)) (nonempty : indices ≠ [])
      (before rest : List (List F32)) (answers : List Nat) (dropped : Bool)
      (split : chunksExact hwChannels data = before ++ rest)
      (count : answers.length = before.length)
      (tells : dropped = decide
        ((acceptedOf (.selected indices nonempty) data answers).length < before.length)) :
      PushAt report data vacant (.selected indices nonempty) answers
        (acceptedOf (.selected indices nonempty) data answers).flatten
        (pushFrames indices dropped rest >>= fun dropped => .done (report dropped))
  | pushing (indices : List (Fin hwChannels)) (nonempty : indices ≠ [])
      (before : List (List F32)) (frame : List F32) (rest : List (List F32)) (answers : List Nat)
      (seen : Nat) (dropped : Bool) (front back : List (Fin hwChannels))
      (split : chunksExact hwChannels data = before ++ frame :: rest)
      (count : answers.length = before.length)
      (tells : dropped = decide
        ((acceptedOf (.selected indices nonempty) data answers).length < before.length))
      (room : indices.length ≤ seen) (own : indices = front ++ back)
      (more : back ≠ []) (fits : back.length ≤ vacant) :
      PushAt report data vacant (.selected indices nonempty) (answers ++ [seen])
        ((acceptedOf (.selected indices nonempty) data answers).flatten ++
          ChannelMode.project frame front)
        (pushIndices frame back >>= fun _ => pushFrames indices dropped rest >>= fun dropped =>
          .done (report dropped))

namespace PushAt
variable {mode : ChannelMode hwChannels} {report : Bool → Option Bool} {data : List F32}
  {vacant : Nat} {answers : List Nat} {pushed : List F32} {program : RingProgram (Option Bool)}

theorem mono (here : PushAt report data vacant mode answers pushed program) {room : Nat}
    (le : vacant ≤ room) : PushAt report data room mode answers pushed program := by
  cases here with
  | asking => exact .asking
  | writing seen fits => exact .writing seen (fits.trans le)
  | written seen => exact .written seen
  | choosing indices nonempty before rest answers dropped split count tells =>
      exact .choosing indices nonempty before rest answers dropped split count tells
  | pushing indices nonempty before frame rest answers seen dropped front back split count tells
      room own more fits =>
      exact .pushing indices nonempty before frame rest answers seen dropped front back split count
        tells room own more (fits.trans le)

theorem slice_eq (positive : 0 < hwChannels) (data : List F32) (seen : Nat) :
    data.take (min (data.length / hwChannels * hwChannels) (seen / hwChannels * hwChannels)) =
      (acceptedOf (.all : ChannelMode hwChannels) data [seen]).flatten := by
  rw [acceptedOf, framesOf, take_frames (fun _ => mem_chunksExact positive),
    chunksExact_flatten positive, List.take_take, min_comm]
  rfl

theorem slice_dropped (positive : 0 < hwChannels) (data : List F32) (seen : Nat) :
    decide (min (data.length / hwChannels * hwChannels) (seen / hwChannels * hwChannels) <
        data.length / hwChannels * hwChannels) =
      decide ((acceptedOf (.all : ChannelMode hwChannels) data [seen]).length <
        (framesOf (.all : ChannelMode hwChannels) data).length) := by
  rw [acceptedOf, framesOf, List.length_take, chunksExact_length, decide_eq_decide, min_lt_iff,
    min_lt_iff]
  simp [Nat.mul_lt_mul_right positive]

theorem pushed_prefix (positive : 0 < hwChannels)
    (here : PushAt report data vacant mode answers pushed program) :
    pushed <+: (acceptedOf mode data answers).flatten := by
  cases here with
  | asking => exact List.nil_prefix
  | writing seen fits => exact List.nil_prefix
  | written seen => rw [slice_eq positive]
  | choosing => exact List.prefix_refl _
  | pushing indices nonempty before frame rest answers seen dropped front back split count tells
      room own more fits =>
      rw [acceptedOf_snoc nonempty split count, if_pos room, List.flatten_append,
        List.flatten_singleton]
      refine (List.prefix_append_right_inj _).mpr ?_
      rw [own, ChannelMode.project, ChannelMode.project, List.map_append]
      exact List.prefix_append _ _

theorem finished (positive : 0 < hwChannels) {result : Option Bool}
    (here : PushAt report data vacant mode answers pushed (.done result)) :
    pushed = (acceptedOf mode data answers).flatten ∧ result = report (decide
      ((acceptedOf mode data answers).length < (framesOf mode data).length)) := by
  generalize shape : (Program.done result : RingProgram (Option Bool)) = program at here
  cases here with
  | asking => cases shape
  | writing => cases shape
  | written seen =>
      cases shape
      exact ⟨slice_eq positive data seen, by rw [slice_dropped positive]⟩
  | choosing indices nonempty before rest answers dropped split count tells =>
      cases rest with
      | cons frame rest => cases shape
      | nil =>
          cases shape
          refine ⟨rfl, ?_⟩
          rw [tells, framesOf, List.length_map, split, List.append_nil]
  | pushing indices nonempty before frame rest answers seen dropped front back split count tells
      room own more fits =>
      cases back with
      | cons index back => cases shape
      | nil => exact absurd rfl more

theorem begin_push (mode : ChannelMode hwChannels) (report : Bool → Option Bool)
    (data : List F32) (vacant : Nat) : PushAt report data vacant mode [] []
      (push mode data >>= fun dropped => .done (report dropped)) := by
  cases mode with
  | all => exact .asking
  | selected indices nonempty =>
      have nothing : acceptedOf (.selected indices nonempty) data [] = [] := by
        simp [acceptedOf]
      have here : PushAt report data vacant (.selected indices nonempty) []
          (acceptedOf (.selected indices nonempty) data []).flatten
          (pushFrames indices false (chunksExact hwChannels data) >>= fun dropped =>
            .done (report dropped)) :=
        .choosing indices nonempty [] _ [] false rfl rfl (by rw [nothing]; rfl)
      rw [nothing] at here
      exact here

theorem look {next : Nat → RingProgram (Option Bool)}
    (here : PushAt report data vacant mode answers pushed (.call .vacantLen next)) {seen : Nat}
    (conservative : seen ≤ vacant) :
    PushAt report data vacant mode (answers ++ [seen]) pushed (next seen) := by
  generalize shape : (Program.call .vacantLen next : RingProgram (Option Bool)) = program at here
  cases here with
  | asking =>
      cases shape
      exact .writing seen conservative
  | writing => cases shape
  | written => cases shape
  | choosing indices nonempty before rest answers dropped split count tells =>
      cases rest with
      | nil => cases shape
      | cons frame rest =>
          cases shape
          by_cases room : indices.length ≤ seen
          · have admitted : PushAt report data vacant (.selected indices nonempty)
                (answers ++ [seen])
                ((acceptedOf (.selected indices nonempty) data answers).flatten ++
                  ChannelMode.project frame [])
                (pushIndices frame indices >>= fun _ => pushFrames indices dropped rest >>=
                  fun dropped => .done (report dropped)) :=
              .pushing indices nonempty before frame rest answers seen dropped [] indices split
                count tells room rfl nonempty (room.trans conservative)
            simpa [ChannelMode.project, Nat.not_lt.mpr room] using admitted
          · have same : acceptedOf (.selected indices nonempty) data (answers ++ [seen]) =
                acceptedOf (.selected indices nonempty) data answers := by
              rw [acceptedOf_snoc nonempty split count, if_neg room, List.append_nil]
            have few := acceptedOf_length_le nonempty data answers
            have refused : PushAt report data vacant (.selected indices nonempty)
                (answers ++ [seen])
                (acceptedOf (.selected indices nonempty) data (answers ++ [seen])).flatten
                (pushFrames indices true rest >>= fun dropped => .done (report dropped)) := by
              refine .choosing indices nonempty (before ++ [frame]) rest (answers ++ [seen]) true
                (by simp [split]) (by simp [count]) ?_
              rw [same, List.length_append, List.length_singleton]
              exact (decide_eq_true (by omega)).symm
            rw [same] at refused
            simpa [Nat.lt_of_not_le room] using refused
  | pushing indices nonempty before frame rest answers seen dropped front back split count tells
      room own more fits =>
      cases back with
      | nil => exact absurd rfl more
      | cons index back => cases shape

theorem slice {slice : List F32} {next : Nat → RingProgram (Option Bool)}
    (here : PushAt report data vacant mode answers pushed (.call (.pushSlice slice) next))
    (answer : Nat) : slice.length ≤ vacant ∧
      PushAt report data (vacant - slice.length) mode answers (pushed ++ slice) (next answer) := by
  generalize shape : (Program.call (.pushSlice slice) next : RingProgram (Option Bool)) = program
    at here
  cases here with
  | asking => cases shape
  | writing seen fits =>
      cases shape
      have whole := Nat.div_mul_le_self seen hwChannels
      exact ⟨(List.length_take_le _ _).trans ((min_le_right _ _).trans (whole.trans fits)),
        .written seen⟩
  | written => cases shape
  | choosing indices nonempty before rest => cases rest <;> cases shape
  | pushing indices nonempty before frame rest answers seen dropped front back split count tells
      room own more fits =>
      cases back with
      | nil => exact absurd rfl more
      | cons index back => cases shape

theorem sample {sample : F32} {next : Bool → RingProgram (Option Bool)}
    (here : PushAt report data vacant mode answers pushed (.call (.tryPush sample) next))
    (answer : Bool) : 1 ≤ vacant ∧
      PushAt report data (vacant - 1) mode answers (pushed ++ [sample]) (next answer) := by
  generalize shape : (Program.call (.tryPush sample) next : RingProgram (Option Bool)) = program
    at here
  cases here with
  | asking => cases shape
  | writing => cases shape
  | written => cases shape
  | choosing indices nonempty before rest => cases rest <;> cases shape
  | pushing indices nonempty before frame rest answers seen dropped front back split count tells
      room own more fits =>
      cases back with
      | nil => exact absurd rfl more
      | cons index back =>
          cases shape
          rw [List.length_cons] at fits
          have grown : ChannelMode.project frame (front ++ [index]) =
              ChannelMode.project frame front ++ [frame.getD index.val F32.zero] := by
            simp [ChannelMode.project]
          refine ⟨by omega, ?_⟩
          rw [List.append_assoc, ← grown]
          cases back with
          | cons next back =>
              exact .pushing indices nonempty before frame rest answers seen dropped
                (front ++ [index]) (next :: back) split count tells room (by simp [own])
                (List.cons_ne_nil _ _) (by omega)
          | nil =>
              have snoc : acceptedOf (.selected indices nonempty) data (answers ++ [seen]) =
                  acceptedOf (.selected indices nonempty) data answers ++
                    [ChannelMode.project frame indices] := by
                rw [acceptedOf_snoc nonempty split count, if_pos room]
              have done' : PushAt report data (vacant - 1) (.selected indices nonempty)
                  (answers ++ [seen])
                  (acceptedOf (.selected indices nonempty) data (answers ++ [seen])).flatten
                  (pushFrames indices dropped rest >>= fun dropped => .done (report dropped)) := by
                refine .choosing indices nonempty (before ++ [frame]) rest (answers ++ [seen])
                  dropped (by simp [split]) (by simp [count]) ?_
                rw [snoc, tells]
                simp
              rw [snoc, List.flatten_append, List.flatten_singleton] at done'
              rw [← own]
              exact done'

end PushAt
end

/-! ## Whole runs -/

section
variable {Filter : Type} {ops : Primitives Filter} {source : Source} {setup : VocoderSetup Filter}
  {capacity bufferLen : Nat} {state next : State Filter}

def accepted (source : Source) (state : State Filter) : List (List F32) :=
  state.calls.flatMap (fun call => acceptedOf source.mode call.data call.answers) ++
    match state.pushing with
    | none => []
    | some pushing => acceptedOf source.mode pushing.data pushing.answers

def offered (source : Source) (state : State Filter) : List (List F32) :=
  state.calls.flatMap (fun call => framesOf source.mode call.data) ++
    match state.pushing with
    | none => []
    | some pushing => framesOf source.mode pushing.data

def ProducerAt (source : Source) (state : State Filter) (pushed : List F32) : Prop :=
  match state.pushing with
  | none => pushed = []
  | some pushing => PushAt source.report pushing.data state.ring.vacant source.mode
      pushing.answers pushed pushing.program

structure Invariant (ops : Primitives Filter) (source : Source) (setup : VocoderSetup Filter)
    (bufferLen : Nat) (state : State Filter) (consumed pushed : List F32) : Prop where
  follows : Analyser.Follows ops setup source.width bufferLen consumed state.analyser
  conserved : consumed ++ state.ring.items = (state.calls.flatMap fun call =>
    acceptedOf source.mode call.data call.answers).flatten ++ pushed
  producer : ProducerAt source state pushed
  analysed : state.analysed.flatten = consumed.take (aligned source.width consumed)
  whole : ∀ chunk ∈ state.analysed, chunk.length % source.width = 0 ∧ chunk ≠ []
  results : ∀ call ∈ state.calls, call.result = source.report (decide
    ((acceptedOf source.mode call.data call.answers).length <
      (framesOf source.mode call.data).length))

theorem invariant_init : Invariant ops source setup bufferLen
    (State.init source capacity bufferLen setup) [] [] where
  follows := Analyser.follows_new ops setup source.width_positive bufferLen
  conserved := rfl
  producer := rfl
  analysed := by simp [State.init]
  whole := by simp [State.init]
  results := by simp [State.init]

theorem invariant_push {consumed pushed : List F32} {data : List F32}
    (here : Invariant ops source setup bufferLen state consumed pushed)
    (moved : state.callPush source data = some next) :
    Invariant ops source setup bufferLen next consumed pushed := by
  unfold State.callPush at moved
  split_ifs at moved with feeds
  split at moved
  · cases moved
  · rename_i idle
    cases moved
    have none_pushed := here.producer
    rw [ProducerAt, idle] at none_pushed
    refine { here with producer := ?_ }
    rw [ProducerAt, none_pushed]
    dsimp only
    rw [Source.call_eq feeds]
    exact PushAt.begin_push source.mode source.report data _

theorem invariant_more {consumed pushed more : List F32}
    (here : Invariant ops source setup bufferLen state consumed pushed)
    (fits : more.length ≤ state.ring.vacant) (ring : next.ring = state.ring.pushSlice more)
    (calls : next.calls = state.calls) (analyser : next.analyser = state.analyser)
    (analysed : next.analysed = state.analysed)
    (producer : ProducerAt source next (pushed ++ more)) :
    Invariant ops source setup bufferLen next consumed (pushed ++ more) where
  follows := by
    rw [analyser]
    exact here.follows
  conserved := by
    rw [ring, state.ring.pushSlice_items fits, calls, ← List.append_assoc, here.conserved,
      List.append_assoc]
  producer
  analysed := by
    rw [analysed]
    exact here.analysed
  whole := by
    rw [analysed]
    exact here.whole
  results := by
    rw [calls]
    exact here.results

theorem invariant_produce {consumed pushed : List F32} {observed : Nat}
    (here : Invariant ops source setup bufferLen state consumed pushed)
    (moved : state.produce observed = some next) :
    ∃ pushed, Invariant ops source setup bufferLen next consumed pushed := by
  have producer := here.producer
  unfold ProducerAt at producer
  unfold State.produce at moved
  split at moved
  · cases moved
  · rename_i data answers result running
    rw [running] at producer
    cases moved
    obtain ⟨all, told⟩ := producer.finished source.hwChannels_positive
    refine ⟨[], { here with conserved := ?_, producer := rfl, results := ?_ }⟩
    · rw [here.conserved, List.flatMap_append, List.flatten_append, List.append_nil, all,
        List.flatMap_singleton]
    · intro call member
      rcases List.mem_append.mp member with earlier | new
      · exact here.results call earlier
      · rw [List.mem_singleton.mp new]
        exact told
  · rename_i data answers rest running
    rw [running] at producer
    split_ifs at moved with conservative
    cases moved
    exact ⟨pushed, { here with producer := producer.look conservative }⟩
  · rename_i data answers slice rest running
    rw [running] at producer
    cases moved
    obtain ⟨fits, later⟩ := producer.slice (min slice.length state.ring.vacant)
    rw [← state.ring.pushSlice_vacant fits] at later
    exact ⟨pushed ++ slice, invariant_more here fits rfl rfl rfl rfl later⟩
  · rename_i data answers sample rest running
    rw [running] at producer
    cases moved
    obtain ⟨fits, later⟩ := producer.sample (decide (0 < state.ring.vacant))
    have one : [sample].length ≤ state.ring.vacant := fits
    rw [show state.ring.vacant - 1 = _ from (state.ring.pushSlice_vacant one).symm] at later
    exact ⟨pushed ++ [sample], invariant_more here one rfl rfl rfl rfl later⟩

theorem invariant_consume {consumed pushed : List F32} {count : Nat} {mapperGone : Bool}
    (here : Invariant ops source setup bufferLen state consumed pushed)
    (moved : state.consume ops count mapperGone = some next) :
    ∃ consumed, Invariant ops source setup bufferLen next consumed pushed := by
  have positive := source.width_positive
  rw [State.consume] at moved
  obtain ⟨analyser, drained, rfl⟩ := Option.map_eq_some_iff.mp moved
  obtain ⟨after, reached, follows, _⟩ := Analyser.drain_spec positive here.follows
    (Analyser.drain_fits here.follows drained) mapperGone
  rw [drained] at reached
  cases reached
  have active := Analyser.activeBuffer_eq here.follows (state.ring.popSlice count).1
  have more := take_aligned_append positive consumed (state.ring.popSlice count).1
  refine ⟨consumed ++ (state.ring.popSlice count).1, follows, ?_, ?_, ?_, ?_, here.results⟩
  · rw [List.append_assoc, Fifo.popSlice_items]
    exact here.conserved
  · have producer := here.producer
    rw [ProducerAt] at producer ⊢
    dsimp only
    cases running : state.pushing with
    | none => rwa [running] at producer
    | some pushing =>
        rw [running] at producer
        exact producer.mono (state.ring.vacant_le_popSlice count)
  · dsimp only
    split_ifs with empty
    · rw [here.analysed, more, ← Analyser.waiting, ← active, empty, List.append_nil]
    · rw [List.flatten_append, List.flatten_singleton, here.analysed, more, active]
      rfl
  · dsimp only
    split_ifs with empty
    · exact here.whole
    · intro chunk member
      rcases List.mem_append.mp member with earlier | new
      · exact here.whole chunk earlier
      · rw [List.mem_singleton.mp new]
        refine ⟨?_, empty⟩
        rw [active, List.length_take_of_le (aligned_le _ _)]
        exact Nat.mul_mod_left _ _

theorem invariant_run {schedule : List Action} {last : State Filter}
    (run : exec (step ops source) (State.init source capacity bufferLen setup) schedule =
      some last) : ∃ consumed pushed, Invariant ops source setup bufferLen last consumed pushed := by
  refine exec_invariant (motive := fun state => ∃ consumed pushed,
    Invariant ops source setup bufferLen state consumed pushed)
    ⟨[], [], invariant_init⟩ ?_ run
  rintro state action next ⟨consumed, pushed, here⟩ moved
  cases action with
  | push data => exact ⟨consumed, pushed, invariant_push here moved⟩
  | produce observed => exact ⟨consumed, invariant_produce here moved⟩
  | consume count mapperGone =>
      obtain ⟨later, after⟩ := invariant_consume here moved
      exact ⟨later, pushed, after⟩

theorem accepted_sublist (source : Source) (state : State Filter) :
    (accepted source state).Sublist (offered source state) := by
  refine List.Sublist.append ?_ ?_
  · induction state.calls with
    | nil => exact List.Sublist.refl _
    | cons call rest ih =>
        rw [List.flatMap_cons, List.flatMap_cons]
        exact (acceptedOf_sublist source.mode call.data call.answers).append ih
  · cases state.pushing with
    | none => exact List.Sublist.refl _
    | some pushing => exact acceptedOf_sublist source.mode pushing.data pushing.answers

theorem mem_accepted {frame : List F32} (member : frame ∈ accepted source state) :
    frame.length = source.width := by
  have offer := (accepted_sublist source state).subset member
  rcases List.mem_append.mp offer with earlier | current
  · obtain ⟨call, _, inCall⟩ := List.mem_flatMap.mp earlier
    exact mem_framesOf source.hwChannels_positive inCall
  · cases running : state.pushing with
    | none => simp [running] at current
    | some pushing =>
        rw [running] at current
        exact mem_framesOf source.hwChannels_positive current

theorem Invariant.samples {consumed pushed : List F32}
    (here : Invariant ops source setup bufferLen state consumed pushed) :
    state.analysed.flatten ++ state.analyser.transferBuffer.take state.analyser.pending ++
        state.ring.items = (state.calls.flatMap fun call =>
      acceptedOf source.mode call.data call.answers).flatten ++ pushed := by
  rw [here.analysed, here.follows.carried, List.take_append_drop, here.conserved]

theorem Invariant.samples_prefix {consumed pushed : List F32}
    (here : Invariant ops source setup bufferLen state consumed pushed) :
    state.analysed.flatten ++ state.analyser.transferBuffer.take state.analyser.pending ++
      state.ring.items <+: (accepted source state).flatten := by
  have producer := here.producer
  rw [here.samples, accepted, List.flatten_append]
  apply (List.prefix_append_right_inj _).mpr
  unfold ProducerAt at producer
  cases running : state.pushing with
  | none =>
      rw [running] at producer
      rw [producer]
      exact List.nil_prefix
  | some pushing =>
      rw [running] at producer
      exact producer.pushed_prefix source.hwChannels_positive

/-- However the producer and the analyser interleave, the samples analysed, carried and queued
are the accepted frames in order, no frame is ever torn, and a call owns up to what it drops. -/
theorem capture_keeps_frames_whole (ops : Primitives Filter) (source : Source)
    (setup : VocoderSetup Filter) (capacity bufferLen : Nat) {schedule : List Action}
    {last : State Filter}
    (run : exec (step ops source) (State.init source capacity bufferLen setup) schedule =
      some last) :
    let samples := last.analysed.flatten ++
      last.analyser.transferBuffer.take last.analyser.pending ++ last.ring.items
    samples <+: (accepted source last).flatten ∧
    (last.pushing = none → samples = (accepted source last).flatten) ∧
    (accepted source last).Sublist (offered source last) ∧
    (∃ groups : List (List (List F32)), last.analysed = groups.map List.flatten ∧
      (∀ group ∈ groups, group ≠ []) ∧ groups.flatten <+: accepted source last) ∧
    last.analyser.channels = source.width ∧ last.analyser.pending < source.width ∧
    ∀ call ∈ last.calls, call.result = source.report (decide
      ((acceptedOf source.mode call.data call.answers).length <
        (framesOf source.mode call.data).length)) := by
  obtain ⟨consumed, pushed, here⟩ := invariant_run run
  have positive := source.width_positive
  have samples := here.samples
  have producer := here.producer
  have first := here.samples_prefix
  refine ⟨first, ?_, accepted_sublist source last, ?_, here.follows.width, ?_, here.results⟩
  · intro idle
    rw [ProducerAt, idle] at producer
    rw [samples, accepted, idle, producer, List.append_nil, List.append_nil]
  · refine ⟨last.analysed.map (chunksExact source.width), ?_, ?_, ?_⟩
    · rw [List.map_map]
      conv_lhs => rw [← List.map_id last.analysed]
      apply List.map_congr_left
      intro chunk member
      exact (chunksExact_whole positive (here.whole chunk member).1).symm
    · intro group member
      obtain ⟨chunk, isChunk, rfl⟩ := List.mem_map.mp member
      intro empty
      apply (here.whole chunk isChunk).2
      rw [← chunksExact_whole positive (here.whole chunk isChunk).1, empty]
      rfl
    · rw [← chunksExact_flatten_pieces positive fun chunk member => (here.whole chunk member).1]
      have frames := chunksExact_frames positive fun frame (member : frame ∈ accepted source last) =>
        mem_accepted member
      rw [← frames]
      refine chunksExact_prefix positive (List.IsPrefix.trans ?_ first)
      rw [List.append_assoc]
      exact List.prefix_append _ _
  · rw [here.follows.pending]
    exact Nat.mod_lt _ positive

end

def twoOfThree : Source := .sink 3 (by decide) (.selected [0, 2] (by decide))

def overflow : List Action :=
  [.push ((List.range 10).map fun i => ⟨BitVec.ofNat 32 i⟩), .produce 4, .produce 0,
    .consume 1 false, .produce 0, .produce 3, .produce 0, .produce 0, .produce 1, .produce 0,
    .consume 3 false]

theorem overflow_drops_a_whole_frame : ∃ last : State Unit,
    exec (step Analyser.atRest twoOfThree)
      (State.init twoOfThree 4 4 Analyser.restSetup) overflow = some last ∧
    last.calls.map Call.result = [some true] ∧
    last.analysed.flatten ++ last.analyser.transferBuffer.take last.analyser.pending ++
      last.ring.items = (accepted twoOfThree last).flatten := by
  have observed : (exec (step Analyser.atRest twoOfThree)
      (State.init twoOfThree 4 4 Analyser.restSetup) overflow).any (fun last =>
        last.pushing.isNone && decide (last.calls.map Call.result = [some true])) = true := by
    decide +kernel
  obtain ⟨last, reached, checked⟩ := (Option.any_eq_true _ _).mp observed
  obtain ⟨idle, results⟩ := Bool.and_eq_true_iff.mp checked
  refine ⟨last, reached, of_decide_eq_true results, ?_⟩
  exact (capture_keeps_frames_whole Analyser.atRest twoOfThree Analyser.restSetup 4 4 reached).2.1
    (Option.isNone_iff_eq_none.mp idle)

end Phase4.Managers.Capture
