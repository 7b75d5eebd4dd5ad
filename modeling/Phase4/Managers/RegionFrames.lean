import Phase4.Frames.Store
import Phase4.Managers.EndToEnd

namespace Phase4.Managers.EndToEnd
open Library Dsp Capture

/-! ## From the sound card to the shared region

The frame writer holds the lock of the raw channel from its read to the end of its call of
`publish`, so the two are one step. -/

structure Shared (Filter : Type) where
  system : State Filter
  store : Frames.Store

section
variable {Filter : Type} (ops : Primitives Filter) (source : Source)
  (toJson : DisplayPayload → Option String) (region : Frames.FrameRegion)

/-- The rest of an iteration of `FrameWriter::run`, from its read on. -/
def publishFrame (state : Shared Filter) : Action → Option Frames.Store
  | .thread (.writeFrame midi publishedNs) =>
      let raw := state.system.pipeline.rawTx.value
      if raw.channels.isEmpty then some state.store
      else state.store.publish region ⟨raw.channels, midi, publishedNs⟩
  | _ => some state.store

def Shared.step (state : Shared Filter) (action : Action) : Option (Shared Filter) := do
  let system ← EndToEnd.step ops source toJson state.system action
  let store ← publishFrame region state action
  return ⟨system, store⟩

end

section
variable {Filter : Type} {ops : Primitives Filter} {source : Source} {setup : VocoderSetup Filter}
  {bufferLen capacity maxClients : Nat} {toJson : DisplayPayload → Option String}
  {region : Frames.FrameRegion}

theorem analysed_grows {state next : State Filter} {action : Action} {consumed pushed : List F32}
    (here : Invariant ops source setup bufferLen state.capture consumed pushed)
    (moved : step ops source toJson state action = some next) :
    ∃ more, next.capture.analysed = state.capture.analysed ++ more := by
  have same (kept : next.capture.analysed = state.capture.analysed) :
      ∃ more, next.capture.analysed = state.capture.analysed ++ more :=
    ⟨[], kept.trans (List.append_nil _).symm⟩
  cases action with
  | push data =>
      obtain ⟨after, pushes, rfl⟩ := Option.map_eq_some_iff.mp moved
      exact same (push_keeps pushes).2
  | produce observed =>
      obtain ⟨after, produces, rfl⟩ := Option.map_eq_some_iff.mp moved
      exact same (produce_keeps produces).2
  | analyse count mapperGone =>
      simp only [step] at moved
      split_ifs at moved
      obtain ⟨capture, pipeline, popped, rfl, -⟩ := analyse_cases moved
      rcases consume_rounds here popped with ⟨-, kept, -⟩ | ⟨-, -, grown, -⟩ | ⟨-, -, grown, -⟩
      · exact same kept
      · exact ⟨_, grown⟩
      · exact ⟨_, grown⟩
  | thread action =>
      obtain ⟨pipeline, -, rfl, -⟩ := thread_cases moved
      exact same rfl
  | publish =>
      obtain ⟨payload, pipeline, server, -, -, -, rfl⟩ := publish_cases moved
      exact same rfl
  | server action =>
      obtain ⟨server, -, rfl, -⟩ := serve_cases moved
      exact same rfl
  | stop =>
      cases moved
      exact same rfl

theorem accepted_of_publish {store next : Frames.Store} {frame : Frames.Published}
    (published : store.publish region frame = some next) :
    next.accepted = store.accepted ∨ next.accepted = store.accepted ++ [frame] := by
  obtain ⟨program, -, rfl⟩ := Option.map_eq_some_iff.mp published
  dsimp only
  split_ifs
  · exact .inr rfl
  · exact .inl rfl

/-- Every frame a reader may find shows the reference, and the mapping keeps the last one. -/
structure Viewed (toJson : DisplayPayload → Option String) (ops : Primitives Filter)
    (source : Source) (setup : VocoderSetup Filter) (bufferLen : Nat)
    (region : Frames.FrameRegion) (state : Shared Filter) : Prop where
  captured : ∃ consumed pushed,
    Invariant ops source setup bufferLen state.system.capture consumed pushed
  carried : ∃ stages, state.system.Carried toJson ops source setup stages ∧
    InOrder (Shown ops setup source.width state.system.capture.analysed) stages.raw
      (state.store.accepted.map Frames.Published.channels)
  intact : state.store.accepted.length + 1 < 2 ^ 63 → Frames.Intact region state.store

theorem publishFrame_spec {state : Shared Filter} {stages : Stages} {action : Action}
    {store : Frames.Store} (width : region.channelCount = source.width)
    (carried : state.system.Carried toJson ops source setup stages)
    (intact : state.store.accepted.length + 1 < 2 ^ 63 → Frames.Intact region state.store)
    (published : publishFrame region state action = some store) :
    (store.accepted.length + 1 < 2 ^ 63 → Frames.Intact region store) ∧
      (store.accepted.map Frames.Published.channels =
          state.store.accepted.map Frames.Published.channels ∨
        store.accepted.map Frames.Published.channels =
          state.store.accepted.map Frames.Published.channels ++
            [state.system.pipeline.rawTx.value.channels]) := by
  unfold publishFrame at published
  split at published
  next midi publishedNs =>
    dsimp only at published
    split_ifs at published
    · cases published
      exact ⟨intact, .inl rfl⟩
    · let frame : Frames.Published :=
        ⟨state.system.pipeline.rawTx.value.channels, midi, publishedNs⟩
      have length : frame.channels.length = region.channelCount := by
        rw [width]
        exact carried.sized.raw
      have shape := accepted_of_publish published
      refine ⟨fun bound => ?_, ?_⟩
      · have fewer : state.store.accepted.length ≤ store.accepted.length := by
          rcases shape with same | more
          · rw [same]
          · simp [more]
        have before : state.store.accepted.length + 1 < 2 ^ 63 := by omega
        obtain ⟨next, reached, kept, -⟩ := (intact before).publish length before
        rw [published] at reached
        cases reached
        exact kept
      · rcases shape with same | more
        · exact .inl (by rw [same])
        · exact .inr (by rw [more, List.map_append, List.map_singleton])
  next =>
    cases published
    exact ⟨intact, .inl rfl⟩

theorem Viewed.step {state next : Shared Filter} {action : Action}
    (width : region.channelCount = source.width)
    (viewed : Viewed toJson ops source setup bufferLen region state)
    (moved : Shared.step ops source toJson region state action = some next) :
    Viewed toJson ops source setup bufferLen region next := by
  obtain ⟨⟨consumed, pushed, here⟩, ⟨stages, carried, ordered⟩, intact⟩ := viewed
  simp only [Shared.step, Option.bind_eq_bind, Option.pure_def, Option.bind_eq_some_iff] at moved
  obtain ⟨system, stepped, store, published, same⟩ := moved
  cases same
  obtain ⟨after, later, rises⟩ := carried_step here carried stepped
  obtain ⟨more, grown⟩ := analysed_grows here stepped
  obtain ⟨kept, added⟩ := publishFrame_spec width carried intact published
  refine ⟨captured_step here stepped, ⟨after, later, ?_⟩, kept⟩
  have seen : InOrder (Shown ops setup source.width state.system.capture.analysed) stages.raw
      (store.accepted.map Frames.Published.channels) := by
    rcases added with same | more
    · rw [same]
      exact ordered
    · rw [more]
      exact ordered.snoc carried.raw
  rw [grown]
  exact (seen.imp fun _ _ shown => shown.more more).later rises

/-- However the threads interleave, a reader of the shared region finds the last frame accepted,
every frame shows what reference analysers show that heard the accepted audio up to some buffer,
and a later frame never shows less. -/
theorem region_shows_the_reference (ops : Primitives Filter) (source : Source)
    (toJson : DisplayPayload → Option String) (capacity bufferLen maxClients : Nat)
    (setup : VocoderSetup Filter) {pageSize : Nat} {mapped : Bool} {sampleRate : BitVec 32}
    {midiConfigured : Bool} {region : Frames.FrameRegion} (page : 0 < pageSize)
    (created : Frames.FrameRegion.new pageSize mapped source.width sampleRate midiConfigured =
      .ok region) {schedule : List Action} {last : Shared Filter}
    (run : exec (Shared.step ops source toJson region)
      ⟨.new source toJson capacity bufferLen maxClients setup, ⟨region.base, []⟩⟩ schedule =
        some last)
    (bound : last.store.accepted.length + 1 < 2 ^ 63) :
    (last.store.read region).1 =
      last.store.accepted.getLast?.map (Frames.Published.frame · last.store.accepted.length) ∧
    InOrder (Shown ops setup source.width last.system.capture.analysed)
      last.system.capture.analysed.length (last.store.accepted.map Frames.Published.channels) ∧
    last.system.capture.analysed.flatten <+: (accepted source last.system.capture).flatten := by
  obtain ⟨width, covers⟩ := Frames.mappedLen_covers page created
  rw [← width] at covers
  have exists_region := Frames.new_created created
  have viewed := exec_invariant (motive := Viewed toJson ops source setup bufferLen region)
    ⟨⟨[], [], invariant_init⟩, ⟨_, carried_new, .nil _ _⟩, fun _ => Frames.intact_new exists_region⟩
    (fun _ _ _ => Viewed.step width) run
  obtain ⟨⟨consumed, pushed, here⟩, ⟨stages, carried, ordered⟩, intact⟩ := viewed
  refine ⟨?_, ordered.later (carried.rising.raw.trans carried.latest.1), ?_⟩
  · rw [(intact bound).read exists_region covers]
  · refine List.IsPrefix.trans ?_ here.samples_prefix
    rw [List.append_assoc]
    exact List.prefix_append _ _

end

def oneFrame : List Action :=
  [.push [F32.zero], .produce 4, .produce 0, .produce 0, .analyse 4 false, .thread .takeRaw,
    .thread .replaceRaw, .thread (.writeFrame ⟨0, 0, 0⟩ 1000)]

theorem one_frame_reaches_a_reader : ∃ region last frame,
    Frames.FrameRegion.new 4096 true mono.width 48000 false = .ok region ∧
    exec (Shared.step Analyser.atRest mono Server.plainJson region)
      ⟨.new mono Server.plainJson 4 4 8 Analyser.restSetup, ⟨region.base, []⟩⟩ oneFrame =
        some last ∧
    (last.store.read region).1 = some (Frames.Published.frame frame 1) ∧
    InOrder (Shown Analyser.atRest Analyser.restSetup mono.width
      last.system.capture.analysed) last.system.capture.analysed.length [frame.channels] := by
  obtain ⟨region, created⟩ : ∃ region,
      Frames.FrameRegion.new 4096 true mono.width 48000 false = .ok region := ⟨_, rfl⟩
  have reached : ((exec (Shared.step Analyser.atRest mono Server.plainJson region)
      ⟨.new mono Server.plainJson 4 4 8 Analyser.restSetup, ⟨region.base, []⟩⟩ oneFrame).map
        fun last => last.store.accepted.length) = some 1 := by
    cases created
    decide +kernel
  obtain ⟨last, run, one⟩ := Option.map_eq_some_iff.mp reached
  obtain ⟨frame, only⟩ := List.length_eq_one_iff.mp one
  obtain ⟨read, ordered, -⟩ := region_shows_the_reference Analyser.atRest mono Server.plainJson 4 4 8
    Analyser.restSetup (by decide) created run (by omega)
  rw [only] at read ordered
  exact ⟨region, last, frame, created, run, read, ordered⟩

end Phase4.Managers.EndToEnd
