import Phase4.Managers.MidiRun

namespace Phase4.Managers.MidiRun
open Library Dsp Frames

/-! ## The mapper's snapshots -/

def storesOf (state : State) (k : Nat) (publication : Publication) : List Stored :=
  window Stored.storedAt state.stored (opensAt (cuts state) k) publication.swappedAt

def Reports (state : State) (k : Nat) (store : Stored) : Prop :=
  ∃ publication, state.publications[k]? = some publication ∧
    (storesOf state k publication).getLast? = some store

def transportOf (byte : BitVec 8) : Option Transport :=
  (transportCode byte).bind transportCodeToStr

theorem cuts_getElem? {state : State} {k : Nat} {publication : Publication}
    (found : state.publications[k]? = some publication) :
    (cuts state)[k]? = some publication.swappedAt := by
  simp [cuts, found]

theorem transport_lastCode (stores : List Stored) :
    transportCodeToStr (lastCode stores) =
      stores.getLast?.bind fun store => transportOf store.byte := by
  unfold lastCode
  cases stores.getLast? with
  | none => rfl
  | some store =>
      rw [Option.bind_some, Option.bind_some, transportOf]
      cases transportCode store.byte <;> rfl

theorem transportOf_start {byte : BitVec 8} (start : transportOf byte = some .start) :
    byte = midiStatusStart := by
  by_contra other
  rw [transportOf, transportCode, if_neg other] at start
  split_ifs at start <;> cases start

/-- A snapshot carries the last transport event since the swap before it. No event is lost but
to a later one before the next swap, none is reported twice, and a Start comes with steps
counted after its reset. -/
theorem snapshots_report_each_event_once {schedule : List Action} {last : State}
    (run : exec step State.init schedule = some last) :
    (∀ k publication, last.publications[k]? = some publication → ∃ snapshot,
      publication.midi = some snapshot ∧
      snapshot.transport = (storesOf last k publication).getLast?.bind
        (fun store => transportOf store.byte) ∧
      (snapshot.transport = some .start → ∃ store reset instant, Reports last k store ∧
        store.byte = midiStatusStart ∧ store.resetAt = some reset ∧
        Steps schedule (reset + 1) 0 ∧ reset < instant ∧ instant ≤ publication.loadedAt ∧
        Steps schedule instant snapshot.steps)) ∧
    (∀ store ∈ last.stored, ∀ k publication, last.publications[k]? = some publication →
      store.storedAt < publication.swappedAt → ∃ j ≤ k, Reports last j store ∨
        ∃ later, Reports last j later ∧ opensAt (cuts last) j ≤ store.storedAt ∧
          store.storedAt < later.storedAt) ∧
    ∀ store j k, Reports last j store → Reports last k store → j = k := by
  have here := invariant_run run
  refine ⟨?_, ?_, ?_⟩
  · intro k publication found
    have carries := here.publications k publication found
    obtain ⟨steps, held, midi⟩ := carries.midi
    refine ⟨_, midi, transport_lastCode _, ?_⟩
    intro start
    rw [transport_lastCode] at start
    obtain ⟨store, final, code⟩ := Option.bind_eq_some_iff.mp start
    have isStart := transportOf_start code
    obtain ⟨member, _, before⟩ := mem_window.mp (List.mem_of_getLast? final)
    obtain ⟨reset, found', earlier, zero⟩ := (here.storedReset store member).2 isStart
    exact ⟨store, reset, publication.loadedAt, ⟨publication, found, final⟩, isStart, found', zero,
      earlier.trans (before.trans carries.swappedFirst), le_rfl, held⟩
  · intro store member k publication found before
    obtain ⟨j, cut, le, atJ, opened, closed⟩ := window_exists (cuts_getElem? found) before
    obtain ⟨publisher, published, rfl⟩ : ∃ publisher, last.publications[j]? = some publisher ∧
        publisher.swappedAt = cut := by
      simpa [cuts] using atJ
    have inside : store ∈ storesOf last j publisher := mem_window.mpr ⟨member, opened, closed⟩
    refine ⟨j, le, ?_⟩
    rcases last_or_superseded here.storedOrdered inside with final | ⟨later, final, after⟩
    · exact Or.inl ⟨publisher, published, final⟩
    · exact Or.inr ⟨later, ⟨publisher, published, final⟩, opened, after⟩
  · rintro store j k ⟨first, foundJ, lastJ⟩ ⟨second, foundK, lastK⟩
    exact window_unique here.cutsSorted (cuts_getElem? foundJ) (cuts_getElem? foundK)
      (mem_window.mp (List.mem_of_getLast? lastJ)).2 (mem_window.mp (List.mem_of_getLast? lastK)).2

def startBetweenSwapAndLoad : List Action :=
  [.callMapper, .map, .receive midiStatusStart, .record, .record, .map, .map,
    .record, .record, .callMapper, .map, .map, .map]

theorem start_between_swap_and_load : ∃ last,
    exec step State.init startBetweenSwapAndLoad = some last ∧
    last.publications.map Publication.midi =
      [some ⟨none, 0⟩, some ⟨some .start, 0⟩] ∧
    ∀ store j k, Reports last j store → Reports last k store → j = k := by
  refine ⟨_, rfl, by decide, ?_⟩
  have run : exec step State.init startBetweenSwapAndLoad = some _ := rfl
  exact (snapshots_report_each_event_once run).2.2

/-! ## The frame writer's readings -/

/-- Each Start that the transport count covers had reset the steps before they were loaded. -/
def FollowsStarts (schedule : List Action) (last : State) (frame : FrameReading) : Prop :=
  Steps schedule frame.stepsAt frame.midi.steps ∧
    ∀ n count, last.counted[n]? = some count → count.byte = midiStatusStart →
      n < frame.midi.transportCount.toNat → ∃ reset, count.resetAt = some reset ∧
        Steps schedule (reset + 1) 0 ∧ reset < frame.stepsAt

/-- No Start both resets the steps and is counted between the loads of the steps and the count. -/
def NoneBetween (last : State) (frame : FrameReading) : Prop :=
  ∀ count ∈ last.counted, count.byte = midiStatusStart → ∀ reset, count.resetAt = some reset →
    ¬(frame.stepsAt ≤ reset ∧ count.countedAt < frame.countAt)

theorem follows_starts_iff_none_between {schedule : List Action} {last : State}
    (run : exec step State.init schedule = some last) (bound : last.counted.length < 2 ^ 32)
    (frame : FrameReading) (member : frame ∈ last.frames) :
    FollowsStarts schedule last frame ↔ NoneBetween last frame := by
  have here := invariant_run run
  have shows := here.frames frame member
  have few : (window Counted.countedAt last.counted 0 frame.countAt).length ≤
      last.counted.length := List.length_filter_le _ _
  have covers {n : Nat} {count : Counted} (found : last.counted[n]? = some count) :
      n < frame.midi.transportCount.toNat ↔ count.countedAt < frame.countAt := by
    rw [shows.count, countedBefore, BitVec.toNat_ofNat, Nat.mod_eq_of_lt (by omega)]
    exact lt_window_length here.countedOrdered found
  constructor
  · rintro ⟨_, follows⟩ count counted start reset own ⟨straddles, covered⟩
    obtain ⟨n, found⟩ := List.mem_iff_getElem?.mp counted
    obtain ⟨reset', again, _, earlier⟩ := follows n count found start ((covers found).mpr covered)
    rw [own] at again
    cases again
    exact absurd earlier (Nat.not_lt.mpr straddles)
  · intro between
    refine ⟨shows.held, ?_⟩
    intro n count found start covered
    have counted := List.mem_of_getElem? found
    obtain ⟨reset, own, _, zero⟩ := here.countedReset count counted start
    refine ⟨reset, own, zero, Nat.lt_of_not_le fun straddles => ?_⟩
    exact between count counted start reset own ⟨straddles, (covers found).mp covered⟩

/-- One step is counted, then a Start comes in between the loads of the steps and of the count. -/
def startBetweenLoads : List Action :=
  (List.replicate 5 [.receive midiStatusTimingClock]).flatten ++
    [.receive midiStatusTimingClock, .record, .callFrameWriter, .frame,
      .receive midiStatusStart, .record, .record, .record, .record, .frame, .frame, .frame]

theorem start_between_loads_keeps_old_steps :
    ¬∀ schedule last, exec step State.init schedule = some last →
      last.counted.length < 2 ^ 32 → ∀ frame ∈ last.frames, FollowsStarts schedule last frame := by
  intro law
  have ended : (exec step State.init startBetweenLoads).map
      (fun last => (last.counted, last.frames)) =
        some ([⟨midiStatusStart, some 10, 13⟩], [⟨⟨1, 1, 1⟩, 8, 14, 15⟩]) := by decide
  obtain ⟨last, run, same⟩ := Option.map_eq_some_iff.mp ended
  obtain ⟨counted, frames⟩ := Prod.mk.inj same
  obtain ⟨_, follows⟩ := law startBetweenLoads last run (by rw [counted]; decide)
    ⟨⟨1, 1, 1⟩, 8, 14, 15⟩ (by rw [frames]; exact List.mem_singleton_self _)
  obtain ⟨reset, own, _, earlier⟩ :=
    follows 0 ⟨midiStatusStart, some 10, 13⟩ (by rw [counted]; rfl) rfl (by decide)
  cases own
  exact absurd earlier (by decide)

/-- A Start has reset the steps when they are loaded, and is counted before the count is. -/
def startAroundLoad : List Action :=
  startBetweenLoads.take 7 ++ [.receive midiStatusStart, .record, .callFrameWriter, .frame,
    .record, .record, .record, .frame, .frame, .frame]

theorem start_around_load : ∃ last, exec step State.init startAroundLoad = some last ∧
    last.frames.map FrameReading.midi = [⟨0, 1, 1⟩] ∧
    ∀ frame ∈ last.frames, FollowsStarts startAroundLoad last frame := by
  have ended : (exec step State.init startAroundLoad).map
      (fun last => (last.counted, last.frames)) =
        some ([⟨midiStatusStart, some 8, 13⟩], [⟨⟨0, 1, 1⟩, 10, 14, 15⟩]) := by decide
  obtain ⟨last, run, same⟩ := Option.map_eq_some_iff.mp ended
  obtain ⟨counted, frames⟩ := Prod.mk.inj same
  refine ⟨last, run, by rw [frames]; rfl, ?_⟩
  intro frame member
  refine (follows_starts_iff_none_between run (by rw [counted]; decide) frame member).mpr ?_
  intro count isCounted _ reset own straddles
  rw [counted, List.mem_singleton] at isCounted
  rw [frames, List.mem_singleton] at member
  subst isCounted member
  cases own
  exact absurd straddles.1 (by decide)

end Phase4.Managers.MidiRun
