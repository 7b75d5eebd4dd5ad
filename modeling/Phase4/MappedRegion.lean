import Phase4.App
import Phase4.Config.Agreement
import Phase4.Frames.Store
import Phase4.Managers.Selection
import Phase4.Roster

namespace Phase4.Frames
open Library Dsp

/-! ## What a client reads of a new region -/

structure Laid (pageSize channelCount : Nat) (sampleRate : BitVec 32) (midiConfigured : Bool)
    (region : FrameRegion) : Prop where
  count : region.channelCount = channelCount
  covers : frameBytes channelCount ≤ region.mappedLen
  pages : region.mappedLen % pageSize = 0
  least : region.mappedLen < frameBytes channelCount + pageSize
  /-- Whatever has been published by the time the client looks. -/
  reads : ∀ frames : List Published, (∀ frame ∈ frames, frame.channels.length = channelCount) →
    (frames.filter fun frame => frame.channels.all ChannelLevel.isFinite).length < 2 ^ 63 →
    ∃ store, exec (Store.publish region) ⟨region.base, []⟩ frames = some store ∧
      (store.accepted = frames.filter fun frame => frame.channels.all ChannelLevel.isFinite) ∧
      ((readHeader region.mappedLen).run MemoryOp.apply store.memory).1 = some {
        layoutVersion := frameLayoutVersion
        channelCount := BitVec.ofNat 32 channelCount
        bandCount := headerBandCount
        sampleRate
        midiFlags := if midiConfigured then midiFlagConfigured else 0 } ∧
      (store.read region).1 =
        store.accepted.getLast?.map (Published.frame · store.accepted.length)

theorem readHeader_run {region : FrameRegion} (created : Created region)
    (long : frameHeaderBytes ≤ region.mappedLen) {memory : Memory}
    (once : ∀ word ∈ onceWords, memory.load word = region.base.load word) :
    ((readHeader region.mappedLen).run MemoryOp.apply memory).1 = some {
      layoutVersion := frameLayoutVersion
      channelCount := BitVec.ofNat 32 region.channelCount
      bandCount := headerBandCount
      sampleRate := BitVec.ofNat 32 (region.base.load (word32 offsetSampleRate))
      midiFlags := BitVec.ofNat 32 (region.base.load (word32 offsetMidiFlags)) } := by
  have word (value : BitVec 32) : BitVec.ofNat 32 value.toNat = value := by simp
  have reads (offset : Nat) (isOnce : word32 offset ∈ onceWords) :
      (load32 offset).run MemoryOp.apply memory =
        (BitVec.ofNat 32 (region.base.load (word32 offset)), memory) := by
    rw [← once _ isOnce]
    rfl
  rw [readHeader, if_neg (Nat.not_lt.mpr long), Program.run_bind, reads _ (by decide)]
  dsimp only
  rw [created.magic, word, if_neg (not_not.mpr rfl)]
  simp (disch := decide) only [Program.run_bind, reads, created.layoutVersion,
    created.channelCount, created.bandCount, word]
  rfl

theorem new_written {pageSize channelCount : Nat} {mapped midiConfigured : Bool}
    {sampleRate : BitVec 32} {region : FrameRegion}
    (created : FrameRegion.new pageSize mapped channelCount sampleRate midiConfigured = .ok region) :
    region.base.load (word32 offsetSampleRate) = sampleRate.toNat ∧
      region.base.load (word32 offsetMidiFlags) =
        (if midiConfigured then midiFlagConfigured else 0).toNat ∧
      region.mappedLen = (frameBytes channelCount + pageSize - 1) / pageSize * pageSize := by
  unfold FrameRegion.new at created
  by_cases tooMany : 2 ^ 32 ≤ channelCount
  · rw [if_pos tooMany] at created
    cases created
  · rw [if_neg tooMany] at created
    cases mapped with
    | false => cases created
    | true =>
        cases created
        refine ⟨?_, ?_, rfl⟩
        · dsimp only
          simp (disch := decide) only [Memory.load_store_disjoint, Memory.load_store_self]
          exact Nat.mod_eq_of_lt sampleRate.isLt
        · dsimp only
          rw [Memory.load_store_self]
          exact Nat.mod_eq_of_lt (BitVec.isLt _)

theorem laid_new {pageSize channelCount : Nat} {mapped midiConfigured : Bool}
    {sampleRate : BitVec 32} {region : FrameRegion} (page : 0 < pageSize)
    (created : FrameRegion.new pageSize mapped channelCount sampleRate midiConfigured = .ok region) :
    Laid pageSize channelCount sampleRate midiConfigured region := by
  have layout := new_created created
  obtain ⟨count, covers⟩ := mappedLen_covers page created
  obtain ⟨rate, flags, length⟩ := new_written created
  refine ⟨count, covers, ?_, ?_, fun frames lengths bound => ?_⟩
  · rw [length]
    exact Nat.mul_mod_left _ _
  · have whole := Nat.div_mul_le_self (frameBytes channelCount + pageSize - 1) pageSize
    omega
  · obtain ⟨store, run, intact, accepted⟩ := intact_run layout frames (count ▸ lengths) bound
    have long : frameHeaderBytes ≤ region.mappedLen := (Nat.le_add_right _ _).trans covers
    refine ⟨store, run, accepted, ?_, congrArg Prod.fst (intact.read layout (count ▸ covers))⟩
    rw [readHeader_run layout long intact.once, count, rate, flags]
    simp

end Phase4.Frames

namespace Phase4.Bootstrap
open Library Config Managers Headless Frames

/-! ## The region a start maps -/

section
variable {Port : Type} {host : Host Port} {invariant : Engine Port → Prop}

theorem keeps_resolveMidiHardware (config : AppConfig)
    (connect : ∀ (engine : Engine Port) port, invariant engine →
      invariant { engine with connected := some port }) :
    Attempt.Keeps invariant (resolveMidiHardware host config) := by
  unfold resolveMidiHardware
  split
  · exact .pure _
  · exact .bind (.lift _) fun _ => .pure _
  · refine .bind ?_ fun _ => .pure _
    unfold connectMidiDevice
    refine .bind (.lift _) fun ports => ?_
    split
    · exact .fail _
    · exact .bind (.lift _) fun _ => .bind (.update fun engine => connect engine _) fun _ => .pure _

theorem keeps_spawnAudioInput (source : InputSource)
    (register : ∀ (engine : Engine Port) kind, invariant engine → invariant (engine.register kind))
    (stream : ∀ (engine : Engine Port) device, invariant engine →
      invariant { engine with stream := some device }) :
    Attempt.Keeps invariant (spawnAudioInput host source) := by
  cases source with
  | calibration signal => exact .update fun engine => register engine _
  | hardware device config =>
      rw [spawnAudioInput, startStream]
      split
      · exact .fail _
      · exact .bind (.lift _) fun _ => .update fun engine => stream engine _

def maps (host : Host Port) (sources : OutputSources) : Except RegionError FrameRegion :=
  FrameRegion.new host.pageSize host.grantsMapping sources.displayChannels
    (BitVec.ofNat 32 sources.sampleRate) sources.midiEnabled

def Mapped (host : Host Port) (sources : OutputSources) (engine : Engine Port) : Prop :=
  ∀ region, engine.region = some region → maps host sources = .ok region

theorem mapped_spawnFrameWriter (sources : OutputSources) :
    Attempt.Keeps (Mapped host sources) (spawnFrameWriter host sources) := by
  have creates : Attempt.Holds (Mapped host sources)
      (Attempt.lift ((maps host sources).mapError fun error => StartError.untyped
        (withContext "Failed to map the frame region" (error.text host.mappingError))))
      (fun region engine => Mapped host sources engine ∧ maps host sources = .ok region)
      fun _ => Mapped host sources := by
    refine .lift (fun engine mapped region given => ⟨mapped, ?_⟩) fun _ mapped _ _ => mapped
    cases created : maps host sources with
    | error => simp [created, Except.mapError] at given
    | ok other => simpa [created, Except.mapError] using given
  refine Attempt.Holds.bind creates fun region => ?_
  have reads : Attempt.Holds
      (fun engine => Mapped host sources engine ∧ maps host sources = .ok region) Attempt.read
      (fun _ engine => Mapped host sources engine ∧ maps host sources = .ok region)
      fun (_ : StartError) => Mapped host sources := .read fun _ held => held
  refine Attempt.Holds.bind reads fun engine => ?_
  split
  · exact .fail fun _ held => held.1
  · refine Attempt.Holds.bind (.update fun engine held => ?_) fun _ =>
      spawnWorker_keeps (fun _ _ mapped => mapped) _
    intro other same
    cases same
    exact held.2

theorem mapped_spawnOutputs (sources : OutputSources) (wsBoundAddr : Option SocketAddr)
    (outputs : List OutputConfig) :
    Attempt.Keeps (Mapped host sources) (spawnOutputs host sources wsBoundAddr outputs) := by
  induction outputs generalizing wsBoundAddr with
  | nil => exact .pure _
  | cons output rest ih =>
      refine .bind ?_ fun _ => ih _
      cases output with
      | webSocket addr maxClients noBrowserOrigin =>
          exact .bind (.lift _) fun _ =>
            .bind (spawnWorker_keeps (fun _ _ mapped => mapped) _) fun _ => .pure _
      | osc addr =>
          exact .bind (.lift _) fun _ => .bind (.lift _) fun _ =>
            .bind (spawnWorker_keeps (fun _ _ mapped => mapped) _) fun _ => .pure _
      | frameRegion slot => exact .bind (mapped_spawnFrameWriter sources) fun _ => .pure _

/-- A listed device counts its channels in a `u16`. -/
def CountsInU16 (host : Host Port) : Prop :=
  ∀ devices, host.inputDevices = .ok devices → ∀ device ∈ devices, ∀ config,
    device.defaultInputConfig = .ok config → config.channels < 2 ^ 16

structure Resolves (config : AppConfig) (resolved : ResolvedInput) : Prop where
  channels : resolved.hwSpecs.channels < 2 ^ 16
  selection : ∀ selection, resolved.analyseChannels = some selection →
    ∃ name, config.input = .device name (some selection)

theorem matchDevice_mem {toLowercase : String → String} {devices : List Audio.Device}
    {nameQuery : String} {device : Audio.Device}
    (found : Audio.matchDevice toLowercase devices nameQuery = some device) : device ∈ devices := by
  rw [Audio.matchDevice, prefer_eq, Option.none_or, Option.or_eq_some_iff] at found
  rcases found with whole | ⟨_, part⟩
  · exact List.mem_of_find?_eq_some whole
  · exact List.mem_of_find?_eq_some part

theorem mapError_eq_ok {α Problem Error : Type} {problem : Problem → Error}
    {result : Except Problem α} {value : α} :
    result.mapError problem = .ok value ↔ result = .ok value := by
  cases result <;> simp [Except.mapError]

theorem lift_ok {α Problem : Type} {problem : Problem → StartError} {result : Except Problem α}
    {engine next : Engine Port} {value : α}
    (run : Attempt.lift (result.mapError problem) engine = (.ok value, next)) :
    result = .ok value ∧ next = engine := by
  obtain ⟨given, same⟩ := Prod.mk.inj run
  exact ⟨mapError_eq_ok.mp given, same.symm⟩

theorem onError_ok {α : Type} {step : Boot Port α} {cleanUp : Engine Port → Engine Port}
    {engine next : Engine Port} {value : α}
    (run : step.onError cleanUp engine = (.ok value, next)) : step engine = (.ok value, next) := by
  unfold Attempt.onError at run
  cases stepped : step engine with
  | mk outcome middle =>
      rw [stepped] at run
      cases outcome with
      | ok other => exact run
      | error => cases run

theorem getDevice_channels (counts : CountsInU16 host) {name : String}
    {device : Audio.Device} {config : Audio.SupportedStreamConfig} {specs : Audio.Specs}
    {engine next : Engine Port}
    (found : getDevice host name engine = (.ok (device, config, specs), next)) :
    specs.channels < 2 ^ 16 := by
  unfold getDevice at found
  split at found
  · cases found
  · obtain ⟨devices, _, listed, matched⟩ := Attempt.run_bind_ok.mp found
    obtain ⟨given, -⟩ := lift_ok listed
    obtain ⟨picked, -⟩ := lift_ok matched
    obtain ⟨chosen, selected, described⟩ := bind_eq_ok.mp picked
    have member : chosen ∈ devices := by
      rw [Audio.selectDevice] at selected
      split_ifs at selected
      split at selected
      · next matched =>
        cases selected
        exact matchDevice_mem matched
      · cases selected
    rw [Audio.buildDeviceSpecs] at described
    split at described
    · next own =>
      cases described
      exact counts devices (mapError_eq_ok.mp given) device member config own
    · cases described

theorem resolves_of_run (counts : CountsInU16 host) {config : AppConfig}
    {resolved : ResolvedInput} {engine next : Engine Port}
    (run : resolveAudioHardware host config engine = (.ok resolved, next)) :
    Resolves config resolved := by
  unfold resolveAudioHardware at run
  cases input : config.input with
  | calibration signal =>
      rw [input] at run
      cases run
      exact ⟨by norm_num, by rintro _ ⟨⟩⟩
  | device name analyseChannels =>
      rw [input] at run
      obtain ⟨⟨device, streamConfig, specs⟩, _, found, made⟩ := Attempt.run_bind_ok.mp run
      cases made
      exact ⟨getDevice_channels counts found, fun selection same => ⟨name, by rw [← same]; exact input⟩⟩

structure Describes (host : Host Port) (config : AppConfig) (audio : ReadyAudio)
    (region : FrameRegion) : Prop where
  made : FrameRegion.new host.pageSize host.grantsMapping audio.channels.length
    (BitVec.ofNat 32 audio.sampleRate) config.midiInput.isSome = .ok region
  counted : audio.channels.length < 2 ^ 16
  increasing : audio.channels.Pairwise (· < ·)

theorem displayChannels_eq {config : AppConfig} {resolved : ResolvedInput}
    (resolves : Resolves config resolved) (sorted : config.input.Sorted)
    (valid : validateChannelSelection resolved.analyseChannels resolved.hwSpecs = .ok ()) :
    resolved.readyAudio.channels.length < 2 ^ 16 ∧
      resolved.displayChannels = resolved.readyAudio.channels.length ∧
      resolved.readyAudio.channels.Pairwise (· < ·) := by
  obtain ⟨channels, selection⟩ := resolves
  unfold ResolvedInput.displayChannels ResolvedInput.readyAudio
  cases chosen : resolved.analyseChannels with
  | none =>
      simp only [List.length_range]
      exact ⟨channels, trivial, List.pairwise_lt_range⟩
  | some indices =>
      obtain ⟨name, input⟩ := selection indices chosen
      rw [input] at sorted
      rw [chosen] at valid
      have below : indices.length ≤ resolved.hwSpecs.channels := by
        rcases indices.eq_nil_or_concat with empty | ⟨earlier, last, same⟩
        · rw [empty]
          exact Nat.zero_le _
        · have nonempty : indices ≠ [] := by
            rw [same]
            simp
          have once : indices.Nodup := sorted.imp fun before => before.ne
          exact length_le_of_inside (@inside_of_validate ⟨indices, sorted, nonempty⟩ _ valid) once
      have small := lt_of_le_of_lt below channels
      simp only [List.length_map]
      refine ⟨small, Nat.mod_eq_of_lt small, ?_⟩
      exact List.pairwise_map.mpr (sorted.imp fun before => before)

theorem bootstrap_ok {config : AppConfig} {bootstrapped : Bootstrapped} {last : Engine Port}
    (booted : bootstrap host config {} = (.ok bootstrapped, last)) :
    ∃ (resolved : ResolvedInput) (midiSource : Option MidiInputSource) (opened : Engine Port)
        (wsBoundAddr : Option SocketAddr),
      (∃ engine next, resolveAudioHardware host config engine = (.ok resolved, next)) ∧
      validateChannelSelection resolved.analyseChannels resolved.hwSpecs = .ok () ∧
      midiSource.isSome = config.midiInput.isSome ∧ opened.region = none ∧
      spawnOutputs host ⟨resolved.displayChannels, resolved.hwSpecs.sampleRate, midiSource.isSome⟩
        none config.outputs.outputs opened = (.ok wsBoundAddr, last) ∧
      bootstrapped.audio = resolved.readyAudio := by
  unfold bootstrap at booted
  obtain ⟨_, checked, valid, booted⟩ := Attempt.run_bind_ok.mp booted
  obtain ⟨resolved, found, audio, booted⟩ := Attempt.run_bind_ok.mp booted
  obtain ⟨midiSource, _, midi, booted⟩ := Attempt.run_bind_ok.mp booted
  obtain ⟨_, _, nyquist, booted⟩ := Attempt.run_bind_ok.mp booted
  obtain ⟨_, _, stable, booted⟩ := Attempt.run_bind_ok.mp booted
  obtain ⟨_, _, selected, booted⟩ := Attempt.run_bind_ok.mp booted
  obtain ⟨_, listening, input, booted⟩ := Attempt.run_bind_ok.mp booted
  obtain ⟨_, opened, pipeline, booted⟩ := Attempt.run_bind_ok.mp booted
  obtain ⟨wsBoundAddr, _, outputs, booted⟩ := Attempt.run_bind_ok.mp booted
  cases booted
  obtain ⟨-, rfl⟩ := lift_ok valid
  obtain ⟨-, rfl⟩ := lift_ok nyquist
  obtain ⟨-, rfl⟩ := lift_ok stable
  obtain ⟨sound, rfl⟩ := lift_ok selected
  -- None of the stages so far creates a region.
  let Bare : Engine Port → Prop := fun engine => engine.region = none
  have start : Bare {} := rfl
  have bare : Bare found := keeps_resolveAudioHardware config _ start _ _ audio
  have bare : Bare _ :=
    keeps_resolveMidiHardware config (fun _ _ bare => bare) found bare _ _ midi
  have bare : Bare listening := keeps_spawnAudioInput resolved.source (fun _ _ bare => bare)
    (fun _ _ bare => bare) _ bare _ _ input
  have kept : Attempt.Keeps Bare (spawnPipeline midiSource) :=
    spawnPipeline_keeps (fun _ _ bare => bare) midiSource
  exact ⟨resolved, midiSource, opened, wsBoundAddr, ⟨_, found, audio⟩, sound,
    (registers_resolveMidiHardware config found midiSource _ midi).1,
    kept listening bare _ _ pipeline, onError_ok outputs, rfl⟩

theorem describes_of_build (counts : CountsInU16 host) {config : AppConfig}
    (sorted : config.input.Sorted) {ready : ReadyReport} {engine : Engine Port}
    (built : App.build host config {} = (.ok ready, engine)) {region : FrameRegion}
    (created : engine.region = some region) : Describes host config ready.audio region := by
  obtain ⟨bootstrapped, last, booted, made⟩ := Attempt.run_bind_ok.mp built
  cases made
  obtain ⟨resolved, midiSource, opened, wsBoundAddr, ⟨_, _, audio⟩, sound, present, bare, outputs,
    same⟩ := bootstrap_ok booted
  obtain ⟨small, displayed, increasing⟩ :=
    displayChannels_eq (resolves_of_run counts audio) sorted sound
  have before : Mapped host ⟨resolved.displayChannels, resolved.hwSpecs.sampleRate,
      midiSource.isSome⟩ opened := by
    intro region found
    rw [bare] at found
    cases found
  have mapped : maps host ⟨resolved.displayChannels, resolved.hwSpecs.sampleRate,
      midiSource.isSome⟩ = .ok region :=
    mapped_spawnOutputs _ none config.outputs.outputs opened before _ _ outputs region created
  rw [maps] at mapped
  dsimp only at mapped
  rw [displayed, present] at mapped
  show Describes host config bootstrapped.audio region
  rw [same]
  exact ⟨mapped, small, increasing⟩

end
end Phase4.Bootstrap
