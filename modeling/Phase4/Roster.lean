import Phase4.Bootstrap

namespace Phase4.Bootstrap
open Library Config Headless

/-! ## The workers a start registers -/

def audioWorkers : ConfigInput → List WorkerKind
  | .calibration _ => [.generator]
  | .device _ _ => []

def midiWorkers (midiInput : Option ConfigMidiInput) : List WorkerKind :=
  if midiInput.isSome then [.midiInput] else []

def outputWorker : OutputConfig → WorkerKind
  | .webSocket _ _ _ => .webSocket
  | .osc _ => .osc
  | .frameRegion _ => .frameWriter

/-- In the order in which shutdown waits for them. -/
def roster (config : AppConfig) : List WorkerKind :=
  audioWorkers config.input ++ ([.analyser, .mapper] ++
    (midiWorkers config.midiInput ++ config.outputs.outputs.map outputWorker))

theorem roster_nodup (config : AppConfig) : (roster config).Nodup := by
  have outputs : (config.outputs.outputs.map outputWorker).Nodup := by
    have named : config.outputs.outputs.map OutputConfig.transport =
        (config.outputs.outputs.map outputWorker).map fun kind =>
          match kind with
          | .webSocket => "WebSocket"
          | .osc => "OSC"
          | _ => "Frame region" := by
      rw [List.map_map]
      apply List.map_congr_left
      intro output _
      cases output <;> rfl
    have distinct := config.outputs.distinct
    rw [named] at distinct
    exact List.Nodup.of_map _ distinct
  have apart (kind : WorkerKind) (member : kind ∈ config.outputs.outputs.map outputWorker) :
      kind = .webSocket ∨ kind = .osc ∨ kind = .frameWriter := by
    obtain ⟨output, _, rfl⟩ := List.mem_map.mp member
    cases output <;> simp [outputWorker]
  have strange (kind : WorkerKind)
      (other : kind ≠ .webSocket ∧ kind ≠ .osc ∧ kind ≠ .frameWriter) :
      kind ∉ config.outputs.outputs.map outputWorker := fun member => by
    rcases apart kind member with rfl | rfl | rfl <;> simp at other
  rw [roster, audioWorkers.eq_def, midiWorkers]
  cases config.input <;> cases config.midiInput <;>
    simp [outputs, strange .generator (by decide), strange .analyser (by decide),
      strange .mapper (by decide), strange .midiInput (by decide)]

section
variable {Port α β : Type} {host : Host Port}

/-- A success gives such a value and adds these workers. -/
def Registers (step : Boot Port α) (given : α → Prop) (kinds : List WorkerKind) : Prop :=
  ∀ engine value next, step engine = (.ok value, next) →
    given value ∧ next.registered = engine.registered ++ kinds

namespace Registers
variable {given : α → Prop} {result : β → Prop} {kinds more : List WorkerKind}
  {step : Boot Port α} {rest : α → Boot Port β}

theorem bind (first : Registers step given kinds)
    (second : ∀ value, given value → Registers (rest value) result more) :
    Registers (step >>= rest) result (kinds ++ more) := by
  intro engine value last run
  obtain ⟨middle, next, stepped, remaining⟩ := Attempt.run_bind_ok.mp run
  obtain ⟨holds, before⟩ := first engine middle next stepped
  obtain ⟨there, after⟩ := second middle holds next value last remaining
  exact ⟨there, by rw [after, before, List.append_assoc]⟩

/-- A first step that registers nobody. -/
theorem after (first : Registers step given [])
    (second : ∀ value, given value → Registers (rest value) result more) :
    Registers (step >>= rest) result more := first.bind second

theorem pure {value : α} (holds : given value) :
    Registers (Attempt.pure value : Boot Port α) given [] := by
  rintro engine _ _ ⟨⟩
  exact ⟨holds, (List.append_nil _).symm⟩

theorem fail {error : StartError} : Registers (Attempt.fail error : Boot Port α) given kinds := by
  rintro engine _ _ ⟨⟩

theorem lift (known : Except StartError α) :
    Registers (Attempt.lift known : Boot Port α) (fun _ => True) [] := by
  intro engine value next run
  cases run
  exact ⟨trivial, (List.append_nil _).symm⟩

theorem liftConfig (known : Except AppConfigError α) :
    Registers (Bootstrap.liftConfig known : Boot Port α) (fun _ => True) [] := .lift _

theorem liftOther (known : Except String α) :
    Registers (Bootstrap.liftOther known : Boot Port α) (fun _ => True) [] := .lift _

theorem read : Registers (Attempt.read : Boot Port (Engine Port)) (fun _ => True) [] := by
  rintro engine _ _ ⟨⟩
  exact ⟨trivial, (List.append_nil _).symm⟩

theorem update {change : Engine Port → Engine Port}
    (same : ∀ engine, (change engine).registered = engine.registered ++ kinds) :
    Registers (Attempt.update change : Boot Port PUnit) (fun _ => True) kinds := by
  rintro engine _ _ ⟨⟩
  exact ⟨trivial, same engine⟩

theorem onError {cleanUp : Engine Port → Engine Port} (registers : Registers step given kinds) :
    Registers (step.onError cleanUp) given kinds := by
  intro engine value last run
  unfold Attempt.onError at run
  cases stepped : step engine with
  | mk outcome next =>
      rw [stepped] at run
      cases outcome with
      | ok value =>
          cases run
          exact registers engine value last stepped
      | error error => cases run

end Registers

theorem registers_spawnWorker (kind : WorkerKind) :
    Registers (spawnWorker kind : Boot Port PUnit) (fun _ => True) [kind] :=
  .update fun _ => rfl

def InputSource.synthetic : InputSource → Bool
  | .calibration _ => true
  | .hardware _ _ => false

theorem registers_getDevice (name : String) : Registers (getDevice host name) (fun _ => True) [] := by
  unfold getDevice
  split
  · exact .fail
  · apply Registers.after (.liftOther _)
    intro devices _
    exact .lift _

theorem registers_resolveAudioHardware (config : AppConfig) :
    Registers (resolveAudioHardware host config) (fun resolved =>
      resolved.source.synthetic = true ↔ ∃ signal, config.input = .calibration signal) [] := by
  unfold resolveAudioHardware
  cases config.input with
  | calibration signal => exact .pure ⟨fun _ => ⟨signal, rfl⟩, fun _ => rfl⟩
  | device name channels =>
      apply Registers.after (registers_getDevice name)
      intro found _
      refine .pure ⟨nofun, ?_⟩
      rintro ⟨_, other⟩
      cases other

theorem registers_connectMidiDevice (nameQuery : String) :
    Registers (connectMidiDevice host nameQuery) (fun _ => True) [] := by
  unfold connectMidiDevice
  apply Registers.after (.lift _)
  intro ports _
  split
  · exact .fail
  · apply Registers.after (.lift _)
    intro _ _
    refine Registers.after (.update ?_) fun _ _ => .pure trivial
    exact fun _ => (List.append_nil _).symm

theorem registers_resolveMidiHardware (config : AppConfig) :
    Registers (resolveMidiHardware host config)
      (fun source => source.isSome = config.midiInput.isSome) [] := by
  unfold resolveMidiHardware
  cases config.midiInput with
  | none => exact .pure rfl
  | some input =>
      cases input with
      | testClock bpm =>
          apply Registers.after (.liftConfig _)
          intro _ _
          exact .pure rfl
      | device name =>
          apply Registers.after (registers_connectMidiDevice name)
          intro _ _
          exact .pure rfl

theorem registers_spawnAudioInput {config : AppConfig} {source : InputSource}
    (same : source.synthetic = true ↔ ∃ signal, config.input = .calibration signal) :
    Registers (spawnAudioInput host source) (fun _ => True) (audioWorkers config.input) := by
  cases input : config.input with
  | calibration signal =>
      cases source with
      | calibration => exact registers_spawnWorker _
      | hardware => cases same.mpr ⟨signal, input⟩
  | device name channels =>
      cases source with
      | calibration =>
          obtain ⟨signal, other⟩ := same.mp rfl
          cases input.symm.trans other
      | hardware device format =>
          rw [spawnAudioInput, startStream]
          split
          · exact .fail
          · apply Registers.after (.liftOther _)
            intro _ _
            exact .update fun _ => (List.append_nil _).symm

theorem registers_spawnPipeline {config : AppConfig} {midiSource : Option MidiInputSource}
    (same : midiSource.isSome = config.midiInput.isSome) :
    Registers (spawnPipeline midiSource : Boot Port PUnit) (fun _ => True)
      ([.analyser, .mapper] ++ midiWorkers config.midiInput) := by
  show Registers _ _ ([.analyser] ++ ([.mapper] ++ midiWorkers config.midiInput))
  unfold spawnPipeline
  apply Registers.bind (registers_spawnWorker _)
  intro _ _
  apply Registers.bind (registers_spawnWorker _)
  intro _ _
  rw [midiWorkers, same]
  split
  · exact registers_spawnWorker _
  · exact .pure trivial

theorem registers_spawnFrameWriter (sources : OutputSources) :
    Registers (spawnFrameWriter host sources) (fun _ => True) [.frameWriter] := by
  unfold spawnFrameWriter
  apply Registers.after (.lift _)
  intro region _
  apply Registers.after .read
  intro engine _
  split
  · exact .fail
  · refine Registers.after (.update ?_) fun _ _ => registers_spawnWorker _
    exact fun _ => (List.append_nil _).symm

theorem registers_spawnOutput (sources : OutputSources) (output : OutputConfig) :
    Registers (spawnOutput host sources output) (fun _ => True) ([outputWorker output] ++ []) := by
  cases output with
  | webSocket addr maxClients noBrowserOrigin =>
      apply Registers.after (.liftOther _)
      intro _ _
      apply Registers.bind (registers_spawnWorker _)
      intro _ _
      exact .pure trivial
  | osc addr =>
      apply Registers.after (.liftOther _)
      intro _ _
      apply Registers.after (.liftOther _)
      intro _ _
      apply Registers.bind (registers_spawnWorker _)
      intro _ _
      exact .pure trivial
  | frameRegion slot =>
      apply Registers.bind (registers_spawnFrameWriter sources)
      intro _ _
      exact .pure trivial

theorem registers_spawnOutputs (sources : OutputSources) (wsBoundAddr : Option SocketAddr)
    (outputs : List OutputConfig) : Registers (spawnOutputs host sources wsBoundAddr outputs)
      (fun _ => True) (outputs.map outputWorker) := by
  induction outputs generalizing wsBoundAddr with
  | nil => exact .pure trivial
  | cons output rest ih =>
      apply Registers.bind (registers_spawnOutput sources output)
      intro boundAddr _
      exact ih _

theorem registers_bootstrap (config : AppConfig) :
    Registers (bootstrap host config) (fun _ => True) (roster config ++ []) := by
  unfold bootstrap
  apply Registers.after (.liftConfig _)
  intro _ _
  apply Registers.after (registers_resolveAudioHardware config)
  intro resolved synthetic
  apply Registers.after (registers_resolveMidiHardware config)
  intro midiSource present
  apply Registers.after (.liftConfig _)
  intro _ _
  apply Registers.after (.liftConfig _)
  intro _ _
  apply Registers.after (.liftConfig _)
  intro _ _
  rw [roster, List.append_assoc]
  apply Registers.bind (registers_spawnAudioInput synthetic)
  intro _ _
  rw [← List.append_assoc, List.append_assoc]
  apply Registers.bind (registers_spawnPipeline present)
  intro _ _
  apply Registers.bind (registers_spawnOutputs _ _ _).onError
  intro _ _
  exact .pure trivial

end
end Phase4.Bootstrap
