import Phase4.Library.Preference
import Phase4.Config.Validate
import Phase4.Managers.Audio

namespace Phase4.Managers
open Library Config

/-! ## Names -/

def eqIgnoreAsciiCase (name other : String) : Bool :=
  name.toList.map Char.toLower == other.toList.map Char.toLower

def containsText (name needle : String) : Bool := decide (needle.toList <:+: name.toList)

/-- `{:#}` of an error that was given a context. -/
def withContext (context cause : String) : String := s!"{context}: {cause}"

def unknownDevice : String := "Unknown Device"

theorem eqIgnoreAsciiCase_refl (name : String) : eqIgnoreAsciiCase name name = true := by
  simp [eqIgnoreAsciiCase]

/-! ## Audio devices -/

namespace Audio

structure SupportedStreamConfig where
  sampleRate : Nat
  channels : Nat
  sampleFormat : String
deriving DecidableEq, Repr

/-- What the host answers about one input device. Of a description that cannot be read the error
is dropped. -/
structure Device where
  description : Option String
  defaultInputConfig : Except String SupportedStreamConfig
deriving DecidableEq, Repr

structure DeviceInfo where
  index : Nat
  name : String
  sampleRate : Option Nat
  channels : Option Nat
  sampleFormat : Option String
  supported : Bool
deriving DecidableEq, Repr

inductive DeviceError where
  | emptyQuery
  | noMatch (query : String)
  | unsupportedFormat (format : String)
  | hardwareStreamError (message : String)
  /-- The default configuration cannot be queried, which no variant of its own reports. -/
  | hardwareConfig (message : String)
deriving DecidableEq, Repr

def DeviceError.text : DeviceError → String
  | emptyQuery =>
      "Device query must not be empty. Run with --audio-list to see available devices."
  | noMatch query =>
      s!"No input device matched \"{query}\". phase4 will not fall back to the system default. " ++
        "Run with --audio-list to see available devices."
  | unsupportedFormat format =>
      s!"Device reports {format} sample format; phase4 requires f32 input. Most professional audio " ++
        "interfaces deliver f32 natively. Run with --audio-list to see available devices."
  | hardwareStreamError message =>
      s!"The audio input stream failed: {message}. Check the device is still connected."
  | hardwareConfig message => withContext "Failed to query hardware config" message

def Device.name (device : Device) : String := device.description.getD unknownDevice

def enumerateDevices (devices : List Device) : List DeviceInfo :=
  devices.zipIdx.map fun (device, index) =>
    let config := device.defaultInputConfig.toOption
    { index
      name := device.name
      sampleRate := config.map (·.sampleRate)
      channels := config.map (·.channels)
      sampleFormat := config.map (·.sampleFormat)
      supported := config.any fun config => config.sampleFormat == "F32" }

def buildDeviceSpecs (device : Device) :
    Except DeviceError (Device × SupportedStreamConfig × Specs) :=
  match device.defaultInputConfig with
  | .ok config => .ok (device, config, ⟨config.channels, config.sampleRate⟩)
  | .error message => .error (.hardwareConfig message)

section
variable (toLowercase : String → String)

def matchDevice (devices : List Device) (nameQuery : String) : Option Device :=
  prefer (fun device => device.name == nameQuery)
    (fun device => containsText (toLowercase device.name) (toLowercase nameQuery)) none devices

def selectDevice (devices : List Device) (nameQuery : String) : Except DeviceError Device :=
  if isBlank nameQuery then .error .emptyQuery
  else
    match matchDevice toLowercase devices nameQuery with
    | some device => .ok device
    | none => .error (.noMatch nameQuery)

def getDevice (devices : List Device) (nameQuery : String) :
    Except DeviceError (Device × SupportedStreamConfig × Specs) :=
  selectDevice toLowercase devices nameQuery >>= buildDeviceSpecs

end
end Audio

/-! ## MIDI ports -/

namespace Midi

inductive MidiDeviceError where
  | midiUnavailable (message : String)
  | midiNoMatch (query : String)
  | midiConnectFailed (device message : String)
deriving DecidableEq, Repr

def MidiDeviceError.text : MidiDeviceError → String
  | midiUnavailable message => s!"MIDI input could not be initialised: {message}"
  | midiNoMatch query =>
      s!"No MIDI input device matched \"{query}\". Run with --midi-list to see available devices."
  | midiConnectFailed device message =>
      s!"Failed to connect to MIDI device \"{device}\": {message}"

structure MidiDeviceInfo where
  index : Nat
  name : String
deriving DecidableEq, Repr

section
variable {Port : Type*} (portName : Port → Option String)

def enumerateDevices (ports : List Port) : List MidiDeviceInfo :=
  ports.zipIdx.map fun (port, index) => ⟨index, (portName port).getD unknownDevice⟩

def findMatchingMidiDevice (toLowercase : String → String) (devices : List Port)
    (nameQuery : String) : Option Port :=
  prefer (fun device => (portName device).any fun name => eqIgnoreAsciiCase name nameQuery)
    (fun device => (portName device).any fun name =>
      containsText (toLowercase name) (toLowercase nameQuery)) none devices

end
end Midi

/-! ## Selecting a listed name -/

section
variable {toLowercase : String → String} {name : String}

theorem Audio.mem_enumerateDevices {devices : List Audio.Device} :
    name ∈ (Audio.enumerateDevices devices).map (·.name) ↔
      ∃ device ∈ devices, device.name = name := by
  simp only [Audio.enumerateDevices, List.map_map, List.mem_map, Function.comp_apply]
  constructor
  · rintro ⟨⟨device, index⟩, member, rfl⟩
    exact ⟨device, List.fst_mem_of_mem_zipIdx member, rfl⟩
  · rintro ⟨device, member, rfl⟩
    obtain ⟨index, bound, rfl⟩ := List.getElem_of_mem member
    exact ⟨(devices[index], index), List.mk_mem_zipIdx_iff_getElem?.2 (by simp), rfl⟩

theorem Audio.selectDevice_of_listed {devices : List Audio.Device} (blank : isBlank name = false)
    (listed : ∃ device ∈ devices, device.name = name) :
    ∃ device ∈ devices, Audio.selectDevice toLowercase devices name = .ok device ∧
      device.name = name := by
  obtain ⟨device, member, named⟩ := listed
  cases found : devices.find? fun device => device.name == name with
  | none => exact absurd (List.find?_eq_none.1 found device member) (by simp [named])
  | some first =>
      have exact : first.name = name := by simpa using List.find?_some found
      refine ⟨first, List.mem_of_find?_eq_some found, ?_, exact⟩
      simp [Audio.selectDevice, blank, Audio.matchDevice, prefer_eq, found]

variable {Port : Type*} {portName : Port → Option String} {ports : List Port}

/-- The first readable port whose name agrees with a text up to ASCII case has that very name. -/
def Midi.NamedFirst (portName : Port → Option String) (ports : List Port) (name : String) : Prop :=
  ∃ before port after, ports = before ++ port :: after ∧ portName port = some name ∧
    ∀ other ∈ before, ∀ otherName, portName other = some otherName →
      eqIgnoreAsciiCase otherName name = false

theorem Midi.findMatchingMidiDevice_eq :
    Midi.findMatchingMidiDevice portName toLowercase ports name =
      (ports.find? fun port => (portName port).any fun other => eqIgnoreAsciiCase other name).or
        (ports.find? fun port => (portName port).any fun other =>
          containsText (toLowercase other) (toLowercase name)) := by
  rw [Midi.findMatchingMidiDevice, prefer_eq, Option.none_or]

theorem Midi.findMatchingMidiDevice_named {port : Port}
    (picked : Midi.findMatchingMidiDevice portName toLowercase ports name = some port) :
    port ∈ ports ∧ ∃ other, portName port = some other := by
  rw [Midi.findMatchingMidiDevice_eq] at picked
  rcases Option.or_eq_some_iff.1 picked with found | ⟨-, found⟩
  · have matches_query := List.find?_some found
    obtain ⟨other, named, -⟩ := (Option.any_eq_true _ _).1 matches_query
    exact ⟨List.mem_of_find?_eq_some found, other, named⟩
  · have matches_query := List.find?_some found
    obtain ⟨other, named, -⟩ := (Option.any_eq_true _ _).1 matches_query
    exact ⟨List.mem_of_find?_eq_some found, other, named⟩

variable (toLowercase) in
theorem Midi.findMatchingMidiDevice_exact_iff :
    (∃ port, Midi.findMatchingMidiDevice portName toLowercase ports name = some port ∧
      portName port = some name) ↔ Midi.NamedFirst portName ports name := by
  rw [Midi.findMatchingMidiDevice_eq]
  constructor
  · rintro ⟨port, picked, named⟩
    rcases Option.or_eq_some_iff.1 picked with found | ⟨unmatched, found⟩
    · obtain ⟨-, before, after, split, earlier⟩ := List.find?_eq_some_iff_append.1 found
      refine ⟨before, port, after, split, named, fun other member otherName otherNamed => ?_⟩
      simpa [otherNamed] using earlier other member
    · have member := List.mem_of_find?_eq_some found
      have missed := List.find?_eq_none.1 unmatched port member
      simp [named, eqIgnoreAsciiCase_refl] at missed
  · rintro ⟨before, port, after, split, named, earlier⟩
    refine ⟨port, Option.or_eq_some_iff.2 (.inl ?_), named⟩
    refine List.find?_eq_some_iff_append.2 ⟨?_, before, after, split, fun other member => ?_⟩
    · simp [named, eqIgnoreAsciiCase_refl]
    · cases otherNamed : portName other with
      | none => simp
      | some otherName => simpa using earlier other member otherName otherNamed

variable (toLowercase name) in
def AudioSelects (devices : List Audio.Device) : Prop :=
  ∃ device ∈ devices, Audio.selectDevice toLowercase devices name = .ok device ∧
    device.name = name

variable (toLowercase portName ports name) in
def MidiSelects : Prop :=
  ∃ port ∈ ports, Midi.findMatchingMidiDevice portName toLowercase ports name = some port ∧
    (portName port).getD unknownDevice = name

end

/-- A listed name selects its own device exactly when an audio name is not blank, and when the
first port whose name agrees with a MIDI name up to ASCII case has that very name. -/
theorem listed_name_selects_iff {Port : Type*} (toLowercase : String → String)
    (devices : List Audio.Device) (portName : Port → Option String) (ports : List Port) :
    (∀ name ∈ (Audio.enumerateDevices devices).map (·.name),
      AudioSelects toLowercase name devices ↔ isBlank name = false) ∧
    ∀ name ∈ (Midi.enumerateDevices portName ports).map (·.name),
      MidiSelects toLowercase name portName ports ↔ Midi.NamedFirst portName ports name := by
  constructor
  · intro name listed
    constructor
    · rintro ⟨device, -, selected, -⟩
      cases blank : isBlank name with
      | false => rfl
      | true => simp [Audio.selectDevice, blank] at selected
    · exact fun blank => Audio.selectDevice_of_listed blank (Audio.mem_enumerateDevices.1 listed)
  · intro name _
    rw [← Midi.findMatchingMidiDevice_exact_iff toLowercase]
    constructor
    · rintro ⟨port, -, picked, reported⟩
      obtain ⟨-, other, named⟩ := Midi.findMatchingMidiDevice_named picked
      rw [named, Option.getD_some] at reported
      exact ⟨port, picked, reported ▸ named⟩
    · rintro ⟨port, picked, named⟩
      exact ⟨port, (Midi.findMatchingMidiDevice_named picked).1, picked, by rw [named]; rfl⟩

def asciiLowercase (text : String) : String := String.ofList (text.toList.map Char.toLower)

def studioDevices : List Audio.Device :=
  [⟨none, .error "busy"⟩, ⟨some "Duet 3", .ok ⟨48000, 2, "F32"⟩⟩]

theorem listed_studio_names_select :
    AudioSelects asciiLowercase unknownDevice studioDevices ∧
    MidiSelects asciiLowercase "Loopback" id [some "Loopback USB", none, some "Loopback"] :=
  ⟨((listed_name_selects_iff asciiLowercase studioDevices id
      [some "Loopback USB", none, some "Loopback"]).1 unknownDevice (by decide)).2 (by decide),
    ((listed_name_selects_iff asciiLowercase studioDevices id
      [some "Loopback USB", none, some "Loopback"]).2 "Loopback" (by decide)).2
      ⟨[some "Loopback USB", none], some "Loopback", [], rfl, rfl, by
        simp only [List.mem_cons, List.not_mem_nil, or_false]
        rintro other (rfl | rfl) otherName named
        · obtain rfl := Option.some.inj named
          decide
        · cases named⟩⟩

theorem listed_midi_name_selects_another_port :
    "Loopback" ∈ (Midi.enumerateDevices id [some "loopback", some "Loopback"]).map (·.name) ∧
    ¬ MidiSelects asciiLowercase "Loopback" id [some "loopback", some "Loopback"] := by
  refine ⟨by decide, ?_⟩
  rintro ⟨port, -, picked, reported⟩
  have first : Midi.findMatchingMidiDevice id asciiLowercase
      [some "loopback", some "Loopback"] "Loopback" = some (some "loopback") := by decide
  rw [first] at picked
  obtain rfl := Option.some.inj picked
  exact absurd reported (by decide)

end Phase4.Managers
