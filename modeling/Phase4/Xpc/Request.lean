import Phase4.Dsp.F64
import Phase4.Xpc.Start

namespace Phase4.Xpc
open Dsp Config

/-! ## What a client sends -/

/-- The bytes of a string object before its terminating NUL. -/
structure CStr where
  bytes : List UInt8
  terminated : 0 ∉ bytes
deriving DecidableEq

/-- An XPC object as `kind` tells it apart. -/
inductive Object where
  | dictionary (entries : List (String × Object))
  | array (objects : List Object)
  | string (text : CStr)
  | int64 (value : Int64)
  | double (value : F64)
  | bool (value : Bool)
  | shmem
  | error
  | connection
  | other

abbrev DictionaryRef := List (String × Object)

namespace CStr

/-- `CStr::to_str`, `none` when the bytes are not UTF-8. -/
def toStr (text : CStr) : Option String := String.fromUTF8? text.bytes.toByteArray

theorem toStr_eq_some {text : CStr} {string : String} :
    text.toStr = some string ↔ text.bytes.toByteArray = string.toByteArray := by
  simp only [toStr, String.fromUTF8?]
  split_ifs with valid
  · rw [Option.some.injEq, ← String.toByteArray_inj]
    rfl
  · refine iff_of_false (by simp) fun same => valid ?_
    rw [same]
    exact string.isValidUTF8

end CStr

namespace Object

def asInt64 : Object → Option Int64
  | .int64 value => some value
  | _ => none

def asDouble : Object → Option F64
  | .double value => some value
  | _ => none

def asString : Object → Option String
  | .string text => text.toStr
  | _ => none

def asDictionary : Object → Option DictionaryRef
  | .dictionary entries => some entries
  | _ => none

def asArray : Object → Option (List Object)
  | .array objects => some objects
  | _ => none

end Object

namespace DictionaryRef

def getValue (dictionary : DictionaryRef) (key : String) : Option Object := dictionary.lookup key

def contains (dictionary : DictionaryRef) (key : String) : Bool := (dictionary.getValue key).isSome

def getI64 (dictionary : DictionaryRef) (key : String) : Option Int64 :=
  (dictionary.getValue key).bind Object.asInt64

def getF64 (dictionary : DictionaryRef) (key : String) : Option F64 :=
  (dictionary.getValue key).bind Object.asDouble

def getString (dictionary : DictionaryRef) (key : String) : Option String :=
  (dictionary.getValue key).bind Object.asString

def getDictionary (dictionary : DictionaryRef) (key : String) : Option DictionaryRef :=
  (dictionary.getValue key).bind Object.asDictionary

def getArray (dictionary : DictionaryRef) (key : String) : Option (List Object) :=
  (dictionary.getValue key).bind Object.asArray

end DictionaryRef

/-! ## Parsing a request -/

def invalid (key : String) : LinkError :=
  .invalidRequest s!"`{key}` is missing or has the wrong type"

def required {α : Type} (value : Option α) (key : String) : Except LinkError α :=
  value.elim (.error (invalid key)) .ok

def channelIndex (value : Int64) : Option ChannelIndex :=
  if h : 0 ≤ value.toInt ∧ value.toInt < 65536 then some ⟨value.toInt.toNat, by omega⟩ else none

def parseChannels (source : DictionaryRef) : Except LinkError (Option (List ChannelIndex)) :=
  if source.contains "channels" then
    some <$> do
      let channels ← required (source.getArray "channels") "channels"
      channels.mapM fun channel => required (channel.asInt64.bind channelIndex) "channels"
  else pure none

def parseSource (source : DictionaryRef) : Except LinkError Source := do
  let kind ← required (source.getString "kind") "kind"
  match kind with
  | "device" => do
      let name ← required (source.getString "device_name") "device_name"
      let channels ← parseChannels source
      return .device name channels
  | "test_tone" => do
      let hz ← required (source.getF64 "hz") "hz"
      return .testTone hz.toF32
  | "test_sweep" => do
      let rateHz ← required (source.getF64 "rate_hz") "rate_hz"
      return .testSweep rateHz.toF32
  | other => .error (.invalidRequest s!"`{other}` is not a source kind")

def parseMidi (midi : DictionaryRef) : Except LinkError MidiRequest := do
  let kind ← required (midi.getString "kind") "kind"
  match kind with
  | "device" => do
      let name ← required (midi.getString "device_name") "device_name"
      return .device name
  | "test_clock" => do
      let bpm ← required (midi.getF64 "bpm") "bpm"
      return .testClock bpm.toF32
  | other => .error (.invalidRequest s!"`{other}` is not a MIDI kind")

def parseStart (message : DictionaryRef) : Except LinkError StartRequest := do
  let source ← required (message.getDictionary "source") "source"
  let source ← parseSource source
  let midi ← (if message.contains "midi" then
      some <$> (required (message.getDictionary "midi") "midi" >>= parseMidi)
    else pure none)
  let configYaml ← (if message.contains "config_yaml" then
      some <$> required (message.getString "config_yaml") "config_yaml"
    else pure none)
  return ⟨source, midi, configYaml⟩

def parseRequest (message : DictionaryRef) : Except LinkError Request := do
  let version ← required (message.getI64 "v") "v"
  if version.toInt ≠ contractVersion then
    .error (.contractMismatch version.toInt contractVersion)
  else
    let requestType ← required (message.getString "type") "type"
    match requestType with
    | "hello" => return .hello
    | "list_audio_devices" => return .listAudioDevices
    | "list_midi_devices" => return .listMidiDevices
    | "start" => .start <$> parseStart message
    | "stop" => return .stop
    | other => .error (.invalidRequest s!"`{other}` is not a request type")

/-! ## The link contract -/

structure Text where
  text : String
  plain : '\x00' ∉ text.toList

theorem zero_eq_ofNat {byte : Nat} (small : byte < 256) : 0 = UInt8.ofNat byte ↔ byte = 0 := by
  rw [← UInt8.toNat_inj, UInt8.toNat_ofNat', Nat.mod_eq_of_lt small]
  exact eq_comm

theorem zero_mem_utf8EncodeChar {c : Char} : 0 ∈ String.utf8EncodeChar c ↔ c = '\x00' := by
  constructor
  · intro member
    -- Only the one byte of an ASCII character can be zero.
    have zero : c.val.toNat = 0 := by
      rw [String.utf8EncodeChar.eq_def] at member
      simp only [] at member
      split_ifs at member with ascii
      · rw [List.mem_singleton, zero_eq_ofNat (by omega)] at member
        exact member
      all_goals
        simp only [List.mem_cons, List.not_mem_nil, or_false] at member
        grind [zero_eq_ofNat]
    exact Char.ext (UInt32.toNat_inj.mp zero)
  · rintro rfl
    decide

namespace Text

def cStr (text : Text) : CStr where
  bytes := text.text.toList.flatMap String.utf8EncodeChar
  terminated := by
    simp only [List.mem_flatMap, zero_mem_utf8EncodeChar, not_exists, not_and]
    rintro c member rfl
    exact text.plain member

def object (text : Text) : Object := .string text.cStr

theorem toByteArray_cStr (text : Text) : text.cStr.bytes.toByteArray = text.text.toByteArray :=
  text.text.utf8Encode_toList

end Text

theorem CStr.toStr_eq_some_iff {carried : CStr} {string : String} :
    carried.toStr = some string ↔ ∃ plain, carried = (⟨string, plain⟩ : Text).cStr := by
  rw [CStr.toStr_eq_some]
  constructor
  · intro same
    have bytes : carried.bytes = string.toList.flatMap String.utf8EncodeChar := by
      rw [← List.toByteArray_inj, same]
      exact string.utf8Encode_toList.symm
    have plain : '\x00' ∉ string.toList := by
      intro member
      apply carried.terminated
      rw [bytes]
      exact List.mem_flatMap.mpr ⟨_, member, zero_mem_utf8EncodeChar.mpr rfl⟩
    refine ⟨plain, ?_⟩
    obtain ⟨_, _⟩ := carried
    simpa [Text.cStr] using bytes
  · rintro ⟨plain, rfl⟩
    exact Text.toByteArray_cStr ⟨string, plain⟩

/-! What the contract lets a client ask for, with the numbers as it sends them. -/

namespace Contract

inductive Source where
  | device (name : Text) (channels : Option (List ChannelIndex))
  | testTone (hz : F64)
  | testSweep (rateHz : F64)

inductive MidiRequest where
  | device (name : Text)
  | testClock (bpm : F64)

structure StartRequest where
  source : Source
  midi : Option MidiRequest
  configYaml : Option Text

inductive Request where
  | hello
  | listAudioDevices
  | listMidiDevices
  | start (start : StartRequest)
  | stop

/-! The request as the engine holds it. -/

def Source.narrow : Source → Xpc.Source
  | .device name channels => .device name.text channels
  | .testTone hz => .testTone hz.toF32
  | .testSweep rateHz => .testSweep rateHz.toF32

def MidiRequest.narrow : MidiRequest → Xpc.MidiRequest
  | .device name => .device name.text
  | .testClock bpm => .testClock bpm.toF32

def StartRequest.narrow (start : StartRequest) : Xpc.StartRequest where
  source := start.source.narrow
  midi := start.midi.map MidiRequest.narrow
  configYaml := start.configYaml.map Text.text

def Request.narrow : Request → Xpc.Request
  | .hello => .hello
  | .listAudioDevices => .listAudioDevices
  | .listMidiDevices => .listMidiDevices
  | .start asked => .start asked.narrow
  | .stop => .stop

def channel (index : ChannelIndex) : Object := .int64 (Int64.ofNat index)

def Optional {α : Type} (dictionary : DictionaryRef) (key : String) (encodes : Object → α → Prop) :
    Option α → Prop
  | none => dictionary.getValue key = none
  | some value => ∃ object, dictionary.getValue key = some object ∧ encodes object value

def Named (dictionary : DictionaryRef) (key name : String) : Prop :=
  ∃ plain, dictionary.getValue key = some (Text.object ⟨name, plain⟩)

/-! Whether a dictionary encodes a request. Keys that are not asked about may hold anything. -/

def Source.EncodedBy (source : DictionaryRef) : Source → Prop
  | .device name channels => Named source "kind" "device" ∧
      source.getValue "device_name" = some name.object ∧
      Optional source "channels" (fun object list => object = .array (list.map channel)) channels
  | .testTone hz => Named source "kind" "test_tone" ∧ source.getValue "hz" = some (.double hz)
  | .testSweep rateHz => Named source "kind" "test_sweep" ∧
      source.getValue "rate_hz" = some (.double rateHz)

def MidiRequest.EncodedBy (midi : DictionaryRef) : MidiRequest → Prop
  | .device name => Named midi "kind" "device" ∧ midi.getValue "device_name" = some name.object
  | .testClock bpm => Named midi "kind" "test_clock" ∧ midi.getValue "bpm" = some (.double bpm)

structure StartRequest.EncodedBy (message : DictionaryRef) (start : StartRequest) : Prop where
  source : ∃ source, message.getValue "source" = some (.dictionary source) ∧
    start.source.EncodedBy source
  midi : Optional message "midi" (fun object midi => ∃ entries, object = .dictionary entries ∧
    MidiRequest.EncodedBy entries midi) start.midi
  configYaml : Optional message "config_yaml" (fun object text => object = Text.object text)
    start.configYaml

def Request.EncodedBy (message : DictionaryRef) (request : Request) : Prop :=
  message.getValue "v" = some (.int64 1) ∧
    match request with
    | .hello => Named message "type" "hello"
    | .listAudioDevices => Named message "type" "list_audio_devices"
    | .listMidiDevices => Named message "type" "list_midi_devices"
    | .start asked => Named message "type" "start" ∧ asked.EncodedBy message
    | .stop => Named message "type" "stop"

end Contract

/-! ## What the reads return -/

namespace Object

theorem asInt64_eq_some (object : Object) (value : Int64) :
    object.asInt64 = some value ↔ object = .int64 value := by
  cases object <;> simp [asInt64]

theorem asDouble_eq_some (object : Object) (value : F64) :
    object.asDouble = some value ↔ object = .double value := by
  cases object <;> simp [asDouble]

theorem asDictionary_eq_some (object : Object) (entries : DictionaryRef) :
    object.asDictionary = some entries ↔ object = .dictionary entries := by
  cases object <;> simp [asDictionary]

theorem asArray_eq_some (object : Object) (objects : List Object) :
    object.asArray = some objects ↔ object = .array objects := by
  cases object <;> simp [asArray]

theorem asString_eq_some (object : Object) (string : String) :
    object.asString = some string ↔ ∃ plain, object = Text.object ⟨string, plain⟩ := by
  cases object <;> simp [asString, Text.object, CStr.toStr_eq_some_iff]

end Object

section
variable {dictionary : DictionaryRef} {key : String}

theorem bind_eq_some_of {α : Type} {found : Option Object} {read : Object → Option α}
    {make : α → Object} (inverse : ∀ object value, read object = some value ↔ object = make value)
    {value : α} : found.bind read = some value ↔ found = some (make value) := by
  cases found with
  | none => simp
  | some object => simp [inverse]

theorem getI64_eq_some {value : Int64} :
    dictionary.getI64 key = some value ↔ dictionary.getValue key = some (.int64 value) :=
  bind_eq_some_of Object.asInt64_eq_some

theorem getF64_eq_some {value : F64} :
    dictionary.getF64 key = some value ↔ dictionary.getValue key = some (.double value) :=
  bind_eq_some_of Object.asDouble_eq_some

theorem getDictionary_eq_some {entries : DictionaryRef} :
    dictionary.getDictionary key = some entries ↔
      dictionary.getValue key = some (.dictionary entries) :=
  bind_eq_some_of Object.asDictionary_eq_some

theorem getArray_eq_some {objects : List Object} :
    dictionary.getArray key = some objects ↔ dictionary.getValue key = some (.array objects) :=
  bind_eq_some_of Object.asArray_eq_some

theorem getString_eq_some {string : String} :
    dictionary.getString key = some string ↔ Contract.Named dictionary key string := by
  rw [DictionaryRef.getString, Option.bind_eq_some_iff]
  simp only [Object.asString_eq_some, Contract.Named]
  constructor
  · rintro ⟨_, here, plain, rfl⟩
    exact ⟨plain, here⟩
  · rintro ⟨plain, here⟩
    exact ⟨_, here, plain, rfl⟩

theorem contains_eq_false : dictionary.contains key = false ↔ dictionary.getValue key = none := by
  simp [DictionaryRef.contains]

theorem required_eq_ok {α : Type} {value : Option α} {result : α} :
    required value key = .ok result ↔ value = some result := by
  cases value <;> simp [required]

theorem optional_eq_ok {α β : Type} {read : Except LinkError α} (encodes : Object → β → Prop)
    (narrow : β → α) (agrees : ∀ object, dictionary.getValue key = some object → ∀ result,
      read = .ok result ↔ ∃ value, encodes object value ∧ narrow value = result)
    {result : Option α} :
    (if dictionary.contains key then some <$> read else pure none) = .ok result ↔
      ∃ value, Contract.Optional dictionary key encodes value ∧ value.map narrow = result := by
  cases here : dictionary.getValue key with
  | none =>
      have absent := contains_eq_false.mpr here
      constructor
      · intro accepted
        rw [absent] at accepted
        cases accepted
        exact ⟨none, here, rfl⟩
      · rintro ⟨_ | value, there, same⟩
        · rw [absent]
          cases same
          rfl
        · obtain ⟨object, there, _⟩ := there
          cases here.symm.trans there
  | some object =>
      have present : dictionary.contains key = true := by simp [DictionaryRef.contains, here]
      rw [present]
      constructor
      · intro accepted
        cases value : read with
        | error error =>
            rw [value] at accepted
            cases accepted
        | ok answer =>
            rw [value] at accepted
            cases accepted
            obtain ⟨sent, good, rfl⟩ := (agrees object here answer).mp value
            exact ⟨some sent, ⟨object, here, good⟩, rfl⟩
      · rintro ⟨_ | value, there, rfl⟩
        · cases here.symm.trans there
        · obtain ⟨_, there, good⟩ := there
          cases here.symm.trans there
          rw [(agrees object here _).mpr ⟨value, good, rfl⟩]
          rfl

end

/-! ## Each parser accepts its part of the contract -/

theorem channelIndex_eq_some {value : Int64} {index : ChannelIndex} :
    channelIndex value = some index ↔ value = Int64.ofNat index := by
  have sent : (Int64.ofNat index).toInt = index := by
    have small : (index : Nat) < 65536 := index.isLt
    exact Int64.toInt_ofNat_of_lt (by omega)
  unfold channelIndex
  split_ifs with inside
  · rw [Option.some.injEq, Fin.ext_iff, ← Int64.toInt_inj, sent]
    show value.toInt.toNat = index.val ↔ value.toInt = index.val
    omega
  · apply iff_of_false (by simp)
    rintro rfl
    rw [sent] at inside
    omega

theorem channels_eq_ok {objects : List Object} {indices : List ChannelIndex} :
    (objects.mapM fun channel => required (channel.asInt64.bind channelIndex) "channels") =
      .ok indices ↔ objects = indices.map Contract.channel := by
  have one (object : Object) (index : ChannelIndex) :
      required (object.asInt64.bind channelIndex) "channels" = .ok index ↔
        object = Contract.channel index := by
    rw [required_eq_ok, Option.bind_eq_some_iff]
    simp only [Object.asInt64_eq_some, channelIndex_eq_some, Contract.channel]
    constructor
    · rintro ⟨_, rfl, rfl⟩
      rfl
    · exact fun same => ⟨_, same, rfl⟩
  induction objects generalizing indices with
  | nil =>
      rw [List.mapM_nil]
      constructor
      · rintro ⟨⟩
        rfl
      · intro empty
        rw [List.map_eq_nil_iff.mp empty.symm]
        rfl
  | cons object rest ih =>
      rw [List.mapM_cons, bind_eq_ok]
      simp only [bind_eq_ok, one, ih]
      constructor
      · rintro ⟨index, rfl, later, rfl, ⟨⟩⟩
        rfl
      · intro same
        cases indices with
        | nil => cases same
        | cons index later =>
            obtain ⟨rfl, rfl⟩ := List.cons.inj same
            exact ⟨index, rfl, later, rfl, rfl⟩

theorem parseChannels_eq_ok {source : DictionaryRef} {channels : Option (List ChannelIndex)} :
    parseChannels source = .ok channels ↔ Contract.Optional source "channels"
      (fun object list => object = .array (list.map Contract.channel)) channels := by
  rw [parseChannels, optional_eq_ok (fun object list => object = .array (list.map Contract.channel))
    id]
  · simp
  · intro object here result
    simp only [bind_eq_ok, required_eq_ok, getArray_eq_some, here, channels_eq_ok]
    constructor
    · rintro ⟨objects, same, rfl⟩
      exact ⟨result, Option.some.inj same, rfl⟩
    · rintro ⟨_, rfl, rfl⟩
      exact ⟨_, rfl, rfl⟩

theorem parseSource_eq_ok {source : DictionaryRef} {result : Source} :
    parseSource source = .ok result ↔
      ∃ sent : Contract.Source, sent.EncodedBy source ∧ sent.narrow = result := by
  simp only [parseSource, bind_eq_ok, required_eq_ok, getString_eq_some]
  constructor
  · rintro ⟨kind, named, parsed⟩
    split at parsed
    · simp only [bind_eq_ok, required_eq_ok, getString_eq_some, parseChannels_eq_ok] at parsed
      obtain ⟨name, ⟨plain, there⟩, channels, list, ⟨⟩⟩ := parsed
      exact ⟨.device ⟨name, plain⟩ channels, ⟨named, there, list⟩, rfl⟩
    · simp only [bind_eq_ok, required_eq_ok, getF64_eq_some] at parsed
      obtain ⟨hz, there, ⟨⟩⟩ := parsed
      exact ⟨.testTone hz, ⟨named, there⟩, rfl⟩
    · simp only [bind_eq_ok, required_eq_ok, getF64_eq_some] at parsed
      obtain ⟨rateHz, there, ⟨⟩⟩ := parsed
      exact ⟨.testSweep rateHz, ⟨named, there⟩, rfl⟩
    · cases parsed
  · rintro ⟨sent, encoded, rfl⟩
    cases sent with
    | device name channels =>
        obtain ⟨named, there, list⟩ := encoded
        refine ⟨"device", named, ?_⟩
        simp only [bind_eq_ok, required_eq_ok, getString_eq_some, parseChannels_eq_ok]
        exact ⟨name.text, ⟨name.plain, there⟩, channels, list, rfl⟩
    | testTone hz =>
        obtain ⟨named, there⟩ := encoded
        refine ⟨"test_tone", named, ?_⟩
        simp only [bind_eq_ok, required_eq_ok, getF64_eq_some]
        exact ⟨hz, there, rfl⟩
    | testSweep rateHz =>
        obtain ⟨named, there⟩ := encoded
        refine ⟨"test_sweep", named, ?_⟩
        simp only [bind_eq_ok, required_eq_ok, getF64_eq_some]
        exact ⟨rateHz, there, rfl⟩

theorem parseMidi_eq_ok {midi : DictionaryRef} {result : MidiRequest} :
    parseMidi midi = .ok result ↔
      ∃ sent : Contract.MidiRequest, sent.EncodedBy midi ∧ sent.narrow = result := by
  simp only [parseMidi, bind_eq_ok, required_eq_ok, getString_eq_some]
  constructor
  · rintro ⟨kind, named, parsed⟩
    split at parsed
    · simp only [bind_eq_ok, required_eq_ok, getString_eq_some] at parsed
      obtain ⟨name, ⟨plain, there⟩, ⟨⟩⟩ := parsed
      exact ⟨.device ⟨name, plain⟩, ⟨named, there⟩, rfl⟩
    · simp only [bind_eq_ok, required_eq_ok, getF64_eq_some] at parsed
      obtain ⟨bpm, there, ⟨⟩⟩ := parsed
      exact ⟨.testClock bpm, ⟨named, there⟩, rfl⟩
    · cases parsed
  · rintro ⟨sent, encoded, rfl⟩
    cases sent with
    | device name =>
        obtain ⟨named, there⟩ := encoded
        refine ⟨"device", named, ?_⟩
        simp only [bind_eq_ok, required_eq_ok, getString_eq_some]
        exact ⟨name.text, ⟨name.plain, there⟩, rfl⟩
    | testClock bpm =>
        obtain ⟨named, there⟩ := encoded
        refine ⟨"test_clock", named, ?_⟩
        simp only [bind_eq_ok, required_eq_ok, getF64_eq_some]
        exact ⟨bpm, there, rfl⟩

theorem startMidi_eq_ok {message : DictionaryRef} {result : Option MidiRequest} :
    (if message.contains "midi" then
      some <$> (required (message.getDictionary "midi") "midi" >>= parseMidi) else pure none) =
        .ok result ↔
      ∃ midi, Contract.Optional message "midi" (fun object midi => ∃ entries,
        object = .dictionary entries ∧ Contract.MidiRequest.EncodedBy entries midi) midi ∧
          midi.map Contract.MidiRequest.narrow = result := by
  refine optional_eq_ok _ _ fun object here result => ?_
  simp only [bind_eq_ok, required_eq_ok, getDictionary_eq_some, here, parseMidi_eq_ok]
  constructor
  · rintro ⟨entries, same, sent, encoded, narrow⟩
    exact ⟨sent, ⟨entries, Option.some.inj same, encoded⟩, narrow⟩
  · rintro ⟨sent, ⟨entries, rfl, encoded⟩, narrow⟩
    exact ⟨entries, rfl, sent, encoded, narrow⟩

theorem startText_eq_ok {message : DictionaryRef} {result : Option String} :
    (if message.contains "config_yaml" then
      some <$> required (message.getString "config_yaml") "config_yaml" else pure none) =
        .ok result ↔
      ∃ text, Contract.Optional message "config_yaml" (fun object text => object = Text.object text)
        text ∧ text.map Text.text = result := by
  refine optional_eq_ok _ _ fun object here result => ?_
  simp only [required_eq_ok, getString_eq_some, Contract.Named, here, Option.some.injEq]
  constructor
  · rintro ⟨plain, rfl⟩
    exact ⟨⟨result, plain⟩, rfl, rfl⟩
  · rintro ⟨text, rfl, rfl⟩
    exact ⟨text.plain, rfl⟩

theorem parseStart_eq_ok {message : DictionaryRef} {result : StartRequest} :
    parseStart message = .ok result ↔
      ∃ sent : Contract.StartRequest, sent.EncodedBy message ∧ sent.narrow = result := by
  simp only [parseStart, bind_eq_ok, required_eq_ok, getDictionary_eq_some, parseSource_eq_ok,
    startMidi_eq_ok, startText_eq_ok]
  constructor
  · rintro ⟨entries, here, _, ⟨source, encoded, rfl⟩, _, ⟨midi, attached, rfl⟩, _,
      ⟨text, carried, rfl⟩, ⟨⟩⟩
    exact ⟨⟨source, midi, text⟩, ⟨⟨entries, here, encoded⟩, attached, carried⟩, rfl⟩
  · rintro ⟨sent, ⟨⟨entries, here, encoded⟩, attached, carried⟩, rfl⟩
    exact ⟨entries, here, _, ⟨sent.source, encoded, rfl⟩, _, ⟨sent.midi, attached, rfl⟩, _,
      ⟨sent.configYaml, carried, rfl⟩, rfl⟩

theorem start_eq_ok {parsed : Except LinkError StartRequest} {result : Request} :
    Request.start <$> parsed = .ok result ↔ ∃ start, parsed = .ok start ∧ .start start = result := by
  cases parsed with
  | error error => exact iff_of_false nofun (by rintro ⟨_, ⟨⟩, _⟩)
  | ok start =>
      constructor
      · rintro ⟨⟩
        exact ⟨start, rfl, rfl⟩
      · rintro ⟨_, ⟨⟩, rfl⟩
        rfl

theorem parseRequest_eq_ok {message : DictionaryRef} {result : Request} :
    parseRequest message = .ok result ↔
      ∃ sent : Contract.Request, sent.EncodedBy message ∧ sent.narrow = result := by
  simp only [parseRequest, bind_eq_ok, required_eq_ok, getI64_eq_some]
  constructor
  · rintro ⟨version, here, parsed⟩
    split_ifs at parsed with other
    obtain rfl : version = 1 := Int64.toInt_inj.mp (not_not.mp other)
    simp only [bind_eq_ok, required_eq_ok, getString_eq_some] at parsed
    obtain ⟨kind, named, parsed⟩ := parsed
    split at parsed
    · cases parsed
      exact ⟨.hello, ⟨here, named⟩, rfl⟩
    · cases parsed
      exact ⟨.listAudioDevices, ⟨here, named⟩, rfl⟩
    · cases parsed
      exact ⟨.listMidiDevices, ⟨here, named⟩, rfl⟩
    · obtain ⟨start, accepted, rfl⟩ := start_eq_ok.mp parsed
      obtain ⟨sent, encoded, rfl⟩ := parseStart_eq_ok.mp accepted
      exact ⟨.start sent, ⟨here, named, encoded⟩, rfl⟩
    · cases parsed
      exact ⟨.stop, ⟨here, named⟩, rfl⟩
    · cases parsed
  · rintro ⟨sent, ⟨here, encoded⟩, rfl⟩
    refine ⟨1, here, ?_⟩
    rw [if_neg (by decide), bind_eq_ok]
    simp only [required_eq_ok, getString_eq_some]
    cases sent with
    | hello => exact ⟨"hello", encoded, rfl⟩
    | listAudioDevices => exact ⟨"list_audio_devices", encoded, rfl⟩
    | listMidiDevices => exact ⟨"list_midi_devices", encoded, rfl⟩
    | start sent =>
        obtain ⟨named, encoded⟩ := encoded
        exact ⟨"start", named,
          start_eq_ok.mpr ⟨_, parseStart_eq_ok.mpr ⟨sent, encoded, rfl⟩, rfl⟩⟩
    | stop => exact ⟨"stop", encoded, rfl⟩

/-! ## Every other message is an invalid request -/

def OnlyInvalid {α : Type} (result : Except LinkError α) : Prop :=
  ∀ error, result = .error error → ∃ reason, error = .invalidRequest reason

namespace OnlyInvalid
variable {α β : Type}

theorem ok (value : α) : OnlyInvalid (.ok value) := nofun

theorem refused (reason : String) : OnlyInvalid (.error (.invalidRequest reason) : Except _ α) := by
  rintro _ ⟨⟩
  exact ⟨reason, rfl⟩

theorem bind {result : Except LinkError α} {rest : α → Except LinkError β}
    (first : OnlyInvalid result) (later : ∀ value, OnlyInvalid (rest value)) :
    OnlyInvalid (result >>= rest) := by
  cases result with
  | error error =>
      rintro _ ⟨⟩
      exact first error rfl
  | ok value => exact later value

theorem map {result : Except LinkError α} (f : α → β) (invalid : OnlyInvalid result) :
    OnlyInvalid (f <$> result) := by
  cases result with
  | error error =>
      rintro _ ⟨⟩
      exact invalid error rfl
  | ok value => exact ok (f value)

theorem required (value : Option α) (key : String) : OnlyInvalid (required value key) := by
  cases value with
  | none => exact refused _
  | some value => exact ok value

theorem mapM {γ : Type} {f : γ → Except LinkError α} (each : ∀ object, OnlyInvalid (f object))
    (objects : List γ) : OnlyInvalid (objects.mapM f) := by
  induction objects with
  | nil => exact ok []
  | cons object rest ih =>
      rw [List.mapM_cons]
      exact (each object).bind fun value => ih.bind fun values => ok (value :: values)

theorem parseChannels (source : DictionaryRef) : OnlyInvalid (parseChannels source) := by
  unfold Xpc.parseChannels
  split_ifs
  · exact ((required _ _).bind fun objects => mapM (fun object => required _ _) objects).map _
  · exact ok none

theorem parseSource (source : DictionaryRef) : OnlyInvalid (parseSource source) := by
  refine (required _ _).bind fun kind => ?_
  split
  · exact (required _ _).bind fun name => (parseChannels source).bind fun channels => ok _
  · exact (required _ _).bind fun hz => ok _
  · exact (required _ _).bind fun rateHz => ok _
  · exact refused _

theorem parseMidi (midi : DictionaryRef) : OnlyInvalid (parseMidi midi) := by
  refine (required _ _).bind fun kind => ?_
  split
  · exact (required _ _).bind fun name => ok _
  · exact (required _ _).bind fun bpm => ok _
  · exact refused _

theorem parseStart (message : DictionaryRef) : OnlyInvalid (parseStart message) := by
  refine (required _ _).bind fun source => (parseSource source).bind fun source => ?_
  refine bind ?_ fun midi => bind ?_ fun text => ok _
  · split_ifs
    · exact ((required _ _).bind parseMidi).map _
    · exact ok none
  · split_ifs
    · exact (required _ _).map _
    · exact ok none

end OnlyInvalid

theorem parseRequest_mismatch {message : DictionaryRef} {version : Int64}
    (here : message.getValue "v" = some (.int64 version)) (other : version ≠ 1) :
    parseRequest message = .error (.contractMismatch version.toInt contractVersion) := by
  have read := getI64_eq_some.mpr here
  have mismatch : version.toInt ≠ contractVersion := fun same => other (Int64.toInt_inj.mp same)
  rw [parseRequest, read]
  exact if_pos mismatch

theorem parseRequest_invalid {message : DictionaryRef}
    (version : ∀ version, message.getValue "v" = some (.int64 version) → version = 1) :
    OnlyInvalid (parseRequest message) := by
  cases read : message.getI64 "v" with
  | none =>
      rw [parseRequest, read]
      exact .refused _
  | some sent =>
      obtain rfl := version sent (getI64_eq_some.mp read)
      rw [parseRequest, read, required, Option.elim_some, ok_bind, if_neg (by decide)]
      refine (OnlyInvalid.required _ _).bind fun kind => ?_
      split
      · exact .ok _
      · exact .ok _
      · exact .ok _
      · exact (OnlyInvalid.parseStart message).map _
      · exact .ok _
      · exact .refused _

/-! ## The encoding of a request -/

namespace Contract

def Source.encode : Source → DictionaryRef
  | .device name channels =>
      [("kind", Text.object ⟨"device", by decide⟩), ("device_name", name.object)] ++
      (channels.map fun list => ("channels", Object.array (list.map channel))).toList
  | .testTone hz => [("kind", Text.object ⟨"test_tone", by decide⟩), ("hz", .double hz)]
  | .testSweep rateHz => [("kind", Text.object ⟨"test_sweep", by decide⟩), ("rate_hz", .double rateHz)]

def MidiRequest.encode : MidiRequest → DictionaryRef
  | .device name => [("kind", Text.object ⟨"device", by decide⟩), ("device_name", name.object)]
  | .testClock bpm => [("kind", Text.object ⟨"test_clock", by decide⟩), ("bpm", .double bpm)]

def StartRequest.encode (start : StartRequest) : DictionaryRef :=
  ("source", .dictionary start.source.encode) ::
    (start.midi.map fun midi => ("midi", Object.dictionary midi.encode)).toList ++
    (start.configYaml.map fun text => ("config_yaml", text.object)).toList

def Request.encode (request : Request) : DictionaryRef :=
  ("v", .int64 1) :: match request with
    | .hello => [("type", Text.object ⟨"hello", by decide⟩)]
    | .listAudioDevices => [("type", Text.object ⟨"list_audio_devices", by decide⟩)]
    | .listMidiDevices => [("type", Text.object ⟨"list_midi_devices", by decide⟩)]
    | .start asked => ("type", Text.object ⟨"start", by decide⟩) :: asked.encode
    | .stop => [("type", Text.object ⟨"stop", by decide⟩)]

theorem Source.encodedBy_encode (source : Source) : source.EncodedBy source.encode := by
  cases source with
  | device name channels =>
      refine ⟨⟨by decide, rfl⟩, rfl, ?_⟩
      cases channels with
      | none => rfl
      | some list => exact ⟨_, rfl, rfl⟩
  | testTone hz => exact ⟨⟨by decide, rfl⟩, rfl⟩
  | testSweep rateHz => exact ⟨⟨by decide, rfl⟩, rfl⟩

theorem MidiRequest.encodedBy_encode (midi : MidiRequest) : midi.EncodedBy midi.encode := by
  cases midi with
  | device name => exact ⟨⟨by decide, rfl⟩, rfl⟩
  | testClock bpm => exact ⟨⟨by decide, rfl⟩, rfl⟩

theorem StartRequest.encodedBy_encode (start : StartRequest) :
    start.EncodedBy (Request.start start).encode := by
  obtain ⟨source, midi, text⟩ := start
  refine ⟨⟨_, rfl, source.encodedBy_encode⟩, ?_, ?_⟩
  · cases midi with
    | none => cases text <;> rfl
    | some midi => exact ⟨_, rfl, _, rfl, midi.encodedBy_encode⟩
  · cases text with
    | none => cases midi <;> rfl
    | some text => cases midi <;> exact ⟨_, rfl, rfl⟩

theorem Request.encodedBy_encode (request : Request) : request.EncodedBy request.encode := by
  refine ⟨rfl, ?_⟩
  cases request with
  | start asked => exact ⟨⟨by decide, rfl⟩, asked.encodedBy_encode⟩
  | hello | listAudioDevices | listMidiDevices | stop => exact ⟨by decide, rfl⟩

/-! The requests that have an encoding: their texts are free of NUL, their numbers are numbers. -/

def Sendable (text : String) : Prop := '\x00' ∉ text.toList

def Source.Sendable : Xpc.Source → Prop
  | .device name _ => Contract.Sendable name
  | .testTone hz => hz.isNan = false
  | .testSweep rateHz => rateHz.isNan = false

def MidiRequest.Sendable : Xpc.MidiRequest → Prop
  | .device name => Contract.Sendable name
  | .testClock bpm => bpm.isNan = false

structure StartRequest.Sendable (start : Xpc.StartRequest) : Prop where
  source : Source.Sendable start.source
  midi : ∀ midi ∈ start.midi, MidiRequest.Sendable midi
  configYaml : ∀ text ∈ start.configYaml, Contract.Sendable text

theorem Source.exists_narrow {source : Xpc.Source} (sendable : Source.Sendable source) :
    ∃ sent : Source, sent.narrow = source := by
  cases source with
  | device name channels => exact ⟨.device ⟨name, sendable⟩ channels, rfl⟩
  | testTone hz => exact ⟨.testTone hz.toF64, congrArg _ (F32.toF32_toF64 sendable)⟩
  | testSweep rateHz => exact ⟨.testSweep rateHz.toF64, congrArg _ (F32.toF32_toF64 sendable)⟩

theorem MidiRequest.exists_narrow {midi : Xpc.MidiRequest} (sendable : MidiRequest.Sendable midi) :
    ∃ sent : MidiRequest, sent.narrow = midi := by
  cases midi with
  | device name => exact ⟨.device ⟨name, sendable⟩, rfl⟩
  | testClock bpm => exact ⟨.testClock bpm.toF64, congrArg _ (F32.toF32_toF64 sendable)⟩

theorem StartRequest.exists_narrow {start : Xpc.StartRequest}
    (sendable : StartRequest.Sendable start) : ∃ sent : StartRequest, sent.narrow = start := by
  obtain ⟨source, midi, text⟩ := start
  obtain ⟨source, rfl⟩ := Source.exists_narrow sendable.source
  have text : ∃ sent : Option Text, sent.map Text.text = text := by
    cases text with
    | none => exact ⟨none, rfl⟩
    | some text => exact ⟨some ⟨text, sendable.configYaml text rfl⟩, rfl⟩
  have midi : ∃ sent : Option MidiRequest, sent.map MidiRequest.narrow = midi := by
    cases midi with
    | none => exact ⟨none, rfl⟩
    | some midi =>
        obtain ⟨sent, rfl⟩ := MidiRequest.exists_narrow (sendable.midi midi rfl)
        exact ⟨some sent, rfl⟩
  obtain ⟨text, rfl⟩ := text
  obtain ⟨midi, rfl⟩ := midi
  exact ⟨⟨source, midi, text⟩, rfl⟩

def keys : List String := ["v", "type", "source", "midi", "config_yaml"]

theorem Optional.eq_none_iff {α : Type} {dictionary : DictionaryRef} {key : String}
    {encodes : Object → α → Prop} {value : Option α}
    (optional : Optional dictionary key encodes value) :
    value = none ↔ dictionary.getValue key = none := by
  cases value with
  | none => exact iff_of_true rfl optional
  | some value =>
      obtain ⟨object, here, _⟩ := optional
      simp [here]

end Contract

theorem parseRequest_encodes {start : StartRequest} (sendable : Contract.StartRequest.Sendable start) :
    ∃ message, parseRequest message = .ok (.start start) := by
  obtain ⟨sent, rfl⟩ := Contract.StartRequest.exists_narrow sendable
  exact ⟨_, parseRequest_eq_ok.mpr ⟨.start sent, (Contract.Request.start sent).encodedBy_encode, rfl⟩⟩

/-- A request is accepted exactly when the message encodes it; its encoding gives it back, what
other keys hold is ignored, a mismatch of the version comes before all else, every other message
is an invalid request, and no optional key that is there is read as left out. -/
theorem parses_the_contract (message : DictionaryRef) :
    (∀ request, parseRequest message = .ok request ↔
      ∃ sent : Contract.Request, sent.EncodedBy message ∧ sent.narrow = request) ∧
    (∀ sent : Contract.Request, parseRequest sent.encode = .ok sent.narrow) ∧
    (∀ other : DictionaryRef, (∀ key ∈ Contract.keys, other.getValue key = message.getValue key) →
      parseRequest other = parseRequest message) ∧
    (∀ version, message.getValue "v" = some (.int64 version) → version ≠ 1 →
      parseRequest message = .error (.contractMismatch version.toInt contractVersion)) ∧
    ((∀ version, message.getValue "v" = some (.int64 version) → version = 1) →
      (¬∃ sent : Contract.Request, sent.EncodedBy message) →
      ∃ reason, parseRequest message = .error (.invalidRequest reason)) ∧
    (∀ start, parseRequest message = .ok (.start start) →
      (start.midi = none ↔ message.getValue "midi" = none) ∧
      (start.configYaml = none ↔ message.getValue "config_yaml" = none) ∧
      ∀ name channels, start.source = .device name channels →
        ∃ source : DictionaryRef, message.getValue "source" = some (.dictionary source) ∧
          (channels = none ↔ source.getValue "channels" = none) ∧
          ∀ list, channels = some list →
            source.getValue "channels" = some (.array (list.map Contract.channel))) := by
  refine ⟨fun request => parseRequest_eq_ok,
    fun sent => parseRequest_eq_ok.mpr ⟨sent, sent.encodedBy_encode, rfl⟩, fun other same => ?_,
    fun version here mismatch => parseRequest_mismatch here mismatch, fun version malformed => ?_,
    fun start accepted => ?_⟩
  · have version := same "v" (by decide)
    have type := same "type" (by decide)
    have source := same "source" (by decide)
    have midi := same "midi" (by decide)
    have text := same "config_yaml" (by decide)
    simp only [parseRequest, parseStart, DictionaryRef.getI64, DictionaryRef.getString,
      DictionaryRef.getDictionary, DictionaryRef.contains, version, type, source, midi, text]
    rfl
  · cases parsed : parseRequest message with
    | ok request =>
        obtain ⟨sent, encoded, _⟩ := parseRequest_eq_ok.mp parsed
        exact absurd ⟨sent, encoded⟩ malformed
    | error error =>
        obtain ⟨reason, rfl⟩ := parseRequest_invalid version error parsed
        exact ⟨reason, rfl⟩
  · obtain ⟨sent, ⟨_, encoded⟩, narrow⟩ := parseRequest_eq_ok.mp accepted
    cases sent with
    | hello | listAudioDevices | listMidiDevices | stop => cases narrow
    | start asked =>
        obtain ⟨_, ⟨source, here, sent⟩, midi, text⟩ := encoded
        cases narrow
        refine ⟨?_, ?_, fun name channels device => ?_⟩
        · rw [← midi.eq_none_iff]
          exact Option.map_eq_none_iff
        · rw [← text.eq_none_iff]
          exact Option.map_eq_none_iff
        · obtain ⟨asked, _, _⟩ := asked
          cases asked with
          | testTone hz | testSweep rateHz => cases device
          | device text list =>
              cases device
              refine ⟨source, here, sent.2.2.eq_none_iff, ?_⟩
              rintro list rfl
              obtain ⟨_, there, rfl⟩ := sent.2.2
              exact there

end Phase4.Xpc
