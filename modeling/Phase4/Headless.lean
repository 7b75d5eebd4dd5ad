import Phase4.Config.Types
import Phase4.Managers.Devices

namespace Phase4.Headless
open Config Managers

/-! ## Errors and their codes -/

/-- What construction fails with. `untyped` stands for an error that carries no typed source. -/
inductive StartError where
  | config (error : AppConfigError)
  | device (error : Audio.DeviceError)
  | midi (error : Midi.MidiDeviceError)
  | untyped (message : String)
deriving DecidableEq, Repr

def unknownEventCode : String := "Unknown"

def configEventCode : AppConfigError → String
  | .missingDevice => "MissingDevice"
  | .noOutputConfigured => "NoOutputConfigured"
  | .nonLoopbackBindAddress _ => "NonLoopbackBindAddress"
  | .invalidAttackTime _ => "InvalidAttackTime"
  | .invalidReleaseTime _ => "InvalidReleaseTime"
  | .invalidFreqLow _ => "InvalidFreqLow"
  | .invalidFreqHigh _ => "InvalidFreqHigh"
  | .invalidFreqRange _ _ => "InvalidFreqRange"
  | .invalidFilterQ _ => "InvalidFilterQ"
  | .invalidVocoderBandCoefficients .. => "InvalidVocoderBandCoefficients"
  | .invalidMidiTempo _ => "InvalidMidiTempo"
  | .invalidTestFrequency _ => "InvalidTestFrequency"
  | .invalidTestSweepRate _ => "InvalidTestSweepRate"
  | .invalidMaxClients => "InvalidMaxClients"
  | .emptyChannelSelection => "EmptyChannelSelection"
  | .invalidMidiDeviceName => "InvalidMidiDeviceName"
  | .duplicateOutputTransport _ => "DuplicateOutputTransport"
  | .channelIndexOutOfRange .. => "ChannelIndexOutOfRange"
  | .configFileParseError _ => "ConfigFileParseError"
  | .configFileNotFound _ => "ConfigFileNotFound"
  | .invalidFreqAboveNyquist .. => "InvalidFreqAboveNyquist"
  | .invalidFreqAboveSafetyCeiling .. => "InvalidFreqAboveSafetyCeiling"

def deviceEventCode : Audio.DeviceError → String
  | .emptyQuery => "EmptyQuery"
  | .noMatch _ => "NoMatch"
  | .unsupportedFormat _ => "UnsupportedFormat"
  | .hardwareStreamError _ => "HardwareStreamError"
  | .hardwareConfig _ => unknownEventCode

def midiEventCode : Midi.MidiDeviceError → String
  | .midiUnavailable _ => "MidiUnavailable"
  | .midiNoMatch _ => "MidiNoMatch"
  | .midiConnectFailed .. => "MidiConnectFailed"

def errorCode : StartError → String
  | .config error => configEventCode error
  | .device error => deviceEventCode error
  | .midi error => midiEventCode error
  | .untyped _ => unknownEventCode

def StartError.text (displays : Displays) : StartError → String
  | config error => error.text displays
  | device error => error.text
  | midi error => error.text
  | untyped message => message

/-! ## The ready report -/

structure ReadyAudio where
  device : Option String
  sampleRate : Nat
  channels : List Nat
deriving DecidableEq, Repr

structure ReadyOutputs where
  websocket : Option SocketAddr
  osc : Option SocketAddr
deriving DecidableEq, Repr

structure ReadyReport where
  audio : ReadyAudio
  midiDevice : Option String
  outputs : ReadyOutputs
deriving DecidableEq, Repr

inductive Json where
  | null
  | number (value : Nat)
  | string (value : String)
  | array (values : List Json)
  | object (entries : List (String × Json))

namespace Json

def optional (value : Option String) : Json := value.elim .null .string

def field (key : String) : Json → Option Json
  | .object entries => entries.lookup key
  | _ => none

end Json

def eventSchemaVersion : Nat := 1

/-- The line of a ready event. Addresses are written by `display`. -/
def readyEvent (display : SocketAddr → String) (report : ReadyReport) : Json :=
  .object [
    ("v", .number eventSchemaVersion),
    ("event", .string "ready"),
    ("audio", .object [
      ("device", .optional report.audio.device),
      ("sample_rate", .number report.audio.sampleRate),
      ("channels", .array (report.audio.channels.map .number))]),
    ("midi_device", .optional report.midiDevice),
    ("outputs", .object [
      ("websocket", .optional (report.outputs.websocket.map display)),
      ("osc", .optional (report.outputs.osc.map display))])]

end Phase4.Headless
