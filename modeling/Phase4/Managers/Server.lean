import Phase4.Dsp.Payload

namespace Phase4.Managers.Server
open Dsp

/-! ## Serialisation

The text of a payload comes from a JSON library. It is a parameter, `none` where that library
fails. -/

def retainedSerialisedReceivers : Nat := 1

def hasConnectedClients (receiverCount : Nat) : Bool :=
  decide (receiverCount > retainedSerialisedReceivers)

def emptyDisplayPayloadJson : String := "\x7b\"channels\":[]\x7d"

/-- The text the derived `Serialize` gives a payload whose numbers are written by `number`. -/
def displayJson (number : F32 → String) (payload : DisplayPayload) : String :=
  let channelJson (channel : ChannelLevel) := "\x7b\"peak\":" ++ number channel.peak ++
    ",\"bins\":[" ++ ",".intercalate (bands.map fun band => number (channel.bins band)) ++ "]\x7d"
  let transportJson (transport : Option Transport) := match transport with
    | none => ""
    | some .start => "\"transport\":\"start\","
    | some .stop => "\"transport\":\"stop\","
    | some .continue => "\"transport\":\"continue\","
  let midiJson := match payload.midi with
    | none => ""
    | some midi => ",\"midi\":\x7b" ++ transportJson midi.transport ++ "\"steps\":" ++
        toString midi.steps.toNat ++ "\x7d"
  "\x7b\"channels\":[" ++ ",".intercalate (payload.channels.map channelJson) ++ "]" ++ midiJson ++
    "\x7d"

inductive LogLine where
  | nonFiniteValue
  | serialiseFailed
  | fallingBack
deriving DecidableEq, Repr

/-- A text with the failure flag it leaves behind and the lines it logs. -/
structure Serialised (Text : Type) where
  json : Text
  alreadyLogged : Bool
  lines : List LogLine
deriving DecidableEq, Repr

def serialiseDisplayPayload (toJson : DisplayPayload → Option String)
    (payload : DisplayPayload) (alreadyLogged : Bool) : Serialised (Option String) :=
  let hasNonFinite := payload.channels.any fun channel =>
    !channel.peak.isFinite || bands.any fun band => !(channel.bins band).isFinite
  if hasNonFinite then ⟨none, true, if !alreadyLogged then [.nonFiniteValue] else []⟩
  else
    match toJson payload with
    | some json => ⟨some json, false, []⟩
    | none => ⟨none, false, [.serialiseFailed]⟩

def initialSerialisedSnapshot (toJson : DisplayPayload → Option String)
    (payload : DisplayPayload) (alreadyLogged : Bool) : Serialised String :=
  let serialised := serialiseDisplayPayload toJson payload alreadyLogged
  match serialised.json with
  | some json => { serialised with json }
  | none => {
      json := emptyDisplayPayloadJson
      alreadyLogged := serialised.alreadyLogged
      lines := serialised.lines ++ [.fallingBack] }

def AllFinite (payload : DisplayPayload) : Prop :=
  payload.channels.all ChannelLevel.isFinite = true

instance (payload : DisplayPayload) : Decidable (AllFinite payload) :=
  inferInstanceAs (Decidable (_ = true))

theorem serialiseDisplayPayload_json (toJson : DisplayPayload → Option String)
    (payload : DisplayPayload) (alreadyLogged : Bool) :
    (serialiseDisplayPayload toJson payload alreadyLogged).json =
      if AllFinite payload then toJson payload else none := by
  have test : (payload.channels.any fun channel => !channel.peak.isFinite ||
      bands.any fun band => !(channel.bins band).isFinite) =
        !payload.channels.all ChannelLevel.isFinite := by
    rw [List.not_all_eq_any_not]
    refine congrArg (payload.channels.any ·) (funext fun channel => ?_)
    rw [ChannelLevel.isFinite, Bool.not_and, List.not_all_eq_any_not]
  rw [serialiseDisplayPayload, test]
  cases finite : payload.channels.all ChannelLevel.isFinite with
  | false => simp [AllFinite, finite]
  | true => cases text : toJson payload <;> simp [AllFinite, finite]

end Phase4.Managers.Server
