import Phase4.Library.Json
import Phase4.Managers.Server

namespace Phase4.Managers.Server
open Library Dsp

/-! ## What a client reads in a text

Floats are written by a library. Their texts are JSON numbers that read back. -/

structure Floats where
  print : F32 → String
  parse : String → Option F32
  numeral : ∀ value, value.isFinite = true → ∀ c ∈ (print value).toList, isNumeral c = true
  nonempty : ∀ value, value.isFinite = true → print value ≠ ""
  parse_print : ∀ value, value.isFinite = true → parse (print value) = some value

namespace DisplayText

def member (key : String) : JsonValue Json.Token → Option (JsonValue Json.Token)
  | .object members => members.lookup key
  | _ => none

def elements : JsonValue Json.Token → Option (List (JsonValue Json.Token))
  | .array values => some values
  | _ => none

def asFloat (floats : Floats) : JsonValue Json.Token → Option F32
  | .number token => floats.parse (String.ofList token.text)
  | _ => none

def asSteps : JsonValue Json.Token → Option (BitVec 32)
  | .number token => (Json.naturals.read token.text).map (BitVec.ofNat 32)
  | _ => none

def asTransport : JsonValue Json.Token → Option Transport
  | .string "start" => some .start
  | .string "stop" => some .stop
  | .string "continue" => some .continue
  | _ => none

def channel (floats : Floats) (value : JsonValue Json.Token) : Option ChannelLevel := do
  let peak ← (member "peak" value).bind (asFloat floats)
  let bins ← ((member "bins" value).bind elements).bind fun values => values.mapM (asFloat floats)
  if bins.length = bandCount then some ⟨peak, fun band => (bins[band.val]?).getD F32.zero⟩ else none

/-- The keys a payload leaves out are absent, not null. -/
def absentOr {Value : Type} (read : JsonValue Json.Token → Option Value) :
    Option (JsonValue Json.Token) → Option (Option Value)
  | none => some none
  | some value => (read value).map some

def midi (value : JsonValue Json.Token) : Option MidiSnapshot := do
  let transport ← absentOr asTransport (member "transport" value)
  let steps ← (member "steps" value).bind asSteps
  some ⟨transport, steps⟩

def payload (floats : Floats) (value : JsonValue Json.Token) : Option DisplayPayload := do
  let channels ← ((member "channels" value).bind elements).bind
    fun values => values.mapM (channel floats)
  let midi ← absentOr midi (member "midi" value)
  some ⟨channels, midi⟩

end DisplayText

def readDisplay (floats : Floats) (text : String) : Option DisplayPayload :=
  (Json.parse Json.tokens text.toList).bind (DisplayText.payload floats)

/-! ## The value behind a text -/

section
variable (floats : Floats)

def floatToken (value : F32) : Json.Token :=
  if finite : value.isFinite = true then
    ⟨(floats.print value).toList, List.all_eq_true.mpr (floats.numeral value finite), by
      simpa using floats.nonempty value finite⟩
  else ⟨['0'], rfl, by simp⟩

def stepsToken (steps : BitVec 32) : Json.Token :=
  ⟨Json.naturals.print steps.toNat, List.all_eq_true.mpr (Json.naturals.numeral _),
    Json.naturals.nonempty _⟩

def transportMember : Option Transport → List (String × JsonValue Json.Token)
  | none => []
  | some .start => [("transport", .string "start")]
  | some .stop => [("transport", .string "stop")]
  | some .continue => [("transport", .string "continue")]

def channelValue (level : ChannelLevel) : JsonValue Json.Token :=
  .object [("peak", .number (floatToken floats level.peak)),
    ("bins", .array (bands.map fun band => .number (floatToken floats (level.bins band))))]

def midiMember : Option MidiSnapshot → List (String × JsonValue Json.Token)
  | none => []
  | some midi => [("midi", .object (transportMember midi.transport ++
      [("steps", .number (stepsToken midi.steps))]))]

def displayValue (payload : DisplayPayload) : JsonValue Json.Token :=
  .object (("channels", .array (payload.channels.map (channelValue floats))) ::
    midiMember payload.midi)

/-! ## The text is the value's -/

theorem print_float {value : F32} (finite : value.isFinite = true) :
    Json.print Json.tokens (.number (floatToken floats value)) = (floats.print value).toList := by
  rw [Json.print, floatToken, dif_pos finite]
  rfl

theorem channel_text {level : ChannelLevel} (finite : level.isFinite = true) :
    ("\x7b\"peak\":" ++ floats.print level.peak ++ ",\"bins\":[" ++
      ",".intercalate (bands.map fun band => floats.print (level.bins band)) ++ "]\x7d").toList =
      Json.print Json.tokens (channelValue floats level) := by
  rw [ChannelLevel.isFinite, Bool.and_eq_true, List.all_eq_true] at finite
  have bins : (bands.map fun band => floats.print (level.bins band)).map String.toList =
      (bands.map fun band => JsonValue.number (floatToken floats (level.bins band))).map
        (Json.print Json.tokens) := by
    rw [List.map_map, List.map_map]
    exact List.map_congr_left fun band member => (print_float floats (finite.2 band member)).symm
  have opening : "\x7b\"peak\":".toList = '\x7b' :: (Json.printString "peak" ++ [':']) := by decide
  have between : ",\"bins\":[".toList = ',' :: (Json.printString "bins" ++ [':', '[']) := by decide
  have closing : "]\x7d".toList = [']', '\x7d'] := by decide
  have comma : ",".toList = [','] := by decide
  simp only [String.toList_append, String.toList_intercalate, opening, between, closing, comma]
  rw [bins, ← print_float floats finite.1]
  simp only [channelValue, Json.print, Json.printMembers, Json.printElements_eq, Json.sequence,
    List.append_assoc, List.cons_append, List.nil_append]
  simp [List.intercalate]

theorem midi_text (midi : MidiSnapshot) :
    (",\"midi\":\x7b" ++ (match midi.transport with
      | none => ""
      | some .start => "\"transport\":\"start\","
      | some .stop => "\"transport\":\"stop\","
      | some .continue => "\"transport\":\"continue\",") ++ "\"steps\":" ++
        toString midi.steps.toNat ++ "\x7d").toList =
      ',' :: (Json.printString "midi" ++ ':' :: Json.print Json.tokens
        (.object (transportMember midi.transport ++ [("steps", .number (stepsToken midi.steps))]))) := by
  have opening : ",\"midi\":\x7b".toList = ',' :: (Json.printString "midi" ++ [':', '\x7b']) := by
    decide
  have steps : "\"steps\":".toList = Json.printString "steps" ++ [':'] := by decide
  have closing : "\x7d".toList = ['\x7d'] := by decide
  have count : (toString midi.steps.toNat).toList = (stepsToken midi.steps).text := by
    show (Nat.repr midi.steps.toNat).toList = Nat.toDigits 10 midi.steps.toNat
    simp
  have start : "\"transport\":\"start\",".toList =
      Json.printString "transport" ++ ':' :: (Json.printString "start" ++ [',']) := by decide
  have stop : "\"transport\":\"stop\",".toList =
      Json.printString "transport" ++ ':' :: (Json.printString "stop" ++ [',']) := by decide
  have continued : "\"transport\":\"continue\",".toList =
      Json.printString "transport" ++ ':' :: (Json.printString "continue" ++ [',']) := by decide
  simp only [String.toList_append, opening, steps, closing, count]
  rcases midi.transport with _ | transport
  · simp [transportMember, Json.print, Json.printMembers, Json.sequence, List.intercalate,
      Json.tokens]
  · cases transport
    all_goals
      simp [start, stop, continued, transportMember, Json.print, Json.printMembers, Json.sequence,
        List.intercalate, Json.tokens]

theorem display_text {payload : DisplayPayload} (finite : AllFinite payload) :
    (displayJson floats.print payload).toList =
      Json.print Json.tokens (displayValue floats payload) := by
  rw [AllFinite, List.all_eq_true] at finite
  have channels : (payload.channels.map fun channel =>
      "\x7b\"peak\":" ++ floats.print channel.peak ++ ",\"bins\":[" ++
        ",".intercalate (bands.map fun band => floats.print (channel.bins band)) ++
        "]\x7d").map String.toList =
      (payload.channels.map (channelValue floats)).map (Json.print Json.tokens) := by
    rw [List.map_map, List.map_map]
    exact List.map_congr_left fun level member => channel_text floats (finite level member)
  have opening : "\x7b\"channels\":[".toList =
      '\x7b' :: (Json.printString "channels" ++ [':', '[']) := by decide
  have between : "]".toList = [']'] := by decide
  have closing : "\x7d".toList = ['\x7d'] := by decide
  have comma : ",".toList = [','] := by decide
  have pieces (a b c d e : String) : (a ++ b ++ c ++ d ++ e).toList =
      a.toList ++ b.toList ++ c.toList ++ d.toList ++ e.toList := by
    simp only [String.toList_append]
  refine (pieces _ _ _ _ _).trans ?_
  rw [String.toList_intercalate, channels, opening, between, closing, comma]
  cases midi : payload.midi with
  | none =>
      simp only [displayValue, midi, midiMember, Json.print, Json.printMembers,
        Json.printElements_eq, Json.sequence]
      simp [List.intercalate]
  | some snapshot =>
      simp only [displayValue, midi, midiMember, Json.print, Json.printMembers,
        Json.printElements_eq, Json.sequence]
      refine (congrArg (_ ++ · ++ ['\x7d']) (midi_text snapshot)).trans ?_
      simp only [Json.print, Json.sequence]
      simp [List.intercalate]

/-! ## The value reads back -/

theorem read_float {value : F32} (finite : value.isFinite = true) :
    DisplayText.asFloat floats (.number (floatToken floats value)) = some value := by
  rw [DisplayText.asFloat, floatToken, dif_pos finite, String.ofList_toList,
    floats.parse_print value finite]

theorem read_bins {level : ChannelLevel}
    (finite : ∀ band ∈ bands, (level.bins band).isFinite = true) :
    (bands.map fun band => JsonValue.number (floatToken floats (level.bins band))).mapM
      (DisplayText.asFloat floats) = some (bands.map level.bins) := by
  revert finite
  generalize bands = all
  intro finite
  induction all with
  | nil => rfl
  | cons band rest ih =>
      obtain ⟨here, later⟩ := List.forall_mem_cons.mp finite
      simp [read_float floats here, ih later]

theorem read_channel {level : ChannelLevel} (finite : level.isFinite = true) :
    DisplayText.channel floats (channelValue floats level) = some level := by
  rw [ChannelLevel.isFinite, Bool.and_eq_true, List.all_eq_true] at finite
  have bins := read_bins floats finite.2
  simp [DisplayText.channel, channelValue, DisplayText.member, List.lookup, DisplayText.elements,
    read_float floats finite.1, bins]

theorem read_steps (steps : BitVec 32) :
    DisplayText.asSteps (.number (stepsToken steps)) = some steps := by
  simp [DisplayText.asSteps, stepsToken, Json.naturals.read_print]

theorem read_midi (midi : MidiSnapshot) :
    DisplayText.midi (.object (transportMember midi.transport ++
      [("steps", .number (stepsToken midi.steps))])) = some midi := by
  obtain ⟨transport, steps⟩ := midi
  have count := read_steps steps
  rcases transport with _ | transport
  · simp [DisplayText.midi, transportMember, DisplayText.member, List.lookup,
      DisplayText.absentOr, count]
  · cases transport
    all_goals
      simp [DisplayText.midi, transportMember, DisplayText.member, List.lookup,
        DisplayText.absentOr, count, DisplayText.asTransport]

theorem read_value {payload : DisplayPayload} (finite : AllFinite payload) :
    DisplayText.payload floats (displayValue floats payload) = some payload := by
  rw [AllFinite, List.all_eq_true] at finite
  have channels : (payload.channels.map (channelValue floats)).mapM (DisplayText.channel floats) =
      some payload.channels := by
    revert finite
    generalize payload.channels = all
    intro finite
    induction all with
    | nil => rfl
    | cons level rest ih =>
        obtain ⟨here, later⟩ := List.forall_mem_cons.mp finite
        simp [read_channel floats here, ih later]
  obtain ⟨levels, midi⟩ := payload
  cases midi with
  | none =>
      simp [DisplayText.payload, displayValue, midiMember, DisplayText.member, List.lookup,
        DisplayText.elements, DisplayText.absentOr, channels]
  | some snapshot =>
      simp [DisplayText.payload, displayValue, midiMember, DisplayText.member, List.lookup,
        DisplayText.elements, DisplayText.absentOr, channels, read_midi]

/-- A client gets back every float, every step and every transport of the payload. -/
theorem display_json_reads_back (floats : Floats) (payload : DisplayPayload)
    (finite : AllFinite payload) :
    readDisplay floats (displayJson floats.print payload) = some payload := by
  rw [readDisplay, display_text floats finite, Json.parse_print, Option.bind_some,
    read_value floats finite]

end

def bitFloats : Floats where
  print value := if value = F32.zero then "0.0" else String.ofList (Nat.toDigits 10 value.bits.toNat)
  parse text := some ((Json.naturals.read text.toList).elim F32.zero fun bits => ⟨BitVec.ofNat 32 bits⟩)
  numeral value _ c member := by
    split_ifs at member with zero
    · have all : ∀ c ∈ "0.0".toList, isNumeral c = true := by simp [isNumeral]
      exact all c member
    · rw [String.toList_ofList] at member
      exact Json.naturals.numeral value.bits.toNat c member
  nonempty value _ := by
    split_ifs with zero
    · decide
    · simp
  parse_print value _ := by
    split_ifs with zero
    · rw [zero]
      rfl
    · have digits : Json.naturals.read (Nat.toDigits 10 value.bits.toNat) = some value.bits.toNat :=
        Json.naturals.read_print value.bits.toNat
      simp [digits]

theorem started_silence_reads_back : ∃ text,
    text = displayJson bitFloats.print ⟨[default], some ⟨some .start, 7⟩⟩ ∧
    readDisplay bitFloats text = some ⟨[default], some ⟨some .start, 7⟩⟩ :=
  ⟨_, rfl, display_json_reads_back bitFloats _ (by decide)⟩

end Phase4.Managers.Server
