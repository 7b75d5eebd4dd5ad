import Phase4.Library.Json
import Phase4.Headless
import Phase4.StreamFailure

namespace Phase4.Headless
open Library Config Managers StreamFailure

/-! ## The lines of the event stream -/

def panicEventCode : String := "Panic"

inductive Event where
  | ready (report : ReadyReport)
  | error (code message : String)
  | shutdown (reason : ShutdownReason)
deriving DecidableEq, Repr

def reasonText : ShutdownReason → String
  | .signal => "signal"
  | .stdinClosed => "stdin_closed"

def Event.json (display : SocketAddr → String) : Event → Json
  | .ready report => readyEvent display report
  | .error code message => .object [
      ("v", .number eventSchemaVersion),
      ("event", .string "error"),
      ("code", .string code),
      ("message", .string message)]
  | .shutdown reason => .object [
      ("v", .number eventSchemaVersion),
      ("event", .string "shutdown"),
      ("reason", .string (reasonText reason))]

mutual

def Json.value : Json → JsonValue Nat
  | .null => .null
  | .number value => .number value
  | .string value => .string value
  | .array values => .array (Json.elements values)
  | .object entries => .object (Json.members entries)

def Json.elements : List Json → List (JsonValue Nat)
  | [] => []
  | first :: rest => first.value :: Json.elements rest

def Json.members : List (String × Json) → List (String × JsonValue Nat)
  | [] => []
  | (key, first) :: rest => (key, first.value) :: Json.members rest

end

def Event.text (display : SocketAddr → String) (event : Event) : List Char :=
  Library.Json.print Library.Json.naturals (event.json display).value

/-! ## A host reads them -/

structure Addresses where
  display : SocketAddr → String
  parse : String → Option SocketAddr
  parse_display : ∀ addr, parse (display addr) = some addr

namespace Reading

def member (key : String) : JsonValue Nat → Option (JsonValue Nat)
  | .object members => members.lookup key
  | _ => none

def asString : JsonValue Nat → Option String
  | .string value => some value
  | _ => none

def asNumber : JsonValue Nat → Option Nat
  | .number value => some value
  | _ => none

def optional {Value : Type} (read : JsonValue Nat → Option Value) :
    JsonValue Nat → Option (Option Value)
  | .null => some none
  | value => (read value).map some

def asNumbers : JsonValue Nat → Option (List Nat)
  | .array values => values.mapM asNumber
  | _ => none

def asAddress (addresses : Addresses) (value : JsonValue Nat) : Option SocketAddr :=
  (asString value).bind addresses.parse

def reason : String → Option ShutdownReason
  | "signal" => some .signal
  | "stdin_closed" => some .stdinClosed
  | _ => none

def readyReport (addresses : Addresses) (line : JsonValue Nat) : Option ReadyReport := do
  let audio ← member "audio" line
  let device ← (member "device" audio).bind (optional asString)
  let sampleRate ← (member "sample_rate" audio).bind asNumber
  let channels ← (member "channels" audio).bind asNumbers
  let midiDevice ← (member "midi_device" line).bind (optional asString)
  let outputs ← member "outputs" line
  let websocket ← (member "websocket" outputs).bind (optional (asAddress addresses))
  let osc ← (member "osc" outputs).bind (optional (asAddress addresses))
  some ⟨⟨device, sampleRate, channels⟩, midiDevice, ⟨websocket, osc⟩⟩

def event (addresses : Addresses) (line : JsonValue Nat) : Option Event := do
  let version ← (member "v" line).bind asNumber
  let kind ← (member "event" line).bind asString
  if version ≠ eventSchemaVersion then none
  else match kind with
    | "ready" => (readyReport addresses line).map .ready
    | "error" => do
        let code ← (member "code" line).bind asString
        let message ← (member "message" line).bind asString
        some (.error code message)
    | "shutdown" =>
        (((member "reason" line).bind asString).bind reason).map .shutdown
    | _ => none

end Reading

def readEvents (addresses : Addresses) (text : List Char) : Option (List Event) :=
  (Library.Json.readLines Library.Json.naturals text).bind
    fun lines => lines.mapM (Reading.event addresses)

section
variable (addresses : Addresses)

theorem elements_numbers (values : List Nat) :
    Json.elements (values.map .number) = values.map .number := by
  induction values with
  | nil => rfl
  | cons first rest ih =>
      rw [List.map_cons, Json.elements, ih]
      rfl

theorem asNumbers_elements (values : List Nat) :
    Reading.asNumbers (.array (Json.elements (values.map .number))) = some values := by
  rw [elements_numbers, Reading.asNumbers]
  induction values with
  | nil => rfl
  | cons first rest ih => simp [Reading.asNumber, ih]

theorem optional_string (value : Option String) :
    Reading.optional Reading.asString (Json.optional value).value = some value := by
  cases value <;> rfl

theorem optional_address (addr : Option SocketAddr) :
    Reading.optional (Reading.asAddress addresses)
      (Json.optional (addr.map addresses.display)).value = some addr := by
  cases addr with
  | none => rfl
  | some addr =>
      have back := addresses.parse_display addr
      simp [Json.optional, Json.value, Reading.optional, Reading.asAddress, Reading.asString, back]

theorem read_event (event : Event) :
    Reading.event addresses (event.json addresses.display).value = some event := by
  cases event with
  | ready report =>
      have report_read : Reading.readyReport addresses
          (readyEvent addresses.display report).value = some report := by
        simp [Reading.readyReport, readyEvent, Json.value, Json.members, Reading.member,
          List.lookup, optional_string, optional_address, asNumbers_elements, Reading.asNumber]
      simp only [Event.json, Reading.event]
      rw [report_read]
      rfl
  | error code message => rfl
  | shutdown reason => cases reason <;> rfl

def printEvents (display : SocketAddr → String) (events : List Event) : List Char :=
  events.flatMap fun event => event.text display ++ ['\n']

theorem printEvents_eq (display : SocketAddr → String) (events : List Event) :
    printEvents display events =
      Library.Json.printLines Library.Json.naturals
        (events.map fun event => (event.json display).value) := by
  rw [printEvents, Library.Json.printLines, List.flatMap_map]
  rfl

theorem plain_text (display : SocketAddr → String) (event : Event) :
    Library.Json.Plain (event.text display) :=
  Library.Json.plain_print _ _

/-- What was written reads back, whatever part of a next line is there already. -/
theorem readEvents_printEvents (events : List Event) {begun : List Char}
    (plain : Library.Json.Plain begun) :
    readEvents addresses (printEvents addresses.display events ++ begun) = some events := by
  rw [readEvents, printEvents_eq, Library.Json.readLines_printLines _ _ plain, Option.bind_some]
  induction events with
  | nil => rfl
  | cons event rest ih => simp [read_event, ih]

end

/-! ## Dotted addresses -/

namespace Dotted

def octets (bits : BitVec 32) : List Nat :=
  [bits.toNat / 2 ^ 24, bits.toNat / 2 ^ 16 % 256, bits.toNat / 2 ^ 8 % 256, bits.toNat % 256]

/-- An IPv6 address is one number between its brackets. -/
def hostText : IpAddr → List Char
  | .v4 bits => ['.'].intercalate ((octets bits).map (Nat.toDigits 10))
  | .v6 bits => '[' :: (Nat.toDigits 10 bits.toNat ++ [']'])

def display (addr : SocketAddr) : String :=
  String.ofList (hostText addr.ip ++ ':' :: Nat.toDigits 10 addr.port)

def readHost : List Char → Option IpAddr
  | '[' :: rest => (Library.Json.naturals.read rest.dropLast).map fun value => .v6 (BitVec.ofNat 128 value)
  | text =>
      match (text.splitOn '.').mapM Library.Json.naturals.read with
      | some [a, b, c, d] => some (.v4 (BitVec.ofNat 32 (((a * 256 + b) * 256 + c) * 256 + d)))
      | _ => none

def parse (text : String) : Option SocketAddr :=
  match text.toList.splitOn ':' with
  | [host, port] => do
      let ip ← readHost host
      let port ← Library.Json.naturals.read port
      some ⟨ip, Fin.ofNat 65536 port⟩
  | _ => none

theorem digits_without (value : Nat) {c : Char} (letter : c.isDigit = false) :
    c ∉ Nat.toDigits 10 value := by
  intro member
  have digit := Nat.isDigit_of_mem_toDigits (by decide) (by decide) member
  rw [letter] at digit
  cases digit

theorem read_digits (value : Nat) : Library.Json.naturals.read (Nat.toDigits 10 value) = some value :=
  Library.Json.naturals.read_print value

theorem hostText_without_colon (ip : IpAddr) : ':' ∉ hostText ip := by
  have digits (value : Nat) : ':' ∉ Nat.toDigits 10 value := digits_without value rfl
  cases ip with
  | v4 bits => simp [hostText, octets, List.intercalate, digits]
  | v6 bits => simp [hostText, digits]

theorem readHost_hostText (ip : IpAddr) : readHost (hostText ip) = some ip := by
  cases ip with
  | v6 bits => simp [hostText, readHost, read_digits]
  | v4 bits =>
      have split : (hostText (.v4 bits)).splitOn '.' = (octets bits).map (Nat.toDigits 10) := by
        refine List.splitOn_intercalate '.' (fun text member => ?_) (by simp [octets])
        obtain ⟨value, -, rfl⟩ := List.mem_map.mp member
        exact digits_without value rfl
      have whole : ((bits.toNat / 16777216 * 256 + bits.toNat / 65536 % 256) * 256 +
          bits.toNat / 256 % 256) * 256 + bits.toNat % 256 = bits.toNat := by
        omega
      have first : ∀ rest, hostText (.v4 bits) ≠ '[' :: rest := by
        intro rest same
        have member : '[' ∈ hostText (.v4 bits) := by
          rw [same]
          exact List.mem_cons_self
        have digits (value : Nat) : '[' ∉ Nat.toDigits 10 value := digits_without value rfl
        simp [hostText, octets, List.intercalate, digits] at member
      unfold readHost
      split
      next rest same => exact absurd same (first rest)
      next => simp [split, octets, read_digits, whole]

theorem parse_display (addr : SocketAddr) : parse (display addr) = some addr := by
  have split : (display addr).toList.splitOn ':' = [hostText addr.ip, Nat.toDigits 10 addr.port] := by
    rw [display, String.toList_ofList,
      List.splitOn_append_cons_self_of_not_mem (hostText_without_colon addr.ip),
      List.splitOn_eq_singleton (digits_without _ rfl)]
  simp [parse, split, readHost_hostText, read_digits]

def addresses : Addresses := ⟨display, parse, parse_display⟩

end Dotted

example : (Event.ready ⟨⟨some "Duet 3", 48000, [0, 1]⟩, none,
    ⟨some ⟨.v4 0x7F000001, 53412⟩, none⟩⟩).text Dotted.display =
      ("\x7b\"v\":1,\"event\":\"ready\",\"audio\":\x7b\"device\":\"Duet 3\"," ++
        "\"sample_rate\":48000,\"channels\":[0,1]\x7d,\"midi_device\":null," ++
        "\"outputs\":\x7b\"websocket\":\"127.0.0.1:53412\",\"osc\":null\x7d\x7d").toList := by
  decide +kernel

end Phase4.Headless
