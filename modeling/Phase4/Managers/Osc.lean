import Phase4.Dsp.Payload
import Phase4.Library.Overlay

namespace Phase4.Managers
open Phase4.Dsp Phase4.Library

/-! ## OSC packets -/

inductive OscType where
  | float (value : F32)
  | int (value : Int32)
deriving DecidableEq

@[ext] structure OscMessage where
  addr : String
  args : List OscType
deriving DecidableEq

structure OscTime where
  seconds : BitVec 32
  fractional : BitVec 32
deriving DecidableEq

inductive OscPacket where
  | message (msg : OscMessage)
  | bundle (timetag : OscTime) (content : List OscPacket)

namespace OscPacket

def addr? : OscPacket → Option String
  | .message msg => some msg.addr
  | .bundle _ _ => none

def setFloat (value : F32) : OscPacket → OscPacket
  | .message ⟨addr, .float _ :: rest⟩ => .message ⟨addr, .float value :: rest⟩
  | packet => packet

@[simp] theorem setFloat_float (value old : F32) (addr : String) (rest : List OscType) :
    setFloat value (.message ⟨addr, .float old :: rest⟩) =
      .message ⟨addr, .float value :: rest⟩ := rfl

def setInt (value : Int32) : OscPacket → OscPacket
  | .message ⟨addr, .int _ :: rest⟩ => .message ⟨addr, .int value :: rest⟩
  | packet => packet

end OscPacket

namespace OscSender

def immediate : OscTime := ⟨0, 1⟩

def binAddr (ch bin : Nat) : String := s!"/ch/{ch}/bin/{bin}"

def buildPackets (channels : Nat) : List OscPacket :=
  (List.range channels).flatMap fun ch =>
    (List.range bandCount).map fun bin => .message ⟨binAddr ch bin, [.float F32.zero]⟩

def buildBinBundle (channels : Nat) : OscPacket := .bundle immediate (buildPackets channels)

end OscSender

structure MidiOscPackets where
  stepsPacket : OscPacket
  startPacket : OscPacket
  stopPacket : OscPacket
  continuePacket : OscPacket

namespace OscSender

def bang (addr : String) : OscPacket := .message ⟨addr, [.int 1]⟩

def buildMidiPackets : MidiOscPackets where
  stepsPacket := .message ⟨"/phase4/midi/steps", [.int 0]⟩
  startPacket := bang "/phase4/midi/start"
  stopPacket := bang "/phase4/midi/stop"
  continuePacket := bang "/phase4/midi/continue"

end OscSender

structure OscRuntime where
  binBundle : OscPacket
  midiPackets : Option MidiOscPackets

def OscSender.runtime (channels : Nat) (midiEnabled : Bool) : OscRuntime where
  binBundle := buildBinBundle channels
  midiPackets := if midiEnabled then some buildMidiPackets else none

namespace OscRuntime

def updateChannel (packets : List OscPacket) (channel : ChannelLevel) : List OscPacket :=
  zipUpdate (fun packet value => packet.setFloat value) packets (bands.map channel.bins)

def updateBins (content : List OscPacket) (channels : List ChannelLevel) : List OscPacket :=
  chunksUpdate bandCount updateChannel content channels

def transportPacket (packets : MidiOscPackets) : Option Transport → Option OscPacket
  | some .start => some packets.startPacket
  | some .stop => some packets.stopPacket
  | some .continue => some packets.continuePacket
  | none => none

def sendMidi (midiPackets : Option MidiOscPackets) :
    Option MidiSnapshot → Option MidiOscPackets × List OscPacket
  | none => (midiPackets, [])
  | some midi =>
      match midiPackets with
      | none => (none, [])
      | some packets =>
          let updated := { packets with
            stepsPacket := packets.stepsPacket.setInt (Int32.ofBitVec midi.steps) }
          (some updated, updated.stepsPacket :: (transportPacket updated midi.transport).toList)

/-- One pass over a snapshot: the packets given to `encode_and_send`, in order.
None where `unreachable!` would be reached. -/
def consume (runtime : OscRuntime) (snapshot : DisplayPayload) :
    Option (OscRuntime × List OscPacket) :=
  match runtime.binBundle with
  | .message _ => none
  | .bundle timetag content =>
      let binBundle := .bundle timetag (updateBins content snapshot.channels)
      let (midiPackets, midi) := sendMidi runtime.midiPackets snapshot.midi
      some (⟨binBundle, midiPackets⟩, binBundle :: midi)

/-- What one turn of the loop meets: the flag it reads, and the snapshot `changed` brings,
none once the channel is closed. -/
structure Turn where
  keepRunning : Bool
  changed : Option DisplayPayload

def run (runtime : OscRuntime) : List Turn → Option (List (List OscPacket))
  | [] => some []
  | turn :: later =>
      if turn.keepRunning then
        match turn.changed with
        | none => some []
        | some snapshot => do
            let (next, packets) ← runtime.consume snapshot
            let frames ← next.run later
            return packets :: frames
      else some []

def consumed : List Turn → List DisplayPayload
  | [] => []
  | turn :: later =>
      if turn.keepRunning then
        match turn.changed with
        | none => []
        | some snapshot => snapshot :: consumed later
      else []

end OscRuntime

/-! ## Addresses -/

namespace OscSender

theorem slash_notMem_repr (n : Nat) : '/' ∉ n.repr.toList := by
  intro member
  rw [Nat.toList_repr] at member
  have digit := Nat.isDigit_of_mem_toDigits (by norm_num) (by norm_num) member
  exact absurd digit (by decide)

theorem binAddr_toList (ch bin : Nat) :
    (binAddr ch bin).toList =
      "/ch/".toList ++ (ch.repr.toList ++ '/' :: ("bin/".toList ++ bin.repr.toList)) := by
  simp [binAddr, toString]

theorem takeWhile_repr (n : Nat) (rest : List Char) :
    (n.repr.toList ++ '/' :: rest).takeWhile (· ≠ '/') = n.repr.toList := by
  have digits : ∀ c ∈ n.repr.toList, decide (c ≠ '/') = true := by
    intro c member
    exact decide_eq_true (ne_of_mem_of_not_mem member (slash_notMem_repr n))
  rw [List.takeWhile_append_of_pos digits]
  simp

theorem binAddr_inj {ch other bin bin' : Nat} (same : binAddr ch bin = binAddr other bin') :
    ch = other ∧ bin = bin' := by
  have lists := congrArg String.toList same
  rw [binAddr_toList, binAddr_toList] at lists
  have tails := List.append_cancel_left lists
  have channels := congrArg (List.takeWhile (· ≠ '/')) tails
  rw [takeWhile_repr, takeWhile_repr] at channels
  rw [channels] at tails
  have bins := List.append_cancel_left (List.cons.inj (List.append_cancel_left tails)).2
  exact ⟨Nat.repr_injective (String.toList_inj.mp channels),
    Nat.repr_injective (String.toList_inj.mp bins)⟩

end OscSender

/-! ## Tables -/

open OscSender

def row (ch : Nat) (bins : Bins) : List OscPacket :=
  bands.map fun bin : Fin bandCount => .message ⟨binAddr ch bin, [.float (bins bin)]⟩

def table (values : List Bins) : List OscPacket := (values.mapIdx row).flatten

theorem row_length (ch : Nat) (bins : Bins) : (row ch bins).length = bandCount := by
  simp [row]

theorem rows_length (values : List Bins) : ∀ frame ∈ values.mapIdx row, frame.length = bandCount := by
  intro frame member
  obtain ⟨ch, _, rfl⟩ := List.mem_mapIdx.mp member
  exact row_length _ _

theorem buildPackets_eq (channels : Nat) :
    buildPackets channels = table (List.replicate channels fun _ => F32.zero) := by
  have rows : (List.replicate channels fun _ => F32.zero).mapIdx row =
      (List.range channels).map fun ch => row ch fun _ => F32.zero :=
    List.ext_getElem (by simp) (by simp)
  have bins (ch : Nat) : row ch (fun _ => F32.zero) =
      (List.range bandCount).map fun bin => .message ⟨binAddr ch bin, [.float F32.zero]⟩ := by
    rw [row, ← List.map_coe_finRange_eq_range, List.map_map]
    rfl
  rw [table, rows, buildPackets, List.flatMap_def]
  simp only [bins]

theorem updateChannel_row (ch : Nat) (bins : Bins) (channel : ChannelLevel) :
    OscRuntime.updateChannel (row ch bins) channel = row ch channel.bins := by
  have written (indices : List (Fin bandCount)) :
      zipUpdate (fun packet value => OscPacket.setFloat value packet)
        (indices.map fun bin : Fin bandCount => .message ⟨binAddr ch bin, [.float (bins bin)]⟩)
        (indices.map channel.bins) =
      indices.map fun bin : Fin bandCount =>
        .message ⟨binAddr ch bin, [.float (channel.bins bin)]⟩ := by
    induction indices with
    | nil => rfl
    | cons bin later ih => simp only [List.map_cons, zipUpdate, OscPacket.setFloat_float, ih]
  exact written bands

theorem updateBins_table (values : List Bins) (channels : List ChannelLevel) :
    OscRuntime.updateBins (table values) channels =
      table (zipUpdate (fun _ channel => channel.bins) values channels) := by
  have rewritten : zipUpdate OscRuntime.updateChannel (values.mapIdx row) channels =
      (zipUpdate (fun _ channel => channel.bins) values channels).mapIdx row :=
    zipUpdate_mapIdx (fun ch bins _ channel => updateChannel_row ch bins channel) channels
  rw [OscRuntime.updateBins, table,
    chunksUpdate_frames (by norm_num [bandCount]) (rows_length values), rewritten, table]

theorem mem_table {values : List Bins} {packet : OscPacket} :
    packet ∈ table values ↔ ∃ ch, ∃ bound : ch < values.length, ∃ bin : Fin bandCount,
      packet = .message ⟨binAddr ch bin, [.float (values[ch] bin)]⟩ := by
  simp only [table, List.mem_flatten, List.mem_mapIdx, row]
  constructor
  · rintro ⟨frame, ⟨ch, bound, rfl⟩, member⟩
    obtain ⟨bin, _, rfl⟩ := List.mem_map.mp member
    exact ⟨ch, bound, bin, rfl⟩
  · rintro ⟨ch, bound, bin, rfl⟩
    exact ⟨_, ⟨ch, bound, rfl⟩, List.mem_map.mpr ⟨bin, List.mem_finRange bin, rfl⟩⟩

theorem table_addrs (values : List Bins) :
    (table values).filterMap OscPacket.addr? =
      ((List.range values.length).product bands).map fun place => binAddr place.1 place.2 := by
  have addrs (ch : Nat) (bins : Bins) :
      (row ch bins).filterMap OscPacket.addr? =
        bands.map fun bin : Fin bandCount => binAddr ch bin := by
    simp [row, List.filterMap_map, Function.comp_def, OscPacket.addr?]
  have rows : (values.mapIdx row).map (List.filterMap OscPacket.addr?) =
      (List.range values.length).map fun ch => bands.map fun bin : Fin bandCount => binAddr ch bin :=
    List.ext_getElem (by simp) (by simp [addrs])
  rw [table, List.filterMap_flatten, rows, List.product.eq_1, List.map_flatMap, List.flatMap_def]
  simp only [List.map_map, Function.comp_def]

theorem table_addrs_nodup (values : List Bins) :
    ((table values).filterMap OscPacket.addr?).Nodup := by
  rw [table_addrs]
  refine List.Nodup.map ?_ (List.nodup_range.product (List.nodup_finRange _))
  rintro ⟨ch, bin⟩ ⟨other, bin'⟩ same
  obtain ⟨rfl, bins⟩ := binAddr_inj same
  exact Prod.ext rfl (Fin.ext bins)

/-! ## What a frame carries -/

def transportAddr : Transport → String
  | .start => "/phase4/midi/start"
  | .stop => "/phase4/midi/stop"
  | .continue => "/phase4/midi/continue"

structure CarriesBins (channels : List ChannelLevel) (content : List OscPacket) : Prop where
  once : ∀ ch < channels.length, ∀ bin : Fin bandCount,
    (content.filterMap OscPacket.addr?).count (binAddr ch bin) = 1
  value : ∀ ch, ∀ bound : ch < channels.length, ∀ bin : Fin bandCount,
    .message ⟨binAddr ch bin, [.float (channels[ch].bins bin)]⟩ ∈ content
  only : ∀ packet ∈ content, ∃ ch, ∃ bound : ch < channels.length, ∃ bin : Fin bandCount,
    packet = .message ⟨binAddr ch bin, [.float (channels[ch].bins bin)]⟩

def CarriesMidi (midiEnabled : Bool) : Option MidiSnapshot → List OscPacket → Prop
  | some midi, packets =>
      if midiEnabled then
        ∃ steps : Int32, steps.toBitVec = midi.steps ∧
          packets = .message ⟨"/phase4/midi/steps", [.int steps]⟩ ::
            (midi.transport.map fun event => .message ⟨transportAddr event, [.int 1]⟩).toList
      else packets = []
  | none, packets => packets = []

def Carries (midiEnabled : Bool) (snapshot : DisplayPayload) (packets : List OscPacket) : Prop :=
  ∃ content midi, packets = .bundle immediate content :: midi ∧
    CarriesBins snapshot.channels content ∧ CarriesMidi midiEnabled snapshot.midi midi

theorem table_carries (channels : List ChannelLevel) :
    CarriesBins channels (table (channels.map ChannelLevel.bins)) where
  once ch bound bin := by
    refine List.count_eq_one_of_mem (table_addrs_nodup _) (List.mem_filterMap.mpr ?_)
    exact ⟨_, mem_table.mpr ⟨ch, by simpa using bound, bin, rfl⟩, rfl⟩
  value ch bound bin := mem_table.mpr ⟨ch, by simpa using bound, bin, by simp⟩
  only packet member := by
    obtain ⟨ch, bound, bin, rfl⟩ := mem_table.mp member
    exact ⟨ch, by simpa using bound, bin, by simp⟩

def midiTable (steps : Int32) : MidiOscPackets :=
  { buildMidiPackets with stepsPacket := .message ⟨"/phase4/midi/steps", [.int steps]⟩ }

namespace OscRuntime

/-- The bundle holds one row for each channel and the MIDI table is there when enabled,
whatever values earlier snapshots left in them. -/
structure Built (channels : Nat) (midiEnabled : Bool) (runtime : OscRuntime) : Prop where
  bins : ∃ values : List Bins, values.length = channels ∧
    runtime.binBundle = .bundle immediate (table values)
  midi : ∃ steps, runtime.midiPackets = if midiEnabled then some (midiTable steps) else none

theorem built (channels : Nat) (midiEnabled : Bool) :
    (OscSender.runtime channels midiEnabled).Built channels midiEnabled where
  bins := ⟨List.replicate channels fun _ => F32.zero, List.length_replicate,
    congrArg (OscPacket.bundle immediate) (buildPackets_eq channels)⟩
  midi := ⟨0, rfl⟩

theorem transportPacket_midiTable (steps : Int32) (transport : Option Transport) :
    transportPacket (midiTable steps) transport =
      transport.map fun event => .message ⟨transportAddr event, [.int 1]⟩ := by
  cases transport with
  | none => rfl
  | some event => cases event <;> rfl

theorem sendMidi_carries (midiEnabled : Bool) (steps : Int32) (midi : Option MidiSnapshot) :
    ∃ left packets, sendMidi (if midiEnabled then some (midiTable steps) else none) midi =
        (if midiEnabled then some (midiTable left) else none, packets) ∧
      CarriesMidi midiEnabled midi packets := by
  cases midi with
  | none => exact ⟨steps, [], rfl, rfl⟩
  | some midi =>
      cases midiEnabled with
      | false => exact ⟨steps, [], rfl, rfl⟩
      | true =>
          let steps' := Int32.ofBitVec midi.steps
          have bang := transportPacket_midiTable steps' midi.transport
          exact ⟨steps', _, rfl, steps', rfl, congrArg (fun packet => _ :: packet.toList) bang⟩

def Sent (channels : Nat) (midiEnabled : Bool) (snapshot : DisplayPayload)
    (packets : List OscPacket) : Prop :=
  ∃ values midi, packets = .bundle immediate (table values) :: midi ∧ values.length = channels ∧
    (snapshot.channels.length = channels → values = snapshot.channels.map ChannelLevel.bins) ∧
    CarriesMidi midiEnabled snapshot.midi midi

theorem consume_spec {channels : Nat} {midiEnabled : Bool} {runtime : OscRuntime}
    (built : runtime.Built channels midiEnabled) (snapshot : DisplayPayload) :
    ∃ next packets, runtime.consume snapshot = some (next, packets) ∧
      next.Built channels midiEnabled ∧ Sent channels midiEnabled snapshot packets := by
  obtain ⟨values, length, bundle⟩ := built.bins
  obtain ⟨steps, packets⟩ := built.midi
  obtain ⟨left, midi, sent, carried⟩ := sendMidi_carries midiEnabled steps snapshot.midi
  let written := zipUpdate (fun _ channel => channel.bins) values snapshot.channels
  have count : written.length = channels := by rw [zipUpdate_length, length]
  have replaced (same : snapshot.channels.length = channels) :
      written = snapshot.channels.map ChannelLevel.bins :=
    zipUpdate_replace ChannelLevel.bins (same.trans length.symm)
  refine ⟨⟨.bundle immediate (table written), if midiEnabled then some (midiTable left) else none⟩,
    .bundle immediate (table written) :: midi, ?_, ⟨⟨written, count, rfl⟩, ⟨left, rfl⟩⟩,
    written, midi, rfl, count, replaced, carried⟩
  simp only [consume, bundle, packets, sent, updateBins_table, written]

theorem run_spec {channels : Nat} {midiEnabled : Bool} {runtime : OscRuntime}
    (built : runtime.Built channels midiEnabled) (turns : List Turn) :
    ∃ frames, runtime.run turns = some frames ∧
      List.Forall₂ (Sent channels midiEnabled) (consumed turns) frames := by
  induction turns generalizing runtime with
  | nil => exact ⟨[], rfl, .nil⟩
  | cons turn later ih =>
      rw [run, consumed]
      cases turn.keepRunning with
      | false => exact ⟨[], rfl, .nil⟩
      | true =>
          cases turn.changed with
          | none => exact ⟨[], rfl, .nil⟩
          | some snapshot =>
              obtain ⟨next, packets, passed, kept, sent⟩ := consume_spec built snapshot
              obtain ⟨frames, ran, matched⟩ := ih kept
              have whole : (do
                  let (next, packets) ← runtime.consume snapshot
                  let frames ← next.run later
                  return packets :: frames) = some (packets :: frames) := by
                simp [passed, ran]
              exact ⟨packets :: frames, whole, .cons sent matched⟩

theorem Sent.carries {channels : Nat} {midiEnabled : Bool} {snapshot : DisplayPayload}
    {packets : List OscPacket} (sent : Sent channels midiEnabled snapshot packets)
    (shape : snapshot.channels.length = channels) : Carries midiEnabled snapshot packets := by
  obtain ⟨values, midi, rfl, -, replaced, carried⟩ := sent
  rw [replaced shape]
  exact ⟨_, midi, rfl, table_carries snapshot.channels, carried⟩

theorem frames_carry_snapshots (channels : Nat) (midiEnabled : Bool) (turns : List Turn)
    (shape : ∀ snapshot ∈ consumed turns, snapshot.channels.length = channels) :
    (∃ frames, (OscSender.runtime channels midiEnabled).run turns = some frames ∧
      List.Forall₂ (Carries midiEnabled) (consumed turns) frames) ∧
    ∀ ch bin other bin', binAddr ch bin = binAddr other bin' → ch = other ∧ bin = bin' := by
  obtain ⟨frames, ran, matched⟩ := run_spec (built channels midiEnabled) turns
  have shaped := (List.forall₂_and_left _ _).mpr ⟨shape, matched⟩
  exact ⟨⟨frames, ran, shaped.imp fun _ _ frame => frame.2.carries frame.1⟩,
    fun _ _ _ _ => binAddr_inj⟩

theorem two_frames_carry_snapshots :
    let level : ChannelLevel := ⟨F32.zero, fun bin => ⟨BitVec.ofNat 32 bin⟩⟩
    let turns : List Turn := [⟨true, some ⟨[level, default], some ⟨some .start, -1⟩⟩⟩,
      ⟨true, some ⟨[default, level], none⟩⟩, ⟨true, none⟩]
    ∃ frames, (OscSender.runtime 2 true).run turns = some frames ∧
      List.Forall₂ (Carries true) (consumed turns) frames :=
  (frames_carry_snapshots 2 true _ (by simp [consumed])).1

end OscRuntime
end Phase4.Managers
