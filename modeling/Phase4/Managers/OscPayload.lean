import Phase4.Managers.Osc

namespace Phase4.Managers
open Phase4.Dsp OscSender

variable {ε : Type*} {encode : OscPacket → Except ε (List UInt8)}

/-! ## Encoded sizes

`rosc` encodes a packet. What is assumed of it is the layout of OSC 1.0, as far as sizes go. -/

/-- The size of a string of so many bytes: a NUL at least, up to a multiple of four. -/
def stringSize (bytes : Nat) : Nat := (bytes / 4 + 1) * 4

def messageSize (msg : OscMessage) : Nat :=
  stringSize msg.addr.utf8ByteSize + stringSize (1 + msg.args.length) + 4 * msg.args.length

structure Osc10 (encode : OscPacket → Except ε (List UInt8)) : Prop where
  message : ∀ msg, ∃ bytes, encode (.message msg) = .ok bytes ∧ bytes.length = messageSize msg
  bundle : ∀ timetag content elements,
    List.Forall₂ (fun packet bytes => encode packet = .ok bytes) content elements →
    ∃ bytes, encode (.bundle timetag content) = .ok bytes ∧
      bytes.length = 16 + (elements.map fun bytes => 4 + bytes.length).sum

/-! ## Starting the sender -/

namespace OscSender

inductive StartError (ε : Type*) where
  | context (text : String) (cause : ε)
  | ensure (text : String)

def oscUdpPayloadLimitBytes : Nat := 65507

def prepareBinBundle (encode : OscPacket → Except ε (List UInt8)) (channels : Nat) :
    Except (StartError ε) (OscPacket × List UInt8) := do
  let binBundle := buildBinBundle channels
  let scratch ← (encode binBundle).mapError
    (.context "Failed to encode OSC bin bundle during startup")
  if scratch.length ≤ oscUdpPayloadLimitBytes then
    return (binBundle, scratch)
  else
    throw (.ensure (s!"OSC output for {channels} audio channels and {bandCount} bands " ++
      s!"encodes to {scratch.length} bytes, exceeding the supported UDP payload limit of " ++
      s!"{oscUdpPayloadLimitBytes} bytes. Select fewer audio channels or use WebSocket output."))

def oscMessageSizeEstimateBytes : Nat := 64
def oscSendBufferFrameHeadroom : Nat := 4

def sendBufferSize (channels : Nat) (midiEnabled : Bool) : Nat :=
  let messagesPerFrame := channels * bandCount + if midiEnabled then 2 else 0
  messagesPerFrame * oscMessageSizeEstimateBytes * oscSendBufferFrameHeadroom

def spawn (encode : OscPacket → Except ε (List UInt8)) (channels : Nat) (midiEnabled : Bool) :
    Except (StartError ε) OscRuntime := do
  let (binBundle, _) ← prepareBinBundle encode channels
  return ⟨binBundle, if midiEnabled then some buildMidiPackets else none⟩

end OscSender

/-! ## The size of a bundle -/

theorem repr_size_one {n : Nat} (small : n < 10) : n.repr.utf8ByteSize = 1 := by
  rw [Nat.repr_of_lt small, String.utf8ByteSize_singleton]
  interval_cases n <;> rfl

theorem repr_size_two {n : Nat} (large : 10 ≤ n) (small : n < 100) : n.repr.utf8ByteSize = 2 := by
  rw [Nat.repr_eq_repr_append_repr large, String.utf8ByteSize_append,
    repr_size_one (n := n / 10) (by omega), repr_size_one (n := n % 10) (by omega)]

theorem binAddr_size (ch bin : Nat) :
    (binAddr ch bin).utf8ByteSize = 9 + ch.repr.utf8ByteSize + bin.repr.utf8ByteSize := by
  have four : "/ch/".utf8ByteSize = 4 := rfl
  have five : "/bin/".utf8ByteSize = 5 := rfl
  simp only [binAddr, toString, String.utf8ByteSize_append, four, five]
  omega

def elementSize (ch bin : Nat) : Nat := 4 + (stringSize (binAddr ch bin).utf8ByteSize + 4 + 4)

def rowSize (ch : Nat) : Nat := ((List.range bandCount).map (elementSize ch)).sum

def bundleSize (channels : Nat) : Nat := 16 + ((List.range channels).map rowSize).sum

theorem elementSize_pos (ch bin : Nat) : 0 < elementSize ch bin := Nat.add_pos_left (by norm_num) _

theorem bundleSize_succ (channels : Nat) :
    bundleSize (channels + 1) = bundleSize channels + rowSize channels := by
  simp [bundleSize, List.range_succ, Nat.add_assoc]

theorem rowSize_pos (ch : Nat) : 0 < rowSize ch := by
  have first : bandCount = 31 + 1 := rfl
  rw [rowSize, first, List.range_succ, List.map_append, List.sum_append]
  exact Nat.add_pos_right _ (by simpa using elementSize_pos ch 31)

theorem bundleSize_strictMono : StrictMono bundleSize := by
  apply strictMono_nat_of_lt_succ
  intro channels
  rw [bundleSize_succ]
  exact Nat.lt_add_of_pos_right (rowSize_pos channels)

theorem rowSize_of_digits {ch digits : Nat} (width : ch.repr.utf8ByteSize = digits) :
    rowSize ch = ((List.range bandCount).map fun bin =>
      12 + stringSize (9 + digits + if bin < 10 then 1 else 2)).sum := by
  unfold rowSize
  congr 1
  apply List.map_congr_left
  intro bin member
  have bound : bin < 32 := List.mem_range.mp member
  rw [elementSize, binAddr_size, width]
  by_cases one : bin < 10
  · rw [repr_size_one one, if_pos one]
    omega
  · rw [repr_size_two (Nat.le_of_not_lt one) (by omega), if_neg one]
    omega

theorem rowSize_one {ch : Nat} (small : ch < 10) : rowSize ch = 856 := by
  rw [rowSize_of_digits (repr_size_one small)]
  rfl

theorem rowSize_two {ch : Nat} (large : 10 ≤ ch) (small : ch < 100) : rowSize ch = 896 := by
  rw [rowSize_of_digits (repr_size_two large small)]
  rfl

theorem bundleSize_one {channels : Nat} (small : channels ≤ 10) :
    bundleSize channels = 16 + 856 * channels := by
  induction channels with
  | zero => rfl
  | succ channels ih =>
      rw [bundleSize_succ, ih (Nat.le_of_succ_le small), rowSize_one small]
      ring

theorem bundleSize_two {channels : Nat} (large : 10 ≤ channels) (small : channels ≤ 100) :
    bundleSize channels = 8576 + 896 * (channels - 10) := by
  induction channels, large using Nat.le_induction with
  | base => rw [bundleSize_one le_rfl]
  | succ channels large ih =>
      rw [bundleSize_succ, ih (Nat.le_of_succ_le small), rowSize_two large small,
        Nat.sub_add_comm large]
      ring

theorem bundleSize_le_limit_iff (channels : Nat) :
    bundleSize channels ≤ oscUdpPayloadLimitBytes ↔ channels ≤ 73 := by
  have largest : bundleSize 73 = 65024 := bundleSize_two (by norm_num) (by norm_num)
  have oversized : bundleSize 74 = 65920 := bundleSize_two (by norm_num) (by norm_num)
  have limit : oscUdpPayloadLimitBytes = 65507 := rfl
  constructor
  · intro fits
    by_contra more
    have grown : bundleSize 74 ≤ bundleSize channels :=
      bundleSize_strictMono.monotone (Nat.lt_of_not_le more)
    omega
  · intro few
    have grown := bundleSize_strictMono.monotone few
    omega

/-! ## What is encoded -/

def packetSize : OscPacket → Nat
  | .message msg => messageSize msg
  | .bundle _ _ => 0

theorem element_size (ch bin : Nat) (value : F32) :
    4 + packetSize (.message ⟨binAddr ch bin, [.float value]⟩) = elementSize ch bin := by
  have tags : stringSize (1 + 1) = 4 := rfl
  simp only [packetSize, messageSize, elementSize, List.length_singleton, tags]

theorem row_size (ch : Nat) (bins : Bins) :
    ((row ch bins).map fun packet => 4 + packetSize packet).sum = rowSize ch := by
  rw [rowSize, row, ← List.map_coe_finRange_eq_range, List.map_map, List.map_map]
  congr 1
  exact List.map_congr_left fun bin _ => element_size ch bin (bins bin)

theorem table_size (values : List Bins) :
    ((table values).map fun packet => 4 + packetSize packet).sum =
      ((List.range values.length).map rowSize).sum := by
  have rows : (values.mapIdx row).map (fun frame =>
      (frame.map fun packet => 4 + packetSize packet).sum) = (List.range values.length).map rowSize :=
    List.ext_getElem (by simp) fun ch _ _ => by
      simp only [List.getElem_map, List.getElem_mapIdx, List.getElem_range, row_size]
  rw [table, List.map_flatten, List.sum_flatten, List.map_map, ← rows]
  rfl

theorem Osc10.elements (osc : Osc10 encode) {content : List OscPacket}
    (messages : ∀ packet ∈ content, ∃ msg, packet = .message msg) :
    ∃ elements, List.Forall₂ (fun packet bytes => encode packet = .ok bytes) content elements ∧
      elements.map (fun bytes => 4 + bytes.length) =
        content.map fun packet => 4 + packetSize packet := by
  induction content with
  | nil => exact ⟨[], .nil, rfl⟩
  | cons packet later ih =>
      obtain ⟨msg, rfl⟩ := messages packet List.mem_cons_self
      obtain ⟨bytes, encoded, length⟩ := osc.message msg
      obtain ⟨elements, tail, lengths⟩ :=
        ih fun other member => messages other (List.mem_cons_of_mem _ member)
      exact ⟨bytes :: elements, .cons encoded tail, by simp [length, packetSize, lengths]⟩

/-- The size of a bundle depends on the number of its channels, not on the values it carries. -/
theorem Osc10.table (osc : Osc10 encode) (timetag : OscTime) (values : List Bins) :
    ∃ bytes, encode (.bundle timetag (table values)) = .ok bytes ∧
      bytes.length = bundleSize values.length := by
  have messages : ∀ packet ∈ Managers.table values, ∃ msg, packet = .message msg := by
    intro packet member
    obtain ⟨ch, _, bin, rfl⟩ := mem_table.mp member
    exact ⟨_, rfl⟩
  obtain ⟨elements, encoded, lengths⟩ := osc.elements messages
  obtain ⟨bytes, whole, length⟩ := osc.bundle timetag _ elements encoded
  exact ⟨bytes, whole, by rw [length, lengths, table_size, bundleSize]⟩

theorem Osc10.binBundle (osc : Osc10 encode) (channels : Nat) :
    ∃ bytes, encode (buildBinBundle channels) = .ok bytes ∧ bytes.length = bundleSize channels := by
  rw [buildBinBundle, buildPackets_eq]
  simpa using osc.table immediate (List.replicate channels fun _ => F32.zero)

theorem prepareBinBundle_eq_ok {channels : Nat} {prepared : OscPacket × List UInt8} :
    prepareBinBundle encode channels = .ok prepared ↔
      encode (buildBinBundle channels) = .ok prepared.2 ∧
        prepared.1 = buildBinBundle channels ∧ prepared.2.length ≤ oscUdpPayloadLimitBytes := by
  obtain ⟨binBundle, scratch⟩ := prepared
  rw [prepareBinBundle]
  cases encoded : encode (buildBinBundle channels) with
  | error cause => simp [Except.mapError, bind, Except.bind]
  | ok bytes =>
      simp only [Except.mapError, bind, Except.bind]
      split
      next fits =>
        constructor
        · intro same
          cases same
          exact ⟨rfl, rfl, fits⟩
        · rintro ⟨same, rfl, -⟩
          cases same
          rfl
      next large =>
        constructor
        · intro same
          cases same
        · rintro ⟨same, -, fits⟩
          cases same
          exact absurd fits large

theorem prepares_iff (osc : Osc10 encode) (channels : Nat) :
    (∃ prepared, prepareBinBundle encode channels = .ok prepared) ↔ channels ≤ 73 := by
  obtain ⟨bytes, encoded, length⟩ := osc.binBundle channels
  rw [← bundleSize_le_limit_iff, ← length]
  constructor
  · rintro ⟨prepared, started⟩
    obtain ⟨same, -, fits⟩ := prepareBinBundle_eq_ok.mp started
    obtain rfl : bytes = prepared.2 := Except.ok.inj (encoded.symm.trans same)
    exact fits
  · intro fits
    exact ⟨(_, bytes), prepareBinBundle_eq_ok.mpr ⟨encoded, rfl, fits⟩⟩

theorem spawn_ok {channels : Nat} {midiEnabled : Bool} {runtime : OscRuntime}
    (started : spawn encode channels midiEnabled = .ok runtime) :
    (∃ prepared, prepareBinBundle encode channels = .ok prepared) ∧
      runtime = OscSender.runtime channels midiEnabled := by
  unfold spawn at started
  cases prepared : prepareBinBundle encode channels with
  | error failure =>
      rw [prepared] at started
      cases started
  | ok pair =>
      rw [prepared] at started
      cases started
      exact ⟨⟨pair, rfl⟩, by rw [(prepareBinBundle_eq_ok.mp prepared).2.1]; rfl⟩

/-- Every bin datagram of a sender that started has the size measured before it started. -/
theorem startup_bounds_frames (osc : Osc10 encode) :
    (∀ channels, ∃ measured, encode (buildBinBundle channels) = .ok measured ∧
      ∀ levels : List ChannelLevel, ∃ bytes,
        encode (.bundle immediate (OscRuntime.updateBins (buildPackets channels) levels)) =
          .ok bytes ∧ bytes.length = measured.length) ∧
    (∀ channels midiEnabled runtime turns frames,
      spawn encode channels midiEnabled = .ok runtime → runtime.run turns = some frames →
      ∀ packets ∈ frames, ∃ binBundle midi bytes, packets = binBundle :: midi ∧
        encode binBundle = .ok bytes ∧ bytes.length ≤ oscUdpPayloadLimitBytes) ∧
    (∀ few many small large, few < many → encode (buildBinBundle few) = .ok small →
      encode (buildBinBundle many) = .ok large → small.length < large.length) ∧
    ∀ channels, (∃ prepared, prepareBinBundle encode channels = .ok prepared) ↔ channels ≤ 73 := by
  refine ⟨?_, ?_, ?_, prepares_iff osc⟩
  · intro channels
    obtain ⟨measured, encoded, length⟩ := osc.binBundle channels
    refine ⟨measured, encoded, ?_⟩
    intro levels
    rw [buildPackets_eq, updateBins_table, length]
    obtain ⟨bytes, whole, size⟩ := osc.table immediate (Library.zipUpdate
      (fun _ channel => channel.bins) (List.replicate channels fun _ => F32.zero) levels)
    rw [Library.zipUpdate_length, List.length_replicate] at size
    exact ⟨bytes, whole, size⟩
  · intro channels midiEnabled runtime turns frames started ran packets member
    obtain ⟨prepared, rfl⟩ := spawn_ok started
    obtain ⟨_, same, sent⟩ := OscRuntime.run_spec (OscRuntime.built channels midiEnabled) turns
    obtain rfl := Option.some.inj (same.symm.trans ran)
    obtain ⟨i, bound, rfl⟩ := List.getElem_of_mem member
    obtain ⟨lengths, each⟩ := List.forall₂_iff_get.mp sent
    obtain ⟨values, midi, shape, length, -, -⟩ := each i (lengths ▸ bound) bound
    obtain ⟨bytes, whole, size⟩ := osc.table immediate values
    rw [length] at size
    exact ⟨_, midi, bytes, shape, whole, size ▸
      (bundleSize_le_limit_iff channels).mpr ((prepares_iff osc channels).mp prepared)⟩
  · intro few many small large less encoded encoded'
    obtain ⟨bytes, same, length⟩ := osc.binBundle few
    obtain ⟨bytes', same', length'⟩ := osc.binBundle many
    obtain rfl : bytes = small := Except.ok.inj (same.symm.trans encoded)
    obtain rfl : bytes' = large := Except.ok.inj (same'.symm.trans encoded')
    rw [length, length']
    exact bundleSize_strictMono less

/-! ## An encoder of this kind -/

def oscString (bytes : List UInt8) : List UInt8 :=
  bytes ++ List.replicate (4 - bytes.length % 4) 0

def bigEndian (word : BitVec 32) : List UInt8 :=
  [24, 16, 8, 0].map fun shift => UInt8.ofNat (word.toNat >>> shift)

def encodeArg : OscType → List UInt8
  | .float value => bigEndian value.bits
  | .int value => bigEndian value.toBitVec

def typeTag : OscType → UInt8
  | .float _ => 'f'.toUInt8
  | .int _ => 'i'.toUInt8

mutual

def encodePacket : OscPacket → List UInt8
  | .message msg =>
      oscString msg.addr.toByteArray.data.toList ++
        oscString (','.toUInt8 :: msg.args.map typeTag) ++ msg.args.flatMap encodeArg
  | .bundle timetag content =>
      oscString "#bundle".toByteArray.data.toList ++ bigEndian timetag.seconds ++
        bigEndian timetag.fractional ++ encodeElements content

def encodeElements : List OscPacket → List UInt8
  | [] => []
  | packet :: later =>
      bigEndian (BitVec.ofNat 32 (encodePacket packet).length) ++ encodePacket packet ++
        encodeElements later

end

theorem oscString_length (bytes : List UInt8) :
    (oscString bytes).length = stringSize bytes.length := by
  rw [oscString, List.length_append, List.length_replicate, stringSize]
  omega

theorem bigEndian_length (word : BitVec 32) : (bigEndian word).length = 4 := rfl

theorem encodeArgs_length (args : List OscType) :
    (args.flatMap encodeArg).length = 4 * args.length := by
  have four (arg : OscType) : (encodeArg arg).length = 4 := by cases arg <;> rfl
  simp [List.length_flatMap, four, Nat.mul_comm]

theorem encodeElements_length (content : List OscPacket) :
    (encodeElements content).length =
      (content.map fun packet => 4 + (encodePacket packet).length).sum := by
  induction content with
  | nil => rfl
  | cons packet later ih =>
      rw [encodeElements, List.length_append, List.length_append, bigEndian_length, ih,
        List.map_cons, List.sum_cons]

theorem encodePacket_sizes : Osc10 fun packet => (Except.ok (encodePacket packet) : Except Unit _) where
  message msg := by
    refine ⟨_, rfl, ?_⟩
    have bytes : msg.addr.toByteArray.data.toList.length = msg.addr.utf8ByteSize := rfl
    rw [encodePacket, List.length_append, List.length_append, oscString_length, oscString_length,
      encodeArgs_length, bytes, List.length_cons, List.length_map, Nat.add_comm _ 1, messageSize]
  bundle timetag content elements matched := by
    refine ⟨_, rfl, ?_⟩
    have encoded : elements = content.map encodePacket := by
      induction matched with
      | nil => rfl
      | cons first _ ih => rw [List.map_cons, ← ih, Except.ok.inj first]
    have header : (oscString "#bundle".toByteArray.data.toList).length = 8 := by
      rw [oscString_length]
      rfl
    simp only [encodePacket, List.length_append, header, bigEndian_length, encodeElements_length,
      encoded, List.map_map, Function.comp_def]

theorem seventy_three_channels_fit :
    (∃ prepared, prepareBinBundle (fun packet => (Except.ok (encodePacket packet) : Except Unit _))
      73 = .ok prepared) ∧
    ¬ ∃ prepared, prepareBinBundle
      (fun packet => (Except.ok (encodePacket packet) : Except Unit _)) 74 = .ok prepared :=
  have prepares := (startup_bounds_frames encodePacket_sizes).2.2.2
  ⟨(prepares 73).mpr (by norm_num), fun prepared => absurd ((prepares 74).mp prepared) (by norm_num)⟩

end Phase4.Managers
