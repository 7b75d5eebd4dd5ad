import Phase4.Library.Seqlock
import Phase4.Dsp.Payload

namespace Phase4.Frames
open Library Dsp

/-! ## Layout -/

/-- The ASCII bytes `P4FR` as a little-endian word. -/
def frameMagic : BitVec 32 := 0x52463450

def frameLayoutVersion : BitVec 32 := 1

def frameHeaderBytes : Nat := 64

def wordBytes : Nat := 4

def channelRecordBytes : Nat := (1 + bandCount) * wordBytes

def offsetMagic : Nat := 0
def offsetLayoutVersion : Nat := 4
def offsetSequence : Nat := 8
def offsetPublishedNs : Nat := 16
def offsetChannelCount : Nat := 24
def offsetBandCount : Nat := 28
def offsetSampleRate : Nat := 32
def offsetMidiFlags : Nat := 36
def offsetMidiSteps : Nat := 40
def offsetMidiTransportCount : Nat := 44
def offsetMidiTransportLast : Nat := 48

def recordPeakOffset : Nat := 0

def recordBinsOffset : Nat := wordBytes

def headerBandCount : BitVec 32 := BitVec.ofNat 32 bandCount

def midiFlagConfigured : BitVec 32 := 1

def readAttempts : Nat := 3

structure FrameMidi where
  steps : BitVec 32
  transportCount : BitVec 32
  transportLast : BitVec 32
deriving DecidableEq, Repr

structure FrameHeader where
  layoutVersion : BitVec 32
  channelCount : BitVec 32
  bandCount : BitVec 32
  sampleRate : BitVec 32
  midiFlags : BitVec 32
deriving DecidableEq, Repr

structure Frame where
  sequence : BitVec 64
  publishedNs : BitVec 64
  midi : FrameMidi
  channels : List ChannelLevel
deriving DecidableEq

def frameBytes (channelCount : Nat) : Nat := frameHeaderBytes + channelCount * channelRecordBytes

def recordOffset (index : Nat) : Nat := frameHeaderBytes + index * channelRecordBytes

def word32 (offset : Nat) : Word := ⟨offset, 4⟩

def word64 (offset : Nat) : Word := ⟨offset, 8⟩

/-! ## The region and its programs -/

/-- The words of a mapping are the only thing its readers and its writer share. -/
structure FrameRegion where
  base : Memory
  mappedLen : Nat
  channelCount : Nat

inductive RegionError where
  | invalidInput
  | osError
deriving DecidableEq, Repr

def RegionError.text (system : String) : RegionError → String
  | invalidInput => "The channel count does not fit the frame header"
  | osError => system

/-- `mapped` is whether the system grants the mapping, whose bytes are then zero. -/
def FrameRegion.new (pageSize : Nat) (mapped : Bool) (channelCount : Nat)
    (sampleRate : BitVec 32) (midiConfigured : Bool) : Except RegionError FrameRegion :=
  if 2 ^ 32 ≤ channelCount then .error .invalidInput
  else if !mapped then .error .osError
  else
    let mappedLen := (frameBytes channelCount + pageSize - 1) / pageSize * pageSize
    let midiFlags := if midiConfigured then midiFlagConfigured else 0
    let zeroed : Memory := fun _ => 0
    .ok {
      base := (((((zeroed.store (word32 offsetMagic) frameMagic.toNat).store
        (word32 offsetLayoutVersion) frameLayoutVersion.toNat).store
        (word32 offsetChannelCount) channelCount).store
        (word32 offsetBandCount) headerBandCount.toNat).store
        (word32 offsetSampleRate) sampleRate.toNat).store
        (word32 offsetMidiFlags) midiFlags.toNat
      mappedLen
      channelCount }

def load32 (offset : Nat) : MemoryProgram (BitVec 32) := do
  let value ← load (word32 offset)
  return BitVec.ofNat 32 value

def load64 (offset : Nat) : MemoryProgram (BitVec 64) := do
  let value ← load (word64 offset)
  return BitVec.ofNat 64 value

def store32 (offset : Nat) (value : BitVec 32) : MemoryProgram Unit :=
  store (word32 offset) value.toNat

def store64 (offset : Nat) (value : BitVec 64) : MemoryProgram Unit :=
  store (word64 offset) value.toNat

def binOffset (record : Nat) (band : Fin bandCount) : Nat :=
  record + recordBinsOffset + band * wordBytes

def storeBins (record : Nat) (bins : Bins) : List (Fin bandCount) → MemoryProgram Unit
  | [] => .done ()
  | band :: rest => do
      store32 (binOffset record band) (bins band).toBits
      storeBins record bins rest

def storeChannels (index : Nat) : List ChannelLevel → MemoryProgram Unit
  | [] => .done ()
  | channel :: rest => do
      let record := recordOffset index
      store32 (record + recordPeakOffset) channel.peak.toBits
      storeBins record channel.bins bands
      storeChannels (index + 1) rest

/-- `FrameRegion::publish`, `none` where its assertion on the channel count panics. The
fences order nothing further when every word is read and written in one global order. -/
def publish (channelCount : Nat) (channels : List ChannelLevel) (midi : FrameMidi)
    (publishedNs : BitVec 64) : Option (MemoryProgram Bool) :=
  if channels.length ≠ channelCount then none
  else if !channels.all ChannelLevel.isFinite then some (.done false)
  else some do
    let stable ← load64 offsetSequence
    store64 offsetSequence (stable + 1)
    store64 offsetPublishedNs publishedNs
    store32 offsetMidiSteps midi.steps
    store32 offsetMidiTransportCount midi.transportCount
    store32 offsetMidiTransportLast midi.transportLast
    storeChannels 0 channels
    store64 offsetSequence (stable + 2)
    return true

def readHeader (len : Nat) : MemoryProgram (Option FrameHeader) :=
  if len < frameHeaderBytes then .done none
  else do
    let magic ← load32 offsetMagic
    if magic ≠ frameMagic then return none
    else
      let layoutVersion ← load32 offsetLayoutVersion
      let channelCount ← load32 offsetChannelCount
      let bandCount ← load32 offsetBandCount
      let sampleRate ← load32 offsetSampleRate
      let midiFlags ← load32 offsetMidiFlags
      return some { layoutVersion, channelCount, bandCount, sampleRate, midiFlags }

def loadBins (record : Nat) : List (Fin bandCount) → Bins → MemoryProgram Bins
  | [], bins => .done bins
  | band :: rest, bins => do
      let bits ← load32 (binOffset record band)
      loadBins record rest (Function.update bins band (F32.fromBits bits))

def loadChannels (index : Nat) : List ChannelLevel → MemoryProgram (List ChannelLevel)
  | [] => .done []
  | channel :: rest => do
      let record := recordOffset index
      let bits ← load32 (record + recordPeakOffset)
      let bins ← loadBins record bands channel.bins
      let others ← loadChannels (index + 1) rest
      return ⟨F32.fromBits bits, bins⟩ :: others

def readAttempt (channels : List ChannelLevel) : Nat → MemoryProgram (Option Frame)
  | 0 => .done none
  | attempts + 1 => do
      let before ← load64 offsetSequence
      if before = 0 then return none
      else if before.toNat % 2 ≠ 0 then readAttempt channels attempts
      else
        let publishedNs ← load64 offsetPublishedNs
        let steps ← load32 offsetMidiSteps
        let transportCount ← load32 offsetMidiTransportCount
        let transportLast ← load32 offsetMidiTransportLast
        let copied ← loadChannels 0 channels
        let again ← load64 offsetSequence
        if again = before then
          return some {
            sequence := before
            publishedNs
            midi := { steps, transportCount, transportLast }
            channels := copied }
        else readAttempt copied attempts

def readFrame (len : Nat) : MemoryProgram (Option Frame) := do
  match ← readHeader len with
  | none => return none
  | some header =>
      if header.layoutVersion ≠ frameLayoutVersion ∨ header.bandCount.toNat ≠ bandCount then
        return none
      else
        let channelCount := header.channelCount.toNat
        if len < frameBytes channelCount then return none
        else readAttempt (List.replicate channelCount default) readAttempts

end Phase4.Frames
