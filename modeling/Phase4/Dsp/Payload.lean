import Phase4.Dsp.F32

namespace Phase4.Dsp

def bandCount : Nat := 32

abbrev Bins := Fin bandCount → F32

abbrev bands : List (Fin bandCount) := List.finRange bandCount

@[ext] structure ChannelLevel where
  peak : F32
  bins : Bins
deriving DecidableEq

instance : Inhabited ChannelLevel := ⟨⟨F32.zero, fun _ => F32.zero⟩⟩

def ChannelLevel.isFinite (channel : ChannelLevel) : Bool :=
  channel.peak.isFinite && bands.all fun band => (channel.bins band).isFinite

structure RawPayload where
  channels : List ChannelLevel
deriving DecidableEq

def RawPayload.new (channels : Nat) : RawPayload := ⟨List.replicate channels default⟩

inductive Transport where
  | start
  | stop
  | continue
deriving DecidableEq, Repr

structure MidiSnapshot where
  transport : Option Transport
  steps : BitVec 32
deriving DecidableEq, Repr

structure DisplayPayload where
  channels : List ChannelLevel
  midi : Option MidiSnapshot
deriving DecidableEq

def DisplayPayload.new (channels : Nat) : DisplayPayload :=
  ⟨List.replicate channels default, none⟩

end Phase4.Dsp
