import Phase4.Library.Program
import Phase4.Library.Chunks
import Phase4.Library.Fifo
import Phase4.Dsp.F32

namespace Phase4.Managers.Audio
open Library Dsp

/-! ## Buffer sizes and channel selection -/

structure Specs where
  channels : Nat
  sampleRate : Nat
deriving DecidableEq, Repr

namespace Specs

/-- In `usize`, which the chunk lengths in use are far from filling. -/
def samplesForMs (specs : Specs) (ms : Nat) : Nat := specs.sampleRate * specs.channels * ms / 1000

def frameAlignedSamplesForMs (specs : Specs) (ms : Nat) : Nat :=
  (specs.samplesForMs ms + specs.channels - 1) / specs.channels * specs.channels

theorem frameAligned_mod (specs : Specs) (ms : Nat) :
    specs.frameAlignedSamplesForMs ms % specs.channels = 0 := Nat.mul_mod_left _ _

end Specs

/-- The listed hardware channels exist, and there is at least one. -/
inductive ChannelMode (hwChannels : Nat) where
  | all
  | selected (indices : List (Fin hwChannels)) (nonempty : indices ≠ [])

namespace ChannelMode
variable {hwChannels : Nat}

def width : ChannelMode hwChannels → Nat
  | .all => hwChannels
  | .selected indices _ => indices.length

def project (frame : List F32) (indices : List (Fin hwChannels)) : List F32 :=
  indices.map fun index : Fin hwChannels => frame.getD index.val F32.zero

def resolve (selection : Option { indices : List (Fin hwChannels) // indices ≠ [] })
    (specs : Specs) : ChannelMode hwChannels × Specs :=
  match selection with
  | some indices =>
      (.selected indices.1 indices.2, { specs with channels := indices.1.length % 2 ^ 16 })
  | none => (.all, specs)

/-- The analyser's specs count the channels of a frame it is sent: a `u16` device has no room
for a selection without repeats that a `u16` cannot count. -/
theorem resolve_width (selection : Option { indices : List (Fin hwChannels) // indices ≠ [] })
    (specs : Specs) (hardware : specs.channels = hwChannels) (small : hwChannels < 2 ^ 16)
    (once : ∀ indices, selection = some indices → indices.1.Nodup) :
    (resolve selection specs).2.channels = (resolve selection specs).1.width := by
  cases selection with
  | none => exact hardware
  | some indices =>
      have few : indices.1.length ≤ hwChannels := by
        simpa using (once indices rfl).length_le_card
      exact Nat.mod_eq_of_lt (by omega)

end ChannelMode

/-! ## The producers -/

inductive RingOp where
  | vacantLen
  | pushSlice (data : List F32)
  | tryPush (sample : F32)
deriving DecidableEq

abbrev RingOp.Answer : RingOp → Type
  | .vacantLen | .pushSlice _ => Nat
  | .tryPush _ => Bool

abbrev RingProgram := Program RingOp RingOp.Answer

def perform (op : RingOp) : RingProgram op.Answer := Program.perform op

def pushIndices {hwChannels : Nat} (frame : List F32) :
    List (Fin hwChannels) → RingProgram Unit
  | [] => return
  | index :: rest => do
      let _ ← perform (.tryPush (frame.getD index.val F32.zero))
      pushIndices frame rest

def pushFrames {hwChannels : Nat} (indices : List (Fin hwChannels)) (dropped : Bool) :
    List (List F32) → RingProgram Bool
  | [] => return dropped
  | frame :: rest => do
      let vacant ← perform .vacantLen
      if vacant < indices.length then pushFrames indices true rest
      else
        pushIndices frame indices
        pushFrames indices dropped rest

def push {hwChannels : Nat} (mode : ChannelMode hwChannels) (data : List F32) :
    RingProgram Bool :=
  match mode with
  | .all => do
      let len := data.length / hwChannels * hwChannels
      let vacant ← perform .vacantLen
      let writable := vacant / hwChannels * hwChannels
      let n := min len writable
      let _ ← perform (.pushSlice (data.take n))
      return decide (n < len)
  | .selected indices _ => pushFrames indices false (chunksExact hwChannels data)

def generate (specs : Specs) (buffer : List F32) : RingProgram Unit := do
  let vacant ← perform .vacantLen
  let writable := vacant / specs.channels * specs.channels
  let n := min buffer.length writable
  let _ ← perform (.pushSlice (buffer.take n))
  return

theorem generate_eq (specs : Specs) (buffer : List F32)
    (whole : buffer.length % specs.channels = 0) :
    generate specs buffer =
      push (.all : ChannelMode specs.channels) buffer >>= fun _ => return () := by
  have len : buffer.length / specs.channels * specs.channels = buffer.length :=
    Nat.div_mul_cancel (Nat.dvd_of_mod_eq_zero whole)
  rw [generate, push]
  dsimp only
  rw [len]
  rfl

end Phase4.Managers.Audio
