import Mathlib

namespace Phase4.Library

variable {α : Type*}

/-! ## Frames of a stream

A stream of `n` interleaved channels is cut into frames of `n` items. What is left over at
the end is not a frame yet. -/

def chunks (n : Nat) : Nat → List α → List (List α)
  | 0, _ => []
  | count + 1, stream => stream.take n :: chunks n count (stream.drop n)

def chunksExact (n : Nat) (stream : List α) : List (List α) := chunks n (stream.length / n) stream

def aligned (n : Nat) (stream : List α) : Nat := stream.length / n * n

variable {n : Nat}

theorem aligned_le (n : Nat) (stream : List α) : aligned n stream ≤ stream.length :=
  Nat.div_mul_le_self _ _

theorem length_sub_aligned (n : Nat) (stream : List α) :
    stream.length - aligned n stream = stream.length % n := by
  have := Nat.div_add_mod' stream.length n
  simp only [aligned]
  omega

theorem length_sub_mod (n : Nat) (stream : List α) :
    stream.length - stream.length % n = aligned n stream := by
  have := length_sub_aligned n stream
  have := aligned_le n stream
  omega

@[simp] theorem chunksExact_length (n : Nat) (stream : List α) :
    (chunksExact n stream).length = stream.length / n := by
  have count (k : Nat) (rest : List α) : (chunks n k rest).length = k := by
    induction k generalizing rest with
    | zero => rfl
    | succ k ih => simp [chunks, ih]
  exact count _ _

theorem chunksExact_short {stream : List α} (short : stream.length < n) :
    chunksExact n stream = [] := by
  rw [chunksExact, Nat.div_eq_of_lt short, chunks]

theorem chunksExact_cons {frame : List α} (length : frame.length = n) (positive : 0 < n)
    (stream : List α) : chunksExact n (frame ++ stream) = frame :: chunksExact n stream := by
  have count : (frame ++ stream).length / n = stream.length / n + 1 := by
    rw [List.length_append, length, Nat.add_comm, Nat.add_div_right _ positive]
  rw [chunksExact, count, chunks, ← length, List.take_left, List.drop_left]
  rfl

theorem chunksExact_frames_append {frames : List (List α)} (positive : 0 < n)
    (lengths : ∀ frame ∈ frames, frame.length = n) (stream : List α) :
    chunksExact n (frames.flatten ++ stream) = frames ++ chunksExact n stream := by
  induction frames with
  | nil => rfl
  | cons frame rest ih =>
      have tail : ∀ frame ∈ rest, frame.length = n :=
        fun other member => lengths other (List.mem_cons_of_mem _ member)
      rw [List.flatten_cons, List.append_assoc,
        chunksExact_cons (lengths frame List.mem_cons_self) positive, ih tail, List.cons_append]

theorem chunksExact_frames {frames : List (List α)} (positive : 0 < n)
    (lengths : ∀ frame ∈ frames, frame.length = n) : chunksExact n frames.flatten = frames := by
  have whole := chunksExact_frames_append positive lengths []
  have none_left : chunksExact n ([] : List α) = [] := chunksExact_short positive
  rwa [List.append_nil, none_left, List.append_nil] at whole

theorem chunks_spec (positive : 0 < n) (stream : List α) :
    (∀ frame ∈ chunksExact n stream, frame.length = n) ∧
      (chunksExact n stream).flatten = stream.take (aligned n stream) := by
  generalize size : stream.length = length
  induction length using Nat.strong_induction_on generalizing stream with
  | h length ih =>
      by_cases short : stream.length < n
      · rw [chunksExact_short short, aligned, Nat.div_eq_of_lt short]
        simp
      · have first : (stream.take n).length = n := by simp; omega
        have shape := chunksExact_cons first positive (stream.drop n)
        rw [List.take_append_drop] at shape
        have smaller : (stream.drop n).length < length := by
          rw [List.length_drop]
          omega
        obtain ⟨lengths, flat⟩ := ih _ smaller (stream.drop n) rfl
        have more : aligned n stream = n + aligned n (stream.drop n) := by
          obtain ⟨extra, excess⟩ := Nat.exists_eq_add_of_le (Nat.le_of_not_lt short)
          rw [aligned, aligned, List.length_drop, excess, Nat.add_sub_cancel_left,
            Nat.add_comm n extra, Nat.add_div_right _ positive, Nat.succ_mul, Nat.add_comm]
        rw [shape]
        constructor
        · intro frame member
          rcases List.mem_cons.mp member with rfl | later
          · exact first
          · exact lengths frame later
        · rw [List.flatten_cons, flat, more, List.take_add]

theorem mem_chunksExact {stream frame : List α} (positive : 0 < n)
    (member : frame ∈ chunksExact n stream) : frame.length = n :=
  (chunks_spec positive stream).1 frame member

theorem chunksExact_flatten (positive : 0 < n) (stream : List α) :
    (chunksExact n stream).flatten = stream.take (aligned n stream) :=
  (chunks_spec positive stream).2

theorem frames_append_rest (positive : 0 < n) (stream : List α) :
    (chunksExact n stream).flatten ++ stream.drop (aligned n stream) = stream := by
  rw [chunksExact_flatten positive, List.take_append_drop]

theorem chunksExact_append (positive : 0 < n) (stream later : List α) :
    chunksExact n (stream ++ later) =
      chunksExact n stream ++ chunksExact n (stream.drop (aligned n stream) ++ later) := by
  conv_lhs => rw [← frames_append_rest positive stream, List.append_assoc]
  exact chunksExact_frames_append positive (fun _ => mem_chunksExact positive) _

theorem aligned_append (positive : 0 < n) (stream later : List α) :
    aligned n (stream ++ later) =
      aligned n stream + aligned n (stream.drop (aligned n stream) ++ later) := by
  obtain ⟨rest, size⟩ := Nat.exists_eq_add_of_le (aligned_le n stream)
  have here : stream.length / n * n = aligned n stream := rfl
  simp only [aligned, List.length_append, List.length_drop]
  rw [here, size, Nat.add_sub_cancel_left, ← here, Nat.add_assoc,
    Nat.mul_comm (stream.length / n) n, Nat.mul_add_div positive, Nat.add_mul, Nat.mul_comm n]

theorem drop_aligned_append (positive : 0 < n) (stream later : List α) :
    (stream ++ later).drop (aligned n (stream ++ later)) =
      (stream.drop (aligned n stream) ++ later).drop
        (aligned n (stream.drop (aligned n stream) ++ later)) := by
  rw [aligned_append positive, ← List.drop_drop, List.drop_append_of_le_length (aligned_le n stream)]

theorem take_aligned_append (positive : 0 < n) (stream later : List α) :
    (stream ++ later).take (aligned n (stream ++ later)) =
      stream.take (aligned n stream) ++ (stream.drop (aligned n stream) ++ later).take
        (aligned n (stream.drop (aligned n stream) ++ later)) := by
  have length : (stream.take (aligned n stream)).length = aligned n stream :=
    List.length_take_of_le (aligned_le n stream)
  rw [aligned_append positive, List.take_add, List.take_append_of_le_length (aligned_le n stream),
    List.drop_append_of_le_length (aligned_le n stream)]

theorem chunksExact_prefix (positive : 0 < n) {beginning stream : List α}
    (first : beginning <+: stream) : chunksExact n beginning <+: chunksExact n stream := by
  obtain ⟨later, rfl⟩ := first
  rw [chunksExact_append positive]
  exact List.prefix_append _ _

theorem chunksExact_flatten_pieces (positive : 0 < n) {pieces : List (List α)}
    (whole : ∀ piece ∈ pieces, piece.length % n = 0) :
    chunksExact n pieces.flatten = (pieces.map (chunksExact n)).flatten := by
  induction pieces with
  | nil => exact chunksExact_short (by simpa using positive)
  | cons piece rest ih =>
      have all : aligned n piece = piece.length :=
        Nat.div_mul_cancel (Nat.dvd_of_mod_eq_zero (whole piece List.mem_cons_self))
      rw [List.flatten_cons, chunksExact_append positive, all, List.drop_length, List.nil_append,
        ih fun other member => whole other (List.mem_cons_of_mem _ member), List.map_cons,
        List.flatten_cons]

theorem chunksExact_whole (positive : 0 < n) {piece : List α} (whole : piece.length % n = 0) :
    (chunksExact n piece).flatten = piece := by
  have all : aligned n piece = piece.length :=
    Nat.div_mul_cancel (Nat.dvd_of_mod_eq_zero whole)
  rw [chunksExact_flatten positive, all, List.take_length]

theorem chunksExact_take_aligned (positive : 0 < n) (stream : List α) :
    chunksExact n (stream.take (aligned n stream)) = chunksExact n stream := by
  rw [← chunksExact_flatten positive]
  exact chunksExact_frames positive fun _ => mem_chunksExact positive

theorem flatten_length {frames : List (List α)} (lengths : ∀ frame ∈ frames, frame.length = n) :
    frames.flatten.length = frames.length * n := by
  induction frames with
  | nil => simp
  | cons frame rest ih =>
      have tail : ∀ frame ∈ rest, frame.length = n :=
        fun other member => lengths other (List.mem_cons_of_mem _ member)
      rw [List.flatten_cons, List.length_append, ih tail, lengths frame List.mem_cons_self,
        List.length_cons, Nat.succ_mul, Nat.add_comm]

theorem take_frames {frames : List (List α)} (lengths : ∀ frame ∈ frames, frame.length = n)
    (count : Nat) : (frames.take count).flatten = frames.flatten.take (count * n) := by
  induction frames generalizing count with
  | nil => simp
  | cons frame rest ih =>
      have tail : ∀ frame ∈ rest, frame.length = n :=
        fun other member => lengths other (List.mem_cons_of_mem _ member)
      cases count with
      | zero => simp
      | succ count =>
          have length := lengths frame List.mem_cons_self
          have first : frame.take (n + count * n) = frame :=
            List.take_of_length_le (by rw [length]; omega)
          rw [List.take_succ_cons, List.flatten_cons, List.flatten_cons, ih tail, Nat.succ_mul,
            Nat.add_comm, List.take_append, first, length, Nat.add_sub_cancel_left]

end Phase4.Library
