import Mathlib.Data.List.Forall2

namespace Phase4.Library

variable {α β : Type*}

/-! ## Relays

A relay passes on what it was last told, so what comes out at its end may skip values of the
source and repeat them, but never goes back. -/

/-- Each output comes from some stage of the source. The stages rise, up to a last one. -/
def InOrder (source : Nat → α → Prop) (upto : Nat) (outputs : List α) : Prop :=
  ∃ stages, List.Forall₂ source stages outputs ∧ stages.Pairwise (· ≤ ·) ∧
    ∀ stage ∈ stages, stage ≤ upto

namespace InOrder
variable {source : Nat → α → Prop} {upto : Nat} {outputs : List α}

theorem nil (source : Nat → α → Prop) (upto : Nat) : InOrder source upto [] :=
  ⟨[], .nil, .nil, by simp⟩

theorem later (ordered : InOrder source upto outputs) {stage : Nat} (le : upto ≤ stage) :
    InOrder source stage outputs := by
  obtain ⟨stages, sources, rising, bounded⟩ := ordered
  exact ⟨stages, sources, rising, fun stage member => Nat.le_trans (bounded stage member) le⟩

theorem snoc (ordered : InOrder source upto outputs) {output : α} (told : source upto output) :
    InOrder source upto (outputs ++ [output]) := by
  obtain ⟨stages, sources, rising, bounded⟩ := ordered
  refine ⟨stages ++ [upto], List.rel_append sources (.cons told .nil), ?_, ?_⟩
  · refine List.pairwise_append.mpr ⟨rising, List.pairwise_singleton _ _, ?_⟩
    intro stage member last isLast
    rw [List.mem_singleton.mp isLast]
    exact bounded stage member
  · intro stage member
    rcases List.mem_append.mp member with earlier | isLast
    · exact bounded stage earlier
    · exact Nat.le_of_eq (List.mem_singleton.mp isLast)

theorem imp {other : Nat → α → Prop} (ordered : InOrder source upto outputs)
    (implies : ∀ stage output, source stage output → other stage output) :
    InOrder other upto outputs := by
  obtain ⟨stages, sources, rest⟩ := ordered
  exact ⟨stages, sources.imp implies, rest⟩

end InOrder
end Phase4.Library
