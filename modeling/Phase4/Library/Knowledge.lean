import Phase4.Library.Program

namespace Phase4.Library.Program

variable {Op : Type} {Answer : Op → Type} {Known α β : Type}

/-! ## What a thread knows

Between two operations of a thread the others go on, so all it can rely on is what they do not
undo. It may only ask for operations its knowledge allows, and each answer adds to it. -/

structure Lore (Op : Type) (Answer : Op → Type) (Known : Type) where
  may : Known → Op → Prop
  learn : Known → (op : Op) → Answer op → Known → Prop

/-- Whatever the answers, the program asks for nothing it may not, and ends as promised. -/
def Assures (lore : Lore Op Answer Known) (post : Known → α → Prop) :
    Program Op Answer α → Known → Prop
  | .done result, known => post known result
  | .call op next, known => lore.may known op ∧
      ∀ answer after, lore.learn known op answer after → (next answer).Assures lore post after

variable {lore : Lore Op Answer Known} {known : Known}

theorem Assures.bind {middle : Known → α → Prop} {post : Known → β → Prop}
    {program : Program Op Answer α} {rest : α → Program Op Answer β}
    (first : program.Assures lore middle known)
    (later : ∀ known result, middle known result → (rest result).Assures lore post known) :
    (program >>= rest).Assures lore post known := by
  induction program generalizing known with
  | done result => exact later known result first
  | call op next ih => exact ⟨first.1, fun answer after learnt => ih answer (first.2 answer after learnt)⟩

theorem Assures.perform {post : Known → β → Prop} {op : Op} {rest : Answer op → Program Op Answer β}
    (allowed : lore.may known op) (later : ∀ answer after, lore.learn known op answer after →
      (rest answer).Assures lore post after) :
    (Program.perform op >>= rest).Assures lore post known := ⟨allowed, later⟩

end Phase4.Library.Program
