import Mathlib

namespace Phase4.Library

variable {Event : Type*} (stamp : Event → Nat)

/-! ## Windows of a log

The events of a log carry the instants at which they happened, in order. Cuts, which are
instants too, divide the log into windows, each from one cut to the next. -/

def Ordered (log : List Event) : Prop := log.Pairwise fun a b => stamp a < stamp b

def Past (log : List Event) (now : Nat) : Prop := ∀ event ∈ log, stamp event < now

def window (log : List Event) (first last : Nat) : List Event :=
  log.filter fun event => decide (first ≤ stamp event ∧ stamp event < last)

def opensAt (cuts : List Nat) : Nat → Nat
  | 0 => 0
  | k + 1 => cuts.getD k 0

variable {stamp} {log : List Event} {event : Event} {first last now : Nat}

theorem mem_window : event ∈ window stamp log first last ↔
    event ∈ log ∧ first ≤ stamp event ∧ stamp event < last := by
  simp [window]

theorem Ordered.snoc (ordered : Ordered stamp log) (past : Past stamp log now)
    (latest : stamp event = now) : Ordered stamp (log ++ [event]) := by
  refine List.pairwise_append.mpr ⟨ordered, List.pairwise_singleton _ _, ?_⟩
  intro earlier member later isLater
  rw [List.mem_singleton.mp isLater, latest]
  exact past earlier member

theorem Past.snoc (past : Past stamp log now) (latest : stamp event = now) :
    Past stamp (log ++ [event]) (now + 1) := by
  intro earlier member
  rcases List.mem_append.mp member with old | new
  · exact (past earlier old).trans (Nat.lt_succ_self now)
  · rw [List.mem_singleton.mp new, latest]
    exact Nat.lt_succ_self now

theorem Past.later (past : Past stamp log now) : Past stamp log (now + 1) :=
  fun event member => (past event member).trans (Nat.lt_succ_self now)

theorem window_snoc_late (late : last ≤ stamp event) :
    window stamp (log ++ [event]) first last = window stamp log first last := by
  simp [window, List.filter_append, Nat.not_lt.mpr late]

theorem window_snoc_now (opened : first ≤ stamp event) (inside : stamp event < last) :
    window stamp (log ++ [event]) first last = window stamp log first last ++ [event] := by
  simp [window, List.filter_append, opened, inside]

theorem window_later (past : Past stamp log now) :
    window stamp log first (now + 1) = window stamp log first now := by
  apply List.filter_congr
  intro event member
  have := past event member
  simp only [decide_eq_decide]
  omega

theorem window_cut {middle : Nat} (left : first ≤ middle) (right : middle ≤ last) :
    (window stamp log first middle).length + (window stamp log middle last).length =
      (window stamp log first last).length := by
  induction log with
  | nil => rfl
  | cons event rest ih =>
      have cons (a b : Nat) : (window stamp (event :: rest) a b).length =
          (window stamp rest a b).length + if a ≤ stamp event ∧ stamp event < b then 1 else 0 := by
        rw [window, window, List.filter_cons]
        by_cases inside : a ≤ stamp event ∧ stamp event < b
        · simp [inside]
        · simp [inside]
      rw [cons, cons, cons]
      split_ifs <;> omega

theorem lt_window_length (ordered : Ordered stamp log) {n : Nat} (found : log[n]? = some event) :
    n < (window stamp log 0 last).length ↔ stamp event < last := by
  induction log generalizing n with
  | nil => simp at found
  | cons first rest ih =>
      obtain ⟨before, sorted⟩ := List.pairwise_cons.mp ordered
      by_cases early : stamp first < last
      · have here : window stamp (first :: rest) 0 last = first :: window stamp rest 0 last := by
          simp [window, early]
        rw [here, List.length_cons]
        cases n with
        | zero =>
            cases found
            simpa using early
        | succ n =>
            rw [Nat.add_lt_add_iff_right]
            exact ih sorted found
      · have empty : window stamp (first :: rest) 0 last = [] := by
          rw [List.eq_nil_iff_forall_not_mem]
          intro other inside
          obtain ⟨member, _, less⟩ := mem_window.mp inside
          rcases List.mem_cons.mp member with rfl | later
          · exact early less
          · exact early ((before other later).trans less)
        have late : ¬stamp event < last := by
          rcases List.mem_cons.mp (List.mem_of_getElem? found) with rfl | later
          · exact early
          · exact fun less => early ((before event later).trans less)
        simp [empty, late]

theorem window_fresh (past : Past stamp log now) (last : Nat) :
    window stamp log now last = [] := by
  rw [List.eq_nil_iff_forall_not_mem]
  intro event member
  obtain ⟨logged, opened, _⟩ := mem_window.mp member
  have := past event logged
  omega

theorem last_or_superseded (ordered : Ordered stamp log)
    (member : event ∈ window stamp log first last) :
    (window stamp log first last).getLast? = some event ∨
      ∃ later, (window stamp log first last).getLast? = some later ∧ stamp event < stamp later := by
  have sorted : Ordered stamp (window stamp log first last) := List.Pairwise.filter _ ordered
  revert sorted member
  induction window stamp log first last using List.reverseRecOn with
  | nil => simp
  | append_singleton earlier final _ =>
      intro member sorted
      rw [List.getLast?_append, List.getLast?_singleton, Option.some_or]
      rcases List.mem_append.mp member with before | isFinal
      · right
        exact ⟨final, rfl, (List.pairwise_append.mp sorted).2.2 event before final (by simp)⟩
      · left
        rw [List.mem_singleton.mp isFinal]

section
variable {cuts : List Nat}

@[simp] theorem opensAt_snoc_old {k cut : Nat} (old : k ≤ cuts.length) :
    opensAt (cuts ++ [cut]) k = opensAt cuts k := by
  cases k with
  | zero => rfl
  | succ k => simp [opensAt, List.getElem?_append_left (show k < cuts.length by omega)]

theorem opensAt_length : opensAt cuts cuts.length = cuts.getLast?.getD 0 := by
  cases length : cuts.length with
  | zero => simp [opensAt, List.length_eq_zero_iff.mp length]
  | succ n => simp [opensAt, List.getLast?_eq_getElem?, length]

theorem opensAt_snoc_last (cut : Nat) :
    opensAt (cuts ++ [cut]) (cuts ++ [cut]).length = cut := by
  rw [opensAt_length, List.getLast?_concat, Option.getD_some]

theorem cuts_le (sorted : cuts.Pairwise (· < ·)) {j k a b : Nat} (atJ : cuts[j]? = some a)
    (atK : cuts[k]? = some b) (le : j ≤ k) : a ≤ b := by
  obtain ⟨insideJ, rfl⟩ := List.getElem?_eq_some_iff.mp atJ
  obtain ⟨insideK, rfl⟩ := List.getElem?_eq_some_iff.mp atK
  rcases Nat.lt_or_eq_of_le le with less | rfl
  · exact (List.pairwise_iff_getElem.mp sorted j k insideJ insideK less).le
  · exact le_rfl

theorem window_unique (sorted : cuts.Pairwise (· < ·)) {j k a b instant : Nat}
    (atJ : cuts[j]? = some a) (atK : cuts[k]? = some b)
    (inJ : opensAt cuts j ≤ instant ∧ instant < a) (inK : opensAt cuts k ≤ instant ∧ instant < b) :
    j = k := by
  by_contra different
  rcases Nat.lt_or_gt_of_ne different with less | more
  · obtain ⟨k, rfl⟩ : ∃ i, k = i + 1 := ⟨k - 1, by omega⟩
    have bound := (List.getElem?_eq_some_iff.mp atK).1
    have opened : cuts[k]? = some (opensAt cuts (k + 1)) := by
      simp [opensAt, List.getElem?_eq_getElem (show k < cuts.length by omega)]
    have := cuts_le sorted atJ opened (by omega)
    omega
  · obtain ⟨j, rfl⟩ : ∃ i, j = i + 1 := ⟨j - 1, by omega⟩
    have bound := (List.getElem?_eq_some_iff.mp atJ).1
    have opened : cuts[j]? = some (opensAt cuts (j + 1)) := by
      simp [opensAt, List.getElem?_eq_getElem (show j < cuts.length by omega)]
    have := cuts_le sorted atK opened (by omega)
    omega

theorem window_exists {k cut instant : Nat} (atK : cuts[k]? = some cut) (before : instant < cut) :
    ∃ j a, j ≤ k ∧ cuts[j]? = some a ∧ opensAt cuts j ≤ instant ∧ instant < a := by
  induction k generalizing cut with
  | zero => exact ⟨0, cut, le_rfl, atK, Nat.zero_le _, before⟩
  | succ k ih =>
      have bound := (List.getElem?_eq_some_iff.mp atK).1
      have opened : cuts[k]? = some (opensAt cuts (k + 1)) := by
        simp [opensAt, List.getElem?_eq_getElem (show k < cuts.length by omega)]
      by_cases inside : opensAt cuts (k + 1) ≤ instant
      · exact ⟨k + 1, cut, le_rfl, atK, inside, before⟩
      · obtain ⟨j, a, le, found, within⟩ := ih opened (by omega)
        exact ⟨j, a, by omega, found, within⟩

end
end Phase4.Library
