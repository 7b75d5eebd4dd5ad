import Mathlib

namespace Phase4.Library

variable {α : Type*}

/-! ## Searching with a fallback

One pass over a list that ends at the first element of the wanted kind, and otherwise gives
the first element of a weaker kind. -/

def prefer (wanted weaker : α → Bool) : Option α → List α → Option α
  | candidate, [] => candidate
  | candidate, item :: rest =>
      if wanted item then some item
      else prefer wanted weaker (if candidate.isNone && weaker item then some item else candidate) rest

theorem prefer_eq (wanted weaker : α → Bool) (candidate : Option α) (items : List α) :
    prefer wanted weaker candidate items =
      (items.find? wanted).or (candidate.or (items.find? weaker)) := by
  induction items generalizing candidate with
  | nil => simp [prefer]
  | cons item rest ih =>
      unfold prefer
      cases exact : wanted item with
      | true => simp [exact]
      | false =>
          simp only [Bool.false_eq_true, if_false, ih, List.find?_cons, exact]
          cases candidate with
          | some found => simp
          | none => cases weaker item <;> simp

/-! ### A kind between the two -/

section
variable {wanted middle weaker : α → Bool} {items : List α}

variable (wanted middle weaker items) in
/-- Nothing is wanted, and an element of the weaker kind alone hides every one of the middle kind. -/
def Shadowed : Prop :=
  (∀ item ∈ items, wanted item = false) ∧
  ∃ before item after, items = before ++ item :: after ∧
    (weaker item = true ∧ middle item = false) ∧
    (∀ earlier ∈ before, middle earlier = false) ∧ ∃ later ∈ after, middle later = true

theorem prefer_not_middle (shadowed : Shadowed wanted middle weaker items) :
    ∀ item, prefer wanted weaker none items = some item → middle item = false := by
  obtain ⟨unwanted, before, shadow, after, split, ⟨weak, unfit⟩, earlier, -⟩ := shadowed
  intro item picked
  have missed : items.find? wanted = none := by simpa using unwanted
  rw [prefer_eq, missed, Option.none_or, Option.none_or, split, List.find?_append] at picked
  rcases Option.or_eq_some_iff.1 picked with found | ⟨-, found⟩
  · exact earlier item (List.mem_of_find?_eq_some found)
  · rw [List.find?_cons_of_pos weak] at found
    exact Option.some.inj found ▸ unfit

theorem prefer_middle (wanted_middle : ∀ item, wanted item = true → middle item = true)
    (middle_weaker : ∀ item, middle item = true → weaker item = true)
    (clear : ¬ Shadowed wanted middle weaker items) {fit : α} (member : fit ∈ items)
    (fits : middle fit = true) :
    ∃ item, prefer wanted weaker none items = some item ∧ middle item = true := by
  rw [prefer_eq, Option.none_or]
  cases exact : items.find? wanted with
  | some item => exact ⟨item, rfl, wanted_middle item (List.find?_some exact)⟩
  | none =>
      have unwanted : ∀ item ∈ items, wanted item = false := by simpa using exact
      obtain ⟨item, found⟩ : ∃ item, items.find? weaker = some item :=
        Option.isSome_iff_exists.1 (List.find?_isSome.2 ⟨fit, member, middle_weaker fit fits⟩)
      refine ⟨item, by rw [Option.none_or, found], ?_⟩
      by_contra unfit
      obtain ⟨weak, before, after, split, earlier⟩ := List.find?_eq_some_iff_append.1 found
      have before_unfit : ∀ other ∈ before, middle other = false := by
        intro other early
        have skipped : weaker other = false := by simpa using earlier other early
        exact Bool.eq_false_iff.2 fun fits => by simp [middle_weaker other fits] at skipped
      apply clear
      refine ⟨unwanted, before, item, after, split, ⟨weak, by simpa using unfit⟩, before_unfit,
        fit, ?_, fits⟩
      -- The fitting element is neither among the skipped ones nor the one that hides it.
      rw [split, List.mem_append, List.mem_cons] at member
      rcases member with early | rfl | late
      · rw [before_unfit fit early] at fits
        cases fits
      · exact absurd fits unfit
      · exact late

theorem prefer_middle_iff (wanted_middle : ∀ item, wanted item = true → middle item = true)
    (middle_weaker : ∀ item, middle item = true → weaker item = true) :
    ((∃ item ∈ items, middle item = true) →
      ∃ item, prefer wanted weaker none items = some item ∧ middle item = true) ↔
    ¬ Shadowed wanted middle weaker items := by
  constructor
  · intro kept shadowed
    obtain ⟨-, before, shadow, after, split, -, -, later, member, fits⟩ := id shadowed
    obtain ⟨item, picked, fit⟩ := kept ⟨later, by simp [split, member], fits⟩
    rw [prefer_not_middle shadowed item picked] at fit
    cases fit
  · rintro clear ⟨item, member, fits⟩
    exact prefer_middle wanted_middle middle_weaker clear member fits

end

end Phase4.Library
