import Phase4.Library.Chunks

namespace Phase4.Library

variable {α β γ : Type*}

/-! ## A table written in place

`for (item, value) in items.iter_mut().zip(values)` rewrites the items it meets and leaves
every item past the last value as it was. -/

def zipUpdate (update : α → β → α) : List α → List β → List α
  | item :: items, value :: values => update item value :: zipUpdate update items values
  | items, _ => items

@[simp] theorem zipUpdate_nil (update : α → β → α) (items : List α) :
    zipUpdate update items [] = items := by
  cases items <;> rfl

@[simp] theorem zipUpdate_length (update : α → β → α) (items : List α) (values : List β) :
    (zipUpdate update items values).length = items.length := by
  induction items generalizing values with
  | nil => rfl
  | cons item items ih =>
      cases values with
      | nil => rfl
      | cons value values => simp [zipUpdate, ih]

theorem zipUpdate_replace (value : β → α) {items : List α} {values : List β}
    (length : values.length = items.length) :
    zipUpdate (fun _ next => value next) items values = values.map value := by
  induction items generalizing values with
  | nil => simp [List.length_eq_zero_iff.mp length, zipUpdate]
  | cons item items ih =>
      cases values with
      | nil => simp at length
      | cons next values => simp [zipUpdate, ih (Nat.succ.inj length)]

theorem zipUpdate_mapIdx {update : α → β → α} {inner : γ → β → γ} {row : Nat → γ → α}
    {items : List γ} (rows : ∀ i, ∀ item ∈ items, ∀ value,
      update (row i item) value = row i (inner item value)) (values : List β) :
    zipUpdate update (items.mapIdx row) values = (zipUpdate inner items values).mapIdx row := by
  induction items generalizing values row with
  | nil => rfl
  | cons item items ih =>
      cases values with
      | nil => simp
      | cons value values =>
          have shifted : ∀ i, ∀ other ∈ items, ∀ value,
              update (row (i + 1) other) value = row (i + 1) (inner other value) :=
            fun i other member => rows (i + 1) other (List.mem_cons_of_mem _ member)
          have tail := ih shifted values
          simp [zipUpdate, List.mapIdx_cons, rows 0 item List.mem_cons_self value, tail]

/-- The same over whole frames. Items past the last whole frame are left as they were. -/
def chunksUpdate (n : Nat) (update : List α → β → List α) (stream : List α) (values : List β) :
    List α :=
  (zipUpdate update (chunksExact n stream) values).flatten ++ stream.drop (aligned n stream)

theorem chunksUpdate_frames {n : Nat} (positive : 0 < n) {frames : List (List α)}
    (lengths : ∀ frame ∈ frames, frame.length = n) (update : List α → β → List α)
    (values : List β) :
    chunksUpdate n update frames.flatten values = (zipUpdate update frames values).flatten := by
  have whole : aligned n frames.flatten = frames.flatten.length := by
    rw [aligned, flatten_length lengths, Nat.mul_div_cancel _ positive]
  rw [chunksUpdate, chunksExact_frames positive lengths, whole, List.drop_length, List.append_nil]

/-! ## A table filled entry by entry -/

section
variable {ι ε α : Type} [DecidableEq ι]

/-- Each entry is worked out and stored, until one fails. -/
def fill (entry : ι → Except ε α) (table : ι → α) (indices : List ι) : Except ε (ι → α) :=
  indices.foldlM (fun table index => do
    let value ← entry index
    pure (Function.update table index value)) table

theorem fill_cons_error {entry : ι → Except ε α} {index : ι} {error : ε}
    (failed : entry index = .error error) (table : ι → α) (rest : List ι) :
    fill entry table (index :: rest) = .error error := by
  rw [fill, List.foldlM_cons, failed]
  rfl

theorem fill_cons_ok {entry : ι → Except ε α} {index : ι} {value : α}
    (worked : entry index = .ok value) (table : ι → α) (rest : List ι) :
    fill entry table (index :: rest) = fill entry (Function.update table index value) rest := by
  rw [fill, List.foldlM_cons, worked]
  rfl

theorem fill_eq_ok_iff {entry : ι → Except ε α} {table filled : ι → α} {indices : List ι}
    (once : indices.Nodup) : fill entry table indices = .ok filled ↔
      (∀ index ∈ indices, entry index = .ok (filled index)) ∧
        ∀ index ∉ indices, filled index = table index := by
  induction indices generalizing table with
  | nil =>
      have same : fill entry table [] = .ok table := rfl
      rw [same, Except.ok.injEq]
      constructor
      · rintro rfl
        exact ⟨by simp, fun _ _ => rfl⟩
      · rintro ⟨-, kept⟩
        exact funext fun index => (kept index (by simp)).symm
  | cons index rest ih =>
      obtain ⟨fresh, unique⟩ := List.nodup_cons.mp once
      cases worked : entry index with
      | error error =>
          rw [fill_cons_error worked]
          constructor
          · intro reached
            cases reached
          · rintro ⟨stored, -⟩
            have now := stored index List.mem_cons_self
            rw [worked] at now
            cases now
      | ok value =>
          rw [fill_cons_ok worked, ih unique]
          constructor
          · rintro ⟨stored, kept⟩
            have here : filled index = value := by rw [kept index fresh, Function.update_self]
            constructor
            · intro other member
              rcases List.mem_cons.mp member with rfl | later
              · rw [worked, here]
              · exact stored other later
            · intro other outside
              rw [List.mem_cons, not_or] at outside
              rw [kept other outside.2, Function.update_of_ne outside.1]
          · rintro ⟨stored, kept⟩
            constructor
            · exact fun other later => stored other (List.mem_cons_of_mem _ later)
            · intro other outside
              by_cases same : other = index
              · subst same
                have now := stored other List.mem_cons_self
                rw [worked, Except.ok.injEq] at now
                rw [Function.update_self, now]
              · rw [Function.update_of_ne same]
                exact kept other (by rw [List.mem_cons, not_or]; exact ⟨same, outside⟩)

end

end Phase4.Library
