import Phase4.Managers.Devices

namespace Phase4.Managers
open Library Config

/-! ## Lowercasing -/

section
variable (toLowercase : String → String)

/-- Lowercasing the ASCII letters first changes nothing. -/
def LowersAscii : Prop := ∀ text, toLowercase (asciiLowercase text) = toLowercase text

def equalsIgnoringCase (name other : String) : Bool := toLowercase name == toLowercase other

def containsIgnoringCase (name needle : String) : Bool :=
  containsText (toLowercase name) (toLowercase needle)

end

section
variable {toLowercase : String → String} {name other : String}

theorem asciiLowercase_eq (equal : eqIgnoreAsciiCase name other = true) :
    asciiLowercase name = asciiLowercase other := by
  unfold asciiLowercase
  rw [eqIgnoreAsciiCase, beq_iff_eq] at equal
  rw [equal]

theorem LowersAscii.equalsIgnoringCase (lowers : LowersAscii toLowercase)
    (equal : eqIgnoreAsciiCase name other = true) :
    Managers.equalsIgnoringCase toLowercase name other = true := by
  have lowered := congrArg toLowercase (asciiLowercase_eq equal)
  rw [lowers, lowers] at lowered
  rw [Managers.equalsIgnoringCase, lowered, beq_self_eq_true]

theorem containsIgnoringCase_of_equals (equal : equalsIgnoringCase toLowercase name other = true) :
    containsIgnoringCase toLowercase name other = true := by
  rw [equalsIgnoringCase, beq_iff_eq] at equal
  rw [containsIgnoringCase, containsText, equal]
  exact decide_eq_true (List.infix_refl _)

end

/-! ## Looking a port up -/

namespace Midi

section
variable {Port : Type*} (portName : Port → Option String)

def Named (kind : String → Bool) (port : Port) : Bool := (portName port).any kind

variable (toLowercase : String → String) (ports : List Port) (nameQuery : String)

/-- One notion of case: whole names go first, then the first name that has the query in it. -/
structure MatchesIgnoringCase : Prop where
  none_iff : findMatchingMidiDevice portName toLowercase ports nameQuery = none ↔
    ¬ ∃ port ∈ ports, Named portName (containsIgnoringCase toLowercase · nameQuery) port = true
  whole : (∃ port ∈ ports,
      Named portName (equalsIgnoringCase toLowercase · nameQuery) port = true) →
    ∃ port, findMatchingMidiDevice portName toLowercase ports nameQuery = some port ∧
      Named portName (equalsIgnoringCase toLowercase · nameQuery) port = true
  first : (¬ ∃ port ∈ ports,
      Named portName (equalsIgnoringCase toLowercase · nameQuery) port = true) →
    findMatchingMidiDevice portName toLowercase ports nameQuery =
      ports.find? (Named portName (containsIgnoringCase toLowercase · nameQuery))

/-- No port has the query for its name up to ASCII case, and a port that merely has it in its name
is listed before every port that has it for its name. -/
def WholeNameShadowed : Prop :=
  Shadowed (Named portName (eqIgnoreAsciiCase · nameQuery))
    (Named portName (equalsIgnoringCase toLowercase · nameQuery))
    (Named portName (containsIgnoringCase toLowercase · nameQuery)) ports

end

section
variable {Port : Type*} {portName : Port → Option String} {toLowercase : String → String}
variable {ports : List Port} {nameQuery : String}

theorem Named.mono {kind weaker : String → Bool}
    (implies : ∀ name, kind name = true → weaker name = true) {port : Port}
    (named : Named portName kind port = true) : Named portName weaker port = true := by
  obtain ⟨name, read, fits⟩ := (Option.any_eq_true _ _).1 named
  exact (Option.any_eq_true _ _).2 ⟨name, read, implies name fits⟩

theorem findMatchingMidiDevice_eq_prefer :
    findMatchingMidiDevice portName toLowercase ports nameQuery =
      prefer (Named portName (eqIgnoreAsciiCase · nameQuery))
        (Named portName (containsIgnoringCase toLowercase · nameQuery)) none ports := rfl

theorem Named.contains (port : Port)
    (named : Named portName (equalsIgnoringCase toLowercase · nameQuery) port = true) :
    Named portName (containsIgnoringCase toLowercase · nameQuery) port = true :=
  Named.mono (fun _ => containsIgnoringCase_of_equals) named

theorem Named.equals (lowers : LowersAscii toLowercase) (port : Port)
    (named : Named portName (eqIgnoreAsciiCase · nameQuery) port = true) :
    Named portName (equalsIgnoringCase toLowercase · nameQuery) port = true :=
  Named.mono (fun _ => lowers.equalsIgnoringCase) named

theorem findMatchingMidiDevice_eq_none_iff (lowers : LowersAscii toLowercase) :
    findMatchingMidiDevice portName toLowercase ports nameQuery = none ↔
      ¬ ∃ port ∈ ports,
        Named portName (containsIgnoringCase toLowercase · nameQuery) port = true := by
  rw [findMatchingMidiDevice_eq_prefer, prefer_eq, Option.none_or, Option.or_eq_none_iff,
    List.find?_eq_none, List.find?_eq_none]
  push Not
  constructor
  · rintro ⟨-, uncontained⟩
    exact uncontained
  · intro uncontained
    refine ⟨fun port member equal => ?_, uncontained⟩
    exact uncontained port member (Named.contains port (Named.equals lowers port equal))

theorem findMatchingMidiDevice_eq_first (lowers : LowersAscii toLowercase)
    (unequal : ¬ ∃ port ∈ ports,
      Named portName (equalsIgnoringCase toLowercase · nameQuery) port = true) :
    findMatchingMidiDevice portName toLowercase ports nameQuery =
      ports.find? (Named portName (containsIgnoringCase toLowercase · nameQuery)) := by
  have missed : ports.find? (Named portName (eqIgnoreAsciiCase · nameQuery)) = none := by
    apply List.find?_eq_none.2
    intro port member equal
    exact unequal ⟨port, member, Named.equals lowers port equal⟩
  rw [findMatchingMidiDevice_eq_prefer, prefer_eq, missed, Option.none_or, Option.none_or]

end

theorem matches_ignoring_case_iff {Port : Type*} (portName : Port → Option String)
    (toLowercase : String → String) (lowers : LowersAscii toLowercase) (ports : List Port)
    (nameQuery : String) :
    MatchesIgnoringCase portName toLowercase ports nameQuery ↔
      ¬ WholeNameShadowed portName toLowercase ports nameQuery := by
  have equals (port : Port) :
      Named portName (eqIgnoreAsciiCase · nameQuery) port = true →
        Named portName (equalsIgnoringCase toLowercase · nameQuery) port = true :=
    Named.equals lowers port
  have contains (port : Port) :
      Named portName (equalsIgnoringCase toLowercase · nameQuery) port = true →
        Named portName (containsIgnoringCase toLowercase · nameQuery) port = true :=
    Named.contains port
  constructor
  · intro found
    exact (prefer_middle_iff equals contains).1 found.whole
  · intro clear
    exact ⟨findMatchingMidiDevice_eq_none_iff lowers,
      (prefer_middle_iff equals contains).2 clear, findMatchingMidiDevice_eq_first lowers⟩

end Midi

/-! ## Accented names -/

/-- `to_lowercase` on a character below U+0100. -/
def latinLower (char : Char) : Char :=
  if 192 ≤ char.toNat ∧ char.toNat ≤ 222 ∧ char.toNat ≠ 215 then Char.ofNat (char.toNat + 32)
  else char.toLower

def latinLowercase (text : String) : String := String.ofList (text.toList.map latinLower)

theorem latinLower_toLower (char : Char) : latinLower char.toLower = latinLower char := by
  by_cases upper : char.isUpper = true
  · -- The character and its lower case are ASCII, so both lower to the latter.
    have bounds : 65 ≤ char.toNat ∧ char.toNat ≤ 90 := by
      simpa [Char.isUpper, UInt32.le_iff_toNat_le] using upper
    have lowered : char.toLower.toNat = char.toNat + 32 := by
      rw [Char.toLower_eq_of_isUpper upper, Char.toNat_ofNat, if_pos (.inl (by omega))]
    unfold latinLower
    rw [if_neg (by omega), if_neg (by omega), Char.toLower_toLower_eq_toLower]
  · rw [Char.toLower_eq_of_not_isUpper upper]

theorem latinLowercase_lowersAscii : LowersAscii latinLowercase := by
  intro text
  unfold latinLowercase asciiLowercase
  rw [String.toList_ofList, List.map_map]
  congr 1
  apply List.map_congr_left
  intro char _
  exact latinLower_toLower char

theorem whole_accented_name_is_found :
    Midi.MatchesIgnoringCase id latinLowercase [some "Überall", none, some "Über"] "ÜBER" :=
  (Midi.matches_ignoring_case_iff id latinLowercase latinLowercase_lowersAscii
    [some "Überall", none, some "Über"] "ÜBER").2 fun shadowed =>
      absurd (shadowed.1 (some "Über") (by simp)) (by decide)

theorem whole_accented_name_is_missed :
    isBlank "ÜBER" = false ∧
    Midi.findMatchingMidiDevice id latinLowercase [some "Überall", some "über"] "ÜBER" =
      some (some "Überall") ∧
    ¬ Midi.MatchesIgnoringCase id latinLowercase [some "Überall", some "über"] "ÜBER" := by
  have picked : Midi.findMatchingMidiDevice id latinLowercase [some "Überall", some "über"] "ÜBER" =
      some (some "Überall") := by decide
  refine ⟨by decide, picked, fun found => ?_⟩
  obtain ⟨port, same, equal⟩ := found.whole ⟨some "über", by simp, by decide⟩
  obtain rfl := Option.some.inj (picked.symm.trans same)
  exact absurd equal (by decide)

end Phase4.Managers
