import Mathlib.Data.List.Basic

namespace Phase4.Library

/-! ## JSON values

Numbers are of any type whose values have a text. -/

inductive JsonValue (Number : Type) where
  | null
  | bool (value : Bool)
  | number (value : Number)
  | string (value : String)
  | array (elements : List (JsonValue Number))
  | object (members : List (String × JsonValue Number))

namespace JsonValue
variable {Number : Type}

@[elab_as_elim, induction_eliminator]
theorem induction {motive : JsonValue Number → Prop} (null : motive .null)
    (bool : ∀ value, motive (.bool value)) (number : ∀ value, motive (.number value))
    (string : ∀ value, motive (.string value))
    (array : ∀ elements, (∀ element ∈ elements, motive element) → motive (.array elements))
    (object : ∀ members, (∀ member ∈ members, motive member.2) → motive (.object members))
    (value : JsonValue Number) : motive value :=
  @JsonValue.rec Number motive (fun elements => ∀ element ∈ elements, motive element)
    (fun members => ∀ member ∈ members, motive member.2) (fun member => motive member.2)
    null bool number string array object
    (by simp) (fun _ _ here rest => List.forall_mem_cons.mpr ⟨here, rest⟩)
    (by simp) (fun _ _ here rest => List.forall_mem_cons.mpr ⟨here, rest⟩)
    (fun _ _ here => here) value

end JsonValue

/-! ## The compact text -/

def isNumeral (c : Char) : Bool :=
  c.isDigit || c = '-' || c = '+' || c = '.' || c = 'e' || c = 'E'

structure Numerals (Number : Type) where
  print : Number → List Char
  read : List Char → Option Number
  read_print : ∀ value, read (print value) = some value
  numeral : ∀ value, ∀ c ∈ print value, isNumeral c = true
  nonempty : ∀ value, print value ≠ []

namespace Json
variable {Number Value : Type}

def escape (c : Char) : List Char :=
  if c = '\"' then ['\\', '\"']
  else if c = '\\' then ['\\', '\\']
  else if c = '\x08' then ['\\', 'b']
  else if c = '\t' then ['\\', 't']
  else if c = '\n' then ['\\', 'n']
  else if c = '\x0c' then ['\\', 'f']
  else if c = '\r' then ['\\', 'r']
  else if c.toNat < 32 then
    ['\\', 'u', '0', '0', Nat.digitChar (c.toNat / 16), Nat.digitChar (c.toNat % 16)]
  else [c]

def printString (value : String) : List Char :=
  '\"' :: (value.toList.flatMap escape ++ ['\"'])

def sequence (close : Char) (texts : List (List Char)) : List Char :=
  [','].intercalate texts ++ [close]

mutual

def print (numerals : Numerals Number) : JsonValue Number → List Char
  | .null => ['n', 'u', 'l', 'l']
  | .bool true => ['t', 'r', 'u', 'e']
  | .bool false => ['f', 'a', 'l', 's', 'e']
  | .number value => numerals.print value
  | .string value => printString value
  | .array elements => '[' :: sequence ']' (printElements numerals elements)
  | .object members => '\x7b' :: sequence '\x7d' (printMembers numerals members)

def printElements (numerals : Numerals Number) : List (JsonValue Number) → List (List Char)
  | [] => []
  | element :: rest => print numerals element :: printElements numerals rest

def printMembers (numerals : Numerals Number) :
    List (String × JsonValue Number) → List (List Char)
  | [] => []
  | (key, value) :: rest =>
      (printString key ++ ':' :: print numerals value) :: printMembers numerals rest

end

/-! ## Reading

A surrogate pair of escapes is not read, since no text printed here has one. -/

def isSpace (c : Char) : Bool := c = ' ' || c = '\t' || c = '\n' || c = '\r'

def skip (text : List Char) : List Char := text.dropWhile isSpace

def hexValue (c : Char) : Option Nat :=
  if '0' ≤ c ∧ c ≤ '9' then some (c.toNat - 48)
  else if 'a' ≤ c ∧ c ≤ 'f' then some (c.toNat - 87)
  else if 'A' ≤ c ∧ c ≤ 'F' then some (c.toNat - 55)
  else none

def codePoint (a b c d : Char) : Option Char := do
  let code := 4096 * (← hexValue a) + 256 * (← hexValue b) + 16 * (← hexValue c) + (← hexValue d)
  if code.isValidChar then some (Char.ofNat code) else none

def unescape (c : Char) : Option Char :=
  if c = '\"' ∨ c = '\\' ∨ c = '/' then some c
  else if c = 'b' then some '\x08'
  else if c = 't' then some '\t'
  else if c = 'n' then some '\n'
  else if c = 'f' then some '\x0c'
  else if c = 'r' then some '\r'
  else none

def readString : List Char → Option (List Char × List Char)
  | [] => none
  | '\"' :: rest => some ([], rest)
  | '\\' :: 'u' :: a :: b :: c :: d :: rest => do
      let value ← codePoint a b c d
      (readString rest).map fun (text, after) => (value :: text, after)
  | '\\' :: letter :: rest => do
      let value ← unescape letter
      (readString rest).map fun (text, after) => (value :: text, after)
  | c :: rest =>
      if c.toNat < 32 ∨ c = '\\' then none
      else (readString rest).map fun (text, after) => (c :: text, after)

section
variable (close : Char) (item : List Char → Option (Value × List Char))

def readItems : Nat → List Char → Option (List Value × List Char)
  | 0, _ => none
  | fuel + 1, text => do
      let (value, rest) ← item text
      match skip rest with
      | [] => none
      | c :: more =>
          if c = close then some ([value], more)
          else if c = ',' then (readItems fuel more).map fun (values, last) => (value :: values, last)
          else none

def readSequence (text : List Char) : Option (List Value × List Char) :=
  if (skip text).head? = some close then some ([], (skip text).tail)
  else readItems close item text.length text

end

def readMember (value : List Char → Option (Value × List Char)) (text : List Char) :
    Option ((String × Value) × List Char) :=
  match skip text with
  | '\"' :: rest => do
      let (key, rest) ← readString rest
      match skip rest with
      | ':' :: rest => (value rest).map fun (value, last) => ((String.ofList key, value), last)
      | _ => none
  | _ => none

def readWord : List Char → Option (JsonValue Number × List Char)
  | 'n' :: 'u' :: 'l' :: 'l' :: rest => some (.null, rest)
  | 't' :: 'r' :: 'u' :: 'e' :: rest => some (.bool true, rest)
  | 'f' :: 'a' :: 'l' :: 's' :: 'e' :: rest => some (.bool false, rest)
  | _ => none

def read (numerals : Numerals Number) : Nat → List Char → Option (JsonValue Number × List Char)
  | 0, _ => none
  | fuel + 1, text =>
      match skip text with
      | [] => none
      | first :: rest =>
          if isNumeral first then do
            let value ← numerals.read ((first :: rest).takeWhile isNumeral)
            some (.number value, (first :: rest).dropWhile isNumeral)
          else if first = '\"' then
            (readString rest).map fun (value, last) => (.string (String.ofList value), last)
          else if first = '[' then
            (readSequence ']' (read numerals fuel) rest).map fun (values, last) =>
              (.array values, last)
          else if first = '\x7b' then
            (readSequence '\x7d' (readMember (read numerals fuel)) rest).map fun (members, last) =>
              (.object members, last)
          else readWord (first :: rest)

def parse (numerals : Numerals Number) (text : List Char) : Option (JsonValue Number) := do
  let (value, rest) ← read numerals text.length text
  if skip rest = [] then some value else none

/-! ## Strings -/

theorem hexValue_digitChar : ∀ digit < 16, hexValue (Nat.digitChar digit) = some digit := by
  decide

theorem codePoint_digits {c : Char} (small : c.toNat < 32) :
    codePoint '0' '0' (Nat.digitChar (c.toNat / 16)) (Nat.digitChar (c.toNat % 16)) = some c := by
  have zero : hexValue '0' = some 0 := by decide
  have high := hexValue_digitChar (c.toNat / 16) (by omega)
  have low := hexValue_digitChar (c.toNat % 16) (by omega)
  have whole : 4096 * 0 + 256 * 0 + 16 * (c.toNat / 16) + c.toNat % 16 = c.toNat := by omega
  have valid : c.toNat.isValidChar := c.valid
  simp only [codePoint, zero, high, low, Option.bind_eq_bind, Option.bind_some, whole]
  rw [if_pos valid, Char.ofNat_toNat]

theorem readString_escape (c : Char) (rest : List Char) :
    readString (escape c ++ rest) =
      (readString rest).map fun (text, after) => (c :: text, after) := by
  unfold escape
  split_ifs with quote slash backspace tab newline feed carriage small
  any_goals
    subst c
    rfl
  · simp only [List.cons_append, List.nil_append, readString, codePoint_digits small,
      Option.bind_eq_bind, Option.bind_some]
  · have plain : ¬(c.toNat < 32 ∨ c = '\\') := by
      rintro (low | same)
      · exact small low
      · exact slash same
    rw [List.singleton_append, readString]
    · exact if_neg plain
    all_goals simp [quote, slash]

theorem readString_escaped (text rest : List Char) :
    readString (text.flatMap escape ++ '\"' :: rest) = some (text, rest) := by
  induction text with
  | nil => rfl
  | cons c text ih =>
      rw [List.flatMap_cons, List.append_assoc, readString_escape, ih]
      rfl

/-! ## Sequences -/

/-- What may stand behind a value: no numeral that would go on with it. -/
def Follows (rest : List Char) : Prop := ∀ c ∈ rest.head?, isNumeral c = false

/-- The text of a value or a member tells itself from a closing bracket. -/
structure Opens (text : List Char) : Prop where
  starts : text ≠ []
  solid : ∀ c ∈ text.head?, isSpace c = false ∧ c ≠ ']' ∧ c ≠ '\x7d'

theorem Opens.skip_eq {text : List Char} (opens : Opens text) (rest : List Char) :
    skip (text ++ rest) = text ++ rest := by
  cases text with
  | nil => exact absurd rfl opens.starts
  | cons c text =>
      have solid := (opens.solid c rfl).1
      rw [skip, List.cons_append, List.dropWhile_cons, solid]
      rfl

theorem skip_solid {c : Char} (solid : isSpace c = false) (rest : List Char) :
    skip (c :: rest) = c :: rest := by
  rw [skip, List.dropWhile_cons, solid]
  rfl

structure Closes (close : Char) : Prop where
  solid : isSpace close = false
  comma : close ≠ ','
  numeral : isNumeral close = false

theorem closes_array : Closes ']' := ⟨by decide, by decide, by decide⟩

theorem closes_object : Closes '\x7d' := ⟨by decide, by decide, by decide⟩

section
variable {close : Char} {item : List Char → Option (Value × List Char)} {text : Value → List Char}

theorem sequence_cons_cons (close : Char) (first second : List Char) (rest : List (List Char)) :
    sequence close (first :: second :: rest) = first ++ ',' :: sequence close (second :: rest) := by
  simp [sequence, List.intercalate]

theorem sequence_singleton (close : Char) (only : List Char) :
    sequence close [only] = only ++ [close] := by
  simp [sequence, List.intercalate]

theorem length_lt_sequence (close : Char) (text : Value → List Char) {values : List Value}
    {value : Value} (member : value ∈ values) :
    (text value).length < (sequence close (values.map text)).length := by
  induction values with
  | nil => cases member
  | cons first values ih =>
      cases values with
      | nil =>
          rw [List.mem_singleton.mp member, List.map_singleton, sequence_singleton]
          simp
      | cons second values =>
          rw [List.map_cons, List.map_cons, sequence_cons_cons]
          rcases List.mem_cons.mp member with rfl | later
          · simp
          · have shorter := ih later
            rw [List.map_cons] at shorter
            simp only [List.length_append, List.length_cons]
            omega

theorem count_lt_sequence (close : Char) (texts : List (List Char)) :
    texts.length < (sequence close texts).length + 1 := by
  induction texts with
  | nil => simp
  | cons first texts ih =>
      cases texts with
      | nil => simp [sequence_singleton]
      | cons second texts =>
          rw [sequence_cons_cons]
          simp only [List.length_append, List.length_cons] at ih ⊢
          omega

theorem readItems_sequence (closes : Closes close) {values : List Value} (some_value : values ≠ [])
    (reads : ∀ value ∈ values, ∀ rest, Follows rest →
      item (text value ++ rest) = some (value, rest)) {fuel : Nat} (enough : values.length ≤ fuel)
    (rest : List Char) :
    readItems close item fuel (sequence close (values.map text) ++ rest) = some (values, rest) := by
  induction values generalizing fuel with
  | nil => exact absurd rfl some_value
  | cons first values ih =>
      obtain ⟨here, later⟩ := List.forall_mem_cons.mp reads
      obtain ⟨fuel, rfl⟩ := Nat.exists_eq_succ_of_ne_zero (Nat.ne_of_gt (Nat.zero_lt_of_lt enough))
      cases values with
      | nil =>
          have numeral : Follows (close :: rest) := by
            intro c same
            cases same
            exact closes.numeral
          simp only [List.map_cons, List.map_nil, sequence_singleton, List.append_assoc,
            List.singleton_append, readItems, here _ numeral, Option.bind_eq_bind,
            Option.bind_some, skip_solid closes.solid, if_true]
      | cons second values =>
          have numeral (rest : List Char) : Follows (',' :: rest) := by
            intro c same
            cases same
            decide
          have solid : isSpace ',' = false := by decide
          have next := ih (by simp) later (Nat.le_of_succ_le_succ enough)
          simp only [List.map_cons] at next ⊢
          simp only [sequence_cons_cons, List.append_assoc, List.cons_append, readItems,
            here _ (numeral _), Option.bind_eq_bind, Option.bind_some, skip_solid solid,
            closes.comma.symm, if_false, if_true, next]
          rfl

theorem readSequence_sequence (item : List Char → Option (Value × List Char))
    (text : Value → List Char) (values : List Value) (closes : Closes close)
    (bracket : close = ']' ∨ close = '\x7d')
    (reads : ∀ value ∈ values, ∀ rest, Follows rest →
      item (text value ++ rest) = some (value, rest))
    (opens : ∀ value ∈ values, Opens (text value)) (rest : List Char) :
    readSequence close item (sequence close (values.map text) ++ rest) = some (values, rest) := by
  cases values with
  | nil =>
      have empty : sequence close (([] : List Value).map text) ++ rest = close :: rest := rfl
      rw [readSequence, empty, skip_solid closes.solid]
      exact if_pos rfl
  | cons first values =>
      have begins : ∃ more, sequence close ((first :: values).map text) ++ rest =
          text first ++ more := by
        cases values with
        | nil => exact ⟨_, by rw [List.map_singleton, sequence_singleton, List.append_assoc]⟩
        | cons second values =>
            exact ⟨_, by rw [List.map_cons, List.map_cons, sequence_cons_cons, List.append_assoc]⟩
      have head := opens first List.mem_cons_self
      have elsewhere : (skip (sequence close ((first :: values).map text) ++ rest)).head? ≠
          some close := by
        obtain ⟨more, same⟩ := begins
        rw [same, head.skip_eq]
        intro closed
        have apart := head.solid close (by
          rwa [List.head?_append_of_ne_nil _ head.starts] at closed)
        rcases bracket with rfl | rfl
        · exact apart.2.1 rfl
        · exact apart.2.2 rfl
      rw [readSequence, if_neg elsewhere]
      refine readItems_sequence closes (by simp) reads ?_ rest
      have count := count_lt_sequence close ((first :: values).map text)
      rw [List.length_map] at count
      rw [List.length_append]
      omega

end

/-! ## What was printed reads back -/

section
variable (numerals : Numerals Number)

theorem printElements_eq (elements : List (JsonValue Number)) :
    printElements numerals elements = elements.map (print numerals) := by
  induction elements with
  | nil => rfl
  | cons element rest ih => rw [printElements, ih, List.map_cons]

def printMember (member : String × JsonValue Number) : List Char :=
  printString member.1 ++ ':' :: print numerals member.2

theorem printMembers_eq (members : List (String × JsonValue Number)) :
    printMembers numerals members = members.map (printMember numerals) := by
  induction members with
  | nil => rfl
  | cons member rest ih =>
      rw [printMembers, ih, List.map_cons]
      rfl

theorem not_numeral {c : Char} (numeral : isNumeral c = true) :
    isSpace c = false ∧ c ≠ ']' ∧ c ≠ '\x7d' := by
  refine ⟨?_, ?_, ?_⟩
  · cases space : isSpace c with
    | false => rfl
    | true =>
        simp only [isSpace, Bool.or_eq_true, decide_eq_true_eq] at space
        rcases space with ((rfl | rfl) | rfl) | rfl <;> exact absurd numeral (by decide)
  all_goals
    rintro rfl
    exact absurd numeral (by decide)

theorem print_opens (value : JsonValue Number) : Opens (print numerals value) := by
  have keyword (first : Char) (rest : List Char)
      (solid : isSpace first = false ∧ first ≠ ']' ∧ first ≠ '\x7d') : Opens (first :: rest) :=
    ⟨by simp, fun c here => by cases here; exact solid⟩
  cases value with
  | null => exact keyword 'n' _ (by decide)
  | bool value => cases value <;> exact keyword _ _ (by decide)
  | number value =>
      refine ⟨numerals.nonempty value, fun c here => ?_⟩
      exact not_numeral (numerals.numeral value c (List.mem_of_mem_head? here))
  | string value => exact keyword '\"' _ (by decide)
  | array elements => exact keyword '[' _ (by decide)
  | object members => exact keyword '\x7b' _ (by decide)

theorem printMember_opens (member : String × JsonValue Number) :
    Opens (printMember numerals member) := by
  refine ⟨by simp [printMember, printString], fun c here => ?_⟩
  cases here
  decide

theorem readMember_printMember {value : List Char → Option (JsonValue Number × List Char)}
    {member : String × JsonValue Number} {rest : List Char}
    (reads : value (print numerals member.2 ++ rest) = some (member.2, rest)) :
    readMember value (printMember numerals member ++ rest) = some (member, rest) := by
  have quote : isSpace '\"' = false := by decide
  have colon : isSpace ':' = false := by decide
  simp only [printMember, printString, List.cons_append, List.append_assoc, List.nil_append,
    readMember, skip_solid quote, readString_escaped, Option.bind_eq_bind, Option.bind_some,
    skip_solid colon, reads, Option.map_some, String.ofList_toList]

theorem read_number {fuel : Nat} (value : Number) {rest : List Char} (follows : Follows rest) :
    read numerals (fuel + 1) (numerals.print value ++ rest) = some (.number value, rest) := by
  have opens : Opens (numerals.print value) := print_opens numerals (.number value)
  have all := numerals.numeral value
  have taken : (numerals.print value ++ rest).takeWhile isNumeral = numerals.print value := by
    rw [List.takeWhile_append_of_pos all]
    cases rest with
    | nil => simp
    | cons c rest => simp [follows c rfl]
  have dropped : (numerals.print value ++ rest).dropWhile isNumeral = rest := by
    rw [List.dropWhile_append_of_pos all]
    cases rest with
    | nil => simp
    | cons c rest => simp [follows c rfl]
  rw [read, opens.skip_eq]
  cases shape : numerals.print value ++ rest with
  | nil => simp [numerals.nonempty value] at shape
  | cons first more =>
      have numeral : isNumeral first = true := by
        cases printed : numerals.print value with
        | nil => exact absurd printed (numerals.nonempty value)
        | cons c others =>
            rw [printed, List.cons_append] at shape
            cases shape
            exact all first (by rw [printed]; exact List.mem_cons_self)
      rw [shape] at taken dropped
      simp only [if_pos numeral, taken, dropped, numerals.read_print, Option.bind_eq_bind,
        Option.bind_some]

theorem read_print (value : JsonValue Number) {fuel : Nat}
    (enough : (print numerals value).length ≤ fuel) {rest : List Char} (follows : Follows rest) :
    read numerals fuel (print numerals value ++ rest) = some (value, rest) := by
  have starts : 0 < (print numerals value).length :=
    List.length_pos_iff.mpr (print_opens numerals value).starts
  obtain ⟨fuel, rfl⟩ := Nat.exists_eq_succ_of_ne_zero (Nat.ne_of_gt (Nat.lt_of_lt_of_le starts enough))
  induction value generalizing fuel rest with
  | null => rfl
  | bool value => cases value <;> rfl
  | number value => exact read_number numerals value follows
  | string value =>
      have quote : isSpace '\"' = false := by decide
      have other : isNumeral '\"' = false := by decide
      simp only [print, printString, List.cons_append, List.append_assoc, List.nil_append, read,
        skip_solid quote, other, readString_escaped, Option.map_some, String.ofList_toList]
      rfl
  | array elements ih =>
      have bracket : isSpace '[' = false := by decide
      have other : isNumeral '[' = false := by decide
      have apart : '[' ≠ '\"' := by decide
      have inside := readSequence_sequence (read numerals fuel) (print numerals) elements
        closes_array (.inl rfl) (fun element member rest behind => by
          have shorter := length_lt_sequence ']' (print numerals) member
          simp only [print, printElements_eq, List.length_cons] at enough
          have starts := List.length_pos_iff.mpr (print_opens numerals element).starts
          obtain ⟨fuel, rfl⟩ := Nat.exists_eq_succ_of_ne_zero (show fuel ≠ 0 by omega)
          exact ih element member behind starts fuel (by omega))
        (fun element _ => print_opens numerals element) rest
      simp only [print, printElements_eq, List.cons_append, read, skip_solid bracket, other, apart,
        inside, if_false, if_true, Option.map_some]
      rfl
  | object members ih =>
      have bracket : isSpace '\x7b' = false := by decide
      have other : isNumeral '\x7b' = false := by decide
      have apart : '\x7b' ≠ '\"' ∧ '\x7b' ≠ '[' := by decide
      have inside := readSequence_sequence (readMember (read numerals fuel))
        (printMember numerals) members closes_object (.inr rfl)
        (fun member here rest behind => by
          have shorter := length_lt_sequence '\x7d' (printMember numerals) here
          simp only [print, printMembers_eq, List.length_cons] at enough
          rw [printMember, List.length_append, List.length_cons] at shorter
          have starts := List.length_pos_iff.mpr (print_opens numerals member.2).starts
          obtain ⟨fuel, rfl⟩ := Nat.exists_eq_succ_of_ne_zero (show fuel ≠ 0 by omega)
          exact readMember_printMember numerals (ih member here behind starts fuel (by omega)))
        (fun member _ => printMember_opens numerals member) rest
      simp only [print, printMembers_eq, List.cons_append, read, skip_solid bracket, other,
        apart.1, apart.2, inside, if_false, if_true, Option.map_some]
      rfl

theorem parse_print (value : JsonValue Number) :
    parse numerals (print numerals value) = some value := by
  have ends : Follows [] := fun c here => by cases here
  have whole := read_print numerals value (Nat.le_refl _) ends
  rw [List.append_nil] at whole
  simp only [parse, whole, Option.bind_eq_bind, Option.bind_some]
  rfl

/-! ## JSON lines

No text has a control character in it, so a line break ends a value and nothing else. -/

def Plain (text : List Char) : Prop := ∀ c ∈ text, 32 ≤ c.toNat

instance (text : List Char) : Decidable (Plain text) :=
  decidable_of_iff (text.all (fun c => decide (32 ≤ c.toNat)) = true) (by simp [Plain])

theorem plain_nil : Plain [] := by decide

theorem Plain.append {first second : List Char} (plain : Plain first) (also : Plain second) :
    Plain (first ++ second) :=
  fun c member => (List.mem_append.mp member).elim (plain c) (also c)

theorem Plain.cons {c : Char} {text : List Char} (visible : 32 ≤ c.toNat) (plain : Plain text) :
    Plain (c :: text) :=
  List.forall_mem_cons.mpr ⟨visible, plain⟩

theorem Plain.no_break {text : List Char} (plain : Plain text) : '\n' ∉ text :=
  fun member => absurd (plain _ member) (by decide)

theorem plain_numeral {c : Char} (numeral : isNumeral c = true) : 32 ≤ c.toNat := by
  simp only [isNumeral, Char.isDigit, Bool.or_eq_true, Bool.and_eq_true, decide_eq_true_eq] at numeral
  rcases numeral with ((((digit | rfl) | rfl) | rfl) | rfl) | rfl
  · have least : (48 : UInt32).toNat ≤ c.val.toNat := digit.1
    exact Nat.le_trans (by decide) least
  all_goals decide

theorem plain_digit : ∀ digit < 16, 32 ≤ (Nat.digitChar digit).toNat := by
  decide

theorem plain_escape (c : Char) : Plain (escape c) := by
  unfold escape
  split_ifs with quote slash backspace tab newline feed carriage small
  any_goals decide
  · have high := plain_digit (c.toNat / 16) (by omega)
    have low := plain_digit (c.toNat % 16) (by omega)
    have begins : Plain ['\\', 'u', '0', '0'] := by decide
    exact begins.append (.cons high (.cons low plain_nil))
  · exact .cons (Nat.not_lt.mp small) plain_nil

theorem plain_printString (value : String) : Plain (printString value) := by
  refine .cons (by decide) (.append ?_ (.cons (by decide) plain_nil))
  intro c member
  obtain ⟨own, -, inside⟩ := List.mem_flatMap.mp member
  exact plain_escape own c inside

theorem plain_sequence {close : Char} (visible : 32 ≤ close.toNat) {texts : List (List Char)}
    (plain : ∀ text ∈ texts, Plain text) : Plain (sequence close texts) := by
  induction texts with
  | nil => exact .cons visible plain_nil
  | cons first texts ih =>
      obtain ⟨here, later⟩ := List.forall_mem_cons.mp plain
      cases texts with
      | nil =>
          rw [sequence_singleton]
          exact here.append (.cons visible plain_nil)
      | cons second texts =>
          rw [sequence_cons_cons]
          exact here.append (.cons (by decide) (ih later))

theorem plain_print (value : JsonValue Number) : Plain (print numerals value) := by
  induction value with
  | null => exact (by decide : Plain ['n', 'u', 'l', 'l'])
  | bool value =>
      cases value with
      | false => exact (by decide : Plain ['f', 'a', 'l', 's', 'e'])
      | true => exact (by decide : Plain ['t', 'r', 'u', 'e'])
  | number value => exact fun c member => plain_numeral (numerals.numeral value c member)
  | string value => exact plain_printString value
  | array elements ih =>
      rw [print, printElements_eq]
      refine .cons (by decide) (plain_sequence (by decide) fun text member => ?_)
      obtain ⟨element, inside, rfl⟩ := List.mem_map.mp member
      exact ih element inside
  | object members ih =>
      rw [print, printMembers_eq]
      refine .cons (by decide) (plain_sequence (by decide) fun text member => ?_)
      obtain ⟨own, inside, rfl⟩ := List.mem_map.mp member
      exact (plain_printString own.1).append (.cons (by decide) (ih own inside))

def printLines (values : List (JsonValue Number)) : List Char :=
  values.flatMap fun value => print numerals value ++ ['\n']

def readLines (text : List Char) : Option (List (JsonValue Number)) :=
  (text.splitOn '\n').dropLast.mapM (parse numerals)

theorem splitOn_printLines (values : List (JsonValue Number)) {begun : List Char}
    (plain : Plain begun) :
    (printLines numerals values ++ begun).splitOn '\n' = values.map (print numerals) ++ [begun] := by
  induction values with
  | nil => exact List.splitOn_eq_singleton plain.no_break
  | cons value rest ih =>
      have whole := (plain_print numerals value).no_break
      rw [printLines, List.flatMap_cons, List.append_assoc, List.append_assoc,
        List.singleton_append, List.splitOn_append_cons_self_of_not_mem whole, ← printLines, ih]
      rfl

theorem readLines_printLines (values : List (JsonValue Number)) {begun : List Char}
    (plain : Plain begun) :
    readLines numerals (printLines numerals values ++ begun) = some values := by
  rw [readLines, splitOn_printLines numerals values plain, List.dropLast_concat]
  induction values with
  | nil => rfl
  | cons value rest ih => simp [parse_print, ih]

end

/-! ## Natural numbers -/

def naturals : Numerals Nat where
  print value := Nat.toDigits 10 value
  read text := if text.all Char.isDigit then some (Nat.ofDigitChars 10 text 0) else none
  read_print value := by
    have digits : (Nat.toDigits 10 value).all Char.isDigit = true :=
      List.all_eq_true.mpr fun c member => Nat.isDigit_of_mem_toDigits (by decide) (by decide) member
    rw [if_pos digits, Nat.ofDigitChars_ten_toDigits]
  numeral value c member := by
    have digit : c.isDigit = true := Nat.isDigit_of_mem_toDigits (by decide) (by decide) member
    simp [isNumeral, digit]
  nonempty value := Nat.toDigits_ne_nil

/-! ## Numbers as their texts -/

structure Token where
  text : List Char
  numeral : text.all isNumeral = true
  nonempty : text ≠ []
deriving DecidableEq

def readToken (text : List Char) : Option Token :=
  if numeral : text.all isNumeral = true ∧ text ≠ [] then some ⟨text, numeral.1, numeral.2⟩
  else none

def tokens : Numerals Token where
  print := Token.text
  read := readToken
  read_print token := dif_pos ⟨token.numeral, token.nonempty⟩
  numeral token := List.all_eq_true.mp token.numeral
  nonempty := Token.nonempty

end Json
end Phase4.Library
