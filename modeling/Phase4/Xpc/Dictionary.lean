import Phase4.Frames.Region

namespace Phase4.Xpc
open Frames

/-! ## XPC objects -/

inductive Value where
  | int64 (value : Int)
  | bool (value : Bool)
  | double (bits : BitVec 64)
  | string (text : String)
  | shmem (region : FrameRegion)
  | array (values : List Value)
  | dictionary (entries : List (String × Value))

abbrev Dictionary := List (String × Value)

/-- A string without interior NUL characters, which libxpc cannot carry. -/
def cString (text : String) : String := text.map fun c => if c = '\u0000' then '\uFFFD' else c

namespace Dictionary

def getValue (dictionary : Dictionary) (key : String) : Option Value := dictionary.lookup key

def setValue (key : String) (value : Value) : Dictionary → Dictionary
  | [] => [(key, value)]
  | (other, old) :: rest =>
      if other = key then (key, value) :: rest else (other, old) :: setValue key value rest

def setI64 (dictionary : Dictionary) (key : String) (value : Int) : Dictionary :=
  dictionary.setValue key (.int64 value)

def setBool (dictionary : Dictionary) (key : String) (value : Bool) : Dictionary :=
  dictionary.setValue key (.bool value)

def setStr (dictionary : Dictionary) (key : String) (text : String) : Dictionary :=
  dictionary.setValue key (.string (cString text))

theorem getValue_setValue_self (dictionary : Dictionary) (key : String) (value : Value) :
    (setValue key value dictionary).getValue key = some value := by
  induction dictionary with
  | nil => simp [setValue, getValue]
  | cons entry rest ih =>
      obtain ⟨other, old⟩ := entry
      by_cases same : other = key
      · simp [setValue, same, getValue]
      · have different : (key == other) = false := by simp [Ne.symm same]
        simpa [setValue, same, getValue, List.lookup_cons, different] using ih

theorem getValue_setValue_other {key other : String} (different : other ≠ key)
    (dictionary : Dictionary) (value : Value) :
    (setValue key value dictionary).getValue other = dictionary.getValue other := by
  have apart : (other == key) = false := by simpa using different
  induction dictionary with
  | nil => simp [setValue, getValue, List.lookup_cons, apart]
  | cons entry rest ih =>
      obtain ⟨first, old⟩ := entry
      by_cases same : first = key
      · simp [setValue, same, getValue, List.lookup_cons, apart]
      · cases here : other == first with
        | true => simp [setValue, same, getValue, List.lookup_cons, here]
        | false => simpa [setValue, same, getValue, List.lookup_cons, here] using ih

end Dictionary
end Phase4.Xpc
