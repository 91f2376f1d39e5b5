import Mathlib.Data.List.Basic
import Mathlib.Data.Int.Notation

/-!
# JSON values

JSON values whose objects keep their members sorted by key, so that the order in which
members are stored leaves no trace. Numbers are integers, which is all that the users of
this file store.

A value that is not an object is treated as an empty one when a member is stored in it.
-/

/-- A JSON value. -/
inductive Json where
  | null
  | bool (value : Bool)
  | number (value : ℤ)
  | string (text : String)
  | array (items : List Json)
  | object (members : List (String × Json))
  deriving Repr, Inhabited

namespace Json

/-- Store a value in a sorted list of members. -/
def setMember (key : String) (value : Json) : List (String × Json) → List (String × Json)
  | [] => [(key, value)]
  | member :: members =>
    if key = member.1 then (key, value) :: members
    else if key < member.1 then (key, value) :: member :: members
    else member :: setMember key value members

/-- A lookup finds the first member if that has the key. -/
theorem lookup_cons (key key' : String) (value : Json) (members : List (String × Json)) :
    ((key, value) :: members).lookup key' = if key' = key then some value else members.lookup key' := by
  rw [List.lookup_cons]
  by_cases h : key' = key
  · rw [if_pos h, beq_iff_eq.mpr h]
  · rw [if_neg h, beq_false_of_ne h]

/-- Looking up a key after a value has been stored. -/
theorem lookup_setMember (key key' : String) (value : Json) (members : List (String × Json)) :
    (setMember key value members).lookup key' = if key' = key then some value else members.lookup key' := by
  induction members with
  | nil => exact lookup_cons key key' value []
  | cons member members ih =>
    obtain ⟨other, held⟩ := member
    rw [setMember]
    split
    · rename_i hkey
      obtain rfl : key = other := hkey
      rw [lookup_cons, lookup_cons]
      split <;> rfl
    · rename_i hkey
      split
      · exact lookup_cons key key' value _
      · rw [lookup_cons, lookup_cons, ih]
        by_cases hother : key' = other
        · have hne : key' ≠ key := fun h => hkey (h.symm.trans hother)
          rw [if_pos hother, if_neg hne, if_pos hother]
        · rw [if_neg hother, if_neg hother]

/-- The members of an object. -/
def members : Json → List (String × Json)
  | object members => members
  | _ => []

/-- `json[key] = value`. -/
def set (json : Json) (key : String) (value : Json) : Json :=
  object (setMember key value json.members)

/-- `json[key]` for reading, where an absent member is null. -/
def get (json : Json) (key : String) : Json :=
  (json.members.lookup key).getD null

/-- A stored member is read back, and the others are as they were. -/
@[simp] theorem get_set (json : Json) (key key' : String) (value : Json) :
    (json.set key value).get key' = if key' = key then value else json.get key' := by
  rw [get, set, members, lookup_setMember]
  split <;> rfl

/-- A number. -/
def ofNat (n : ℕ) : Json := number n

/-- The natural number that a value holds, or 0. -/
def toNat : Json → ℕ
  | number value => value.toNat
  | _ => 0

/-- The integer that a value holds, or 0. -/
def toInt : Json → ℤ
  | number value => value
  | _ => 0

/-- The truth value that a value holds, or false. -/
def toBool : Json → Bool
  | bool value => value
  | _ => false

/-- The items that a value holds. -/
def items : Json → List Json
  | array items => items
  | _ => []

/-- The text that a value holds, or the empty one. -/
def text : Json → String
  | string text => text
  | _ => ""

/-- A stored natural number is read back. -/
@[simp] theorem toNat_ofNat (n : ℕ) : (ofNat n).toNat = n :=
  Int.toNat_natCast n

/-- A stored integer is read back. -/
@[simp] theorem toInt_number (n : ℤ) : (number n).toInt = n := rfl

/-- A stored truth value is read back. -/
@[simp] theorem toBool_bool (b : Bool) : (bool b).toBool = b := rfl

/-- A stored text is read back. -/
@[simp] theorem text_string (s : String) : (string s).text = s := rfl

/-- Stored items are read back. -/
@[simp] theorem items_array (values : List Json) : (array values).items = values := rfl

end Json
