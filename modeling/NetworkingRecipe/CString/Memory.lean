import Mathlib.Data.List.TakeWhile
import Mathlib.Data.Nat.Notation

/-!
# Strings in memory

Memory is the list of its characters, and an address is a place in the list. Strings end with a
terminator. Every access is checked: a function that returns a result has read and written inside the
memory only.

Where a string stands is said by what the memory holds from an address on.
-/

namespace CString

/-- An access behind the end of the memory. -/
inductive Fault where
  | outOfBounds
  deriving DecidableEq, Repr

/-- What accesses the memory. -/
abbrev Access := Except Fault

/-- Read the character at an address. -/
def load (memory : List Char) (address : ℕ) : Access Char :=
  match memory[address]? with
  | some c => .ok c
  | none => .error .outOfBounds

/-- Write a character to an address. -/
def store (memory : List Char) (address : ℕ) (c : Char) : Access (List Char) :=
  if address < memory.length then .ok (memory.set address c) else .error .outOfBounds

/-- Read up to the first character that is not accepted, and count those in front of it. -/
def runLength (accepts : Char → Bool) : List Char → Access ℕ
  | [] => .error .outOfBounds
  | c :: rest => if accepts c then (runLength accepts rest).map (· + 1) else .ok 0

/-- `strspn` -/
def strspn (memory : List Char) (s : ℕ) (accept : List Char) : Access ℕ :=
  runLength (fun c => accept.contains c) (memory.drop s)

/-- `strcspn` -/
def strcspn (memory : List Char) (s : ℕ) (reject : List Char) : Access ℕ :=
  runLength (fun c => c != '\x00' && !reject.contains c) (memory.drop s)

/-- `strchr` finds the character; it finds the terminator in every string. -/
def strchr (s : List Char) (c : Char) : Bool :=
  s.contains c || c == '\x00'

/-- The string at an address. -/
def stringAt (memory : List Char) (address : ℕ) : List Char :=
  (memory.drop address).takeWhile fun c => c != '\x00'

/-! ### Accesses -/

/-- An access that succeeds hands its result on. -/
@[simp] theorem ok_bind {A B : Type} (result : A) (next : A → Access B) :
    ((.ok result : Access A) >>= next) = next result := rfl

variable {memory : List Char} {address : ℕ}

/-- What stands behind a part of the memory. -/
theorem drop_add_of_drop {front rest : List Char} (h : memory.drop address = front ++ rest) :
    memory.drop (address + front.length) = rest := by
  rw [← List.drop_drop, h, List.drop_left]

/-- An address at which something stands is inside the memory. -/
theorem lt_length_of_drop {c : Char} {rest : List Char} (h : memory.drop address = c :: rest) :
    address < memory.length := by
  have hlength := congrArg List.length h
  rw [List.length_drop, List.length_cons] at hlength
  omega

/-- The character that stands at an address is read. -/
theorem load_of_drop {c : Char} {rest : List Char} (h : memory.drop address = c :: rest) :
    load memory address = .ok c := by
  have hget : memory[address]? = some c := by
    rw [← List.head?_drop, h, List.head?_cons]
  rw [load, hget]

/-- A character is written where one stands. -/
theorem store_of_drop {c : Char} {rest : List Char} (h : memory.drop address = c :: rest) (written : Char) :
    store memory address written = .ok (memory.set address written) :=
  if_pos (lt_length_of_drop h)

/-- Behind a written character the memory is what it was. -/
theorem drop_set_of_drop {c : Char} {rest : List Char} (h : memory.drop address = c :: rest)
    (written : Char) : (memory.set address written).drop address = written :: rest := by
  rw [List.drop_set, if_neg (Nat.lt_irrefl address), h, Nat.sub_self, List.set_cons_zero]

/-- A string ends at its terminator. -/
theorem stringAt_of_drop {text rest : List Char} (htext : '\x00' ∉ text)
    (h : memory.drop address = text ++ '\x00' :: rest) : stringAt memory address = text := by
  rw [stringAt, h, List.takeWhile_append_of_pos]
  · simp
  · intro c hc
    rw [bne_iff_ne]
    exact ne_of_mem_of_not_mem hc htext

/-- A write behind the end of a string does not change what stands up to its end. -/
theorem drop_set_of_lt {front rest : List Char} (h : memory.drop address = front ++ rest) {position : ℕ}
    (hposition : address + front.length ≤ position) (written : Char) :
    (memory.set position written).drop address =
      front ++ rest.set (position - address - front.length) written := by
  have hle : front.length ≤ position - address := by omega
  rw [List.drop_set, if_neg (by omega), h, List.set_append_right _ _ hle]

/-! ### Runs -/

/-- A run in a string is counted up to the terminator at most. -/
theorem strspn_of_drop {accept text rest : List Char} (haccept : accept.contains '\x00' = false)
    (h : memory.drop address = text ++ '\x00' :: rest) :
    strspn memory address accept = .ok (text.takeWhile fun c => accept.contains c).length := by
  rw [strspn, h]
  clear h
  induction text with
  | nil => exact if_neg (Bool.eq_false_iff.mp haccept)
  | cons c text ih =>
    rw [List.cons_append, runLength, ih, List.takeWhile_cons]
    split <;> rfl

/-- A run in a string ends at a rejected character or at the terminator. -/
theorem strcspn_of_drop {reject text rest : List Char} (htext : '\x00' ∉ text)
    (h : memory.drop address = text ++ '\x00' :: rest) :
    strcspn memory address reject = .ok (text.takeWhile fun c => !reject.contains c).length := by
  rw [strcspn, h]
  clear h
  induction text with
  | nil => exact if_neg (by simp)
  | cons c text ih =>
    have hc : (c != '\x00') = true := bne_iff_ne.mpr fun h => htext (h ▸ List.mem_cons_self)
    rw [List.cons_append, runLength, ih fun h => htext (List.mem_cons_of_mem c h), List.takeWhile_cons, hc,
      Bool.true_and]
    split <;> rfl

/-! ### Cutting a string -/

/-- A terminator behind a part of a string makes the part a string, and the rest of it stands behind the
character that was there. If that was the terminator, nothing has changed. -/
theorem cut_of_drop {part back : List Char} (hback : '\x00' ∉ back)
    (h : memory.drop address = part ++ (back ++ ['\x00'])) :
    load memory (address + part.length) = .ok (back.headD '\x00') ∧
      store memory (address + part.length) '\x00' = .ok (memory.set (address + part.length) '\x00') ∧
      (memory.set (address + part.length) '\x00').drop address =
        part ++ '\x00' :: (back ++ ['\x00']).tail ∧
      (memory.set (address + part.length) '\x00').drop
          (address + part.length + if back.headD '\x00' ≠ '\x00' then 1 else 0) = back.tail ++ ['\x00'] := by
  have hbehind := drop_add_of_drop h
  have hset := drop_set_of_lt h (Nat.le_refl _) '\x00'
  have hzero : address + part.length - address - part.length = 0 := by omega
  rw [hzero] at hset
  cases back with
  | nil =>
    have hdrop := drop_set_of_drop hbehind '\x00'
    exact ⟨load_of_drop hbehind, store_of_drop hbehind _, hset, hdrop⟩
  | cons c back =>
    have hc : c ≠ '\x00' := fun hc => hback (hc ▸ List.mem_cons_self)
    have hdrop := drop_set_of_drop hbehind '\x00'
    refine ⟨load_of_drop hbehind, store_of_drop hbehind _, hset, ?_⟩
    rw [List.headD_cons, if_pos hc, ← List.drop_drop, hdrop]
    rfl

end CString
