import Mathlib.Algebra.Order.Ring.Nat
import Mathlib.Data.List.Basic
import Mathlib.Tactic.Ring

/-!
# Positional numerals

The number that a list of digits spells, most significant digit first, in any base and for
digits of any type. Hexadecimal texts, decimal texts and byte strings are all read this way.
-/

namespace Numeral

variable {α : Type*} (base : ℕ) (digit : α → ℕ)

/-- The number that the digits spell. -/
def value (digits : List α) : ℕ :=
  digits.foldl (fun number d => number * base + digit d) 0

/-- A number read before the digits counts once for each place after it. -/
theorem foldl_eq (number : ℕ) (digits : List α) :
    digits.foldl (fun n d => n * base + digit d) number =
      number * base ^ digits.length + value base digit digits := by
  induction digits generalizing number with
  | nil => simp [value]
  | cons d rest ih =>
    rw [value, List.foldl_cons, List.foldl_cons, ih, ih (0 * base + digit d), List.length_cons]
    ring

/-- No digits spell zero. -/
@[simp] theorem value_nil : value base digit [] = 0 :=
  rfl

/-- The first digit counts for the places after it. -/
theorem value_cons (d : α) (digits : List α) :
    value base digit (d :: digits) = digit d * base ^ digits.length + value base digit digits := by
  rw [value, List.foldl_cons, foldl_eq, zero_mul, zero_add]

/-- A numeral in two parts. -/
theorem value_append (high low : List α) :
    value base digit (high ++ low) = value base digit high * base ^ low.length + value base digit low := by
  rw [value, List.foldl_append, ← value, foldl_eq]

/-- Leading zeros change nothing. -/
theorem value_replicate_append {zero : α} (hzero : digit zero = 0) (count : ℕ) (digits : List α) :
    value base digit (List.replicate count zero ++ digits) = value base digit digits := by
  induction count with
  | zero => rfl
  | succ count ih => rw [List.replicate_succ, List.cons_append, value_cons, hzero, zero_mul, zero_add, ih]

variable {base digit}

/-- A numeral is below the power of the base that its length gives. -/
theorem value_lt {digits : List α} (hdigit : ∀ d ∈ digits, digit d < base) :
    value base digit digits < base ^ digits.length := by
  induction digits with
  | nil => simp
  | cons d rest ih =>
    have hd : digit d < base := hdigit d List.mem_cons_self
    have hrest : value base digit rest < base ^ rest.length :=
      ih fun other hother => hdigit other (List.mem_cons_of_mem d hother)
    calc value base digit (d :: rest)
        = digit d * base ^ rest.length + value base digit rest := value_cons ..
      _ < digit d * base ^ rest.length + base ^ rest.length := by omega
      _ = (digit d + 1) * base ^ rest.length := by ring
      _ ≤ base * base ^ rest.length := Nat.mul_le_mul_right _ hd
      _ = base ^ (d :: rest).length := by rw [List.length_cons, pow_succ']

/-- Numerals of one length that spell the same number have the same digits. -/
theorem value_injective {first second : List α} (hinj : Function.Injective digit)
    (hlength : first.length = second.length) (hfirst : ∀ d ∈ first, digit d < base)
    (hsecond : ∀ d ∈ second, digit d < base)
    (h : value base digit first = value base digit second) : first = second := by
  induction first generalizing second with
  | nil => exact (List.length_eq_zero_iff.mp hlength.symm).symm
  | cons d rest ih =>
    obtain - | ⟨e, tail⟩ := second
    · cases hlength
    have hlen : rest.length = tail.length := Nat.succ.inj hlength
    have hrest : ∀ x ∈ rest, digit x < base := fun x hx => hfirst x (List.mem_cons_of_mem d hx)
    have htail : ∀ x ∈ tail, digit x < base := fun x hx => hsecond x (List.mem_cons_of_mem e hx)
    have hpos : 0 < base ^ tail.length :=
      Nat.pow_pos (Nat.zero_lt_of_lt (hfirst d List.mem_cons_self))
    have hrestLt := value_lt hrest
    rw [hlen] at hrestLt
    rw [value_cons, value_cons, hlen] at h
    have hvalue : value base digit rest = value base digit tail := by
      have hmod := congrArg (· % base ^ tail.length) h
      simpa [Nat.add_comm, Nat.mod_eq_of_lt hrestLt, Nat.mod_eq_of_lt (value_lt htail)] using hmod
    have hhead : digit d = digit e := by
      rw [hvalue] at h
      exact Nat.eq_of_mul_eq_mul_right hpos (Nat.add_right_cancel h)
    rw [hinj hhead, ih hlen hrest htail hvalue]

/-- A numeral whose first digit is smaller spells a smaller number, whatever the other digits are. -/
theorem value_cons_lt {d e : α} {first second : List α} (hlength : first.length = second.length)
    (hfirst : ∀ x ∈ first, digit x < base) (h : digit d < digit e) :
    value base digit (d :: first) < value base digit (e :: second) := by
  have hlt := value_lt hfirst
  rw [value_cons, value_cons, hlength]
  rw [hlength] at hlt
  calc digit d * base ^ second.length + value base digit first
      < digit d * base ^ second.length + base ^ second.length := by omega
    _ = (digit d + 1) * base ^ second.length := by ring
    _ ≤ digit e * base ^ second.length := Nat.mul_le_mul_right _ h
    _ ≤ digit e * base ^ second.length + value base digit second := Nat.le_add_right _ _

/-- Numerals of one length are in lexicographic order exactly when their numbers are in order. -/
theorem lex_iff_value_lt {first second : List α} (hinj : Function.Injective digit)
    (hlength : first.length = second.length) (hfirst : ∀ d ∈ first, digit d < base)
    (hsecond : ∀ d ∈ second, digit d < base) :
    List.Lex (fun d e => digit d < digit e) first second ↔
      value base digit first < value base digit second := by
  induction first generalizing second with
  | nil =>
    obtain rfl := List.length_eq_zero_iff.mp hlength.symm
    simp
  | cons d rest ih =>
    obtain - | ⟨e, tail⟩ := second
    · cases hlength
    have hlen : rest.length = tail.length := Nat.succ.inj hlength
    have hrest : ∀ x ∈ rest, digit x < base := fun x hx => hfirst x (List.mem_cons_of_mem d hx)
    have htail : ∀ x ∈ tail, digit x < base := fun x hx => hsecond x (List.mem_cons_of_mem e hx)
    rw [List.cons_lex_cons_iff]
    obtain hlt | heq | hgt := lt_trichotomy (digit d) (digit e)
    · exact iff_of_true (Or.inl hlt) (value_cons_lt hlen hrest hlt)
    · obtain rfl := hinj heq
      rw [value_cons, value_cons, hlen, Nat.add_lt_add_iff_left, ← ih hlen hrest htail]
      simp
    · have hne : d ≠ e := fun hde => hgt.ne' (congrArg digit hde)
      have hvalue := value_cons_lt hlen.symm htail hgt
      apply iff_of_false
      · intro h
        exact h.elim hgt.asymm fun h => hne h.1
      · exact hvalue.asymm

end Numeral
