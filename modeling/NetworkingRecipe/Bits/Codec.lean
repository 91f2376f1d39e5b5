import NetworkingRecipe.Numeral.Positional
import Mathlib.Data.Nat.Bitwise
import Mathlib.Logic.Equiv.Defs

/-!
# Codecs of fixed size

A value laid out in a fixed number of bits, most significant bit first. A codec is an
encoder and a decoder that are inverse to each other on the strings of its size, so a layout
built from codecs needs no proof of its own.
-/

/-- A string of bits, in the order in which they are sent. -/
abbrev Bits := List Bool

namespace Bits

/-- The low bits of a number, most significant first. -/
def ofNat : ℕ → ℕ → Bits
  | 0, _ => []
  | width + 1, number => number.testBit width :: ofNat width number

/-- The number that the bits spell. -/
def toNat (bits : Bits) : ℕ :=
  Numeral.value 2 Bool.toNat bits

/-- As many bits as asked for. -/
@[simp] theorem length_ofNat (width number : ℕ) : (ofNat width number).length = width := by
  induction width with
  | zero => rfl
  | succ width ih => simp [ofNat, ih]

/-- The low bits spell the number up to the power of two that they can hold. -/
theorem toNat_ofNat (width number : ℕ) : toNat (ofNat width number) = number % 2 ^ width := by
  induction width with
  | zero => simp [ofNat, toNat, Nat.mod_one]
  | succ width ih =>
    rw [ofNat, toNat, Numeral.value_cons, length_ofNat, ← toNat, ih, Nat.mod_pow_succ,
      Nat.toNat_testBit, Nat.mul_comm, Nat.add_comm]

/-- Bits spell a number below the power of two of their length. -/
theorem toNat_lt (bits : Bits) : toNat bits < 2 ^ bits.length := by
  apply Numeral.value_lt
  intro bit _
  exact Bool.toNat_lt bit

/-- Bits are the low bits of the number that they spell. -/
theorem ofNat_toNat (bits : Bits) : ofNat bits.length (toNat bits) = bits := by
  have hdigit : ∀ other : Bits, ∀ bit ∈ other, Bool.toNat bit < 2 := fun _ bit _ => Bool.toNat_lt bit
  have hinj : Function.Injective Bool.toNat := by
    intro first second h
    cases first <;> cases second <;> simp_all
  apply Numeral.value_injective hinj (length_ofNat ..) (hdigit _) (hdigit _)
  change toNat (ofNat _ _) = toNat bits
  rw [toNat_ofNat, Nat.mod_eq_of_lt (toNat_lt bits)]

/-- A layout of fixed size: every value has one string of that size and every such string is a value's. -/
structure Codec (α : Type) where
  /-- How many bits a value takes. -/
  size : ℕ
  /-- The bits of a value. -/
  encode : α → Bits
  /-- The value of the bits. -/
  decode : Bits → α
  length_encode : ∀ value, (encode value).length = size
  decode_encode : ∀ value, decode (encode value) = value
  encode_decode : ∀ bits, bits.length = size → encode (decode bits) = bits

namespace Codec

attribute [simp] length_encode decode_encode

variable {α β : Type}

/-- A bit vector, most significant bit first. -/
def bitVec (width : ℕ) : Codec (BitVec width) where
  size := width
  encode value := ofNat width value.toNat
  decode bits := BitVec.ofNat width (toNat bits)
  length_encode value := length_ofNat ..
  decode_encode value := by
    rw [toNat_ofNat, Nat.mod_eq_of_lt value.isLt, BitVec.ofNat_toNat, BitVec.setWidth_eq]
  encode_decode bits hsize := by
    subst hsize
    rw [BitVec.toNat_ofNat, Nat.mod_eq_of_lt (toNat_lt bits), ofNat_toNat]

/-- Two values, one behind the other. -/
def prod (first : Codec α) (second : Codec β) : Codec (α × β) where
  size := first.size + second.size
  encode value := first.encode value.1 ++ second.encode value.2
  decode bits := (first.decode (bits.take first.size), second.decode (bits.drop first.size))
  length_encode value := by simp
  decode_encode value := by
    rw [List.take_left' (first.length_encode _), List.drop_left' (first.length_encode _)]
    simp
  encode_decode bits hsize := by
    rw [first.encode_decode _ (by simp [hsize]), second.encode_decode _ (by simp [hsize]),
      List.take_append_drop]

/-- The same layout under another name for the values. -/
def map (codec : Codec α) (rename : α ≃ β) : Codec β where
  size := codec.size
  encode value := codec.encode (rename.symm value)
  decode bits := rename (codec.decode bits)
  length_encode value := codec.length_encode _
  decode_encode value := by simp
  encode_decode bits hsize := by simp [codec.encode_decode bits hsize]

/-- Different values have different bits. -/
theorem encode_injective (codec : Codec α) : Function.Injective codec.encode :=
  Function.LeftInverse.injective codec.decode_encode

/-- A value's bits are known by their front: what follows them cannot be mistaken for a part of them. -/
theorem encode_append_inj (codec : Codec α) {first second : α} {rest tail : Bits}
    (h : codec.encode first ++ rest = codec.encode second ++ tail) : first = second ∧ rest = tail := by
  obtain ⟨hencode, hrest⟩ := List.append_inj h (by simp)
  exact ⟨codec.encode_injective hencode, hrest⟩

end Codec

end Bits
