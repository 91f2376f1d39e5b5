import NetworkingRecipe.P4rtCtl.FieldWidth
import NetworkingRecipe.Python.Formatting

/-!
# Numbers in bytes

The encoding of a number and its inverse both go through a hexadecimal text. The number is padded with
zeros to two digits for each byte of its field. A negative number fails in the codec only, where its sign
is no digit.
-/

namespace NetworkingRecipe.P4rtCtl

open Python

/-- The number that bytes spell, through their hexadecimal text. The text is ASCII, and no limit applies to
it. -/
def decodeNum (encodedNumber : Bytes) : Run ℤ :=
  orRaise (int Unicode.ascii none 16 (hexlify encodedNumber)) .valueError

/-- Bytes are decoded to the number that they spell. -/
theorem decodeNum_eq {bytes : Bytes} (h : bytes ≠ []) : decodeNum bytes = .ok (fromBytes bytes : ℤ) := by
  rw [decodeNum, int_of_hexDigits Unicode.ascii none (digits_hexlify bytes) (hexlify_ne_nil h),
    numeral_hexlify]
  rfl

/-- The order of byte strings that compares them byte by byte. -/
def BytewiseLess : Bytes → Bytes → Prop :=
  List.Lex fun first second => first.toNat < second.toNat

/-- Byte strings of one length are in the order of the numbers that they spell. -/
theorem bytewiseLess_iff {first second : Bytes} (hlength : first.length = second.length) :
    BytewiseLess first second ↔ fromBytes first < fromBytes second :=
  Numeral.lex_iff_value_lt (fun _ _ => UInt8.toNat_inj.mp) hlength (fun byte _ => byte.toNat_lt)
    (fun byte _ => byte.toNat_lt)

/-- A number is not encoded exactly when it is negative or does not fit the width. -/
theorem encodeNum_error_iff {width : ℕ} (hwidth : 1 ≤ width) (number : ℤ) :
    (∃ error, encodeNum number width = .error error) ↔ number < 0 ∨ 2 ^ width ≤ number := by
  cases hencode : encodeNum number width with
  | error error =>
    refine iff_of_true ⟨error, rfl⟩ ?_
    by_contra hfits
    rw [not_or, not_lt, not_le] at hfits
    lift number to ℕ using hfits.1
    obtain ⟨bytes, hbytes, -⟩ := encodeNum_of_lt (by exact_mod_cast hfits.2) hwidth
    cases hencode.symm.trans hbytes
  | ok bytes =>
    obtain ⟨rfl, hlt, -⟩ := (encodeNum_eq_ok_iff hwidth).mp hencode
    refine iff_of_false (fun h => ?_) ?_
    · obtain ⟨error, h⟩ := h
      cases h
    · rw [not_or, not_lt, not_le]
      exact ⟨Int.natCast_nonneg _, by exact_mod_cast hlt⟩

/-- What is encoded has the bytes of the field, and is decoded to the number. -/
theorem decodeNum_of_encodeNum {width : ℕ} (hwidth : 1 ≤ width) {number : ℤ} {bytes : Bytes}
    (h : encodeNum number width = .ok bytes) :
    bytes.length = (width + 7) / 8 ∧ decodeNum bytes = .ok number := by
  obtain ⟨rfl, -, hlength⟩ := (encodeNum_eq_ok_iff hwidth).mp h
  have hne : bytes ≠ [] := by
    rintro rfl
    rw [List.length_nil] at hlength
    omega
  exact ⟨hlength, decodeNum_eq hne⟩

/-- Numbers are encoded in their order: equal encodings are of one number, and the smaller encoding is of the
smaller number. -/
theorem encodeNum_order {width : ℕ} (hwidth : 1 ≤ width) {first second : ℤ} {bytes bytes' : Bytes}
    (hfirst : encodeNum first width = .ok bytes) (hsecond : encodeNum second width = .ok bytes') :
    (bytes = bytes' ↔ first = second) ∧ (BytewiseLess bytes bytes' ↔ first < second) := by
  obtain ⟨rfl, -, hlength⟩ := (encodeNum_eq_ok_iff hwidth).mp hfirst
  obtain ⟨rfl, -, hlength'⟩ := (encodeNum_eq_ok_iff hwidth).mp hsecond
  have hlen : bytes.length = bytes'.length := hlength.trans hlength'.symm
  rw [bytewiseLess_iff hlen, Nat.cast_lt, Nat.cast_inj]
  exact ⟨⟨congrArg fromBytes, fromBytes_injective hlen⟩, Iff.rfl⟩

/-- The encoding of numbers for a width is exact: it raises for the negative numbers and those from the power of
two on, and gives every other number the bytes of the field, which are decoded to the number, differ from those of
other numbers, and are in the order of the numbers. -/
theorem encodeNum_exact {width : ℕ} (hwidth : 1 ≤ width) :
    (∀ number : ℤ, (∃ error, encodeNum number width = .error error) ↔ number < 0 ∨ 2 ^ width ≤ number) ∧
      (∀ (number : ℤ) (bytes : Bytes), encodeNum number width = .ok bytes →
        bytes.length = (width + 7) / 8 ∧ decodeNum bytes = .ok number) ∧
      ∀ (first second : ℤ) (bytes bytes' : Bytes), encodeNum first width = .ok bytes →
        encodeNum second width = .ok bytes' →
        (bytes = bytes' ↔ first = second) ∧ (BytewiseLess bytes bytes' ↔ first < second) :=
  ⟨encodeNum_error_iff hwidth, fun _ _ h => decodeNum_of_encodeNum hwidth h,
    fun _ _ _ _ hfirst hsecond => encodeNum_order hwidth hfirst hsecond⟩

/-- The number 300 in 12 bits. -/
theorem encodeNum_exact_twelve :
    encodeNum 300 12 = .ok [1, 44] ∧ decodeNum [1, 44] = .ok 300 :=
  ⟨by decide, ((encodeNum_exact (by decide : 1 ≤ 12)).2.1 300 [1, 44] (by decide)).2⟩

end NetworkingRecipe.P4rtCtl
