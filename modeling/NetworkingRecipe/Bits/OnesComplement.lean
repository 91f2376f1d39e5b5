import NetworkingRecipe.Bits.Codec
import Mathlib.Algebra.BigOperators.Group.List.Basic

/-!
# The internet checksum

The one's complement sum of sixteen-bit words and the checksum made of it. The sum is the
arithmetic sum up to multiples of `65535`, and is zero for zero words only; so a field that
holds the checksum of the words around it completes the sum to all ones.
-/

namespace Bits

/-- Add two words, the carry at the low end. -/
def carryAdd (first second : ℕ) : ℕ :=
  (first + second) % 65536 + (first + second) / 65536

/-- The one's complement sum of words. -/
def onesSum (words : List ℕ) : ℕ :=
  words.foldl carryAdd 0

/-- The sixteen-bit words of a string of bits. -/
def words : ℕ → Bits → List ℕ
  | 0, _ => []
  | count + 1, bits => toNat (bits.take 16) :: words count (bits.drop 16)

/-- The internet checksum of a string of bits, padded with zeros to a whole number of words. -/
def internetChecksum (data : Bits) : BitVec 16 :=
  let count := (data.length + 15) / 16
  BitVec.ofNat 16 (65535 - onesSum (words count (data ++ List.replicate (16 * count - data.length) false)))

/-- The sum with a carry stays a word. -/
theorem carryAdd_le {first second : ℕ} (hfirst : first ≤ 65535) (hsecond : second ≤ 65535) :
    carryAdd first second ≤ 65535 := by
  unfold carryAdd
  omega

/-- The carry changes the sum by a multiple of all ones. -/
theorem carryAdd_mod (first second : ℕ) : carryAdd first second % 65535 = (first + second) % 65535 := by
  unfold carryAdd
  omega

/-- A sum with a carry is zero for zeros only. -/
theorem carryAdd_eq_zero {first second : ℕ} (h : carryAdd first second = 0) : first = 0 ∧ second = 0 := by
  unfold carryAdd at h
  omega

/-- A sum of words is a word. -/
theorem foldl_carryAdd_le {start : ℕ} (hstart : start ≤ 65535) {words : List ℕ}
    (hwords : ∀ word ∈ words, word ≤ 65535) : words.foldl carryAdd start ≤ 65535 := by
  induction words generalizing start with
  | nil => exact hstart
  | cons word rest ih =>
    rw [List.forall_mem_cons] at hwords
    exact ih (carryAdd_le hstart hwords.1) hwords.2

/-- The one's complement sum is the sum up to multiples of all ones. -/
theorem foldl_carryAdd_mod (start : ℕ) (words : List ℕ) :
    words.foldl carryAdd start % 65535 = (start + words.sum) % 65535 := by
  induction words generalizing start with
  | nil => simp
  | cons word rest ih =>
    rw [List.foldl_cons, ih, List.sum_cons, Nat.add_mod, carryAdd_mod, ← Nat.add_mod, Nat.add_assoc]

/-- The one's complement sum is zero for zero words only. -/
theorem foldl_carryAdd_eq_zero {start : ℕ} {words : List ℕ} (h : words.foldl carryAdd start = 0) :
    start = 0 ∧ words.sum = 0 := by
  induction words generalizing start with
  | nil => exact ⟨h, rfl⟩
  | cons word rest ih =>
    obtain ⟨hcarry, hrest⟩ := ih h
    obtain ⟨hstart, hword⟩ := carryAdd_eq_zero hcarry
    exact ⟨hstart, by rw [List.sum_cons, hword, hrest]⟩

/-- The one's complement sum is at most the sum. -/
theorem foldl_carryAdd_le_sum (start : ℕ) (words : List ℕ) :
    words.foldl carryAdd start ≤ start + words.sum := by
  induction words generalizing start with
  | nil => simp
  | cons word rest ih =>
    have hcarry : carryAdd start word ≤ start + word := by
      unfold carryAdd
      omega
    have hrest := ih (carryAdd start word)
    rw [List.foldl_cons, List.sum_cons]
    omega

/-- A field that holds the checksum of the words around it completes the sum to all ones. -/
theorem onesSum_checksum {before after : List ℕ} (hbefore : ∀ word ∈ before, word ≤ 65535)
    (hafter : ∀ word ∈ after, word ≤ 65535) :
    onesSum (before ++ (65535 - onesSum (before ++ 0 :: after)) :: after) = 65535 := by
  set sum := onesSum (before ++ 0 :: after) with hsum
  have hfield : ∀ field ≤ 65535, onesSum (before ++ field :: after) ≤ 65535 ∧
      onesSum (before ++ field :: after) % 65535 = (before.sum + after.sum + field) % 65535 := by
    intro field hle
    refine ⟨foldl_carryAdd_le (Nat.zero_le _) ?_, ?_⟩
    · simp only [List.forall_mem_append, List.forall_mem_cons]
      exact ⟨hbefore, hle, hafter⟩
    · rw [onesSum, foldl_carryAdd_mod]
      simp only [List.sum_append, List.sum_cons]
      congr 1
      omega
  have hsmall : sum ≤ before.sum + after.sum := by
    have hle := foldl_carryAdd_le_sum 0 (before ++ 0 :: after)
    simp only [List.sum_append, List.sum_cons, Nat.zero_add] at hle
    exact hle
  have hzero := hfield 0 (Nat.zero_le _)
  rw [← hsum] at hzero
  have hcheck := hfield (65535 - sum) (Nat.sub_le ..)
  -- the sum is a multiple of all ones, so it is all ones unless every word is zero
  by_contra hne
  have hnone : onesSum (before ++ (65535 - sum) :: after) = 0 := by omega
  have hall := (foldl_carryAdd_eq_zero hnone).2
  simp only [List.sum_append, List.sum_cons] at hall
  omega

/-- As many words as asked for. -/
@[simp] theorem length_words (count : ℕ) (bits : Bits) : (words count bits).length = count := by
  induction count generalizing bits with
  | zero => rfl
  | succ count ih => simp [words, ih]

/-- Sixteen bits are a word. -/
theorem words_le {count : ℕ} {bits : Bits} : ∀ word ∈ words count bits, word ≤ 65535 := by
  induction count generalizing bits with
  | zero => exact List.forall_mem_nil _
  | succ count ih =>
    rw [words, List.forall_mem_cons]
    refine ⟨?_, ih⟩
    have hlt := toNat_lt (bits.take 16)
    have hle : 2 ^ (bits.take 16).length ≤ 2 ^ 16 :=
      Nat.pow_le_pow_right Nat.two_pos (List.length_take_le 16 bits)
    omega

/-- The words of a string in two parts, the first of whole words. -/
theorem words_append {first : Bits} {count : ℕ} (hlength : first.length = 16 * count) (more : ℕ)
    (second : Bits) : words (count + more) (first ++ second) = words count first ++ words more second := by
  induction count generalizing first with
  | zero =>
    obtain rfl := List.length_eq_zero_iff.mp hlength
    simp [words]
  | succ count ih =>
    have hdrop : (first.drop 16).length = 16 * count := by
      rw [List.length_drop, hlength]
      omega
    have hlong : 16 ≤ first.length := by omega
    rw [Nat.add_right_comm, words, words, List.take_append_of_le_length hlong,
      List.drop_append_of_le_length hlong, List.cons_append, ← ih hdrop]

/-- The words of a string with a sixteen-bit field between whole words. -/
theorem words_field {before after : Bits} {count more field : ℕ} (hbefore : before.length = 16 * count)
    (hfield : field < 2 ^ 16) :
    words (count + (1 + more)) (before ++ (ofNat 16 field ++ after)) =
      words count before ++ field :: words more after := by
  rw [words_append hbefore, words_append (length_ofNat 16 field)]
  have hword : words 1 (ofNat 16 field) = [field] := by
    rw [words, words, List.take_of_length_le (length_ofNat 16 field).le, toNat_ofNat, Nat.mod_eq_of_lt hfield]
  rw [hword, List.singleton_append]

/-- The checksum of a string of whole words. -/
theorem internetChecksum_eq {data : Bits} {count : ℕ} (hlength : data.length = 16 * count) :
    internetChecksum data = BitVec.ofNat 16 (65535 - onesSum (words count data)) := by
  have hcount : (data.length + 15) / 16 = count := by omega
  rw [internetChecksum, hcount, hlength, Nat.sub_self, List.replicate_zero, List.append_nil]

/-- A field that was filled with the checksum of the data around it makes the data's checksum zero. -/
theorem internetChecksum_verifies {before after : Bits} {count more : ℕ}
    (hbefore : before.length = 16 * count) (hafter : after.length = 16 * more) :
    internetChecksum (before ++ (ofNat 16
      (internetChecksum (before ++ (ofNat 16 0 ++ after))).toNat ++ after)) = 0 := by
  have hlength : ∀ field, (before ++ (ofNat 16 field ++ after)).length = 16 * (count + (1 + more)) := by
    intro field
    simp only [List.length_append, length_ofNat, hbefore, hafter]
    omega
  have hchecksum : (internetChecksum (before ++ (ofNat 16 0 ++ after))).toNat =
      65535 - onesSum (words count before ++ 0 :: words more after) := by
    rw [internetChecksum_eq (hlength 0), words_field hbefore (Nat.two_pow_pos 16),
      BitVec.toNat_ofNat, Nat.mod_eq_of_lt]
    omega
  rw [internetChecksum_eq (hlength _), words_field hbefore (BitVec.isLt _), hchecksum,
    onesSum_checksum words_le words_le, Nat.sub_self]
  rfl

end Bits
