import NetworkingRecipe.Numeral.Positional
import NetworkingRecipe.Python.Text
import Mathlib.Tactic.Ring

/-!
# Python numerals

What `int`, `'%x'` and the hexadecimal codec do on texts that consist of digits only: each
of them reads or writes the positional value of the text.
-/

namespace Python

/-- The value of a character as a digit, zero for a character that is no digit of the base. -/
def digitNumber (base : ℕ) (c : Char) : ℕ :=
  (digitOf base c).getD 0

/-- The number that a text of digits spells. -/
def numeral (base : ℕ) (text : Text) : ℕ :=
  Numeral.value base (digitNumber base) text

/-- The first digit counts for the places after it. -/
theorem numeral_cons (base : ℕ) (c : Char) (text : Text) :
    numeral base (c :: text) = digitNumber base c * base ^ text.length + numeral base text :=
  Numeral.value_cons ..

/-- A text of digits of the base. -/
def Digits (base : ℕ) (text : Text) : Prop :=
  ∀ c ∈ text, (digitOf base c).isSome

instance (base : ℕ) (text : Text) : Decidable (Digits base text) :=
  List.decidableBAll (fun c => (digitOf base c).isSome) text

/-- An unsigned decimal numeral. -/
structure Decimal (text : Text) : Prop where
  nonempty : text ≠ []
  digits : Digits 10 text

instance (text : Text) : Decidable (Decimal text) :=
  decidable_of_iff (text ≠ [] ∧ Digits 10 text) ⟨fun h => ⟨h.1, h.2⟩, fun h => ⟨h.1, h.2⟩⟩

/-! ## Digits -/

/-- A digit is below its base. -/
theorem digitOf_lt {base : ℕ} {c : Char} {number : ℕ} (h : digitOf base c = some number) :
    number < base := by
  rw [digitOf, Option.filter_eq_some_iff] at h
  exact of_decide_eq_true h.2

/-- The character for a digit has the digit's value. -/
theorem digitOf_digitChar {base digit : ℕ} (hdigit : digit < base) (hbase : base ≤ 16) :
    digitOf base (Nat.digitChar digit) = some digit := by
  have hvalue : ∀ d < 16, digitValue (Nat.digitChar d) = some d := by decide
  rw [digitOf, hvalue digit (hdigit.trans_le hbase), Option.filter_some, if_pos (decide_eq_true hdigit)]

/-- A character that is no digit of the base does not occur in a text of digits. -/
theorem Digits.not_mem {base : ℕ} {text : Text} (hdigits : Digits base text) {c : Char}
    (hc : digitOf base c = none) : c ∉ text := by
  intro hmem
  have hdigit := hdigits c hmem
  rw [hc] at hdigit
  cases hdigit

/-- The digits of a part are digits. -/
theorem Digits.append {base : ℕ} {first second : Text} (hfirst : Digits base first)
    (hsecond : Digits base second) : Digits base (first ++ second) := by
  intro c hc
  exact (List.mem_append.mp hc).elim (hfirst c) (hsecond c)

/-- What Lean writes in a base are digits of the base. -/
theorem digits_toDigits {base : ℕ} (hone : 1 < base) (hbase : base ≤ 16) (number : ℕ) :
    Digits base (Nat.toDigits base number) := by
  induction number using Nat.strongRecOn with
  | ind number ih =>
    have hlast (digit : ℕ) (hdigit : digit < base) : Digits base [Nat.digitChar digit] := by
      intro c hc
      rw [List.mem_singleton.mp hc, digitOf_digitChar hdigit hbase]
      rfl
    rw [Nat.toDigits_eq_if hone]
    split
    · rename_i hlt
      exact hlast number hlt
    · rename_i hge
      exact (ih (number / base) (Nat.div_lt_self (by omega) hone)).append
        (hlast (number % base) (Nat.mod_lt number (by omega)))

/-- What Lean writes in a base spells the number. -/
theorem numeral_toDigits {base : ℕ} (hone : 1 < base) (hbase : base ≤ 16) (number : ℕ) :
    numeral base (Nat.toDigits base number) = number := by
  induction number using Nat.strongRecOn with
  | ind number ih =>
    have hlast (digit : ℕ) (hdigit : digit < base) : numeral base [Nat.digitChar digit] = digit := by
      rw [numeral, Numeral.value_cons, digitNumber, digitOf_digitChar hdigit hbase]
      simp
    rw [Nat.toDigits_eq_if hone]
    split
    · rename_i hlt
      exact hlast number hlt
    · rename_i hge
      rw [numeral, Numeral.value_append, ← numeral, ← numeral,
        ih (number / base) (Nat.div_lt_self (by omega) hone), hlast _ (Nat.mod_lt number (by omega)),
        List.length_singleton, pow_one, Nat.div_add_mod']

/-! ## Reading a numeral -/

/-- Digits are read as the number they spell. -/
theorem readDigits_of_digits {base : ℕ} {text : Text} (hdigits : Digits base text) {afterDigit : Bool}
    (hsome : afterDigit = true ∨ text ≠ []) (number : ℕ) :
    readDigits base afterDigit number text =
      some (text.foldl (fun n c => n * base + digitNumber base c) number) := by
  induction text generalizing afterDigit number with
  | nil =>
    obtain rfl := hsome.resolve_right (fun h => h rfl)
    rfl
  | cons c rest ih =>
    obtain ⟨digit, hdigit⟩ := Option.isSome_iff_exists.mp (hdigits c List.mem_cons_self)
    have hnumber : digitNumber base c = digit := by rw [digitNumber, hdigit]; rfl
    rw [readDigits, hdigit, List.foldl_cons, hnumber]
    exact ih (fun d hd => hdigits d (List.mem_cons_of_mem c hd)) (Or.inl rfl) _

/-- The letter of a prefix is no digit of the base that it announces. -/
theorem ne_of_prefixBase {base announced : ℕ} {text : Text} (hdigits : Digits base text)
    (h : prefixBase text = some announced) : base ≠ announced := by
  obtain - | ⟨zero, - | ⟨c, rest⟩⟩ := text
  · cases h
  · rw [prefixBase] at h
    · cases h
    · nofun
  have hc : (digitOf base c).isSome := hdigits c (List.mem_cons_of_mem _ List.mem_cons_self)
  rintro rfl
  rw [prefixBase.eq_def] at h
  split at h
  · rename_i d tail heq
    obtain ⟨-, rfl, -⟩ : zero = '0' ∧ c = d ∧ rest = tail := by simpa using heq
    split at h
    · rename_i hx
      obtain rfl : 16 = base := Option.some.inj h
      obtain rfl | rfl : c = 'x' ∨ c = 'X' := by simpa using hx
      · exact absurd hc (by decide)
      · exact absurd hc (by decide)
    · split at h
      · rename_i ho
        obtain rfl : 8 = base := Option.some.inj h
        obtain rfl | rfl : c = 'o' ∨ c = 'O' := by simpa using ho
        · exact absurd hc (by decide)
        · exact absurd hc (by decide)
      · split at h
        · rename_i hb
          obtain rfl : 2 = base := Option.some.inj h
          obtain rfl | rfl : c = 'b' ∨ c = 'B' := by simpa using hb
          · exact absurd hc (by decide)
          · exact absurd hc (by decide)
        · cases h
  · cases h

/-- A numeral that consists of digits is short enough if it has no more characters than the limit. -/
theorem withinLimit_iff_of_digits {maxStrDigits : Option ℕ} {base : ℕ} {text : Text} (hdigits : Digits base text) :
    withinLimit maxStrDigits base text = true ↔
      isBinaryBase base = true ∨ ∀ limit ∈ maxStrDigits, text.length ≤ limit := by
  have hcount : text.countP (fun c => (digitOf base c).isSome) = text.length :=
    List.countP_eq_length.mpr hdigits
  rw [withinLimit, Bool.or_eq_true, hcount]
  cases maxStrDigits <;> simp

/-- An unsigned numeral that consists of digits spells their number, if it is short enough. -/
theorem magnitude_of_digits {maxStrDigits : Option ℕ} {base : ℕ} (hbase : base ≠ 0) {text : Text}
    (hdigits : Digits base text) (hne : text ≠ []) :
    magnitude maxStrDigits base text =
      if withinLimit maxStrDigits base text then some (numeral base text) else none := by
  have hread : readDigits base false 0 text = some (numeral base text) :=
    readDigits_of_digits hdigits (Or.inr hne) 0
  rw [magnitude]
  split
  · rename_i announced hannounced
    rw [if_neg (not_or.mpr ⟨hbase, ne_of_prefixBase hdigits hannounced⟩), readNumeral, hread]
  · rw [if_neg hbase, readNumeral, hread]

/-! ## `int` -/

/-- A digit of a base is an ASCII letter or digit. -/
theorem isAlphanum_of_digit {base : ℕ} {c : Char} (h : (digitOf base c).isSome) : c.isAlphanum = true := by
  obtain ⟨number, hnumber⟩ := Option.isSome_iff_exists.mp h
  have hvalue : digitValue c = some number := (Option.filter_eq_some_iff.mp hnumber).1
  rw [digitValue] at hvalue
  change ((c.isUpper || c.isLower) || c.isDigit) = true
  split at hvalue
  · rename_i hdigit
    rw [hdigit, Bool.or_true]
  · split at hvalue
    · rename_i hlower
      rw [hlower, Bool.or_true, Bool.true_or]
    · split at hvalue
      · rename_i hupper
        rw [hupper, Bool.true_or, Bool.true_or]
      · cases hvalue

/-- The code points of the ASCII letters and digits. -/
theorem toNat_of_isAlphanum {c : Char} (h : c.isAlphanum = true) :
    48 ≤ c.toNat ∧ c.toNat ≤ 57 ∨ 65 ≤ c.toNat ∧ c.toNat ≤ 90 ∨ 97 ≤ c.toNat ∧ c.toNat ≤ 122 := by
  change ((decide ('A'.val ≤ c.val ∧ c.val ≤ 'Z'.val) ||
    decide ('a'.val ≤ c.val) && decide (c.val ≤ 'z'.val)) ||
    decide ('0'.val ≤ c.val) && decide (c.val ≤ '9'.val)) = true at h
  simp only [Bool.or_eq_true, Bool.and_eq_true, decide_eq_true_eq, UInt32.le_iff_toNat_le] at h
  have hc : c.val.toNat = c.toNat := rfl
  have h48 : '0'.val.toNat = 48 := rfl
  have h57 : '9'.val.toNat = 57 := rfl
  have h65 : 'A'.val.toNat = 65 := rfl
  have h90 : 'Z'.val.toNat = 90 := rfl
  have h97 : 'a'.val.toNat = 97 := rfl
  have h122 : 'z'.val.toNat = 122 := rfl
  omega

/-- A digit of a base is no character outside the ASCII letters and digits. -/
theorem ne_of_digit {base : ℕ} {c other : Char} (h : (digitOf base c).isSome)
    (hother : other.isAlphanum = false) : c ≠ other := by
  rintro rfl
  rw [isAlphanum_of_digit h] at hother
  cases hother

/-- A digit of a base is ASCII. -/
theorem isAscii_of_digit {base : ℕ} {c : Char} (h : (digitOf base c).isSome) : isAscii c = true := by
  have hnat := toNat_of_isAlphanum (isAlphanum_of_digit h)
  rw [isAscii, decide_eq_true_eq]
  omega

/-- A digit of a base is no blank. -/
theorem not_isCSpace_of_digit {base : ℕ} {c : Char} (h : (digitOf base c).isSome) : isCSpace c = false := by
  have hnat := toNat_of_isAlphanum (isAlphanum_of_digit h)
  rw [isCSpace, beq_false_of_ne (ne_of_digit h (by decide)), Bool.false_or, decide_eq_false_iff_not]
  omega

/-- A text whose characters do not have the property is left as it is. -/
theorem stripWhile_eq_self {p : Char → Bool} {text : Text} (h : ∀ c ∈ text, p c = false) :
    stripWhile p text = text := by
  have hdrop : text.dropWhile p = text := by
    cases text with
    | nil => rfl
    | cons c rest => rw [List.dropWhile_cons_of_neg (by simp [h c List.mem_cons_self])]
  rw [stripWhile, hdrop, List.rdropWhile_eq_self_iff]
  intro hne
  rw [h _ (List.getLast_mem hne)]
  exact Bool.false_ne_true

variable (unicode : Unicode) (maxStrDigits : Option ℕ)

/-- `int` reads ASCII characters as they are. -/
theorem toAscii_eq_self {c : Char} (h : isAscii c = true) : toAscii unicode c = c := by
  rw [toAscii, if_pos h]

/-- `int` leaves ASCII characters that are no blanks as they are. -/
theorem strip_toAscii {text : Text} (h : ∀ c ∈ text, isAscii c = true ∧ isCSpace c = false) :
    stripWhile isCSpace (text.map (toAscii unicode)) = text := by
  have hmap : text.map (toAscii unicode) = text :=
    (List.map_congr_left fun c hc => toAscii_eq_self unicode (h c hc).1).trans (List.map_id text)
  rw [hmap]
  exact stripWhile_eq_self fun c hc => (h c hc).2

/-- A text of digits is the numeral that `int` reads, if it is short enough. -/
theorem int_of_digits {base : ℕ} (hbase : base ≠ 0) {text : Text} (hdigits : Digits base text)
    (hne : text ≠ []) :
    int unicode maxStrDigits base text =
      if withinLimit maxStrDigits base text then some (numeral base text : ℤ) else none := by
  have hplain : ∀ c ∈ text, isAscii c = true ∧ isCSpace c = false := fun c hc =>
    ⟨isAscii_of_digit (hdigits c hc), not_isCSpace_of_digit (hdigits c hc)⟩
  rw [int, strip_toAscii unicode hplain]
  split
  · exact absurd rfl (ne_of_digit (hdigits '-' List.mem_cons_self) (by decide))
  · exact absurd rfl (ne_of_digit (hdigits '+' List.mem_cons_self) (by decide))
  · rw [magnitude_of_digits hbase hdigits hne]
    split <;> rfl

/-- A text of hexadecimal digits is read whatever its length. -/
theorem int_of_hexDigits {text : Text} (hdigits : Digits 16 text) (hne : text ≠ []) :
    int unicode maxStrDigits 16 text = some (numeral 16 text : ℤ) := by
  rw [int_of_digits unicode maxStrDigits (by decide) hdigits hne,
    if_pos ((withinLimit_iff_of_digits hdigits).mpr (Or.inl rfl))]

/-- A text of some characters spells a number of as many digits at most. -/
theorem readDigits_lt {base : ℕ} (hbase : 0 < base) {text : Text} {afterDigit : Bool} {number result : ℕ}
    (h : readDigits base afterDigit number text = some result) : result < (number + 1) * base ^ text.length := by
  induction text generalizing afterDigit number with
  | nil =>
    rw [readDigits] at h
    split at h
    · obtain rfl := Option.some.inj h
      rw [List.length_nil, pow_zero, Nat.mul_one]
      exact Nat.lt_succ_self _
    · cases h
  | cons c rest ih =>
    rw [readDigits] at h
    rw [List.length_cons, pow_succ', ← Nat.mul_assoc]
    split at h
    · rename_i value hvalue
      refine (ih h).trans_le (Nat.mul_le_mul_right _ ?_)
      calc number * base + value + 1 ≤ number * base + base := by
            have hlt := digitOf_lt hvalue
            omega
        _ = (number + 1) * base := (Nat.succ_mul number base).symm
    · split at h
      · exact (ih h).trans_le (Nat.mul_le_mul_right _ (Nat.le_mul_of_pos_right _ hbase))
      · cases h

/-- What is short enough is read as its digits. -/
theorem readDigits_of_readNumeral {maxStrDigits : Option ℕ} {base : ℕ} {text : Text} {number : ℕ}
    (h : readNumeral maxStrDigits base text = some number) : readDigits base false 0 text = some number := by
  rw [readNumeral] at h
  split at h
  · exact h
  · cases h

/-- A numeral of some characters spells a number of as many digits at most. -/
theorem magnitude_lt {maxStrDigits : Option ℕ} {base : ℕ} (hbase : 0 < base) {text : Text} {number : ℕ}
    (h : magnitude maxStrDigits base text = some number) : number < base ^ text.length := by
  have hread {digits : Text} (hlength : digits.length ≤ text.length)
      (hdigits : readNumeral maxStrDigits base digits = some number) : number < base ^ text.length := by
    have hlt := readDigits_lt hbase (readDigits_of_readNumeral hdigits)
    rw [Nat.zero_add, Nat.one_mul] at hlt
    exact hlt.trans_le (Nat.pow_le_pow_right hbase hlength)
  rw [magnitude] at h
  split at h
  · rename_i announced hannounced
    split at h
    · rename_i hbases
      obtain rfl := hbases.resolve_left (Nat.ne_of_gt hbase)
      refine hread ?_ h
      split
      · rw [List.length_tail, List.length_drop]
        omega
      · rw [List.length_drop]
        omega
    · exact hread le_rfl h
  · rw [if_neg (Nat.ne_of_gt hbase)] at h
    exact hread le_rfl h

/-- A stripped text is no longer than the text. -/
theorem length_stripWhile_le (p : Char → Bool) (text : Text) : (stripWhile p text).length ≤ text.length :=
  ((List.rdropWhile_prefix p _).sublist.length_le).trans (List.length_dropWhile_le p text)

/-- A text of some characters is read as a number of as many digits at most. -/
theorem natAbs_lt_of_int {base : ℕ} (hbase : 0 < base) {text : Text} {number : ℤ}
    (h : int unicode maxStrDigits base text = some number) : number.natAbs < base ^ text.length := by
  have hstrip := length_stripWhile_le isCSpace (text.map (toAscii unicode))
  rw [List.length_map] at hstrip
  have hmagnitude {digits : Text} {found : ℕ} (hlength : digits.length ≤ text.length)
      (hdigits : magnitude maxStrDigits base digits = some found) : found < base ^ text.length :=
    (magnitude_lt hbase hdigits).trans_le (Nat.pow_le_pow_right hbase hlength)
  rw [int] at h
  split at h
  · rename_i rest hsign
    rw [hsign, List.length_cons] at hstrip
    obtain ⟨signed, hsigned, rfl⟩ := Option.map_eq_some_iff.mp h
    obtain ⟨found, hfound, hcast⟩ := Option.bind_eq_some_iff.mp hsigned
    obtain rfl := Option.some.inj hcast
    rw [Int.natAbs_neg, Int.natAbs_natCast]
    exact hmagnitude (by omega) hfound
  · rename_i rest hsign
    rw [hsign, List.length_cons] at hstrip
    obtain ⟨found, hfound, rfl⟩ := Option.map_eq_some_iff.mp h
    exact hmagnitude (by omega) hfound
  · obtain ⟨found, hfound, rfl⟩ := Option.map_eq_some_iff.mp h
    exact hmagnitude hstrip hfound

/-- A text of decimal digits is one for `str.isdigit`. -/
theorem isdigit_of_digits {text : Text} (hdigits : Digits 10 text) (hne : text ≠ []) :
    isdigit unicode text = true := by
  have hall : text.all unicode.isDigit = true := by
    rw [List.all_eq_true]
    intro c hc
    obtain ⟨digit, hdigit⟩ := Option.isSome_iff_exists.mp (hdigits c hc)
    obtain ⟨hvalue, hlt⟩ := Option.filter_eq_some_iff.mp hdigit
    rw [unicode.isDigit_ascii c (isAscii_of_digit (hdigits c hc))]
    rw [digitValue] at hvalue
    split at hvalue
    · assumption
    · split at hvalue
      · cases hvalue
        exact absurd hlt (by simp)
      · split at hvalue
        · cases hvalue
          exact absurd hlt (by simp)
        · cases hvalue
  cases text with
  | nil => exact absurd rfl hne
  | cons c rest => rw [isdigit, hall]; rfl

/-! ## The hexadecimal codec -/

/-- The codec decodes pairs of digits only. -/
theorem digits_of_unhex {text : Text} {bytes : Bytes} (h : unhex text = some bytes) :
    Digits 16 text ∧ text.length = 2 * bytes.length := by
  induction text using unhex.induct generalizing bytes with
  | case1 =>
    cases h
    exact ⟨nofun, rfl⟩
  | case2 c => cases h
  | case3 high low rest ih =>
    simp only [unhex, Option.bind_eq_bind, Option.bind_eq_some_iff] at h
    obtain ⟨highValue, hhigh, lowValue, hlow, tail, htail, hbytes⟩ := h
    cases hbytes
    obtain ⟨hdigits, hlength⟩ := ih htail
    constructor
    · intro c hc
      obtain rfl | rfl | hc : c = high ∨ c = low ∨ c ∈ rest := by simpa using hc
      · exact Option.isSome_of_eq_some hhigh
      · exact Option.isSome_of_eq_some hlow
      · exact hdigits c hc
    · rw [List.length_cons, List.length_cons, List.length_cons, hlength]
      omega

/-- Pairs of digits are decoded to the bytes of the number that they spell. -/
theorem unhex_of_digits {text : Text} (hdigits : Digits 16 text) {count : ℕ}
    (hlength : text.length = 2 * count) :
    ∃ bytes, unhex text = some bytes ∧ bytes.length = count ∧ fromBytes bytes = numeral 16 text := by
  induction text using unhex.induct generalizing count with
  | case1 =>
    have hcount : count = 0 := by simpa using hlength
    exact ⟨[], rfl, hcount.symm, rfl⟩
  | case2 c =>
    rw [List.length_singleton] at hlength
    omega
  | case3 high low rest ih =>
    rw [List.length_cons, List.length_cons] at hlength
    obtain ⟨highValue, hhigh⟩ := Option.isSome_iff_exists.mp (hdigits high List.mem_cons_self)
    obtain ⟨lowValue, hlow⟩ :=
      Option.isSome_iff_exists.mp (hdigits low (List.mem_cons_of_mem _ List.mem_cons_self))
    obtain ⟨bytes, hbytes, hcount, hvalue⟩ := ih
      (fun c hc => hdigits c (List.mem_cons_of_mem _ (List.mem_cons_of_mem _ hc)))
      (show rest.length = 2 * (count - 1) by omega)
    refine ⟨UInt8.ofNat (highValue * 16 + lowValue) :: bytes, ?_, ?_, ?_⟩
    · rw [unhex, hhigh, hlow, hbytes]
      rfl
    · rw [List.length_cons, hcount]
      omega
    · have hhighNumber : digitNumber 16 high = highValue := by rw [digitNumber, hhigh]; rfl
      have hlowNumber : digitNumber 16 low = lowValue := by rw [digitNumber, hlow]; rfl
      have hbyte : (UInt8.ofNat (highValue * 16 + lowValue)).toNat = highValue * 16 + lowValue := by
        have hhighLt := digitOf_lt hhigh
        have hlowLt := digitOf_lt hlow
        exact UInt8.toNat_ofNat_of_lt' (by rw [UInt8.size]; omega)
      have hlen : rest.length = 2 * bytes.length := by omega
      calc fromBytes (UInt8.ofNat (highValue * 16 + lowValue) :: bytes)
          = (highValue * 16 + lowValue) * 256 ^ bytes.length + fromBytes bytes := by
            rw [fromBytes, ← Numeral.value, Numeral.value_cons, hbyte]
            rfl
        _ = highValue * 16 ^ (rest.length + 1) + (lowValue * 16 ^ rest.length + numeral 16 rest) := by
            rw [hvalue, hlen, pow_succ, pow_mul]
            ring
        _ = numeral 16 (high :: low :: rest) := by
            rw [numeral_cons, numeral_cons, hhighNumber, hlowNumber, List.length_cons]

/-- Byte strings of one length that spell the same number are the same. -/
theorem fromBytes_injective {first second : Bytes} (hlength : first.length = second.length)
    (h : fromBytes first = fromBytes second) : first = second :=
  Numeral.value_injective (fun _ _ => UInt8.toNat_inj.mp) hlength (fun byte _ => byte.toNat_lt)
    (fun byte _ => byte.toNat_lt) h

/-- The codec decodes exactly the pairs of digits, to the bytes of the number they spell. -/
theorem unhex_eq_some_iff {text : Text} {bytes : Bytes} :
    unhex text = some bytes ↔
      Digits 16 text ∧ text.length = 2 * bytes.length ∧ fromBytes bytes = numeral 16 text := by
  constructor
  · intro h
    obtain ⟨hdigits, hlength⟩ := digits_of_unhex h
    obtain ⟨decoded, hdecoded, -, hvalue⟩ := unhex_of_digits hdigits hlength
    obtain rfl : bytes = decoded := Option.some.inj (h.symm.trans hdecoded)
    exact ⟨hdigits, hlength, hvalue⟩
  · rintro ⟨hdigits, hlength, hvalue⟩
    obtain ⟨decoded, hdecoded, hcount, hspells⟩ := unhex_of_digits hdigits hlength
    rw [hdecoded, fromBytes_injective hcount (hspells.trans hvalue.symm)]

end Python
