import NetworkingRecipe.P4rtCtl.Encoding
import NetworkingRecipe.Python.Numerals

/-!
# Values and the width of their field

What `encode` returns, compared with the number that the value denotes and with the width of
the field. Numbers and numerals are checked against the width in bits. Addresses, and texts
that nothing recognizes, are only counted in bytes.
-/

namespace NetworkingRecipe.P4rtCtl

open Python

/-! ## Numbers -/

/-- The bytes of a field, rounded up from its width in bits. -/
theorem bitwidthToBytes_natCast (width : ℕ) : bitwidthToBytes width = ((width + 7) / 8 : ℕ) := by
  rw [bitwidthToBytes]
  omega

/-- A number that does not reach the power is padded to the bytes of the field and decoded. -/
theorem encodeNum_of_not_reachesPower {number bitwidth : ℤ} (h : reachesPower number bitwidth = false) :
    encodeNum number bitwidth =
      orRaise (unhex (List.replicate (bitwidthToBytes bitwidth * 2 - (hexText number).length).toNat '0' ++
        hexText number)) .valueError := by
  rw [encodeNum, h]
  rfl

/-- A natural number reaches a natural power exactly when it is not below it. -/
theorem reachesPower_natCast (number width : ℕ) :
    reachesPower number width = decide (2 ^ width ≤ number) := by
  change decide ((2 : ℤ) ^ width ≤ (number : ℤ)) = _
  rw [decide_eq_decide]
  exact_mod_cast Iff.rfl

/-- The sign of a negative number is no digit. -/
theorem not_digits_hexText {number : ℤ} (h : number < 0) (zeros : ℕ) :
    ¬ Digits 16 (List.replicate zeros '0' ++ hexText number) := by
  intro hdigits
  rw [hexText, if_pos h] at hdigits
  have hsign := hdigits '-' (List.mem_append_right _ List.mem_cons_self)
  exact absurd hsign (by decide)

/-- A negative number is not encoded. -/
theorem encodeNum_of_neg {number bitwidth : ℤ} (h : number < 0) (bytes : Bytes) :
    encodeNum number bitwidth ≠ .ok bytes := by
  intro hencode
  cases hreach : reachesPower number bitwidth with
  | true =>
    rw [encodeNum, hreach] at hencode
    cases hencode
  | false =>
    rw [encodeNum_of_not_reachesPower hreach, orRaise_eq_ok_iff] at hencode
    exact not_digits_hexText h _ (digits_of_unhex hencode).1

/-- The hexadecimal text of a number below the power of two fills the bytes of the field at most. -/
theorem length_toDigits_le {number width : ℕ} (h : number < 2 ^ width) (hwidth : 1 ≤ width) :
    (Nat.toDigits 16 number).length ≤ 2 * ((width + 7) / 8) := by
  refine (Nat.length_toDigits_le_iff (by decide) (by omega)).mpr (h.trans_le ?_)
  calc 2 ^ width ≤ 2 ^ (4 * (2 * ((width + 7) / 8))) := Nat.pow_le_pow_right (by decide) (by omega)
    _ = 16 ^ (2 * ((width + 7) / 8)) := by rw [pow_mul]; rfl

/-- A number below the power of two is encoded in the bytes of the field. -/
theorem encodeNum_of_lt {number width : ℕ} (h : number < 2 ^ width) (hwidth : 1 ≤ width) :
    ∃ bytes, encodeNum number width = .ok bytes ∧ bytes.length = (width + 7) / 8 ∧
      fromBytes bytes = number := by
  have hlength := length_toDigits_le h hwidth
  have hreach : reachesPower number width = false := by
    rw [reachesPower_natCast, decide_eq_false_iff_not]
    omega
  have htext : hexText number = Nat.toDigits 16 number := by
    rw [hexText, if_neg (by omega), Int.natAbs_natCast]
  have hzeros : (bitwidthToBytes width * 2 - (Nat.toDigits 16 number).length : ℤ).toNat =
      2 * ((width + 7) / 8) - (Nat.toDigits 16 number).length := by
    rw [bitwidthToBytes_natCast]
    omega
  rw [encodeNum_of_not_reachesPower hreach, htext, hzeros]
  have hdigits : Digits 16 (List.replicate (2 * ((width + 7) / 8) - (Nat.toDigits 16 number).length) '0' ++
      Nat.toDigits 16 number) :=
    Digits.append (fun c hc => by rw [List.eq_of_mem_replicate hc]; rfl)
      (digits_toDigits (by decide) (by decide) number)
  obtain ⟨bytes, hbytes, hcount, hvalue⟩ := unhex_of_digits hdigits
    (show _ = 2 * ((width + 7) / 8) by rw [List.length_append, List.length_replicate]; omega)
  refine ⟨bytes, by rw [hbytes]; rfl, hcount, ?_⟩
  rw [hvalue, numeral, Numeral.value_replicate_append 16 (digitNumber 16) (by decide), ← numeral,
    numeral_toDigits (by decide) (by decide)]

/-- A number is encoded exactly when it is a natural number below the power of two, and then in
the bytes of the field that spell it. -/
theorem encodeNum_eq_ok_iff {number : ℤ} {width : ℕ} (hwidth : 1 ≤ width) {bytes : Bytes} :
    encodeNum number width = .ok bytes ↔
      number = fromBytes bytes ∧ fromBytes bytes < 2 ^ width ∧ bytes.length = (width + 7) / 8 := by
  constructor
  · intro h
    obtain hneg | hnonneg := lt_or_ge number 0
    · exact absurd h (encodeNum_of_neg hneg bytes)
    lift number to ℕ using hnonneg
    by_cases hlt : number < 2 ^ width
    · obtain ⟨encoded, hencoded, hlength, hvalue⟩ := encodeNum_of_lt hlt hwidth
      obtain rfl : bytes = encoded := Except.ok.inj (h.symm.trans hencoded)
      exact ⟨by rw [hvalue], hvalue ▸ hlt, hlength⟩
    · have hreach : reachesPower number width = true := by
        rw [reachesPower_natCast, decide_eq_true_iff]
        omega
      rw [encodeNum, hreach] at h
      cases h
  · rintro ⟨rfl, hlt, hlength⟩
    obtain ⟨encoded, hencoded, hcount, hvalue⟩ := encodeNum_of_lt hlt hwidth
    rw [hencoded, fromBytes_injective (hcount.trans hlength.symm) hvalue]

variable (env : Environment)

/-! ## What a text is -/

/-- The bytes of the address that a text is, if a recognizer takes it for one. -/
def addressOf (x : Text) : Option Bytes :=
  if matchesMac env x then unhex (x.filter fun c => c != ':')
  else if matchesIPv4 env x then env.inetAton x
  else if env.validIpv6 x = some true then env.inetPton6 x
  else none

/-- A text that is no address and no numeral. -/
structure Unrecognized (x : Text) : Prop where
  mac : matchesMac env x = false
  ipv4 : matchesIPv4 env x = false
  ipv6 : env.validIpv6 x = some false
  decimal : isdigit env.unicode x = false
  hex : isHexStr x = false

/-- The number that a string or an integer denotes. -/
inductive Denotes : Scalar → ℕ → Prop
  | int (number : ℕ) : Denotes (.int number) number
  | mac {x : Text} {bytes : Bytes} : matchesMac env x = true →
      unhex (x.filter fun c => c != ':') = some bytes → Denotes (.str x) (fromBytes bytes)
  | ipv4 {x : Text} {bytes : Bytes} : matchesIPv4 env x = true → env.inetAton x = some bytes →
      Denotes (.str x) (fromBytes bytes)
  | ipv6 {x : Text} {bytes : Bytes} : env.validIpv6 x = some true → env.inetPton6 x = some bytes →
      Denotes (.str x) (fromBytes bytes)
  | decimal {x : Text} {number : ℕ} : isdigit env.unicode x = true →
      int env.unicode env.maxStrDigits 10 x = some (number : ℤ) → Denotes (.str x) number
  | hex {x : Text} {number : ℕ} : isHexStr x = true →
      int env.unicode env.maxStrDigits 16 (x.drop 2) = some (number : ℤ) → Denotes (.str x) number

variable {env}

/-- The number of an address is the one that its bytes spell. -/
theorem denotes_of_addressOf {x : Text} {bytes : Bytes} (h : addressOf env x = some bytes) :
    Denotes env (.str x) (fromBytes bytes) := by
  rw [addressOf] at h
  split at h
  · rename_i hmac
    exact .mac hmac h
  · split at h
    · rename_i hipv4
      exact .ipv4 hipv4 h
    · split at h
      · rename_i hipv6
        exact .ipv6 hipv6 h
      · cases h

/-- The number that a text is read as, if it is a numeral. -/
def ReadsNumber (env : Environment) (x : Text) (number : ℤ) : Prop :=
  isdigit env.unicode x = true ∧ int env.unicode env.maxStrDigits 10 x = some number ∨
    isHexStr x = true ∧ int env.unicode env.maxStrDigits 16 (x.drop 2) = some number

/-- A numeral denotes its number. -/
theorem denotes_of_readsNumber {x : Text} {number : ℕ} (h : ReadsNumber env x number) :
    Denotes env (.str x) number :=
  h.elim (fun h => .decimal h.1 h.2) fun h => .hex h.1 h.2

/-- A text is encoded as the bytes of an address, as the number of a numeral, or not at all. -/
theorem encodeText_cases {x : Text} {bitwidth : ℤ} {encoded : Encoded}
    (h : encodeText env x bitwidth = .ok encoded) :
    (∃ bytes, encoded = .bytes bytes ∧ addressOf env x = some bytes) ∨
      (∃ bytes number, encoded = .bytes bytes ∧ encodeNum number bitwidth = .ok bytes ∧
        ReadsNumber env x number) ∨
      (encoded = .text x ∧ Unrecognized env x) := by
  rw [encodeText] at h
  rw [addressOf]
  split at h
  · rename_i hmac
    obtain ⟨bytes, hbytes, rfl⟩ := map_eq_ok_iff.mp h
    exact Or.inl ⟨bytes, rfl, by rw [if_pos hmac]; exact orRaise_eq_ok_iff.mp hbytes⟩
  rename_i hmac
  rw [if_neg hmac]
  split at h
  · rename_i hipv4
    obtain ⟨bytes, hbytes, rfl⟩ := map_eq_ok_iff.mp h
    exact Or.inl ⟨bytes, rfl, by rw [if_pos hipv4]; exact orRaise_eq_ok_iff.mp hbytes⟩
  rename_i hipv4
  rw [if_neg hipv4]
  obtain ⟨isIpv6, hvalid, h⟩ := bind_eq_ok_iff.mp h
  rw [matchesIPv6, orRaise_eq_ok_iff] at hvalid
  cases isIpv6 with
  | true =>
    obtain ⟨bytes, hbytes, rfl⟩ := map_eq_ok_iff.mp h
    exact Or.inl ⟨bytes, rfl, by rw [if_pos hvalid]; exact orRaise_eq_ok_iff.mp hbytes⟩
  | false =>
    right
    rw [if_neg Bool.false_ne_true] at h
    split at h
    · rename_i hdecimal
      obtain ⟨number, hnumber, h⟩ := bind_eq_ok_iff.mp h
      obtain ⟨bytes, hbytes, rfl⟩ := map_eq_ok_iff.mp h
      exact Or.inl ⟨bytes, number, rfl, hbytes, Or.inl ⟨hdecimal, orRaise_eq_ok_iff.mp hnumber⟩⟩
    rename_i hdecimal
    split at h
    · rename_i hhex
      obtain ⟨number, hnumber, h⟩ := bind_eq_ok_iff.mp h
      obtain ⟨bytes, hbytes, rfl⟩ := map_eq_ok_iff.mp h
      exact Or.inl ⟨bytes, number, rfl, hbytes, Or.inr ⟨hhex, orRaise_eq_ok_iff.mp hnumber⟩⟩
    rename_i hhex
    cases h
    exact Or.inr ⟨rfl, Bool.eq_false_iff.mpr hmac, Bool.eq_false_iff.mpr hipv4, hvalid,
      Bool.eq_false_iff.mpr hdecimal, Bool.eq_false_iff.mpr hhex⟩

/-- An address is encoded as its bytes, whatever the width. -/
theorem encodeText_of_addressOf {x : Text} {bytes : Bytes} (h : addressOf env x = some bytes) (bitwidth : ℤ) :
    encodeText env x bitwidth = .ok (.bytes bytes) := by
  rw [addressOf] at h
  rw [encodeText]
  split at h
  · rename_i hmac
    rw [if_pos hmac, encodeMac, h]
    rfl
  rename_i hmac
  rw [if_neg hmac]
  split at h
  · rename_i hipv4
    rw [if_pos hipv4, encodeIPv4, h]
    rfl
  rename_i hipv4
  rw [if_neg hipv4]
  split at h
  · rename_i hvalid
    rw [matchesIPv6, hvalid, encodeIPv6, h]
    rfl
  · cases h

/-- A text that nothing recognizes is returned as it is. -/
theorem encodeText_of_unrecognized {x : Text} (h : Unrecognized env x) (bitwidth : ℤ) :
    encodeText env x bitwidth = .ok (.text x) := by
  rw [encodeText, h.mac, h.ipv4, matchesIPv6, h.ipv6, h.decimal, h.hex]
  rfl

/-! ## The width of the field -/

/-- The result is bytes, as many as the field has, that spell the number denoted by the value, which
is below the power of two. -/
def EncodesExactly (env : Environment) (x : Value) (width : ℕ) (encoded : Encoded) : Prop :=
  ∃ bytes item, encoded = .bytes bytes ∧ x.unwrap = .scalar item ∧ Denotes env item (fromBytes bytes) ∧
    bytes.length = (width + 7) / 8 ∧ fromBytes bytes < 2 ^ width

/-- An address with as many bytes as the field spells a number below the power of two, and a text
that nothing recognizes does not have as many characters as the field has bytes. -/
def FitsField (env : Environment) (x : Text) (width : ℕ) : Prop :=
  (∀ bytes, addressOf env x = some bytes → bytes.length = (width + 7) / 8 → fromBytes bytes < 2 ^ width) ∧
    (Unrecognized env x → x.length ≠ (width + 7) / 8)

/-- A step whose result has to have a length returns its results of the length. -/
theorem checkLength_eq_ok_iff {step : Run Encoded} {byteLen : ℤ} {encoded : Encoded} :
    (step >>= fun encodedBytes =>
      if encodedBytes.length = byteLen then .ok encodedBytes else .error .assertionError) = .ok encoded ↔
      step = .ok encoded ∧ encoded.length = byteLen := by
  rw [bind_eq_ok_iff]
  constructor
  · rintro ⟨found, hfound, h⟩
    split at h
    · rename_i hcount
      obtain rfl : found = encoded := Except.ok.inj h
      exact ⟨hfound, hcount⟩
    · cases h
  · rintro ⟨hstep, hcount⟩
    exact ⟨encoded, hstep, if_pos hcount⟩

/-- `encode` checks the number of bytes of what its value is encoded as. -/
theorem encode_eq_ok_iff_of_bitwidth {x : Value} {bitwidth : ℤ} {encoded : Encoded} :
    encode env x bitwidth = .ok encoded ↔
      ((∃ text, x.unwrap = .scalar (.str text) ∧ encodeText env text bitwidth = .ok encoded) ∨
        ∃ number bytes, x.unwrap = .scalar (.int number) ∧ encodeNum number bitwidth = .ok bytes ∧
          encoded = .bytes bytes) ∧
      encoded.length = bitwidthToBytes bitwidth := by
  rw [encode]
  generalize x.unwrap = value
  cases value with
  | scalar item =>
    cases item with
    | str text =>
      refine checkLength_eq_ok_iff.trans (and_congr_left fun _ => ?_)
      simp
    | int number =>
      refine checkLength_eq_ok_iff.trans (and_congr_left fun _ => map_eq_ok_iff.trans ?_)
      simp [eq_comm]
  | tuple items => simpa using fun h => by cases h

/-- The same for a width that is a natural number. -/
theorem encode_eq_ok_iff {x : Value} {width : ℕ} {encoded : Encoded} :
    encode env x width = .ok encoded ↔
      ((∃ text, x.unwrap = .scalar (.str text) ∧ encodeText env text width = .ok encoded) ∨
        ∃ number bytes, x.unwrap = .scalar (.int number) ∧ encodeNum number width = .ok bytes ∧
          encoded = .bytes bytes) ∧
      encoded.length = (width + 7) / 8 := by
  rw [encode_eq_ok_iff_of_bitwidth, bitwidthToBytes_natCast, Nat.cast_inj]

/-- What is encoded for a text that fits the field is exact. -/
theorem encodesExactly_of_fitsField {x : Value} {width : ℕ} (hwidth : 1 ≤ width)
    (hfits : ∀ text, x.unwrap = .scalar (.str text) → FitsField env text width) {encoded : Encoded}
    (h : encode env x width = .ok encoded) : EncodesExactly env x width encoded := by
  obtain ⟨⟨text, hunwrap, htext⟩ | ⟨number, bytes, hunwrap, hbytes, rfl⟩, hcount⟩ := encode_eq_ok_iff.mp h
  · obtain ⟨haddress, htake⟩ := hfits text hunwrap
    obtain ⟨bytes, rfl, hbytes⟩ | ⟨bytes, number, rfl, hbytes, hreads⟩ | ⟨rfl, hplain⟩ :=
      encodeText_cases htext
    · exact ⟨bytes, _, rfl, hunwrap, denotes_of_addressOf hbytes, hcount, haddress bytes hbytes hcount⟩
    · obtain ⟨rfl, hlt, hlength⟩ := (encodeNum_eq_ok_iff hwidth).mp hbytes
      exact ⟨bytes, _, rfl, hunwrap, denotes_of_readsNumber hreads, hlength, hlt⟩
    · exact absurd hcount (htake hplain)
  · obtain ⟨rfl, hlt, hlength⟩ := (encodeNum_eq_ok_iff hwidth).mp hbytes
    exact ⟨bytes, _, rfl, hunwrap, .int _, hlength, hlt⟩

/-- A text whose encoding is exact whenever there is one fits the field. -/
theorem fitsField_of_encodesExactly {x : Value} {width : ℕ} {text : Text}
    (hunwrap : x.unwrap = .scalar (.str text))
    (h : ∀ encoded, encode env x width = .ok encoded → EncodesExactly env x width encoded) :
    FitsField env text width := by
  constructor
  · intro bytes hbytes hcount
    obtain ⟨_, -, hencoded, -, -, -, hlt⟩ := h (.bytes bytes)
      (encode_eq_ok_iff.mpr ⟨Or.inl ⟨text, hunwrap, encodeText_of_addressOf hbytes width⟩, hcount⟩)
    rw [Encoded.bytes.inj hencoded]
    exact hlt
  · intro hplain hcount
    obtain ⟨_, _, hencoded, -⟩ := h (.text text)
      (encode_eq_ok_iff.mpr ⟨Or.inl ⟨text, hunwrap, encodeText_of_unrecognized hplain width⟩, hcount⟩)
    cases hencoded

/-- **What `encode` returns is exact for all values but two kinds of texts: addresses that fill the
bytes of the field and exceed its width, and unrecognized texts of as many characters.** -/
theorem encode_exact_iff (env : Environment) (x : Value) (width : ℕ) (hwidth : 1 ≤ width) :
    (∀ encoded, encode env x width = .ok encoded → EncodesExactly env x width encoded) ↔
      ∀ text, x.unwrap = .scalar (.str text) → FitsField env text width :=
  ⟨fun h _ hunwrap => fitsField_of_encodesExactly hunwrap h,
    fun hfits _ h => encodesExactly_of_fitsField hwidth hfits h⟩

/-- The address of all ones passes for a field of 41 bits, and two letters for one of 16 bits. -/
theorem not_encode_exact :
    ¬ (∀ encoded, encode Environment.ascii (.scalar (.str "ff:ff:ff:ff:ff:ff".toList)) 41 = .ok encoded →
        EncodesExactly Environment.ascii (.scalar (.str "ff:ff:ff:ff:ff:ff".toList)) 41 encoded) ∧
      ¬ (∀ encoded, encode Environment.ascii (.scalar (.str "zz".toList)) 16 = .ok encoded →
        EncodesExactly Environment.ascii (.scalar (.str "zz".toList)) 16 encoded) := by
  constructor
  · intro h
    obtain ⟨bytes, _, hencoded, -, -, -, hlt⟩ :=
      h (.bytes [255, 255, 255, 255, 255, 255]) (by decide +kernel)
    obtain rfl := Encoded.bytes.inj hencoded
    exact absurd hlt (by decide)
  · intro h
    obtain ⟨_, _, hencoded, -⟩ := h (.text "zz".toList) (by decide +kernel)
    cases hencoded

/-- A numeral is exact in a field of nine bits. -/
theorem encode_exact_numeral :
    encode Environment.ascii (.scalar (.str "300".toList)) 9 = .ok (.bytes [1, 44]) ∧
      EncodesExactly Environment.ascii (.scalar (.str "300".toList)) 9 (.bytes [1, 44]) := by
  have hencode : encode Environment.ascii (.scalar (.str "300".toList)) 9 = .ok (.bytes [1, 44]) := by
    decide +kernel
  refine ⟨hencode, (encode_exact_iff Environment.ascii (.scalar (.str "300".toList)) 9 (by decide)).mpr
    ?_ _ hencode⟩
  rintro text hunwrap
  cases hunwrap
  have haddress : addressOf Environment.ascii "300".toList = none := by decide +kernel
  refine ⟨fun bytes hbytes => ?_, fun hplain => ?_⟩
  · rw [haddress] at hbytes
    cases hbytes
  · exact absurd hplain.decimal (by decide +kernel)

end NetworkingRecipe.P4rtCtl
