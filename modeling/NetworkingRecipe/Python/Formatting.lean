import NetworkingRecipe.Python.Numerals
import NetworkingRecipe.Python.Pieces
import Mathlib.Data.Bool.AllAny

/-!
# Python formatting

The texts that integers and byte strings are formatted as. Integers and hexadecimal texts are
read back by `int`. The text of a byte string is its literal, in which a byte is one character
or an escape.
-/

namespace Python

/-- `str(number)` -/
def intText (number : ℤ) : Text :=
  if number < 0 then '-' :: Nat.toDigits 10 number.natAbs else Nat.toDigits 10 number.natAbs

/-- The two digits of a byte. -/
def hexByte (byte : UInt8) : Text :=
  [Nat.digitChar (byte.toNat / 16), Nat.digitChar (byte.toNat % 16)]

/-- `codecs.encode(bytes, 'hex_codec')` -/
def hexlify (bytes : Bytes) : Text :=
  bytes.flatMap hexByte

/-- A byte inside a literal. -/
def reprByte (quote : Char) (byte : UInt8) : Text :=
  let c := Char.ofNat byte.toNat
  if c = quote ∨ c = '\\' then ['\\', c]
  else if c = '\t' then ['\\', 't']
  else if c = '\n' then ['\\', 'n']
  else if c = '\r' then ['\\', 'r']
  else if byte < 32 ∨ 127 ≤ byte then '\\' :: 'x' :: hexByte byte
  else [c]

/-- The quote of a literal: the double one if there are single ones only. -/
def reprQuote (bytes : Bytes) : Char :=
  if bytes.contains 39 && !bytes.contains 34 then '"' else '\''

/-- `str(bytes)` -/
def reprBytes (bytes : Bytes) : Text :=
  'b' :: reprQuote bytes :: (bytes.flatMap (reprByte (reprQuote bytes)) ++ [reprQuote bytes])

/-! ## Hexadecimal texts -/

/-- A byte is decoded from its two digits. -/
theorem unhex_hexByte (byte : UInt8) (rest : Text) :
    unhex (hexByte byte ++ rest) = (unhex rest).map (byte :: ·) := by
  have hlt := byte.toNat_lt
  have hhigh : digitOf 16 (Nat.digitChar (byte.toNat / 16)) = some (byte.toNat / 16) :=
    digitOf_digitChar (by omega) le_rfl
  have hlow : digitOf 16 (Nat.digitChar (byte.toNat % 16)) = some (byte.toNat % 16) :=
    digitOf_digitChar (by omega) le_rfl
  have hbyte : UInt8.ofNat (byte.toNat / 16 * 16 + byte.toNat % 16) = byte := by
    rw [Nat.div_add_mod', UInt8.ofNat_toNat]
  rw [hexByte, List.cons_append, List.cons_append, List.nil_append, unhex, hhigh, hlow]
  change ((unhex rest).bind fun bytes =>
    some (UInt8.ofNat (byte.toNat / 16 * 16 + byte.toNat % 16) :: bytes)) = _
  rw [hbyte]
  cases unhex rest <;> rfl

/-- The codec decodes what it has encoded. -/
theorem unhex_hexlify (bytes : Bytes) : unhex (hexlify bytes) = some bytes := by
  induction bytes with
  | nil => rfl
  | cons byte rest ih =>
    rw [hexlify, List.flatMap_cons, unhex_hexByte, ← hexlify, ih]
    rfl

/-- An encoded byte string consists of digits. -/
theorem digits_hexlify (bytes : Bytes) : Digits 16 (hexlify bytes) :=
  (unhex_eq_some_iff.mp (unhex_hexlify bytes)).1

/-- An encoded byte string spells the number that the bytes spell. -/
theorem numeral_hexlify (bytes : Bytes) : numeral 16 (hexlify bytes) = fromBytes bytes :=
  (unhex_eq_some_iff.mp (unhex_hexlify bytes)).2.2.symm

/-- A byte string that is not empty has an encoding that is not. -/
theorem hexlify_ne_nil {bytes : Bytes} (h : bytes ≠ []) : hexlify bytes ≠ [] := by
  obtain ⟨byte, rest, rfl⟩ := List.exists_cons_of_ne_nil h
  exact List.cons_ne_nil _ _

/-! ## Integers -/

/-- `int` reads a formatted integer back, if it has no more digits than the limit. -/
theorem int_intText (unicode : Unicode) {maxStrDigits : Option ℕ} {number : ℤ}
    (hlimit : ∀ limit ∈ maxStrDigits, (Nat.toDigits 10 number.natAbs).length ≤ limit) :
    int unicode maxStrDigits 10 (intText number) = some number := by
  have hdigits : Digits 10 (Nat.toDigits 10 number.natAbs) := digits_toDigits (by decide) (by decide) _
  have hnumeral : numeral 10 (Nat.toDigits 10 number.natAbs) = number.natAbs :=
    numeral_toDigits (by decide) (by decide) _
  have hne : Nat.toDigits 10 number.natAbs ≠ [] := Nat.toDigits_ne_nil
  have hwithin : withinLimit maxStrDigits 10 (Nat.toDigits 10 number.natAbs) = true :=
    (withinLimit_iff_of_digits hdigits).mpr (Or.inr hlimit)
  by_cases hneg : number < 0
  · have hplain : ∀ c ∈ '-' :: Nat.toDigits 10 number.natAbs, isAscii c = true ∧ isCSpace c = false := by
      intro c hc
      obtain rfl | hc := List.mem_cons.mp hc
      · exact ⟨by decide, by decide⟩
      · exact ⟨isAscii_of_digit (hdigits c hc), not_isCSpace_of_digit (hdigits c hc)⟩
    rw [intText, if_pos hneg, int, strip_toAscii unicode hplain]
    change Option.map (fun n : ℤ => -n)
      (magnitude maxStrDigits 10 (Nat.toDigits 10 number.natAbs) >>= fun n => pure (n : ℤ)) = _
    rw [magnitude_of_digits (by decide) hdigits hne, if_pos hwithin, hnumeral]
    exact congrArg some (show -(number.natAbs : ℤ) = number by omega)
  · rw [intText, if_neg hneg, int_of_digits unicode maxStrDigits (by decide) hdigits hne, if_pos hwithin, hnumeral]
    exact congrArg some (by omega)

/-- A formatted integer consists of digits and perhaps a sign. -/
theorem mem_intText {number : ℤ} {c : Char} (h : c ∈ intText number) :
    c = '-' ∨ (digitOf 10 c).isSome := by
  have hdigits : Digits 10 (Nat.toDigits 10 number.natAbs) := digits_toDigits (by decide) (by decide) _
  rw [intText] at h
  split at h
  · exact (List.mem_cons.mp h).imp_right (hdigits c)
  · exact Or.inr (hdigits c h)

/-! ## Literals -/

/-- The quote of a literal is a quotation mark. -/
theorem reprQuote_cases (bytes : Bytes) : reprQuote bytes = '"' ∨ reprQuote bytes = '\'' := by
  rw [reprQuote]
  split
  · exact Or.inl rfl
  · exact Or.inr rfl

/-- The digits of a byte are digits. -/
theorem digits_hexByte (byte : UInt8) : Digits 16 (hexByte byte) := by
  have hbyte := digits_hexlify [byte]
  rwa [hexlify, List.flatMap_singleton] at hbyte

/-- The characters that separate match keys, values and suffixes. -/
def separators : List Char :=
  [',', '=', '/']

/-- A byte inside a literal is one character, and then not zero, or an escape without a separator. -/
theorem reprByte_cases {quote : Char} (hquote : quote = '"' ∨ quote = '\'') (byte : UInt8) :
    (∃ c, reprByte quote byte = [c] ∧ byte ≠ 0) ∨
      ∃ rest, reprByte quote byte = '\\' :: rest ∧ ∀ c ∈ separators, c ∉ rest := by
  rw [reprByte]
  generalize Char.ofNat byte.toNat = c
  split
  · rename_i h
    have hc : c = '"' ∨ c = '\'' ∨ c = '\\' := h.elim (fun h => h ▸ hquote.imp_right Or.inl) (Or.inr ∘ Or.inr)
    obtain rfl | rfl | rfl := hc
    all_goals exact Or.inr ⟨[_], rfl, List.all_iff_forall_prop.mp (by decide)⟩
  split
  · exact Or.inr ⟨['t'], rfl, List.all_iff_forall_prop.mp (by decide)⟩
  split
  · exact Or.inr ⟨['n'], rfl, List.all_iff_forall_prop.mp (by decide)⟩
  split
  · exact Or.inr ⟨['r'], rfl, List.all_iff_forall_prop.mp (by decide)⟩
  split
  · refine Or.inr ⟨'x' :: hexByte byte, rfl, fun c hc => ?_⟩
    have hother : ∀ c ∈ separators, c ≠ 'x' ∧ digitOf 16 c = none :=
      List.all_iff_forall_prop.mp (by decide)
    exact List.not_mem_cons_of_ne_of_not_mem (hother c hc).1 ((digits_hexByte byte).not_mem (hother c hc).2)
  · rename_i h
    refine Or.inl ⟨_, rfl, ?_⟩
    rintro rfl
    exact h (Or.inl (by decide))

/-- What stands inside a literal from some byte on, with the quote at its end. -/
def literalRest (quote : Char) (bytes : Bytes) : Text :=
  bytes.flatMap (reprByte quote) ++ [quote]

/-- The number of bytes that are not zero. -/
def nonzeroBytes (bytes : Bytes) : ℕ :=
  bytes.countP (· != 0)

/-- A first byte that is not zero counts. -/
theorem nonzeroBytes_cons_of_ne {byte : UInt8} (h : byte ≠ 0) (rest : Bytes) :
    nonzeroBytes (byte :: rest) = nonzeroBytes rest + 1 :=
  List.countP_cons_of_pos (by simpa using h)

/-- A first byte counts once at most. -/
theorem nonzeroBytes_le_cons (byte : UInt8) (rest : Bytes) : nonzeroBytes rest ≤ nonzeroBytes (byte :: rest) :=
  (List.sublist_cons_self byte rest).countP_le

/-- A number has no more bytes that are not zero than places. -/
theorem nonzeroBytes_le_of_lt {bytes : Bytes} {count : ℕ} (h : fromBytes bytes < 256 ^ count) :
    nonzeroBytes bytes ≤ count := by
  induction bytes with
  | nil => exact Nat.zero_le _
  | cons byte rest ih =>
    have hvalue : fromBytes (byte :: rest) = byte.toNat * 256 ^ rest.length + fromBytes rest := by
      rw [fromBytes, ← Numeral.value, Numeral.value_cons]
      rfl
    by_cases hzero : byte = 0
    · rw [hvalue, hzero, UInt8.toNat_zero, Nat.zero_mul, Nat.zero_add] at h
      rw [hzero]
      exact ih h
    · have hpos : 1 ≤ byte.toNat := Nat.one_le_iff_ne_zero.mpr fun hnat => hzero (UInt8.toNat_inj.mp hnat)
      have hplace : 256 ^ rest.length ≤ byte.toNat * 256 ^ rest.length := Nat.le_mul_of_pos_left _ hpos
      have hpower : 256 ^ rest.length < 256 ^ count := by omega
      have hlength : rest.length < count := (Nat.pow_lt_pow_iff_right (by decide)).mp hpower
      have hcount : nonzeroBytes rest ≤ rest.length := List.countP_le_length
      rw [nonzeroBytes_cons_of_ne hzero]
      omega

/-- A separator inside a literal is a byte of its own. -/
theorem exists_literalRest_of_separator {quote : Char} (hquote : quote = '"' ∨ quote = '\'') {c : Char}
    (hc : c ∈ separators) {bytes : Bytes} {front back : Text}
    (h : literalRest quote bytes = front ++ c :: back) :
    ∃ rest, back = literalRest quote rest ∧ nonzeroBytes rest < nonzeroBytes bytes := by
  have hne : ∀ d ∈ separators, d ≠ quote ∧ d ≠ '\\' := by
    obtain rfl | rfl := hquote <;> exact List.all_iff_forall_prop.mp (by decide)
  induction bytes generalizing front with
  | nil =>
    have hmem : c ∈ literalRest quote [] := h ▸ List.mem_append_right _ List.mem_cons_self
    exact absurd (List.mem_singleton.mp hmem) (hne c hc).1
  | cons byte bytes ih =>
    have hcons : literalRest quote (byte :: bytes) = reprByte quote byte ++ literalRest quote bytes := by
      rw [literalRest, List.flatMap_cons, List.append_assoc, ← literalRest]
    rw [hcons] at h
    have hbehind (front' : Text) (h' : literalRest quote bytes = front' ++ c :: back) :
        ∃ rest, back = literalRest quote rest ∧ nonzeroBytes rest < nonzeroBytes (byte :: bytes) := by
      obtain ⟨rest, hrest, hlt⟩ := ih h'
      exact ⟨rest, hrest, hlt.trans_le (nonzeroBytes_le_cons byte bytes)⟩
    obtain ⟨d, hd, hzero⟩ | ⟨escaped, hescaped, hfree⟩ := reprByte_cases hquote byte
    · rw [hd, List.singleton_append] at h
      cases front with
      | nil =>
        obtain ⟨-, hback⟩ := List.cons.inj h
        exact ⟨bytes, hback.symm, by rw [nonzeroBytes_cons_of_ne hzero]; exact Nat.lt_succ_self _⟩
      | cons e front => exact hbehind front (List.cons.inj h).2
    · rw [hescaped] at h
      have hnot : c ∉ '\\' :: escaped :=
        List.not_mem_cons_of_ne_of_not_mem (hne c hc).2 (hfree c hc)
      obtain ⟨middle, hfront, hrest⟩ | ⟨middle, hlong, hrest⟩ := List.append_eq_append_iff.mp h
      · exact hbehind middle hrest
      · cases middle with
        | nil => exact hbehind [] hrest.symm
        | cons e middle =>
          obtain ⟨rfl, -⟩ := List.cons.inj hrest
          exact absurd (hlong ▸ List.mem_append_right _ List.mem_cons_self) hnot

/-- Characters inside a literal that are no escapes are bytes of their own. -/
theorem length_le_of_prefix_literalRest {quote : Char} (hquote : quote = '"' ∨ quote = '\'') {text : Text}
    (hescape : '\\' ∉ text) (hnot : quote ∉ text) {bytes : Bytes} (h : text <+: literalRest quote bytes) :
    text.length ≤ nonzeroBytes bytes := by
  induction bytes generalizing text with
  | nil =>
    cases text with
    | nil => exact Nat.zero_le _
    | cons c text =>
      obtain ⟨rfl, -⟩ := List.cons_prefix_cons.mp h
      exact absurd List.mem_cons_self hnot
  | cons byte bytes ih =>
    rw [literalRest, List.flatMap_cons, List.append_assoc, ← literalRest] at h
    cases text with
    | nil => exact Nat.zero_le _
    | cons c text =>
      rw [List.mem_cons, not_or] at hescape hnot
      obtain ⟨d, hd, hzero⟩ | ⟨escaped, hescaped, -⟩ := reprByte_cases hquote byte
      · rw [hd, List.singleton_append] at h
        rw [nonzeroBytes_cons_of_ne hzero, List.length_cons]
        exact Nat.succ_le_succ (ih hescape.2 hnot.2 (List.cons_prefix_cons.mp h).2)
      · rw [hescaped, List.cons_append] at h
        exact absurd (List.cons_prefix_cons.mp h).1.symm hescape.1

end Python
