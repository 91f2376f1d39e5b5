import NetworkingRecipe.Gnmi.KeyValue
import Mathlib.Data.List.Count
import Mathlib.Data.List.Infix

/-!
# Lists of parameters

All that the cursor takes from a string, one call after the other, and how a list of items is written so
that the cursor takes it apart again. Between items stands any mix of separators; parentheses inside a
value are balanced.
-/

namespace NetworkingRecipe.Gnmi.GnmiCtl

/-- A key and its value. -/
structure KeyValue where
  key : List Char
  value : List Char
  deriving DecidableEq, Repr

/-- What repeated calls take from a string. -/
def keyValues (stringp : List Char) : List KeyValue :=
  match _hparse : clientParseKeyValue stringp with
  | none => []
  | some ⟨key, value, rest⟩ => ⟨key, value⟩ :: keyValues rest
termination_by stringp.length
decreasing_by exact length_lt_of_clientParseKeyValue _hparse

/-- A string with nothing but separators has no key. -/
theorem keyValues_of_none {stringp : List Char} (h : clientParseKeyValue stringp = none) :
    keyValues stringp = [] := by
  rw [keyValues]
  split
  · rfl
  · rename_i hparse
    cases h.symm.trans hparse

/-- A key stands in front of those in the rest of the string. -/
theorem keyValues_of_some {stringp key value rest : List Char}
    (h : clientParseKeyValue stringp = some ⟨key, value, rest⟩) :
    keyValues stringp = ⟨key, value⟩ :: keyValues rest := by
  rw [keyValues]
  split
  · rename_i hparse
    cases hparse.symm.trans h
  · rename_i key' value' rest' hparse
    obtain ⟨rfl, rfl, rfl⟩ := KeyValueRest.mk.inj (Option.some.inj (hparse.symm.trans h))
    rfl

/-- The first key is what a call takes, and the others are in the rest of the string. -/
theorem exists_of_keyValues_cons {stringp : List Char} {pair : KeyValue} {later : List KeyValue}
    (h : keyValues stringp = pair :: later) :
    ∃ rest, clientParseKeyValue stringp = some ⟨pair.key, pair.value, rest⟩ ∧ keyValues rest = later := by
  cases hparse : clientParseKeyValue stringp with
  | none =>
    rw [keyValues_of_none hparse] at h
    cases h
  | some found =>
    rw [keyValues_of_some hparse] at h
    obtain ⟨rfl, rfl⟩ := List.cons.inj h
    exact ⟨found.rest, rfl, rfl⟩

/-- Separators in front of a string are skipped. -/
theorem clientParseKeyValue_append {mix : List Char} (hmix : ∀ c ∈ mix, isSeparator c = true)
    (stringp : List Char) : clientParseKeyValue (mix ++ stringp) = clientParseKeyValue stringp := by
  rw [clientParseKeyValue, List.dropWhile_append_of_pos hmix, ← clientParseKeyValue]

/-- Separators in front of a string have no key. -/
theorem keyValues_append {mix : List Char} (hmix : ∀ c ∈ mix, isSeparator c = true) (stringp : List Char) :
    keyValues (mix ++ stringp) = keyValues stringp := by
  cases hparse : clientParseKeyValue stringp with
  | none =>
    rw [keyValues_of_none hparse,
      keyValues_of_none ((clientParseKeyValue_append hmix stringp).trans hparse)]
  | some found =>
    rw [keyValues_of_some hparse,
      keyValues_of_some ((clientParseKeyValue_append hmix stringp).trans hparse)]

/-! ### Delimiters -/

/-- A separator ends a key. -/
theorem endsKey_of_isSeparator {c : Char} (h : isSeparator c = true) : endsKey c = true := by
  rw [endsKey, h, Bool.or_true]

/-- A character that ends no key is no separator. -/
theorem isSeparator_of_endsKey {c : Char} (h : endsKey c = false) : isSeparator c = false := by
  by_contra hseparator
  rw [endsKey_of_isSeparator (Bool.not_eq_false _ ▸ hseparator)] at h
  cases h

/-- Behind a separator stands no value. -/
theorem not_delimits_of_isSeparator {c : Char} (h : isSeparator c = true) :
    (c == ':' || c == '=') = false ∧ (c == '(') = false := by
  simp only [isSeparator, Bool.or_eq_true, beq_iff_eq] at h
  obtain (((rfl | rfl) | rfl) | rfl) | rfl := h <;> decide

/-! ### Parentheses -/

/-- A text closes as many parentheses as it opens, and as are open in front of it; at no place has it closed
more. -/
def Closes (level : ℕ) (text : List Char) : Prop :=
  text.count ')' = text.count '(' + level ∧ ∀ front, front <+: text → front.count ')' ≤ front.count '(' + level

/-- The parentheses of a text are balanced. -/
def Balanced (text : List Char) : Prop :=
  Closes 0 text

/-- A text without parentheses is balanced. -/
theorem balanced_of_not_mem {text : List Char} (hopen : '(' ∉ text) (hclose : ')' ∉ text) : Balanced text := by
  have hzero : text.count ')' = 0 := List.count_eq_zero.mpr hclose
  refine ⟨by rw [hzero, List.count_eq_zero.mpr hopen], fun front hfront => ?_⟩
  rw [List.count_eq_zero.mpr fun hmem => hclose (hfront.subset hmem)]
  exact Nat.zero_le _

/-- A parenthesis that is opened has to be closed. -/
theorem Closes.of_open {level : ℕ} {rest : List Char} (h : Closes level ('(' :: rest)) :
    Closes (level + 1) rest := by
  have hcount := h.1
  refine ⟨?_, fun front hfront => ?_⟩
  · simp at hcount
    omega
  · have hle := h.2 ('(' :: front) (List.cons_prefix_cons.mpr ⟨rfl, hfront⟩)
    simp at hle
    omega

/-- A parenthesis that is closed was open. -/
theorem Closes.of_close {level : ℕ} {rest : List Char} (h : Closes level (')' :: rest)) :
    ∃ outer, level = outer + 1 ∧ Closes outer rest := by
  have hopen := h.2 [')'] (List.cons_prefix_cons.mpr ⟨rfl, List.nil_prefix⟩)
  have hcount := h.1
  simp at hopen hcount
  refine ⟨level - 1, by omega, by omega, fun front hfront => ?_⟩
  have hle := h.2 (')' :: front) (List.cons_prefix_cons.mpr ⟨rfl, hfront⟩)
  simp at hle
  omega

/-- Another character takes no part. -/
theorem Closes.of_other {level : ℕ} {c : Char} {rest : List Char} (hopen : c ≠ '(') (hclose : c ≠ ')')
    (h : Closes level (c :: rest)) : Closes level rest := by
  have hcount := h.1
  simp [hopen, hclose] at hcount
  refine ⟨hcount, fun front hfront => ?_⟩
  have hle := h.2 (c :: front) (List.cons_prefix_cons.mpr ⟨rfl, hfront⟩)
  simpa [hopen, hclose] using hle

/-- A value whose parentheses are balanced is passed over, if no other delimiter stands in it. -/
theorem parseValue_append {isDelimiter : Char → Bool} (hopen : isDelimiter '(' = false) {value : List Char}
    (hvalue : ∀ c ∈ value, isDelimiter c = true → c = ')') {level : ℕ} (hcloses : Closes level value)
    (rest : List Char) :
    parseValue isDelimiter level (value ++ rest) = value.length + parseValue isDelimiter 0 rest := by
  induction value generalizing level with
  | nil =>
    obtain rfl : level = 0 := by simpa using hcloses.1.symm
    rw [List.nil_append, List.length_nil, Nat.zero_add]
  | cons c value ih =>
    have hothers : ∀ d ∈ value, isDelimiter d = true → d = ')' := fun d hd => hvalue d (List.mem_cons_of_mem c hd)
    rw [List.cons_append, List.length_cons]
    by_cases hleft : c = '('
    · subst hleft
      have hinner := ih hothers hcloses.of_open
      cases level with
      | zero =>
        rw [parseValue, hopen, if_neg Bool.false_ne_true, if_pos (beq_self_eq_true '('), hinner]
        omega
      | succ outer =>
        rw [parseValue, if_pos (beq_self_eq_true '('), hinner]
        omega
    · by_cases hright : c = ')'
      · subst hright
        obtain ⟨outer, rfl, houter⟩ := hcloses.of_close
        rw [parseValue, if_neg (by decide), if_pos (beq_self_eq_true ')'), ih hothers houter]
        omega
      · have hinner := ih hothers (hcloses.of_other hleft hright)
        cases level with
        | zero =>
          rw [parseValue, if_neg fun hdelimiter => hright (hvalue c List.mem_cons_self hdelimiter),
            if_neg (by simpa using hleft), hinner]
          omega
        | succ outer =>
          rw [parseValue, if_neg (by simpa using hleft), if_neg (by simpa using hright), hinner]
          omega

/-! ### Keys -/

/-- A key that ends with the string has no value. -/
theorem clientParseKeyValue_key {key : List Char} (hne : key ≠ []) (hkey : ∀ c ∈ key, endsKey c = false) :
    clientParseKeyValue key = some ⟨key, [], []⟩ := by
  obtain ⟨c, others, rfl⟩ := List.exists_cons_of_ne_nil hne
  have hplain : ∀ d ∈ c :: others, (!endsKey d) = true := fun d hd => by rw [hkey d hd]; rfl
  have hfirst : isSeparator c = false := isSeparator_of_endsKey (hkey c List.mem_cons_self)
  rw [clientParseKeyValue, List.dropWhile_cons, hfirst, if_neg Bool.false_ne_true]
  dsimp only
  rw [List.takeWhile_eq_self_iff.mpr hplain, List.dropWhile_eq_nil_iff.mpr hplain]

/-- The delimiter behind a key decides where the value ends. -/
theorem clientParseKeyValue_delimiter {key : List Char} (hne : key ≠ [])
    (hkey : ∀ c ∈ key, endsKey c = false) {delimiter : Char} (hdelimiter : endsKey delimiter = true)
    (text : List Char) :
    clientParseKeyValue (key ++ delimiter :: text) =
      if delimiter == ':' || delimiter == '=' then some (cutValue key text (parseValue isSeparator 0 text))
      else if delimiter == '(' then some (cutValue key text (parenthesizedLength text))
      else some ⟨key, [], text⟩ := by
  obtain ⟨c, others, rfl⟩ := List.exists_cons_of_ne_nil hne
  have hplain : ∀ d ∈ c :: others, (!endsKey d) = true := fun d hd => by rw [hkey d hd]; rfl
  have hend : ∀ d, (delimiter :: text).head? = some d → (!endsKey d) = false := by
    intro d hd
    obtain rfl := Option.some.inj hd
    rw [hdelimiter]
    rfl
  have hfirst : isSeparator c = false := isSeparator_of_endsKey (hkey c List.mem_cons_self)
  rw [clientParseKeyValue, List.cons_append, List.dropWhile_cons, hfirst, if_neg Bool.false_ne_true]
  dsimp only
  rw [← List.cons_append, takeWhile_append_of_head hplain hend, dropWhile_append_of_head hplain hend]

/-! ### Items -/

/-- How an item is written: a key alone, or with a value behind `=`, behind `:`, or in parentheses. -/
inductive Form where
  | bare
  | equals
  | colon
  | parenthesized
  deriving DecidableEq, Repr

/-- The values that can be written. -/
def Form.Allows : Form → List Char → Prop
  | .bare, value => value = []
  | .equals, value => (∀ c ∈ value, isSeparator c = false) ∧ Balanced value
  | .colon, value => (∀ c ∈ value, isSeparator c = false) ∧ Balanced value
  | .parenthesized, value => Balanced value

/-- What is written behind the key. -/
def Form.write : Form → List Char → List Char
  | .bare, _ => []
  | .equals, value => '=' :: value
  | .colon, value => ':' :: value
  | .parenthesized, value => '(' :: (value ++ [')'])

/-- A key with a value, and how the two are written. -/
structure Item where
  key : List Char
  value : List Char
  form : Form
  key_nonempty : key ≠ []
  key_free : ∀ c ∈ key, endsKey c = false
  value_allowed : form.Allows value

namespace Item

variable (item : Item)

/-- The text of an item. -/
def render : List Char :=
  item.key ++ item.form.write item.value

/-- The key and the value of an item. -/
def keyValue : KeyValue :=
  ⟨item.key, item.value⟩

variable {rest : List Char} (hrest : ∀ c, rest.head? = some c → isSeparator c = true)
include hrest

/-- A value without separators ends at the next one. -/
theorem cutValue_separator (hvalue : ∀ c ∈ item.value, isSeparator c = false) (hbalanced : Balanced item.value) :
    cutValue item.key (item.value ++ rest) (parseValue isSeparator 0 (item.value ++ rest)) =
      ⟨item.key, item.value, rest.tail⟩ := by
  have hlength : parseValue isSeparator 0 (item.value ++ rest) = item.value.length := by
    rw [parseValue_append rfl (fun c hc h => by rw [hvalue c hc] at h; cases h) hbalanced]
    cases rest with
    | nil => rfl
    | cons c others => rw [parseValue, if_pos (hrest c rfl), Nat.add_zero]
  rw [hlength, cutValue, List.take_left, List.drop_left]

/-- A value in parentheses ends at the one that closes them. -/
theorem cutValue_parenthesized (hbalanced : Balanced item.value) :
    cutValue item.key (item.value ++ ')' :: rest) (parenthesizedLength (item.value ++ ')' :: rest)) =
      ⟨item.key, item.value, rest⟩ := by
  have hlength : parseValue (fun c => c == ')') 0 (item.value ++ ')' :: rest) = item.value.length := by
    rw [parseValue_append rfl (fun c _ h => beq_iff_eq.mp h) hbalanced, parseValue, if_pos (beq_self_eq_true ')'),
      Nat.add_zero]
  have harrow : [')', '-', '>'].isPrefixOf (')' :: rest) = false := by
    cases rest with
    | nil => rfl
    | cons c others =>
      have hc : c ≠ '-' := by
        rintro rfl
        exact Bool.false_ne_true (hrest '-' rfl)
      simp [List.isPrefixOf, hc.symm]
  have hcount : parenthesizedLength (item.value ++ ')' :: rest) = item.value.length := by
    rw [parenthesizedLength, hlength, List.drop_left, harrow]
    rfl
  rw [hcount, cutValue, List.take_left, List.drop_left, List.tail_cons]

/-- The cursor takes an item, and leaves what is behind it but for a separator. -/
theorem clientParseKeyValue_render :
    ∃ mix left, rest = mix ++ left ∧ (∀ c ∈ mix, isSeparator c = true) ∧
      clientParseKeyValue (item.render ++ rest) = some ⟨item.key, item.value, left⟩ := by
  have htail : ∃ mix, rest = mix ++ rest.tail ∧ ∀ c ∈ mix, isSeparator c = true := by
    cases rest with
    | nil => exact ⟨[], rfl, fun _ hc => absurd hc List.not_mem_nil⟩
    | cons c others => exact ⟨[c], rfl, fun d hd => List.mem_singleton.mp hd ▸ hrest c rfl⟩
  obtain ⟨mix, hmix, hseparators⟩ := htail
  have hallowed := item.value_allowed
  rw [render, List.append_assoc]
  cases hform : item.form with
  | bare =>
    rw [hform] at hallowed
    refine ⟨mix, rest.tail, hmix, hseparators, ?_⟩
    rw [show item.value = [] from hallowed]
    cases rest with
    | nil => exact (List.append_nil item.key).symm ▸ clientParseKeyValue_key item.key_nonempty item.key_free
    | cons c others =>
      have hc := hrest c rfl
      change clientParseKeyValue (item.key ++ c :: others) = _
      rw [clientParseKeyValue_delimiter item.key_nonempty item.key_free (endsKey_of_isSeparator hc)]
      obtain ⟨hvalue, hopen⟩ := not_delimits_of_isSeparator hc
      rw [hvalue, if_neg Bool.false_ne_true, hopen, if_neg Bool.false_ne_true]
      rfl
  | equals =>
    rw [hform] at hallowed
    refine ⟨mix, rest.tail, hmix, hseparators, ?_⟩
    change clientParseKeyValue (item.key ++ '=' :: (item.value ++ rest)) = _
    rw [clientParseKeyValue_delimiter item.key_nonempty item.key_free rfl, if_pos (by decide),
      item.cutValue_separator hrest hallowed.1 hallowed.2]
  | colon =>
    rw [hform] at hallowed
    refine ⟨mix, rest.tail, hmix, hseparators, ?_⟩
    change clientParseKeyValue (item.key ++ ':' :: (item.value ++ rest)) = _
    rw [clientParseKeyValue_delimiter item.key_nonempty item.key_free rfl, if_pos (by decide),
      item.cutValue_separator hrest hallowed.1 hallowed.2]
  | parenthesized =>
    rw [hform] at hallowed
    refine ⟨[], rest, rfl, fun _ hc => absurd hc List.not_mem_nil, ?_⟩
    rw [Form.write, List.cons_append, List.append_assoc, List.singleton_append,
      clientParseKeyValue_delimiter item.key_nonempty item.key_free rfl, if_neg (by decide),
      if_pos (by decide),
      item.cutValue_parenthesized hrest hallowed]

end Item

/-- Items, each behind a mix of separators. -/
def renderItems (entries : List (List Char × Item)) : List Char :=
  entries.flatMap fun entry => entry.1 ++ entry.2.render

/-- Between the items stands at least one separator, and nothing else. -/
structure Separated (entries : List (List Char × Item)) : Prop where
  separators : ∀ entry ∈ entries, ∀ c ∈ entry.1, isSeparator c = true
  between : ∀ entry ∈ entries.tail, entry.1 ≠ []

/-- Behind an item stands a separator. -/
theorem Separated.head_tail {entries : List (List Char × Item)} (h : Separated entries) :
    ∀ c, (renderItems entries.tail).head? = some c → isSeparator c = true := by
  intro c hc
  obtain - | ⟨first, others⟩ := entries
  · cases hc
  obtain - | ⟨⟨mix, item⟩, others⟩ := others
  · cases hc
  obtain ⟨d, mix, rfl⟩ := List.exists_cons_of_ne_nil (h.between _ List.mem_cons_self)
  obtain rfl : d = c := Option.some.inj hc
  exact h.separators _ (List.mem_cons_of_mem _ List.mem_cons_self) _ List.mem_cons_self

/-- Repeated calls take the items apart again. -/
theorem keyValues_renderItems {entries : List (List Char × Item)} (h : Separated entries) :
    keyValues (renderItems entries) = entries.map fun entry => entry.2.keyValue := by
  induction entries with
  | nil => exact keyValues_of_none rfl
  | cons entry entries ih =>
    have hhead := h.head_tail
    rw [List.tail_cons] at hhead
    obtain ⟨mix, left, hrest, hmix, hparse⟩ := entry.2.clientParseKeyValue_render hhead
    have hothers : Separated entries :=
      ⟨fun other hother => h.separators other (List.mem_cons_of_mem _ hother),
        fun other hother => h.between other (List.mem_of_mem_tail hother)⟩
    have hfront := h.separators entry List.mem_cons_self
    rw [renderItems, List.flatMap_cons, List.append_assoc, keyValues_append hfront, ← renderItems,
      keyValues_of_some hparse, List.map_cons, ← ih hothers]
    rw [hrest, keyValues_append hmix]
    rfl

end NetworkingRecipe.Gnmi.GnmiCtl
