import Mathlib.Data.List.Infix
import Mathlib.Data.List.DropRight
import Mathlib.Data.Int.Notation

/-!
# Python text

The operations on Python strings that a command-line reader is made of: search, `split`,
`strip`, and `int` in any base. A string is the list of its code points.

Which characters are digits, decimals and blanks is a matter of the Unicode tables that the
interpreter was built with. They are a parameter here, and only their ASCII part is fixed. So is
the number of digits that the interpreter converts, which newer ones limit.
-/

namespace Python

/-- A string, as the list of its code points. -/
abbrev Text := List Char

/-! ## Search and split -/

/-- `needle in text`, which is also `text.find(needle) != -1`. -/
def contains (text needle : Text) : Bool :=
  text.tails.any needle.isPrefixOf

/-- The search finds exactly the infixes. -/
theorem contains_iff {text needle : Text} : contains text needle = true ↔ needle <:+: text := by
  rw [contains, List.any_eq_true, List.infix_iff_prefix_suffix]
  constructor
  · rintro ⟨tail, htail, hstart⟩
    exact ⟨tail, List.isPrefixOf_iff_prefix.mp hstart, (List.mem_tails ..).mp htail⟩
  · rintro ⟨tail, hstart, hsuffix⟩
    exact ⟨tail, (List.mem_tails ..).mpr hsuffix, List.isPrefixOf_iff_prefix.mpr hstart⟩

/-- A text that contains a word contains every part of the word. -/
theorem contains_of_part {text needle part : Text} (hpart : part <:+: needle)
    (h : contains text needle = true) : contains text part = true :=
  contains_iff.mpr (hpart.trans (contains_iff.mp h))

/-- A text that lacks a part of a word lacks the word. -/
theorem not_contains_of_part {text needle part : Text} (hpart : part <:+: needle)
    (h : contains text part = false) : contains text needle = false :=
  Bool.eq_false_iff.mpr fun hneedle => Bool.eq_false_iff.mp h (contains_of_part hpart hneedle)

/-- Split a text whose first characters may still belong to the last separator found. -/
def splitFrom (separator : Text) : ℕ → Text → List Text
  | _, [] => [[]]
  | skip + 1, _ :: rest => splitFrom separator skip rest
  | 0, c :: rest =>
    if separator.isPrefixOf (c :: rest) then [] :: splitFrom separator (separator.length - 1) rest
    else (splitFrom separator 0 rest).modifyHead (List.cons c)

/-- `text.split(separator)` for a separator that is not empty. -/
def split (text separator : Text) : List Text :=
  splitFrom separator 0 text

/-- A text without the separator is its own only piece. -/
theorem split_of_not_contains {text separator : Text} (h : contains text separator = false) :
    split text separator = [text] := by
  have hinfix : ¬ separator <:+: text := by
    rw [← contains_iff, h]
    exact Bool.false_ne_true
  clear h
  rw [split]
  induction text with
  | nil => rfl
  | cons c rest ih =>
    have hrest : ¬ separator <:+: rest := fun hin => hinfix (hin.trans (List.suffix_cons c rest).isInfix)
    have hstart : separator.isPrefixOf (c :: rest) = false := by
      rw [Bool.eq_false_iff]
      exact fun hp => hinfix (List.isPrefixOf_iff_prefix.mp hp).isInfix
    rw [splitFrom, hstart, ih hrest]
    rfl

/-! ## Characters -/

/-- An ASCII character. -/
def isAscii (c : Char) : Bool :=
  decide (c.toNat < 128)

/-- The value of an ASCII decimal digit. -/
def asciiDecimal (c : Char) : Option ℕ :=
  if c.isDigit then some (c.toNat - '0'.toNat) else none

/-- The ASCII characters that `str.isspace` accepts. -/
def isAsciiSpace (c : Char) : Bool :=
  c == ' ' || decide (9 ≤ c.toNat ∧ c.toNat ≤ 13) || decide (28 ≤ c.toNat ∧ c.toNat ≤ 31)

/-- The character properties that the interpreter reads from its Unicode tables. -/
structure Unicode where
  /-- The value of a decimal digit of some script, which is what `\d` matches. -/
  decimal : Char → Option ℕ
  /-- `str.isdigit` on one character. -/
  isDigit : Char → Bool
  /-- `str.isspace` on one character. -/
  isSpace : Char → Bool
  decimal_lt : ∀ c value, decimal c = some value → value < 10
  isDigit_of_decimal : ∀ c value, decimal c = some value → isDigit c = true
  decimal_ascii : ∀ c, isAscii c = true → decimal c = asciiDecimal c
  isDigit_ascii : ∀ c, isAscii c = true → isDigit c = c.isDigit
  isSpace_ascii : ∀ c, isAscii c = true → isSpace c = isAsciiSpace c

/-- An ASCII decimal digit is below ten. -/
theorem asciiDecimal_lt {c : Char} {value : ℕ} (h : asciiDecimal c = some value) : value < 10 := by
  rw [asciiDecimal] at h
  split at h
  · rename_i hdigit
    obtain rfl : c.toNat - '0'.toNat = value := Option.some.inj h
    have hle : c.toNat ≤ 57 := by
      simp only [Char.isDigit, ge_iff_le, Bool.and_eq_true, decide_eq_true_eq] at hdigit
      exact hdigit.2
    have hzero : '0'.toNat = 48 := rfl
    omega
  · cases h

/-- The tables that know the ASCII characters only. -/
def Unicode.ascii : Unicode where
  decimal := asciiDecimal
  isDigit := Char.isDigit
  isSpace := isAsciiSpace
  decimal_lt _ _ := asciiDecimal_lt
  isDigit_of_decimal c value h := by
    rw [asciiDecimal] at h
    split at h
    · assumption
    · cases h
  decimal_ascii _ _ := rfl
  isDigit_ascii _ _ := rfl
  isSpace_ascii _ _ := rfl

variable (unicode : Unicode)

/-- `text.isdigit()`. -/
def isdigit (text : Text) : Bool :=
  !text.isEmpty && text.all unicode.isDigit

/-- Drop the characters with a property from both ends of a text. -/
def stripWhile (p : Char → Bool) (text : Text) : Text :=
  (text.dropWhile p).rdropWhile p

/-- `text.strip()`. -/
def strip (text : Text) : Text :=
  stripWhile unicode.isSpace text

/-! ## Numerals -/

/-- What `int` reads for one character: other scripts' blanks and digits in ASCII. -/
def toAscii (c : Char) : Char :=
  if isAscii c then c
  else if unicode.isSpace c then ' '
  else match unicode.decimal c with
    | some value => Nat.digitChar value
    | none => '?'

/-- C's `isspace`. -/
def isCSpace (c : Char) : Bool :=
  c == ' ' || decide (9 ≤ c.toNat ∧ c.toNat ≤ 13)

/-- The value of a digit or letter as a digit of some base up to 36. -/
def digitValue (c : Char) : Option ℕ :=
  if c.isDigit then some (c.toNat - '0'.toNat)
  else if c.isLower then some (c.toNat - 'a'.toNat + 10)
  else if c.isUpper then some (c.toNat - 'A'.toNat + 10)
  else none

/-- The value of a digit of the base. -/
def digitOf (base : ℕ) (c : Char) : Option ℕ :=
  (digitValue c).filter fun value => decide (value < base)

/-- The number that digits spell, with single underscores between them; the flag says
whether the character before is a digit. -/
def readDigits (base : ℕ) : Bool → ℕ → Text → Option ℕ
  | afterDigit, number, [] => if afterDigit then some number else none
  | afterDigit, number, c :: rest =>
    match digitOf base c with
    | some value => readDigits base true (number * base + value) rest
    | none => if afterDigit && c == '_' then readDigits base false number rest else none

/-- The base that the first two characters of a numeral announce. -/
def prefixBase : Text → Option ℕ
  | '0' :: c :: _ =>
    if c == 'x' || c == 'X' then some 16
    else if c == 'o' || c == 'O' then some 8
    else if c == 'b' || c == 'B' then some 2
    else none
  | _ => none

/-- A base that is a power of two, whose numerals are converted digit by digit. -/
def isBinaryBase (base : ℕ) : Bool :=
  base &&& (base - 1) == 0

/-- The interpreter converts a numeral of so many digits: any number of them in a binary base or
without a limit. -/
def withinLimit (maxStrDigits : Option ℕ) (base : ℕ) (text : Text) : Bool :=
  isBinaryBase base || maxStrDigits.all fun limit =>
    decide (text.countP (fun c => (digitOf base c).isSome) ≤ limit)

/-- The number that a numeral without a sign and a prefix spells, if it is short enough. -/
def readNumeral (maxStrDigits : Option ℕ) (base : ℕ) (text : Text) : Option ℕ :=
  if withinLimit maxStrDigits base text then readDigits base false 0 text else none

/-- The number that an unsigned numeral spells. In base 0 the prefix decides, and a decimal
numeral has no leading zero unless it is zero. -/
def magnitude (maxStrDigits : Option ℕ) (base : ℕ) (text : Text) : Option ℕ :=
  match prefixBase text with
  | some announced =>
    if base = 0 ∨ base = announced then
      let digits := text.drop 2
      readNumeral maxStrDigits announced (if digits.head? = some '_' then digits.tail else digits)
    else readNumeral maxStrDigits base text
  | none =>
    if base = 0 then
      (readNumeral maxStrDigits 10 text).filter fun number => text.head? != some '0' || number == 0
    else readNumeral maxStrDigits base text

/-- `int(text, base)`, without a value where Python raises `ValueError`. The limit is that of
`sys.set_int_max_str_digits`. -/
def int (maxStrDigits : Option ℕ) (base : ℕ) (text : Text) : Option ℤ :=
  match stripWhile isCSpace (text.map (toAscii unicode)) with
  | '-' :: rest => (magnitude maxStrDigits base rest).map fun number => -(number : ℤ)
  | '+' :: rest => (magnitude maxStrDigits base rest).map Int.ofNat
  | unsigned => (magnitude maxStrDigits base unsigned).map Int.ofNat

/-! ## Bytes and lists -/

/-- A byte string. -/
abbrev Bytes := List UInt8

/-- The bytes that pairs of hexadecimal digits spell, as the hexadecimal codec decodes them. -/
def unhex : Text → Option Bytes
  | [] => some []
  | [_] => none
  | high :: low :: rest => do
    let highValue ← digitOf 16 high
    let lowValue ← digitOf 16 low
    let bytes ← unhex rest
    some (UInt8.ofNat (highValue * 16 + lowValue) :: bytes)

/-- `'%x' % number`. -/
def hexText (number : ℤ) : Text :=
  if number < 0 then '-' :: Nat.toDigits 16 number.natAbs else Nat.toDigits 16 number.natAbs

/-- `int.from_bytes(bytes, "big")`. -/
def fromBytes (bytes : Bytes) : ℕ :=
  bytes.foldl (fun number byte => number * 256 + byte.toNat) 0

/-- `items[index] = value` with Python's negative indices, without a list where Python raises
`IndexError`. -/
def setIndex {α : Type*} (items : List α) (index : ℤ) (value : α) : Option (List α) :=
  let position := if index < 0 then index + items.length else index
  if 0 ≤ position ∧ position < items.length then some (items.set position.toNat value) else none

/-- A dictionary, in insertion order. -/
abbrev Dict (α : Type*) := List (Text × α)

/-- `dict[key] = value`: a key that is there keeps its place. -/
def Dict.setItem {α : Type*} (dict : Dict α) (key : Text) (value : α) : Dict α :=
  match dict with
  | [] => [(key, value)]
  | (held, old) :: rest =>
    if held = key then (key, value) :: rest else (held, old) :: Dict.setItem rest key value

/-- A key that is not there is entered behind the others. -/
theorem Dict.setItem_of_not_mem {α : Type*} {dict : Dict α} {key : Text} (value : α)
    (h : key ∉ dict.map Prod.fst) : Dict.setItem dict key value = dict ++ [(key, value)] := by
  induction dict with
  | nil => rfl
  | cons held rest ih =>
    rw [List.map_cons, List.mem_cons, not_or] at h
    rw [Dict.setItem, if_neg fun heq => h.1 heq.symm, ih h.2]
    rfl

/-- A key is entered in one place. -/
theorem Dict.length_setItem_le {α : Type*} (dict : Dict α) (key : Text) (value : α) :
    (Dict.setItem dict key value).length ≤ dict.length + 1 := by
  induction dict with
  | nil => exact le_rfl
  | cons held rest ih =>
    rw [Dict.setItem]
    split
    · exact Nat.le_succ _
    · exact Nat.succ_le_succ ih

end Python
