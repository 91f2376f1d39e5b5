import NetworkingRecipe.Gnmi.KeyValue
import NetworkingRecipe.Gnmi.Path
import NetworkingRecipe.Numeral.Positional
import Mathlib.Data.UInt
import Mathlib.Data.Int.Notation

/-!
# Values of gnmi-ctl set

The type of a value is chosen with `strtol`: a text that it reads to the end becomes an integer. The
integer itself is read with `stoull`, which throws where there is nothing to read or the number does not
fit 64 bits, and whose unsigned result is stored in a signed field.

Both functions skip white space and read one sign and the digits behind it. They differ in what they do
without digits and out of range.
-/

namespace NetworkingRecipe.Gnmi

/-- The value of an update. -/
inductive TypedValue where
  | intVal (value : Int64)
  | stringVal (value : List Char)
  deriving DecidableEq, Repr

/-- A path and the value to be set at it. -/
structure Update where
  path : List PathElem
  val : TypedValue
  deriving DecidableEq, Repr

/-- The request that sets values. -/
structure SetRequest where
  replace : List Update := []
  update : List Update := []
  deriving DecidableEq, Repr

/-- The values that a request sets. -/
def SetRequest.values (req : SetRequest) : List TypedValue :=
  (req.replace ++ req.update).map Update.val

namespace GnmiCtl

/-! ### `strtol` and `stoull` -/

/-- `isspace` in the C locale. -/
def isSpace (c : Char) : Bool :=
  c == ' ' || c == '\t' || c == '\n' || c == '\x0b' || c == '\x0c' || c == '\r'

/-- The number of a digit. -/
def digitNumber (c : Char) : ℕ :=
  c.toNat - '0'.toNat

/-- The number of digits in base 10. -/
def decimalNumber (digits : List Char) : ℕ :=
  Numeral.value 10 digitNumber digits

/-- A sign, if there is one: whether it is a minus, and the text behind it. -/
def takeSign : List Char → Bool × List Char
  | '-' :: rest => (true, rest)
  | '+' :: rest => (false, rest)
  | text => (false, text)

/-- What the conversions read: the sign and the digits behind white space, and the rest of the text. -/
def scanDecimal (text : List Char) : Option (Bool × List Char × List Char) :=
  let signed := takeSign (text.dropWhile isSpace)
  let digits := signed.2.takeWhile Char.isDigit
  if digits = [] then none else some (signed.1, digits, signed.2.dropWhile Char.isDigit)

/-- The end that `strtol` reports; without digits it is the beginning. -/
def strtolEnd (text : List Char) : List Char :=
  match scanDecimal text with
  | none => text
  | some (_, _, rest) => rest

/-- The exceptions of `stoull`. -/
inductive StdException where
  | invalidArgument
  | outOfRange
  deriving DecidableEq, Repr

/-- `stoull`: a negative number wraps around. -/
def stoull (text : List Char) : Except StdException UInt64 :=
  match scanDecimal text with
  | none => .error .invalidArgument
  | some (negative, digits, _) =>
    if decimalNumber digits < 2 ^ 64 then
      .ok (if negative then -UInt64.ofNat (decimalNumber digits) else UInt64.ofNat (decimalNumber digits))
    else .error .outOfRange

/-- The value of an update: an integer if `strtol` reads the text to the end. -/
def typedValue (val : List Char) : Except StdException TypedValue :=
  if strtolEnd val ≠ [] then .ok (.stringVal val) else (stoull val).map fun number => .intVal number.toInt64

/-- `build_gnmi_set_req`, with the flag that replaces instead of updating. -/
def buildGnmiSetReq (replace : Bool) (path val : List Char) : Except StdException SetRequest :=
  (typedValue val).map fun value =>
    if replace then { replace := [⟨buildGnmiPath path, value⟩] }
    else { update := [⟨buildGnmiPath path, value⟩] }

/-! ### Numerals -/

/-- A sign in front of digits. -/
inductive Sign where
  | none | plus | minus
  deriving DecidableEq, Repr

/-- The text of a sign. -/
def Sign.text : Sign → List Char
  | .none => []
  | .plus => ['+']
  | .minus => ['-']

/-- The number with a sign. -/
def Sign.apply : Sign → ℕ → ℤ
  | .minus, number => -number
  | _, number => number

/-- A text is an optionally signed decimal numeral for a number. -/
def IsDecimal (val : List Char) (number : ℤ) : Prop :=
  ∃ (sign : Sign) (digits : List Char), digits ≠ [] ∧ (∀ c ∈ digits, c.isDigit = true) ∧
    val = sign.text ++ digits ∧ number = sign.apply (decimalNumber digits)

/-- The range of a signed 64-bit integer. -/
def InInt64 (number : ℤ) : Prop :=
  -2 ^ 63 ≤ number ∧ number < 2 ^ 63

/-- A value has the meaning of a text: a numeral in the range of a signed 64-bit integer is that integer, and
every other text is itself. -/
def Means (value : TypedValue) (val : List Char) : Prop :=
  (∀ number, IsDecimal val number → InInt64 number → ∃ int, value = .intVal int ∧ int.toInt = number) ∧
    ((∀ number, IsDecimal val number → ¬ InInt64 number) → value = .stringVal val)

/-- A request keeps the meaning of its value: it is built, and the value that it sets means the text. -/
def KeepsMeaning (replace : Bool) (path val : List Char) : Prop :=
  ∃ req value, buildGnmiSetReq replace path val = .ok req ∧ req.values = [value] ∧ Means value val

/-! ### What the conversions read -/

/-- A digit is no sign and no white space. -/
theorem not_isSpace_of_isDigit {c : Char} (h : c.isDigit = true) : isSpace c = false ∧ c ≠ '-' ∧ c ≠ '+' := by
  have hne (other : Char) (hother : other.isDigit = false) : c ≠ other := by
    rintro rfl
    exact absurd (h.symm.trans hother) Bool.true_eq_false_eq_False
  refine ⟨?_, hne '-' rfl, hne '+' rfl⟩
  simp only [isSpace, Bool.or_eq_false_iff, beq_eq_false_iff_ne]
  exact ⟨⟨⟨⟨⟨hne _ rfl, hne _ rfl⟩, hne _ rfl⟩, hne _ rfl⟩, hne _ rfl⟩, hne _ rfl⟩

/-- The sign in front of digits is taken. -/
theorem takeSign_text {digits : List Char} (hne : digits ≠ []) (hdigits : ∀ c ∈ digits, c.isDigit = true)
    (sign : Sign) (rest : List Char) :
    takeSign (sign.text ++ (digits ++ rest)) = (decide (sign = .minus), digits ++ rest) := by
  cases sign with
  | none =>
    obtain ⟨c, others, rfl⟩ := List.exists_cons_of_ne_nil hne
    obtain ⟨-, hminus, hplus⟩ := not_isSpace_of_isDigit (hdigits c List.mem_cons_self)
    change takeSign (c :: (others ++ rest)) = _
    rw [takeSign]
    · rfl
    · rintro tail ⟨rfl, -⟩
      exact hminus rfl
    · rintro tail ⟨rfl, -⟩
      exact hplus rfl
  | plus => rfl
  | minus => rfl

/-- A numeral is not empty and does not start with white space. -/
theorem head?_sign_digits {digits : List Char} (hne : digits ≠ []) (hdigits : ∀ c ∈ digits, c.isDigit = true)
    (sign : Sign) (rest : List Char) :
    ∃ c, (sign.text ++ (digits ++ rest)).head? = some c ∧ isSpace c = false := by
  cases sign with
  | none =>
    obtain ⟨c, others, rfl⟩ := List.exists_cons_of_ne_nil hne
    exact ⟨c, rfl, (not_isSpace_of_isDigit (hdigits c List.mem_cons_self)).1⟩
  | plus => exact ⟨'+', rfl, rfl⟩
  | minus => exact ⟨'-', rfl, rfl⟩

/-- The conversions read a sign and the digits behind white space. -/
theorem scanDecimal_append {space digits rest : List Char} (hspace : ∀ c ∈ space, isSpace c = true)
    (hne : digits ≠ []) (hdigits : ∀ c ∈ digits, c.isDigit = true)
    (hrest : ∀ c, rest.head? = some c → c.isDigit = false) (sign : Sign) :
    scanDecimal (space ++ (sign.text ++ (digits ++ rest))) = some (decide (sign = .minus), digits, rest) := by
  have hhead : ∀ c, (sign.text ++ (digits ++ rest)).head? = some c → isSpace c = false := by
    obtain ⟨first, hfirst, hnot⟩ := head?_sign_digits hne hdigits sign rest
    intro c hc
    rw [← Option.some.inj (hfirst.symm.trans hc)]
    exact hnot
  rw [scanDecimal, dropWhile_append_of_head hspace hhead, takeSign_text hne hdigits sign rest]
  dsimp only
  rw [takeWhile_append_of_head hdigits hrest, dropWhile_append_of_head hdigits hrest, if_neg hne]

/-- The sign that was taken. -/
theorem exists_sign (text : List Char) :
    ∃ sign : Sign, text = sign.text ++ (takeSign text).2 ∧ (takeSign text).1 = decide (sign = .minus) := by
  unfold takeSign
  split
  · exact ⟨.minus, rfl, rfl⟩
  · exact ⟨.plus, rfl, rfl⟩
  · exact ⟨.none, rfl, rfl⟩

/-- What the conversions read is the text. -/
theorem exists_of_scanDecimal {text digits rest : List Char} {negative : Bool}
    (h : scanDecimal text = some (negative, digits, rest)) :
    ∃ (space : List Char) (sign : Sign), (∀ c ∈ space, isSpace c = true) ∧ digits ≠ [] ∧
      (∀ c ∈ digits, c.isDigit = true) ∧ negative = decide (sign = .minus) ∧
      text = space ++ (sign.text ++ (digits ++ rest)) := by
  obtain ⟨sign, htext, hsign⟩ := exists_sign (text.dropWhile isSpace)
  rw [scanDecimal] at h
  split at h
  · cases h
  · rename_i hne
    simp only [Option.some.injEq, Prod.mk.injEq] at h
    obtain ⟨rfl, rfl, rfl⟩ := h
    refine ⟨text.takeWhile isSpace, sign, fun c hc => List.mem_takeWhile_imp hc, hne,
      fun c hc => List.mem_takeWhile_imp hc, hsign, ?_⟩
    rw [List.takeWhile_append_dropWhile, ← htext, List.takeWhile_append_dropWhile]

/-- The number that the conversions read. -/
def readNumber (negative : Bool) (digits : List Char) : ℤ :=
  if negative then -(decimalNumber digits : ℤ) else decimalNumber digits

/-- The number of a numeral is the one that is read. -/
theorem apply_eq_readNumber (sign : Sign) (digits : List Char) :
    sign.apply (decimalNumber digits) = readNumber (decide (sign = .minus)) digits := by
  cases sign <;> rfl

/-- A numeral behind white space is read to the end. -/
theorem scanDecimal_of_isDecimal {space numeral : List Char} {number : ℤ}
    (hspace : ∀ c ∈ space, isSpace c = true) (hnumeral : IsDecimal numeral number) :
    ∃ negative digits, scanDecimal (space ++ numeral) = some (negative, digits, []) ∧
      number = readNumber negative digits := by
  obtain ⟨sign, digits, hne, hdigits, rfl, rfl⟩ := hnumeral
  have hempty : ∀ c, ([] : List Char).head? = some c → c.isDigit = false := by
    intro c hc
    cases hc
  have hscan := scanDecimal_append hspace hne hdigits hempty sign
  rw [List.append_nil] at hscan
  exact ⟨_, digits, hscan, apply_eq_readNumber sign digits⟩

/-- What is read to the end is a numeral behind white space. -/
theorem exists_isDecimal_of_scanDecimal {text digits : List Char} {negative : Bool}
    (h : scanDecimal text = some (negative, digits, [])) :
    ∃ space numeral, text = space ++ numeral ∧ (∀ c ∈ space, isSpace c = true) ∧
      IsDecimal numeral (readNumber negative digits) := by
  obtain ⟨space, sign, hspace, hne, hdigits, rfl, htext⟩ := exists_of_scanDecimal h
  rw [List.append_nil] at htext
  exact ⟨space, sign.text ++ digits, htext, hspace, sign, digits, hne, hdigits, rfl,
    (apply_eq_readNumber sign digits).symm⟩

/-- A text that starts with white space is no numeral. -/
theorem not_isDecimal_of_space {c : Char} {text : List Char} (hc : isSpace c = true) (number : ℤ) :
    ¬ IsDecimal (c :: text) number := by
  rintro ⟨sign, digits, hne, hdigits, htext, -⟩
  obtain ⟨first, hfirst, hnot⟩ := head?_sign_digits hne hdigits sign []
  rw [List.append_nil, ← htext] at hfirst
  rw [← Option.some.inj hfirst, hc] at hnot
  cases hnot

/-! ### The value of an update -/

/-- A text that is not read to the end is stored as it is. -/
theorem typedValue_of_not_end {val : List Char} (h : strtolEnd val ≠ []) :
    typedValue val = .ok (.stringVal val) := by
  rw [typedValue, if_pos h]

/-- The empty text cannot be stored. -/
theorem typedValue_nil : typedValue [] = .error .invalidArgument := rfl

/-- A number that is read to the end is stored modulo 2^64, if it has at most 64 bits. -/
theorem typedValue_of_scanDecimal {val digits : List Char} {negative : Bool}
    (h : scanDecimal val = some (negative, digits, [])) :
    typedValue val =
      if decimalNumber digits < 2 ^ 64 then .ok (.intVal (Int64.ofInt (readNumber negative digits)))
      else .error .outOfRange := by
  have hend : strtolEnd val = [] := by rw [strtolEnd, h]
  have hint : (if negative then -UInt64.ofNat (decimalNumber digits)
      else UInt64.ofNat (decimalNumber digits)).toInt64 = Int64.ofInt (readNumber negative digits) := by
    cases negative with
    | false => exact Int64.ofInt_eq_ofNat.symm
    | true => exact Int64.neg_ofNat
  rw [typedValue, hend, if_neg (by simp), stoull, h]
  dsimp only
  split
  · rw [Except.map, hint]
  · rfl

/-- The texts whose meaning is kept: they are not empty, and no white space stands before a numeral, and no
numeral is out of the range of a signed 64-bit integer. -/
def Kept (val : List Char) : Prop :=
  val ≠ [] ∧ ∀ space numeral number, val = space ++ numeral → (∀ c ∈ space, isSpace c = true) →
    IsDecimal numeral number → space = [] ∧ InInt64 number

/-- A request keeps the meaning of its value if there is a value, and it means the text. -/
theorem keepsMeaning_iff_exists (replace : Bool) (path val : List Char) :
    KeepsMeaning replace path val ↔ ∃ value, typedValue val = .ok value ∧ Means value val := by
  rw [KeepsMeaning, buildGnmiSetReq]
  cases htyped : typedValue val with
  | error exception => exact iff_of_false (fun ⟨_, _, h, _⟩ => nomatch h) fun ⟨_, h, _⟩ => nomatch h
  | ok value =>
    constructor
    · rintro ⟨req, value', hreq, hvalues, hmeans⟩
      obtain rfl := Except.ok.inj hreq
      have hvalue : value = value' := by cases replace <;> exact List.singleton_inj.mp hvalues
      exact ⟨value, rfl, hvalue ▸ hmeans⟩
    · rintro ⟨value', hvalue, hmeans⟩
      obtain rfl := Except.ok.inj hvalue
      exact ⟨_, value, rfl, by cases replace <;> rfl, hmeans⟩

/-- A text that is not read to the end is kept if it is not empty. -/
theorem exists_means_iff_of_not_scan {val : List Char}
    (h : ∀ negative digits, scanDecimal val ≠ some (negative, digits, [])) :
    (∃ value, typedValue val = .ok value ∧ Means value val) ↔ Kept val := by
  have hnot : ∀ space numeral number, val = space ++ numeral → (∀ c ∈ space, isSpace c = true) →
      ¬ IsDecimal numeral number := by
    rintro space numeral number rfl hspace hnumeral
    obtain ⟨negative, digits, hscan, -⟩ := scanDecimal_of_isDecimal hspace hnumeral
    exact h negative digits hscan
  by_cases hval : val = []
  · refine iff_of_false ?_ fun hkept => hkept.1 hval
    rintro ⟨value, hvalue, -⟩
    rw [hval, typedValue_nil] at hvalue
    cases hvalue
  · refine iff_of_true ⟨.stringVal val, typedValue_of_not_end ?_, ?_, fun _ => rfl⟩ ⟨hval, ?_⟩
    · rw [strtolEnd]
      split
      · exact hval
      · rename_i negative digits rest hscan
        rintro rfl
        exact h negative digits hscan
    · intro number hnumber
      exact absurd hnumber (hnot [] val number rfl nofun)
    · intro space numeral number htext hspace hnumeral
      exact absurd hnumeral (hnot space numeral number htext hspace)

/-- A numeral is not empty. -/
theorem ne_nil_of_isDecimal {val : List Char} {number : ℤ} (h : IsDecimal val number) : val ≠ [] := by
  obtain ⟨sign, digits, hne, -, rfl, -⟩ := h
  exact List.append_ne_nil_of_right_ne_nil _ hne

/-- A number in the range of a signed 64-bit integer has at most 64 bits. -/
theorem lt_of_inInt64 {negative : Bool} {digits : List Char} (h : InInt64 (readNumber negative digits)) :
    decimalNumber digits < 2 ^ 64 := by
  rw [InInt64, readNumber] at h
  split at h <;> omega

/-- A text that is read to the end is kept if nothing stands before the numeral and it is in range. -/
theorem exists_means_iff_of_scan {val digits : List Char} {negative : Bool}
    (h : scanDecimal val = some (negative, digits, [])) :
    (∃ value, typedValue val = .ok value ∧ Means value val) ↔ Kept val := by
  obtain ⟨space, numeral, rfl, hspace, hnumeral⟩ := exists_isDecimal_of_scanDecimal h
  have hunique : ∀ number, IsDecimal (space ++ numeral) number → number = readNumber negative digits := by
    intro number hnumber
    obtain ⟨negative', digits', hscan, rfl⟩ := @scanDecimal_of_isDecimal [] _ _ nofun hnumber
    rw [List.nil_append, h] at hscan
    obtain ⟨rfl, rfl⟩ : negative = negative' ∧ digits = digits' := by simpa using hscan
    rfl
  constructor
  · rintro ⟨value, hvalue, -, hstring⟩
    have hdecimal : ∃ number, IsDecimal (space ++ numeral) number ∧ InInt64 number := by
      by_contra hnone
      have htext := hstring fun number hnumber hrange => hnone ⟨number, hnumber, hrange⟩
      rw [typedValue_of_scanDecimal h, htext] at hvalue
      split at hvalue
      · cases Except.ok.inj hvalue
      · cases hvalue
    obtain ⟨number, hnumber, hrange⟩ := hdecimal
    refine ⟨ne_nil_of_isDecimal hnumber, fun space' numeral' number' htext hspace' hnumeral' => ?_⟩
    obtain ⟨negative', digits', hscan, rfl⟩ := scanDecimal_of_isDecimal hspace' hnumeral'
    rw [← htext, h] at hscan
    obtain ⟨rfl, rfl⟩ : negative = negative' ∧ digits = digits' := by simpa using hscan
    rw [← hunique number hnumber]
    refine ⟨?_, hrange⟩
    cases space' with
    | nil => rfl
    | cons c others =>
      rw [htext] at hnumber
      exact absurd hnumber (not_isDecimal_of_space (hspace' c List.mem_cons_self) number)
  · rintro ⟨-, hkept⟩
    obtain ⟨rfl, hrange⟩ := hkept space numeral _ rfl hspace hnumeral
    refine ⟨.intVal (Int64.ofInt (readNumber negative digits)), ?_, fun number hnumber hnumberRange => ?_,
      fun hnone => absurd hrange (hnone _ hnumeral)⟩
    · rw [typedValue_of_scanDecimal h, if_pos (lt_of_inInt64 hrange)]
    · obtain rfl := hunique number hnumber
      exact ⟨_, rfl, Int64.toInt_ofInt_of_le hrange.1 hrange.2⟩

/-- A request keeps the meaning of its value if and only if the value is not empty and is not a numeral behind
white space or out of the range of a signed 64-bit integer. -/
theorem keepsMeaning_iff (replace : Bool) (path val : List Char) :
    KeepsMeaning replace path val ↔ Kept val := by
  rw [keepsMeaning_iff_exists]
  cases hscan : scanDecimal val with
  | none => exact exists_means_iff_of_not_scan fun _ _ h => nomatch hscan.symm.trans h
  | some found =>
    obtain ⟨negative, digits, rest⟩ := found
    cases rest with
    | nil => exact exists_means_iff_of_scan hscan
    | cons c rest => exact exists_means_iff_of_not_scan fun _ _ h => nomatch hscan.symm.trans h

/-! ### What is stored -/

/-- A text spells a number: it is a decimal numeral, or has one behind white space. -/
def Spells (text : List Char) (number : ℤ) : Prop :=
  ∃ space numeral, text = space ++ numeral ∧ (∀ c ∈ space, isSpace c = true) ∧ IsDecimal numeral number

/-- What is stored for a text: the number that it spells modulo 2^64, which has at most 64 bits, and the
text itself if it spells none. -/
def Stores (value : TypedValue) (text : List Char) : Prop :=
  (∀ number, Spells text number → number.natAbs < 2 ^ 64 ∧ value = .intVal (Int64.ofInt number)) ∧
    ((∀ number, ¬ Spells text number) → value = .stringVal text)

/-- A text spells the number that is read to its end. -/
theorem spells_iff {text : List Char} {number : ℤ} :
    Spells text number ↔
      ∃ negative digits, scanDecimal text = some (negative, digits, []) ∧ number = readNumber negative digits := by
  constructor
  · rintro ⟨space, numeral, rfl, hspace, hnumeral⟩
    exact scanDecimal_of_isDecimal hspace hnumeral
  · rintro ⟨negative, digits, hscan, rfl⟩
    obtain ⟨space, numeral, htext, hspace, hnumeral⟩ := exists_isDecimal_of_scanDecimal hscan
    exact ⟨space, numeral, htext, hspace, hnumeral⟩

/-- The magnitude of the number that is read is that of its digits. -/
theorem natAbs_readNumber (negative : Bool) (digits : List Char) :
    (readNumber negative digits).natAbs = decimalNumber digits := by
  cases negative with
  | false => exact Int.natAbs_natCast _
  | true => exact (Int.natAbs_neg _).trans (Int.natAbs_natCast _)

/-- A text that spells no number is not read to its end. -/
theorem strtolEnd_ne_nil {text : List Char} (hne : text ≠ []) (h : ∀ number, ¬ Spells text number) :
    strtolEnd text ≠ [] := by
  rw [strtolEnd]
  split
  · exact hne
  · rename_i negative digits rest hscan
    rintro rfl
    exact h _ (spells_iff.mpr ⟨negative, digits, hscan, rfl⟩)

/-- A value that is built is what is stored for its text. -/
theorem stores_of_typedValue {text : List Char} {value : TypedValue} (h : typedValue text = .ok value) :
    Stores value text := by
  constructor
  · intro number hspells
    obtain ⟨negative, digits, hscan, rfl⟩ := spells_iff.mp hspells
    rw [typedValue_of_scanDecimal hscan] at h
    split at h
    · rename_i hlt
      exact ⟨by rw [natAbs_readNumber]; exact hlt, (Except.ok.inj h).symm⟩
    · cases h
  · intro hnone
    have hne : text ≠ [] := by
      rintro rfl
      rw [typedValue_nil] at h
      cases h
    rw [typedValue_of_not_end (strtolEnd_ne_nil hne hnone)] at h
    exact (Except.ok.inj h).symm

/-- A value is built for a text that spells no number of more than 64 bits. -/
theorem exists_typedValue_of_spells {text : List Char} (hne : text ≠ [])
    (h : ∀ number, Spells text number → number.natAbs < 2 ^ 64) : ∃ value, typedValue text = .ok value := by
  by_cases hspells : ∃ number, Spells text number
  · obtain ⟨number, hnumber⟩ := hspells
    obtain ⟨negative, digits, hscan, rfl⟩ := spells_iff.mp hnumber
    have hlt := h _ hnumber
    rw [natAbs_readNumber] at hlt
    exact ⟨_, (typedValue_of_scanDecimal hscan).trans (if_pos hlt)⟩
  · exact ⟨_, typedValue_of_not_end (strtolEnd_ne_nil hne (not_exists.mp hspells))⟩

/-- A vhost port is called a link. -/
def vhostValue (vhostDevice : Bool) (configValue : List Char) : List Char :=
  if (configValue = "link".toList ∨ configValue = "LINK".toList) ∧ vhostDevice then "vhost".toList
  else configValue

/-- A parameter that the command passes on: a path and a value that `traverse_params` leaves. -/
def PassesOn (path val : List Char) : Prop :=
  ∃ params buffer found vhostDevice, traverseParams params buffer = .ok found ∧ found.params = true ∧
    path = found.nodePath ∧ val = vhostValue vhostDevice found.configValue

/-- A key without a value is passed on as the empty text, which throws. -/
theorem not_keepsMeaning :
    ¬ ∀ replace path val, PassesOn path val → KeepsMeaning replace path val := by
  intro h
  have hpasses : PassesOn "/interfaces/virtual-interface[name=net_vhost0]/config/mtu".toList [] :=
    ⟨"mtu".toList, "/interfaces/virtual-interface[name=net_vhost0]/".toList, ⟨[], _, [], true⟩, false,
      by decide, rfl, rfl, by decide⟩
  obtain ⟨req, value, hreq, -⟩ := h false _ _ hpasses
  rw [buildGnmiSetReq, typedValue_nil] at hreq
  cases hreq

end GnmiCtl

end NetworkingRecipe.Gnmi
