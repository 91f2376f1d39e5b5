import NetworkingRecipe.CString.Memory
import NetworkingRecipe.Gnmi.KeyValues
import NetworkingRecipe.Loop.Fuel
import Mathlib.Data.Bool.AllAny

/-!
# The cursor in memory

The parser of parameters as it works in place: it reads the string character by character, writes
terminators behind the key and the value, and moves the cursor behind them. The memory ends with the
terminator of the string, so that every access behind it is a fault.
-/

namespace NetworkingRecipe.Gnmi.GnmiCtl.InPlace

open CString Loop

/-- The characters that separate parameters. -/
def separators : List Char := ", \t\r\n".toList

/-- The characters that end a key. -/
def keyEnds : List Char := ":=(, \t\r\n".toList

/-- `parse_value` on what stands at its argument, from a depth of open parentheses on: outside of
parentheses the delimiters are looked for, and inside of them the parentheses that close them. -/
def parseValue (delimiters : List Char) : (level : ℕ) → List Char → Access ℕ
  | _, [] => .error .outOfBounds
  | 0, c :: rest =>
    if strchr delimiters c then .ok 0
    else if c = '(' then (parseValue delimiters 1 rest).map (· + 1)
    else (parseValue delimiters 0 rest).map (· + 1)
  | level + 1, c :: rest =>
    if c = '\x00' then .ok 0
    else if c = '(' then (parseValue delimiters (level + 2) rest).map (· + 1)
    else if c = ')' then (parseValue delimiters level rest).map (· + 1)
    else (parseValue delimiters (level + 1) rest).map (· + 1)

/-- The value ends with `)->`. The characters are read as far as they agree. -/
def isArrow (memory : List Char) (address : ℕ) : Access Bool := do
  if (← load memory address) = ')' then
    if (← load memory (address + 1)) = '-' then
      let last ← load memory (address + 2)
      .ok (last == '>')
    else .ok false
  else .ok false

/-- The length of the value behind a delimiter. -/
def valueLength (memory : List Char) (keyDelim : Char) (value : ℕ) : Access ℕ :=
  if keyDelim = ':' ∨ keyDelim = '=' then parseValue separators 0 (memory.drop value)
  else do
    let valueLen ← parseValue [')'] 0 (memory.drop value)
    if ← isArrow memory (value + valueLen) then
      let others ← parseValue separators 0 (memory.drop (value + valueLen))
      .ok (valueLen + others)
    else .ok valueLen

/-- What a call leaves: the memory, the cursor, and where the key and the value start, if there are any. -/
structure Call where
  memory : List Char
  stringp : ℕ
  found : Option (ℕ × ℕ)
  deriving DecidableEq, Repr

/-- The delimiters that a value stands behind. -/
def OpensValue (delimiter : Char) : Prop :=
  delimiter = ':' ∨ delimiter = '=' ∨ delimiter = '('

instance (delimiter : Char) : Decidable (OpensValue delimiter) :=
  inferInstanceAs (Decidable (delimiter = ':' ∨ delimiter = '=' ∨ delimiter = '('))

/-- The second half of a call, behind the key and the terminator that ends it. -/
def extractValue (memory : List Char) (key keyLen : ℕ) (keyDelim : Char) : Access Call := do
  let stringp := key + keyLen + if keyDelim ≠ '\x00' then 1 else 0
  if OpensValue keyDelim then
    let value := stringp
    let valueLen ← valueLength memory keyDelim value
    let valueDelim ← load memory (value + valueLen)
    let memory ← store memory (value + valueLen) '\x00'
    let stringp := value + valueLen + if valueDelim ≠ '\x00' then 1 else 0
    .ok ⟨memory, stringp, some (key, value)⟩
  else .ok ⟨memory, stringp, some (key, key + keyLen)⟩

/-- `client_parse_key_value` -/
def clientParseKeyValue (memory : List Char) (stringp : ℕ) : Access Call := do
  let key := stringp + (← strspn memory stringp separators)
  if (← load memory key) = '\x00' then .ok ⟨memory, key, none⟩
  else
    let keyLen ← strcspn memory key keyEnds
    let keyDelim ← load memory (key + keyLen)
    let memory ← store memory (key + keyLen) '\x00'
    extractValue memory key keyLen keyDelim

/-! ### Characters -/

/-- The separators are found. -/
theorem contains_separators (c : Char) : separators.contains c = isSeparator c := by
  rw [Bool.eq_iff_iff]
  simp [separators, isSeparator, or_assoc]

/-- The characters that end a key are found. -/
theorem contains_keyEnds (c : Char) : keyEnds.contains c = endsKey c := by
  have hends : keyEnds = ':' :: '=' :: '(' :: separators := rfl
  rw [hends, List.contains_cons, List.contains_cons, List.contains_cons, contains_separators, endsKey,
    Bool.or_assoc, Bool.or_assoc]

/-! ### Values -/

/-- A value is read up to its end, or to the terminator of the string. -/
theorem parseValue_eq {delimiters text : List Char} (htext : '\x00' ∉ text) (level : ℕ) (rest : List Char) :
    parseValue delimiters level (text ++ '\x00' :: rest) =
      .ok (GnmiCtl.parseValue (fun c => delimiters.contains c) level text) := by
  induction text generalizing level with
  | nil =>
    cases level with
    | zero => exact if_pos (by simp [strchr])
    | succ level => exact if_pos rfl
  | cons c text ih =>
    have hc : c ≠ '\x00' := fun h => htext (h ▸ List.mem_cons_self)
    have hothers := ih fun h => htext (List.mem_cons_of_mem c h)
    cases level with
    | zero =>
      have hfound : strchr delimiters c = delimiters.contains c := by simp [strchr, hc]
      rw [List.cons_append, parseValue, GnmiCtl.parseValue, hfound, hothers, hothers]
      simp only [beq_iff_eq]
      split
      · rfl
      · split <;> rfl
    | succ level =>
      rw [List.cons_append, parseValue, GnmiCtl.parseValue, if_neg hc, hothers, hothers, hothers]
      simp only [beq_iff_eq]
      split
      · rfl
      · split <;> rfl

/-- A value is not longer than the text. -/
theorem parseValue_le (isDelimiter : Char → Bool) (level : ℕ) (text : List Char) :
    GnmiCtl.parseValue isDelimiter level text ≤ text.length := by
  induction text generalizing level with
  | nil => rw [GnmiCtl.parseValue, List.length_nil]
  | cons c text ih =>
    have hzero := ih 0
    cases level with
    | zero =>
      have hone := ih 1
      rw [GnmiCtl.parseValue, List.length_cons]
      split
      · exact Nat.zero_le _
      · split <;> omega
    | succ level =>
      have hinner := ih (level + 2)
      have houter := ih level
      have hsame := ih (level + 1)
      rw [GnmiCtl.parseValue, List.length_cons]
      split
      · omega
      · split <;> omega

variable {memory : List Char}

/-- The end of a value is looked at as far as it agrees. -/
theorem isArrow_eq {address : ℕ} {text : List Char} (htext : '\x00' ∉ text)
    (h : memory.drop address = text ++ ['\x00']) :
    isArrow memory address = .ok ([')', '-', '>'].isPrefixOf text) := by
  obtain - | ⟨c, text⟩ := text
  · rw [isArrow, load_of_drop h]
    rfl
  have hsecond : memory.drop (address + 1) = text ++ ['\x00'] := by rw [← List.drop_drop, h]; rfl
  rw [isArrow, load_of_drop h, ok_bind]
  by_cases hc : c = ')'
  · subst hc
    rw [if_pos rfl]
    obtain - | ⟨d, text⟩ := text
    · rw [load_of_drop hsecond]
      rfl
    have hthird : memory.drop (address + 2) = text ++ ['\x00'] := by
      rw [← List.drop_drop, h]
      rfl
    rw [load_of_drop hsecond, ok_bind]
    by_cases hd : d = '-'
    · subst hd
      rw [if_pos rfl]
      obtain - | ⟨e, text⟩ := text
      · rw [load_of_drop hthird]
        rfl
      · rw [load_of_drop hthird, ok_bind]
        simpa [List.isPrefixOf] using eq_comm
    · rw [if_neg hd]
      simp [List.isPrefixOf, Ne.symm hd]
  · rw [if_neg hc]
    simp [List.isPrefixOf, Ne.symm hc]

/-- The length of the value that a string starts with. -/
def valueCount (keyDelim : Char) (text : List Char) : ℕ :=
  if keyDelim = ':' ∨ keyDelim = '=' then GnmiCtl.parseValue isSeparator 0 text else parenthesizedLength text

/-- A value is not longer than the string. -/
theorem valueCount_le (keyDelim : Char) (text : List Char) : valueCount keyDelim text ≤ text.length := by
  have hplain := parseValue_le isSeparator 0 text
  have hinner := parseValue_le (fun c => c == ')') 0 text
  have harrow := parseValue_le isSeparator 0 (text.drop (GnmiCtl.parseValue (fun c => c == ')') 0 text))
  rw [List.length_drop] at harrow
  rw [valueCount, parenthesizedLength]
  split
  · exact hplain
  · split <;> omega

/-- The length of a value is the one that the string has. -/
theorem valueLength_eq {value : ℕ} {text : List Char} (htext : '\x00' ∉ text)
    (h : memory.drop value = text ++ ['\x00']) (keyDelim : Char) :
    valueLength memory keyDelim value = .ok (valueCount keyDelim text) := by
  have hseparators : (fun c => separators.contains c) = isSeparator := funext contains_separators
  have hclose : (fun c => [')'].contains c) = fun c => c == ')' := by
    funext c
    rw [List.contains_cons, List.contains_nil, Bool.or_false]
  rw [valueLength, valueCount]
  split
  · rw [h, parseValue_eq htext, hseparators]
  · rw [h, parseValue_eq htext, hclose, ok_bind, parenthesizedLength]
    generalize hcount : GnmiCtl.parseValue (fun c => c == ')') 0 text = count
    have hle : count ≤ text.length := hcount ▸ parseValue_le _ 0 text
    have hdrop : memory.drop (value + count) = text.drop count ++ ['\x00'] := by
      rw [← List.drop_drop, h, List.drop_append_of_le_length hle]
    have hfree : '\x00' ∉ text.drop count := fun hmem => htext (List.mem_of_mem_drop hmem)
    rw [isArrow_eq hfree hdrop, ok_bind]
    split
    · rw [hdrop, parseValue_eq hfree, hseparators]
      rfl
    · rfl

/-! ### A call -/

/-- What a call does that finds a key: the cursor moves on and stands in front of the rest of the string, the
key and the value are strings in the memory, and nothing has changed in front of the cursor. -/
structure Takes (memory : List Char) (stringp : ℕ) (found : KeyValueRest) (call : Call) : Prop where
  cursor_lt : stringp < call.stringp
  rest_at : call.memory.drop call.stringp = found.rest ++ ['\x00']
  length_eq : call.memory.length = memory.length
  front_eq : call.memory.take stringp = memory.take stringp
  strings : ∃ keyp valuep, call.found = some (keyp, valuep) ∧ stringAt call.memory keyp = found.key ∧
    stringAt call.memory valuep = found.value

/-- A call on a string without a key moves the cursor to the terminator. -/
theorem clientParseKeyValue_none {stringp : ℕ} {text : List Char} (h : memory.drop stringp = text ++ ['\x00'])
    (hnone : GnmiCtl.clientParseKeyValue text = none) :
    clientParseKeyValue memory stringp = .ok ⟨memory, stringp + text.length, none⟩ := by
  have hskip : text.dropWhile isSeparator = [] := by
    rw [GnmiCtl.clientParseKeyValue] at hnone
    split at hnone
    · assumption
    · dsimp only at hnone
      split at hnone
      · cases hnone
      · split at hnone
        · cases hnone
        · split at hnone <;> cases hnone
  have htake : text.takeWhile isSeparator = text := by
    rw [← List.append_nil (text.takeWhile isSeparator), ← hskip, List.takeWhile_append_dropWhile]
  have hseparators : (fun c => separators.contains c) = isSeparator := funext contains_separators
  rw [clientParseKeyValue, strspn_of_drop (by decide) h, hseparators, htake, ok_bind]
  dsimp only
  rw [load_of_drop (drop_add_of_drop h), ok_bind, if_pos rfl]

/-- A string taken apart: separators, a key, and what is left with the delimiter in front. -/
structure Split (text seps key tail : List Char) : Prop where
  text_eq : text = seps ++ (key ++ tail)
  seps_eq : text.takeWhile isSeparator = seps
  key_eq : (key ++ tail).takeWhile (fun c => !endsKey c) = key
  start_ne : key ++ tail ≠ []

/-- What is found in a string is found in its parts. -/
theorem exists_split {text : List Char} {found : KeyValueRest}
    (hfound : GnmiCtl.clientParseKeyValue text = some found) :
    ∃ seps key tail, Split text seps key tail ∧
      found = if OpensValue (tail.headD '\x00') then
          cutValue key tail.tail (valueCount (tail.headD '\x00') tail.tail)
        else ⟨key, [], tail.tail⟩ := by
  rw [GnmiCtl.clientParseKeyValue] at hfound
  split at hfound
  · cases hfound
  rename_i c others hstart
  have hparts := List.takeWhile_append_dropWhile (p := fun c => !endsKey c) (l := c :: others)
  refine ⟨text.takeWhile isSeparator, (c :: others).takeWhile fun c => !endsKey c,
    (c :: others).dropWhile fun c => !endsKey c, ⟨?_, rfl, ?_, ?_⟩, ?_⟩
  · rw [hparts, ← hstart, List.takeWhile_append_dropWhile]
  · rw [hparts]
  · rw [hparts]
    exact List.cons_ne_nil c others
  · dsimp only at hfound
    generalize (c :: others).takeWhile (fun c => !endsKey c) = key at hfound ⊢
    split at hfound
    · rename_i htail
      rw [htail, if_neg (by decide)]
      exact (Option.some.inj hfound).symm
    · rename_i delimiter behind htail
      rw [htail, List.headD_cons, List.tail_cons]
      simp only [Bool.or_eq_true, beq_iff_eq] at hfound
      split at hfound
      · rename_i hvalue
        rw [if_pos (by rw [OpensValue, ← or_assoc]; exact Or.inl hvalue), valueCount, if_pos hvalue]
        exact (Option.some.inj hfound).symm
      · rename_i hplain
        split at hfound
        · rename_i hopen
          rw [if_pos (show OpensValue delimiter from Or.inr (Or.inr hopen)), valueCount, if_neg hplain]
          exact (Option.some.inj hfound).symm
        · rename_i hopen
          rw [if_neg (by rw [OpensValue, ← or_assoc]; exact not_or.mpr ⟨hplain, hopen⟩)]
          exact (Option.some.inj hfound).symm

variable {stringp : ℕ} {text seps key tail : List Char}

/-- A call finds the key behind the separators and writes the terminator behind it. -/
theorem clientParseKeyValue_split (htext : '\x00' ∉ text) (h : memory.drop stringp = text ++ ['\x00'])
    (hsplit : Split text seps key tail) :
    clientParseKeyValue memory stringp =
      extractValue (memory.set (stringp + seps.length + key.length) '\x00') (stringp + seps.length) key.length
        (tail.headD '\x00') := by
  obtain ⟨rfl, hseps, hkey, hne⟩ := hsplit
  have hseparators : (fun c => separators.contains c) = isSeparator := funext contains_separators
  have hends : (fun c => !keyEnds.contains c) = fun c => !endsKey c := by
    funext c
    rw [contains_keyEnds]
  have hstart : memory.drop (stringp + seps.length) = key ++ (tail ++ ['\x00']) := by
    rw [List.append_assoc] at h
    rw [drop_add_of_drop h, List.append_assoc]
  have hfree : '\x00' ∉ key ++ tail := fun hmem => htext (List.mem_append_right seps hmem)
  have hkeyAt : memory.drop (stringp + seps.length) = (key ++ tail) ++ '\x00' :: [] := by
    rw [hstart, List.append_assoc]
  obtain ⟨hload, hstore, -, -⟩ := cut_of_drop (fun hmem => hfree (List.mem_append_right key hmem)) hstart
  obtain ⟨c, others, hc⟩ := List.exists_cons_of_ne_nil hne
  have hfirst : memory.drop (stringp + seps.length) = c :: (others ++ ['\x00']) := by
    rw [hkeyAt, hc]
    rfl
  have hnot : c ≠ '\x00' := fun hmem => hfree (hc ▸ hmem ▸ List.mem_cons_self)
  rw [clientParseKeyValue, strspn_of_drop (by decide) h, hseparators, hseps, ok_bind]
  dsimp only
  rw [load_of_drop hfirst, ok_bind, if_neg hnot, strcspn_of_drop hfree hkeyAt, hends, hkey, ok_bind, hload,
    ok_bind, hstore, ok_bind]

/-- A call has moved behind the key, or behind its delimiter if the key is empty. -/
theorem Split.advances (hsplit : Split text seps key tail) (htext : '\x00' ∉ text) :
    0 < key.length + if tail.headD '\x00' ≠ '\x00' then 1 else 0 := by
  obtain - | ⟨c, key⟩ := key
  · obtain ⟨c, others, rfl⟩ := List.exists_cons_of_ne_nil hsplit.start_ne
    have hmem : c ∈ text := by
      rw [hsplit.text_eq]
      exact List.mem_append_right seps List.mem_cons_self
    rw [List.headD_cons, if_pos (ne_of_mem_of_not_mem hmem htext), List.length_nil]
    exact Nat.one_pos
  · rw [List.length_cons]
    omega

/-- Behind a key without a value the string goes on. -/
theorem extractValue_bare (htext : '\x00' ∉ text) (h : memory.drop stringp = text ++ ['\x00'])
    (hsplit : Split text seps key tail) (hbare : ¬ OpensValue (tail.headD '\x00')) :
    ∃ call, extractValue (memory.set (stringp + seps.length + key.length) '\x00') (stringp + seps.length)
        key.length (tail.headD '\x00') = .ok call ∧ Takes memory stringp ⟨key, [], tail.tail⟩ call := by
  have hadvances := hsplit.advances htext
  obtain ⟨rfl, -, -, -⟩ := hsplit
  have hkey : '\x00' ∉ key := fun hmem => htext (List.mem_append_right _ (List.mem_append_left _ hmem))
  have htail : '\x00' ∉ tail := fun hmem => htext (List.mem_append_right _ (List.mem_append_right _ hmem))
  rw [List.append_assoc] at h
  have hstart := drop_add_of_drop h
  rw [List.append_assoc] at hstart
  obtain ⟨-, -, hset, hrest⟩ := cut_of_drop htail hstart
  rw [extractValue]
  dsimp only
  rw [if_neg hbare]
  refine ⟨_, rfl, ?_, hrest, List.length_set, ?_, _, _, rfl, ?_, ?_⟩
  · dsimp only
    omega
  · exact List.take_set_of_le (by omega)
  · exact stringAt_of_drop hkey hset
  · exact stringAt_of_drop List.not_mem_nil (drop_add_of_drop hset)

/-- Behind a value the string goes on. -/
theorem extractValue_value (htext : '\x00' ∉ text) (h : memory.drop stringp = text ++ ['\x00'])
    (hsplit : Split text seps key tail) (hvalue : OpensValue (tail.headD '\x00')) :
    ∃ call, extractValue (memory.set (stringp + seps.length + key.length) '\x00') (stringp + seps.length)
        key.length (tail.headD '\x00') = .ok call ∧
      Takes memory stringp (cutValue key tail.tail (valueCount (tail.headD '\x00') tail.tail)) call := by
  have hadvances := hsplit.advances htext
  obtain ⟨rfl, -, -, -⟩ := hsplit
  have hkey : '\x00' ∉ key := fun hmem => htext (List.mem_append_right _ (List.mem_append_left _ hmem))
  have htail : '\x00' ∉ tail := fun hmem => htext (List.mem_append_right _ (List.mem_append_right _ hmem))
  have hbehind : '\x00' ∉ tail.tail := fun hmem => htail (List.mem_of_mem_tail hmem)
  rw [List.append_assoc] at h
  have hstart := drop_add_of_drop h
  rw [List.append_assoc] at hstart
  obtain ⟨-, -, hset, hrest⟩ := cut_of_drop htail hstart
  have hdelimiter : tail.headD '\x00' ≠ '\x00' := by
    rintro hzero
    rw [hzero] at hvalue
    exact absurd hvalue (by decide)
  generalize tail.headD '\x00' = delimiter at *
  rw [if_pos hdelimiter] at hrest
  have hcount := valueCount_le delimiter tail.tail
  have hlength := valueLength_eq hbehind hrest delimiter
  generalize valueCount delimiter tail.tail = count at *
  generalize tail.tail = behind at *
  have hvalueAt : (memory.set (stringp + seps.length + key.length) '\x00').drop
      (stringp + seps.length + key.length + 1) = behind.take count ++ (behind.drop count ++ ['\x00']) := by
    rw [hrest, ← List.append_assoc, List.take_append_drop]
  have hfree : '\x00' ∉ behind.drop count := fun hmem => hbehind (List.mem_of_mem_drop hmem)
  obtain ⟨hload, hstore, hset', hrest'⟩ := cut_of_drop hfree hvalueAt
  rw [List.length_take_of_le hcount] at hload hstore hset' hrest'
  rw [extractValue]
  dsimp only
  rw [if_pos hvalue, if_pos hdelimiter, hlength, ok_bind, hload, ok_bind, hstore, ok_bind]
  refine ⟨_, rfl, ?_, hrest', ?_, ?_, _, _, rfl, ?_, ?_⟩
  · dsimp only
    omega
  · rw [List.length_set, List.length_set]
  · rw [List.take_set_of_le (by omega), List.take_set_of_le (by omega)]
  · have hsplit : key ++ '\x00' :: (tail ++ ['\x00']).tail = (key ++ ['\x00']) ++ (tail ++ ['\x00']).tail := by
      rw [List.append_assoc]
      rfl
    rw [hsplit] at hset
    have hposition : stringp + seps.length + (key ++ ['\x00']).length ≤
        stringp + seps.length + key.length + 1 + count := by
      rw [List.length_append, List.length_singleton]
      omega
    have hkept := drop_set_of_lt hset hposition '\x00'
    rw [List.append_assoc] at hkept
    exact stringAt_of_drop hkey hkept
  · exact stringAt_of_drop (fun hmem => hbehind (List.mem_of_mem_take hmem)) hset'

/-- A call on a string in memory takes from it what the string has. -/
theorem clientParseKeyValue_takes (htext : '\x00' ∉ text) (h : memory.drop stringp = text ++ ['\x00'])
    {found : KeyValueRest} (hfound : GnmiCtl.clientParseKeyValue text = some found) :
    ∃ call, clientParseKeyValue memory stringp = .ok call ∧ Takes memory stringp found call := by
  obtain ⟨seps, key, tail, hsplit, hparts⟩ := exists_split hfound
  rw [clientParseKeyValue_split htext h hsplit, hparts]
  split
  · rename_i hvalue
    exact extractValue_value htext h hsplit hvalue
  · rename_i hbare
    exact extractValue_bare htext h hsplit hbare

/-! ### Repeated calls -/

/-- The memory, the cursor, and the keys and values that have been read so far. -/
structure State where
  memory : List Char
  stringp : ℕ
  taken : List KeyValue
  deriving DecidableEq, Repr

/-- The cursor in front of a string, in a memory that ends with it. -/
def State.start (text : List Char) : State :=
  ⟨text ++ ['\x00'], 0, []⟩

/-- A call, after which the key and the value are read if there are any. -/
def nextCall (state : State) : Pass State (Access (List KeyValue)) :=
  match clientParseKeyValue state.memory state.stringp with
  | .error fault => .leave (.error fault)
  | .ok call =>
    match call.found with
    | none => .leave (.ok state.taken)
    | some (keyp, valuep) =>
      .again ⟨call.memory, call.stringp,
        state.taken ++ [⟨stringAt call.memory keyp, stringAt call.memory valuep⟩]⟩

/-- The states that repeated calls on a string go through. -/
inductive Reached (text : List Char) : State → Prop
  | start : Reached text (.start text)
  | next {state next : State} : Reached text state → nextCall state = .again next → Reached text next

/-- The string that is left in a state: it stands at the cursor and ends with the memory. -/
structure Left (size : ℕ) (state : State) (text : List Char) : Prop where
  free : '\x00' ∉ text
  text_at : state.memory.drop state.stringp = text ++ ['\x00']
  length_eq : state.memory.length = size + 1

/-- The rest of a string is the end of it. -/
theorem rest_suffix {found : KeyValueRest} (hfound : GnmiCtl.clientParseKeyValue text = some found) :
    found.rest <:+ text := by
  obtain ⟨seps, key, tail, ⟨rfl, -, -, -⟩, rfl⟩ := exists_split hfound
  have htail : tail.tail <:+ seps ++ (key ++ tail) :=
    (List.tail_suffix tail).trans ((List.suffix_append key tail).trans (List.suffix_append seps _))
  split
  · rw [cutValue]
    exact (List.tail_suffix _).trans ((List.drop_suffix _ _).trans htail)
  · exact htail

variable {size : ℕ} {state : State}

/-- A call on the string that is left finds its first key, if it has one, and leaves the rest of it. -/
theorem Left.nextCall (hleft : Left size state text) {key value rest : List Char}
    (hfound : GnmiCtl.clientParseKeyValue text = some ⟨key, value, rest⟩) :
    ∃ next, InPlace.nextCall state = .again next ∧ next.taken = state.taken ++ [⟨key, value⟩] ∧
      Left size next rest := by
  obtain ⟨call, hcall, htakes⟩ := clientParseKeyValue_takes hleft.free hleft.text_at hfound
  obtain ⟨keyp, valuep, hstrings, rfl, rfl⟩ := htakes.strings
  have hfree : '\x00' ∉ rest := fun hmem => hleft.free ((rest_suffix hfound).subset hmem)
  refine ⟨⟨call.memory, call.stringp, state.taken ++ [⟨stringAt call.memory keyp, stringAt call.memory valuep⟩]⟩,
    ?_, rfl, hfree, htakes.rest_at, htakes.length_eq.trans hleft.length_eq⟩
  rw [InPlace.nextCall, hcall]
  dsimp only
  rw [hstrings]

/-- A call on a string without keys is the last one. -/
theorem Left.nextCall_none (hleft : Left size state text)
    (hnone : GnmiCtl.clientParseKeyValue text = none) :
    InPlace.nextCall state = .leave (.ok state.taken) := by
  rw [InPlace.nextCall, clientParseKeyValue_none hleft.text_at hnone]

/-- Repeated calls read the keys and values that are left, and end. -/
theorem Left.run (hleft : Left size state text) :
    ∃ calls, Loop.run InPlace.nextCall calls state = some (.ok (state.taken ++ keyValues text)) := by
  induction text using keyValues.induct generalizing state with
  | case1 text hnone =>
    refine ⟨1, ?_⟩
    rw [run_of_leave (hleft.nextCall_none hnone), keyValues_of_none hnone, List.append_nil]
  | case2 text key value rest hfound ih =>
    obtain ⟨next, hnext, htaken, hrest⟩ := hleft.nextCall hfound
    obtain ⟨calls, hcalls⟩ := ih hrest
    refine ⟨calls + 1, ?_⟩
    rw [run_of_again hnext, hcalls, htaken, keyValues_of_some hfound, List.append_assoc]
    rfl

/-- In every state that is reached the end of the string is left. -/
theorem Reached.left (htext : '\x00' ∉ text) (h : Reached text state) :
    ∃ left, Left text.length state left := by
  induction h with
  | start => exact ⟨text, htext, rfl, List.length_append⟩
  | next hreached hnext ih =>
    obtain ⟨left, hleft⟩ := ih
    cases hfound : GnmiCtl.clientParseKeyValue left with
    | none => cases (hleft.nextCall_none hfound).symm.trans hnext
    | some found =>
      obtain ⟨next, hagain, -, hrest⟩ := hleft.nextCall hfound
      obtain rfl := Pass.again.inj (hagain.symm.trans hnext)
      exact ⟨_, hrest⟩

/-- What a call does in a state that is reached: it makes no access behind the terminator, moves the cursor
forward if it finds a key, but not behind the terminator, and leaves what stands in front of the cursor. -/
theorem Reached.call (htext : '\x00' ∉ text) (h : Reached text state) :
    ∃ call, clientParseKeyValue state.memory state.stringp = .ok call ∧ call.stringp ≤ text.length ∧
      (call.found.isSome → state.stringp < call.stringp) ∧
      call.memory.take state.stringp = state.memory.take state.stringp := by
  obtain ⟨left, hleft⟩ := h.left htext
  cases hfound : GnmiCtl.clientParseKeyValue left with
  | none =>
    refine ⟨_, clientParseKeyValue_none hleft.text_at hfound, ?_, nofun, rfl⟩
    have hlength := congrArg List.length hleft.text_at
    rw [List.length_drop, hleft.length_eq, List.length_append, List.length_singleton] at hlength
    dsimp only
    omega
  | some found =>
    obtain ⟨call, hcall, htakes⟩ := clientParseKeyValue_takes hleft.free hleft.text_at hfound
    refine ⟨call, hcall, ?_, fun _ => htakes.cursor_lt, htakes.front_eq⟩
    have hlength := congrArg List.length htakes.rest_at
    rw [List.length_drop, htakes.length_eq, hleft.length_eq, List.length_append, List.length_singleton] at hlength
    omega

/-- Repeated calls on a string. -/
theorem run_start (htext : '\x00' ∉ text) :
    ∃ calls, Loop.run InPlace.nextCall calls (.start text) = some (.ok (keyValues text)) :=
  Left.run ⟨htext, rfl, List.length_append⟩

/-- The parser makes progress and takes written items apart: in every state that repeated calls on a string
reach, a call makes no access behind the terminator, and one that finds a key moves the cursor forward, though not
behind the terminator; the calls end with one that finds nothing; and on a list of items with separators between
them they find exactly the keys and the values of the items, in order. -/
theorem progress_and_inverse :
    (∀ text : List Char, '\x00' ∉ text →
      (∀ state, Reached text state → ∃ call, clientParseKeyValue state.memory state.stringp = .ok call ∧
        call.stringp ≤ text.length ∧ (call.found.isSome → state.stringp < call.stringp) ∧
        call.memory.take state.stringp = state.memory.take state.stringp) ∧
      ∃ calls taken, Loop.run nextCall calls (.start text) = some (.ok taken)) ∧
    ∀ entries : List (List Char × Item), Separated entries → '\x00' ∉ renderItems entries →
      ∃ calls, Loop.run nextCall calls (.start (renderItems entries)) =
        some (.ok (entries.map fun entry => entry.2.keyValue)) := by
  refine ⟨fun text htext => ⟨fun state hreached => hreached.call htext, ?_⟩, fun entries hentries hfree => ?_⟩
  · obtain ⟨calls, hcalls⟩ := run_start htext
    exact ⟨calls, keyValues text, hcalls⟩
  · rw [← keyValues_renderItems hentries]
    exact run_start hfree

/-- `name=eth0` -/
def nameItem : Item :=
  ⟨"name".toList, "eth0".toList, .equals, by decide, List.all_iff_forall_prop.mp (by decide),
    List.all_iff_forall_prop.mp (by decide), balanced_of_not_mem (by decide) (by decide)⟩

/-- `ports(a, b)` -/
def portsItem : Item :=
  ⟨"ports".toList, "a, b".toList, .parenthesized, by decide, List.all_iff_forall_prop.mp (by decide),
    balanced_of_not_mem (by decide) (by decide)⟩

/-- `name=eth0` and `ports(a, b)` are taken apart in `name=eth0 , ports(a, b)`. -/
theorem progress_and_inverse_twoItems :
    ∃ calls, Loop.run nextCall calls (.start "name=eth0 , ports(a, b)".toList) =
      some (.ok [⟨"name".toList, "eth0".toList⟩, ⟨"ports".toList, "a, b".toList⟩]) := by
  have hseparated : Separated [([], nameItem), (" , ".toList, portsItem)] := by
    refine ⟨?_, ?_⟩
    · exact List.forall_mem_cons.mpr ⟨nofun, List.forall_mem_singleton.mpr (List.all_iff_forall_prop.mp (by decide))⟩
    · exact List.forall_mem_singleton.mpr (by decide)
  exact progress_and_inverse.2 [([], nameItem), (" , ".toList, portsItem)] hseparated (by decide)

end NetworkingRecipe.Gnmi.GnmiCtl.InPlace
