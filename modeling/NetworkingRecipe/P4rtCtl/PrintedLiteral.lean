import NetworkingRecipe.P4rtCtl.PrintedMatch

/-!
# Printed byte strings

A mask and the end of a range are printed as literals, which no reader takes for a value: a text that is
encoded has no quotation mark and no backslash.

A literal may contain separators, so that other keys are read from inside of it. They do not help: a value
that is read from inside a literal has fewer bytes that are not zero than the literal itself.
-/

namespace NetworkingRecipe.P4rtCtl

open Python

variable {env : Environment} {p4info : P4Info} {t : Table}

/-! ## Texts that are encoded -/

/-- A text without quotation marks and backslashes. -/
def Unquoted (text : Text) : Prop :=
  ∀ c ∈ ['\\', '"', '\''], c ∉ text

/-- The text of an IPv6 address consists of digits, colons and dots, and has a character for each byte that is
not zero. -/
def Environment.Ipv6Texts (env : Environment) : Prop :=
  ∀ text bytes, env.inetPton6 text = some bytes →
    (∀ c ∈ text, c = ':' ∨ c = '.' ∨ (digitOf 16 c).isSome) ∧ nonzeroBytes bytes ≤ text.length

/-- The environment that recognizes no IP address has no such text. -/
theorem Environment.ascii_ipv6Texts : Environment.ascii.Ipv6Texts :=
  fun _ _ h => nomatch h

/-- Texts of other characters are unquoted. -/
theorem unquoted_of_forall {accepts : Char → Prop} {text : Text} (h : ∀ c ∈ text, accepts c)
    (hquotes : ∀ c ∈ ['\\', '"', '\''], ¬ accepts c) : Unquoted text :=
  fun c hc hmem => hquotes c hc (h c hmem)

/-- The characters of a text that a pattern compares. -/
theorem mem_chomp {text : Text} {c : Char} (h : c ∈ text) (hline : c ≠ '\n') : c ∈ chomp text := by
  rw [chomp]
  split
  · rename_i hlast
    obtain ⟨front, rfl⟩ := List.getLast?_eq_some_iff.mp hlast
    rw [List.dropLast_concat]
    obtain h | h := List.mem_append.mp h
    · exact h
    · exact absurd (List.mem_singleton.mp h) hline
  · exact h

/-- A pattern does not compare more than the text. -/
theorem length_chomp_le (text : Text) : (chomp text).length ≤ text.length := by
  rw [chomp]
  split
  · rw [List.length_dropLast]
    exact Nat.sub_le _ _
  · exact le_rfl

/-- An IPv4 address has four characters at least, and no quotation mark. -/
theorem unquoted_of_matchesIPv4 {x : Text} (h : matchesIPv4 env x = true) : Unquoted x ∧ 4 ≤ x.length := by
  rw [matchesIPv4, Bool.and_eq_true, beq_iff_eq, List.all_eq_true] at h
  obtain ⟨hlength, hgroups⟩ := h
  have hdecimal : ∀ group ∈ split (chomp x) ['.'], ∀ c ∈ group, (env.unicode.decimal c).isSome := by
    intro group hgroup c hc
    exact List.all_eq_true.mp (Bool.and_eq_true_iff.mp (hgroups group hgroup)).2 c hc
  have hascii (c : Char) (hc : c ∈ ['\\', '"', '\'', '.']) : env.unicode.decimal c = none := by
    have hnone : ∀ c ∈ ['\\', '"', '\'', '.'], isAscii c = true ∧ asciiDecimal c = none :=
      List.all_iff_forall_prop.mp (by decide)
    rw [env.unicode.decimal_ascii c (hnone c hc).1, (hnone c hc).2]
  constructor
  · intro c hc hmem
    have hother : ∀ c ∈ ['\\', '"', '\''], c ≠ '\n' ∧ c ≠ '.' :=
      List.all_iff_forall_prop.mp (by decide)
    obtain ⟨group, hgroup, hmem⟩ := exists_mem_split (mem_chomp hmem (hother c hc).1) (hother c hc).2
    have hsome := hdecimal group hgroup c hmem
    rw [hascii c (List.mem_append_left ['.'] hc)] at hsome
    cases hsome
  · have hcount : (chomp x).count '.' + 1 = 4 := (length_split (chomp x)).symm.trans hlength
    obtain ⟨group, others, hsplit⟩ := List.exists_cons_of_length_eq_add_one hlength
    have hgroup : group ∈ split (chomp x) ['.'] := hsplit ▸ List.mem_cons_self
    have hpos := (Bool.and_eq_true_iff.mp (hgroups group hgroup)).1
    obtain ⟨c, hc⟩ := List.exists_mem_of_length_pos (of_decide_eq_true hpos).1
    have hne : (chomp x).count '.' ≠ (chomp x).length := by
      intro hall
      obtain rfl := List.count_eq_length.mp hall c (mem_of_mem_split hgroup hc)
      have hsome := hdecimal group hgroup '.' hc
      rw [hascii '.' (by decide)] at hsome
      cases hsome
    have hle := List.count_le_length (a := '.') (l := chomp x)
    have hchomp := length_chomp_le x
    omega

/-- An address has a character for each byte that is not zero, and no quotation mark. -/
theorem unquoted_of_addressOf (htexts : env.Ipv6Texts) {x : Text} {bytes : Bytes}
    (h : addressOf env x = some bytes) : Unquoted x ∧ nonzeroBytes bytes ≤ x.length := by
  have hcount : nonzeroBytes bytes ≤ bytes.length := List.countP_le_length
  rw [addressOf] at h
  split at h
  · obtain ⟨hdigits, hlength⟩ := digits_of_unhex h
    have hfilter := List.length_filter_le (fun c => c != ':') x
    refine ⟨fun c hc hmem => ?_, by omega⟩
    have hother : ∀ c ∈ ['\\', '"', '\''], (c != ':') = true ∧ digitOf 16 c = none :=
      List.all_iff_forall_prop.mp (by decide)
    exact hdigits.not_mem (hother c hc).2 (List.mem_filter.mpr ⟨hmem, (hother c hc).1⟩)
  · split at h
    · rename_i hipv4
      obtain ⟨hunquoted, hlength⟩ := unquoted_of_matchesIPv4 hipv4
      have hfour := env.inetAton_length x bytes h
      exact ⟨hunquoted, by omega⟩
    · split at h
      · obtain ⟨hchars, hle⟩ := htexts x bytes h
        exact ⟨unquoted_of_forall hchars (List.all_iff_forall_prop.mp (by decide)), hle⟩
      · cases h

/-- A numeral has a character for each byte of its number that is not zero, and no quotation mark. -/
theorem unquoted_of_readsNumber {x : Text} {bytes : Bytes} (h : ReadsNumber env x (fromBytes bytes)) :
    Unquoted x ∧ nonzeroBytes bytes ≤ x.length := by
  have hbound {base count : ℕ} (hbase : base ≤ 256) (hcount : count ≤ x.length)
      (hlt : (fromBytes bytes : ℤ).natAbs < base ^ count) : nonzeroBytes bytes ≤ x.length := by
    refine (nonzeroBytes_le_of_lt ?_).trans hcount
    exact hlt.trans_le (Nat.pow_le_pow_left hbase count)
  obtain ⟨hdigit, hint⟩ | ⟨hhex, hint⟩ := h
  · rw [isdigit, Bool.and_eq_true, List.all_eq_true] at hdigit
    refine ⟨unquoted_of_forall hdigit.2 fun c hc => ?_, hbound (by decide) le_rfl
      (natAbs_lt_of_int env.unicode env.maxStrDigits (by decide) hint)⟩
    have hother : ∀ c ∈ ['\\', '"', '\''], isAscii c = true ∧ c.isDigit = false :=
      List.all_iff_forall_prop.mp (by decide)
    rw [env.unicode.isDigit_ascii c (hother c hc).1, (hother c hc).2]
    exact Bool.false_ne_true
  · rw [isHexStr, Bool.and_eq_true, beq_iff_eq, List.all_eq_true] at hhex
    refine ⟨fun c hc hmem => ?_, hbound (by decide) ?_
      (natAbs_lt_of_int env.unicode env.maxStrDigits (by decide) hint)⟩
    · rw [← List.take_append_drop 2 x, hhex.1] at hmem
      have hother : ∀ c ∈ ['\\', '"', '\''], c ∉ "0x".toList ∧ digitOf 16 c = none :=
        List.all_iff_forall_prop.mp (by decide)
      obtain hmem | hmem := List.mem_append.mp hmem
      · exact (hother c hc).1 hmem
      · have hsome := hhex.2 c hmem
        rw [(hother c hc).2] at hsome
        cases hsome
    · rw [List.length_drop]
      exact Nat.sub_le _ _

/-- A text that is encoded has a character for each byte that is not zero, and no quotation mark. -/
theorem unquoted_of_encode (htexts : env.Ipv6Texts) {x : Text} {width : ℕ} (hpos : 1 ≤ width) {bytes : Bytes}
    (h : encode env (.scalar (.str x)) width = .ok (.bytes bytes)) :
    Unquoted x ∧ nonzeroBytes bytes ≤ x.length := by
  obtain ⟨⟨text, htext, h⟩ | ⟨number, _, hnumber, -⟩, -⟩ := encode_eq_ok_iff.mp h
  · cases htext
    obtain ⟨found, heq, haddress⟩ | ⟨found, number, heq, hnumber, hreads⟩ | ⟨heq, -⟩ := encodeText_cases h
    · cases heq
      exact unquoted_of_addressOf htexts haddress
    · cases heq
      rw [((encodeNum_eq_ok_iff hpos).mp hnumber).1] at hreads
      exact unquoted_of_readsNumber hreads
    · cases heq
  · cases hnumber

/-- So has a suffix. -/
theorem unquoted_of_suffix (htexts : env.Ipv6Texts) {suffix : Text} {read : Scalar}
    (hread : numberOrTextSuffix env suffix = .ok read) {width : ℕ} (hpos : 1 ≤ width) {bytes : Bytes}
    (h : encode env (.scalar read) width = .ok (.bytes bytes)) :
    Unquoted suffix ∧ nonzeroBytes bytes ≤ suffix.length := by
  rw [numberOrTextSuffix] at hread
  split at hread
  · rename_i hdigit
    obtain ⟨number, hnumber, rfl⟩ := map_eq_ok_iff.mp hread
    obtain ⟨⟨text, htext, -⟩ | ⟨number', _, hsame, hencode, heq⟩, -⟩ := encode_eq_ok_iff.mp h
    · cases htext
    · cases hsame
      cases heq
      have hreads : ReadsNumber env suffix number := Or.inl ⟨hdigit, orRaise_eq_ok_iff.mp hnumber⟩
      rw [((encodeNum_eq_ok_iff hpos).mp hencode).1] at hreads
      exact unquoted_of_readsNumber hreads
  · cases hread
    exact unquoted_of_encode htexts hpos h

/-! ## Keys and pieces -/

/-- The key that a piece enters into the dictionary, with its value. -/
inductive Enters (readSuffix : Text → Run Scalar) : Text → Text × Value → Prop
  | value {piece name value : Text} : cut piece "=".toList = .ok (name, value) → '/' ∉ value →
      Enters readSuffix piece (name, .scalar (.str value))
  | suffix {piece name value lpmValue lpmSuffix : Text} {read : Scalar} :
      cut piece "=".toList = .ok (name, value) → cut value "/".toList = .ok (lpmValue, lpmSuffix) →
      readSuffix lpmSuffix = .ok read → Enters readSuffix piece (name, .tuple [.str lpmValue, read])

variable {readSuffix : Text → Run Scalar}

/-- The key stands in front of the first equals sign. -/
theorem Enters.cut {piece : Text} {entry : Text × Value} (h : Enters readSuffix piece entry) :
    ∃ value, P4rtCtl.cut piece "=".toList = .ok (entry.1, value) := by
  cases h with
  | value hcut _ | suffix hcut _ _ => exact ⟨_, hcut⟩

/-- A piece is entered under its key. -/
theorem addMatchKey_cases {matchKeys result : Dict Value} {piece : Text}
    (h : addMatchKey readSuffix matchKeys piece = .ok result) :
    ∃ entry, Enters readSuffix piece entry ∧ result = matchKeys.setItem entry.1 entry.2 := by
  obtain ⟨⟨name, value⟩, hcut, h⟩ := bind_eq_ok_iff.mp h
  dsimp only at h
  split at h
  · obtain ⟨⟨lpmValue, lpmSuffix⟩, hvalue, h⟩ := bind_eq_ok_iff.mp h
    obtain ⟨read, hread, h⟩ := bind_eq_ok_iff.mp h
    cases h
    exact ⟨_, .suffix hcut hvalue hread, rfl⟩
  · rename_i hslash
    cases h
    refine ⟨_, .value hcut fun hmem => hslash (contains_iff.mpr ?_), rfl⟩
    obtain ⟨front, back, htext⟩ := List.append_of_mem hmem
    exact ⟨front, back, by rw [htext, List.append_assoc]; rfl⟩

/-- What is in a dictionary after a key has been set was there before, or is the key with its value. -/
theorem mem_of_mem_setItem {dict : Dict Value} {key : Text} {value : Value} {entry : Text × Value}
    (h : entry ∈ dict.setItem key value) : entry ∈ dict ∨ entry = (key, value) := by
  induction dict with
  | nil => exact Or.inr (List.mem_singleton.mp h)
  | cons held rest ih =>
    rw [Dict.setItem] at h
    split at h
    · obtain rfl | h := List.mem_cons.mp h
      · exact Or.inr rfl
      · exact Or.inl (List.mem_cons_of_mem _ h)
    · obtain rfl | h := List.mem_cons.mp h
      · exact Or.inl List.mem_cons_self
      · exact (ih h).imp_left (List.mem_cons_of_mem _)

/-- Every piece of a text that is read enters a key, and every key comes from a piece. -/
theorem enters_of_foldlM {pieces : List Text} {matchKeys result : Dict Value}
    (h : pieces.foldlM (addMatchKey readSuffix) matchKeys = .ok result) :
    (∀ piece ∈ pieces, ∃ entry, Enters readSuffix piece entry) ∧
      ∀ entry ∈ result, entry ∈ matchKeys ∨ ∃ piece ∈ pieces, Enters readSuffix piece entry := by
  induction pieces generalizing matchKeys with
  | nil =>
    cases h
    exact ⟨nofun, fun entry hentry => Or.inl hentry⟩
  | cons piece rest ih =>
    obtain ⟨next, hnext, h⟩ := bind_eq_ok_iff.mp h
    obtain ⟨entered, henters, rfl⟩ := addMatchKey_cases hnext
    obtain ⟨hpieces, hentries⟩ := ih h
    refine ⟨List.forall_mem_cons.mpr ⟨⟨entered, henters⟩, hpieces⟩, fun entry hentry => ?_⟩
    obtain hmem | ⟨other, hother, hothers⟩ := hentries entry hentry
    · obtain hmem | rfl := mem_of_mem_setItem hmem
      · exact Or.inl hmem
      · exact Or.inr ⟨piece, List.mem_cons_self, henters⟩
    · exact Or.inr ⟨other, List.mem_cons_of_mem _ hother, hothers⟩

/-! ## Pieces of a printed literal -/

/-- What stands in front of the bytes of a literal. -/
def BuiltField.literalHead (field : BuiltField t) (literal : Bytes) : Text :=
  field.declared.name ++ '=' :: (decodeToHex field.matched.first ++ '/' :: 'b' :: [reprQuote literal])

/-- A match field with a byte string is printed with the literal at its end. -/
theorem text_of_literal {field : BuiltField t} {literal : Bytes} (h : field.matched.literal = some literal) :
    field.text = field.literalHead literal ++ literalRest (reprQuote literal) literal := by
  rw [BuiltField.text, BuiltField.literalHead, formatValue]
  cases hmatched : field.matched with
  | exact value | lpm value prefixLen =>
    rw [hmatched] at h
    cases h
  | ternary value mask | range low high =>
    rw [hmatched] at h
    cases h
    simp [getMatchFieldValue, reprBytes, literalRest, FieldMatchType.first]

/-- In front of a literal stands no comma. -/
theorem comma_not_mem_literalHead {field : BuiltField t} (hname : Plain field.declared.name) (literal : Bytes) :
    ',' ∉ field.literalHead literal := by
  have hquote : ',' ≠ reprQuote literal := by
    obtain hquote | hquote := reprQuote_cases literal <;> rw [hquote] <;> decide
  simp [BuiltField.literalHead, hname.comma, not_mem_decodeToHex (c := ',') (by decide) (by decide), hquote]

/-- A number does not begin with a letter. -/
theorem numberSuffix_of_letter (rest : Text) : numberSuffix env ('b' :: rest) = .error .valueError := by
  have hstrip : ∃ others, stripWhile isCSpace (('b' :: rest).map (toAscii env.unicode)) = 'b' :: others := by
    have hb : toAscii env.unicode 'b' = 'b' := toAscii_eq_self env.unicode (by decide)
    rw [List.map_cons, hb, stripWhile, List.dropWhile_cons_of_neg (by decide)]
    have hstart := List.rdropWhile_prefix isCSpace ('b' :: rest.map (toAscii env.unicode))
    obtain hnil | ⟨others, hothers, -⟩ := List.prefix_cons_iff.mp hstart
    · have hall := List.rdropWhile_eq_nil_iff.mp hnil 'b' List.mem_cons_self
      exact absurd hall (by decide)
    · exact ⟨others, hothers⟩
  obtain ⟨others, hothers⟩ := hstrip
  have hint : int env.unicode env.maxStrDigits 10 ('b' :: rest) = none := by
    rw [int, hothers]
    change Option.map Int.ofNat (readNumeral env.maxStrDigits 10 ('b' :: others)) = none
    rw [readNumeral]
    split <;> rfl
  rw [numberSuffix, intOfText, hint]
  rfl

/-- The first piece of a printed literal enters the name of its field, and the literal as its suffix. -/
theorem enters_head {field : BuiltField t} {literal : Bytes} (hname : Plain field.declared.name) {rest : Text}
    {entry : Text × Value} (h : Enters readSuffix (field.literalHead literal ++ rest) entry) :
    entry.1 = field.declared.name ∧ ∃ others read,
      readSuffix ('b' :: reprQuote literal :: others) = .ok read ∧ entry.2.item 1 = .ok read := by
  have hquote : (reprQuote literal != '=') = true ∧ (reprQuote literal != '/') = true := by
    obtain hquote | hquote := reprQuote_cases literal <;> rw [hquote] <;> decide
  have hhex {c : Char} (hc : c = '=' ∨ c = '/') : ∀ d ∈ decodeToHex field.matched.first, (d != c) = true := by
    have hnot : c ∉ decodeToHex field.matched.first := by
      obtain rfl | rfl := hc <;> exact not_mem_decodeToHex (by decide) (by decide) _
    intro d hd
    rw [bne_iff_ne]
    rintro rfl
    exact hnot hd
  have hcut : cut (field.literalHead literal ++ rest) "=".toList = .ok (field.declared.name,
      decodeToHex field.matched.first ++ '/' :: 'b' :: reprQuote literal :: rest.takeWhile (· != '=')) := by
    refine (cut_eq_ok_iff (c := '=')).mpr
      ⟨decodeToHex field.matched.first ++ '/' :: 'b' :: reprQuote literal :: rest, ?_, hname.equals, ?_⟩
    · simp [BuiltField.literalHead]
    · rw [List.takeWhile_append_of_pos (hhex (Or.inl rfl)), List.takeWhile_cons_of_pos (by decide),
        List.takeWhile_cons_of_pos (by decide), List.takeWhile_cons, if_pos hquote.1]
  cases h with
  | value h hslash =>
    cases hcut.symm.trans h
    exact absurd (List.mem_append_right _ List.mem_cons_self) hslash
  | suffix h hvalue hread =>
    cases hcut.symm.trans h
    have hslash : '/' ∉ decodeToHex field.matched.first := not_mem_decodeToHex (by decide) (by decide) _
    have hcutValue : cut (decodeToHex field.matched.first ++
        '/' :: 'b' :: reprQuote literal :: rest.takeWhile (· != '=')) "/".toList =
        .ok (decodeToHex field.matched.first,
          'b' :: reprQuote literal :: (rest.takeWhile (· != '=')).takeWhile (· != '/')) := by
      refine (cut_eq_ok_iff (c := '/')).mpr ⟨_, rfl, hslash, ?_⟩
      rw [List.takeWhile_cons_of_pos (by decide), List.takeWhile_cons, if_pos hquote.2]
    cases hcutValue.symm.trans hvalue
    exact ⟨rfl, _, _, hread, rfl⟩

/-- A second half that is read from a piece inside a literal has fewer bytes that are not zero than the literal. -/
theorem nonzeroBytes_lt_of_enters (htexts : env.Ipv6Texts) {literal : Bytes} {piece : Text}
    (hpiece : piece ∈ (split (literalRest (reprQuote literal) literal) [',']).tail) {entry : Text × Value}
    (h : Enters (numberOrTextSuffix env) piece entry) {item : Scalar} (hitem : entry.2.item 1 = .ok item)
    {width : ℕ} (hpos : 1 ≤ width) {second : Bytes}
    (hencode : encode env (.scalar item) width = .ok (.bytes second)) :
    nonzeroBytes second < nonzeroBytes literal := by
  have hquote := reprQuote_cases literal
  obtain ⟨front, back, hliteral⟩ := exists_append_of_mem_tail_split hpiece
  obtain ⟨afterComma, hcomma, hcommaLt⟩ := exists_literalRest_of_separator hquote (by decide) hliteral
  have hequals {name value : Text} (hcut : cut piece "=".toList = .ok (name, value)) :
      ∃ afterEquals others, literalRest (reprQuote literal) afterEquals = value ++ others ∧
        nonzeroBytes afterEquals < nonzeroBytes afterComma := by
    obtain ⟨after, rfl, -, rfl⟩ := (cut_eq_ok_iff (c := '=')).mp hcut
    rw [List.append_assoc, List.cons_append] at hcomma
    obtain ⟨afterEquals, hequals, hlt⟩ := exists_literalRest_of_separator hquote (by decide) hcomma.symm
    refine ⟨afterEquals, after.dropWhile (· != '=') ++ back, ?_, hlt⟩
    rw [← hequals, ← List.append_assoc, List.takeWhile_append_dropWhile]
  cases h with
  | value hcut _ =>
    obtain ⟨afterEquals, -, -, hequalsLt⟩ := hequals hcut
    obtain ⟨c, -, hc⟩ := bind_eq_ok_iff.mp hitem
    cases hc
    have hle : nonzeroBytes second ≤ 1 := (unquoted_of_encode htexts hpos hencode).2
    omega
  | suffix hcut hvalue hread =>
    cases hitem
    obtain ⟨afterEquals, others, hrest, hequalsLt⟩ := hequals hcut
    obtain ⟨after, rfl, -, rfl⟩ := (cut_eq_ok_iff (c := '/')).mp hvalue
    rw [List.append_assoc, List.cons_append] at hrest
    obtain ⟨afterSlash, hslash, hslashLt⟩ := exists_literalRest_of_separator hquote (by decide) hrest
    obtain ⟨hunquoted, hle⟩ := unquoted_of_suffix htexts hread hpos hencode
    have hquoteFree : reprQuote literal ∉ after.takeWhile (· != '/') := by
      refine hunquoted _ ?_
      obtain hquote | hquote := hquote <;> rw [hquote] <;> decide
    have hstart : after.takeWhile (· != '/') <+: literalRest (reprQuote literal) afterSlash :=
      (List.takeWhile_prefix _).trans (hslash ▸ List.prefix_append after others)
    have hlength := length_le_of_prefix_literalRest hquote (hunquoted _ (by decide)) hquoteFree hstart
    omega

/-! ## Match lists with a byte string -/

/-- What is built for a field with a byte string has encoded the second item of the value as it. -/
theorem exists_encode_literal {mf : MatchField} {value : Value} {fieldMatchType : FieldMatchType}
    (h : FieldBuilt env mf value fieldMatchType) {literal : Bytes} (hliteral : fieldMatchType.literal = some literal) :
    ∃ item, value.item 1 = .ok item ∧ encode env (.scalar item) mf.bitwidth = .ok (.bytes literal) := by
  cases h with
  | exact | lpm => cases hliteral
  | ternary _ _ _ hitem hencode | range _ _ _ hitem hencode =>
    cases hliteral
    exact ⟨_, hitem, hencode⟩

/-- Two fields with one name have a byte string both or neither. -/
theorem literal_isSome_of_name (ht : Declares p4info t) {field other : BuiltField t}
    (hname : field.declared.name = other.declared.name) :
    field.matched.literal.isSome = other.matched.literal.isSome := by
  have hdeclared := List.inj_on_of_nodup_map ht.names_distinct field.declared_mem other.declared_mem hname
  have htype : field.matched.matchType = other.matched.matchType := by
    rw [← field.matchType_eq, ← other.matchType_eq, hdeclared]
  cases hfield : field.matched <;> cases hother : other.matched <;> rw [hfield, hother] at htype <;>
    first | rfl | cases htype

/-- A key whose value encodes a byte string comes from inside of another literal, with more bytes that are not
zero. -/
theorem exists_larger_literal (htexts : env.Ipv6Texts) (ht : Declares p4info t) (hnames : ReadableNames t)
    {fields : List (BuiltField t)} {field : BuiltField t} {literal : Bytes}
    (hliteral : field.matched.literal = some literal) {entry : Text × Value}
    (hname : entry.1 = field.declared.name) (hbuilt : FieldBuilt env field.declared entry.2 field.matched)
    {piece : Text} (hpiece : piece ∈ (fields.map BuiltField.text).flatMap fun text => split text [','])
    (h : Enters (numberOrTextSuffix env) piece entry) :
    ∃ other ∈ fields, ∃ larger, other.matched.literal = some larger ∧
      nonzeroBytes literal < nonzeroBytes larger := by
  obtain ⟨item, hitem, hencode⟩ := exists_encode_literal hbuilt hliteral
  rw [field.bitwidth_eq] at hencode
  obtain ⟨_, htext, hpiece⟩ := List.mem_flatMap.mp hpiece
  obtain ⟨other, hother, rfl⟩ := List.mem_map.mp htext
  have hplain := hnames.plain _ other.declared_mem
  cases hlarger : other.matched.literal with
  | none =>
    have hsplit : split other.text [','] = [other.text] := split_of_not_mem (comma_not_mem_printed hplain hlarger)
    rw [hsplit, List.mem_singleton] at hpiece
    obtain ⟨value, hcut⟩ := h.cut
    have hcutText : cut other.text "=".toList = .ok (other.declared.name, _) :=
      (cut_eq_ok_iff (c := '=')).mpr ⟨_, rfl, hplain.equals, rfl⟩
    rw [hpiece, hcutText] at hcut
    obtain ⟨hsame, -⟩ := Prod.mk.inj (Except.ok.inj hcut)
    have hsome := literal_isSome_of_name ht (hsame.trans hname)
    rw [hlarger, hliteral] at hsome
    cases hsome
  | some larger =>
    refine ⟨other, hother, larger, hlarger, ?_⟩
    obtain ⟨rest, hrest⟩ := exists_split_eq (c := ',') (literalRest (reprQuote larger) larger)
    rw [text_of_literal hlarger, split_append_of_not_mem (comma_not_mem_literalHead hplain larger), hrest,
      List.modifyHead_cons] at hpiece
    obtain rfl | hpiece := List.mem_cons.mp hpiece
    · obtain ⟨-, others, read, hread, hitem'⟩ := enters_head hplain h
      obtain rfl := Except.ok.inj (hitem.symm.trans hitem')
      have hunquoted := (unquoted_of_suffix htexts hread field.width_pos hencode).1
      refine absurd (List.mem_cons_of_mem _ List.mem_cons_self) (hunquoted (reprQuote larger) ?_)
      obtain hquote | hquote := reprQuote_cases larger <;> rw [hquote] <;> decide
    · exact nonzeroBytes_lt_of_enters htexts (by rw [hrest]; exact hpiece) h hitem field.width_pos hencode

end NetworkingRecipe.P4rtCtl
