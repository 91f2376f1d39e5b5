import NetworkingRecipe.P4rtCtl.BuiltEntry
import NetworkingRecipe.P4rtCtl.EntryText
import NetworkingRecipe.P4rtCtl.FlowRoundTrip
import Mathlib.Data.List.Nodup
import Mathlib.Data.Nat.Digits.Defs

/-!
# Printed match fields

The match fields of an entry that is built are printed under the names of their declarations, and a
value that is printed in hexadecimal is encoded again as the same bytes if it is below the power of two
that the declared width gives.

A match list without a mask and without the end of a range is therefore read back key by key.
-/

namespace NetworkingRecipe.P4rtCtl

open Python

variable {env : Environment} {p4info : P4Info} {t : Table}

/-! ## Texts -/

/-- A match field as it is printed under the name of its declaration. -/
def BuiltField.text (field : BuiltField t) : Text :=
  field.declared.name ++ '=' :: formatValue field.matched

/-- A match field's name is found by its identifier. -/
theorem getMatchFieldName_of_mem (ht : Declares p4info t) {mf : MatchField} (hmf : mf ∈ t.matchFields) :
    p4info.getMatchFieldName t.preamble.name mf.id = .ok mf.name := by
  rw [P4Info.getMatchFieldName, fields_of_declares ht, find?_of_nodup ht.ids_distinct hmf]
  rfl

/-- The name of a table is found by its identifier. -/
theorem getTablesName_of_declares (ht : Declares p4info t) :
    p4info.getTablesName t.preamble.id = .ok t.preamble.name := by
  rw [P4Info.getTablesName, getById, ht.by_id]
  rfl

/-- A match list is printed as the texts of its fields. -/
theorem formatMatch_fields (ht : Declares p4info t) (fields : List (BuiltField t)) :
    formatMatch p4info t.preamble.name (fields.map BuiltField.toFieldMatch) =
      .ok (join ',' (fields.map BuiltField.text)) := by
  refine bind_eq_ok_iff.mpr ⟨fields.map BuiltField.text, ?_, rfl⟩
  induction fields with
  | nil => rfl
  | cons field rest ih =>
    have hfield : formatMatchField p4info t.preamble.name field.toFieldMatch = .ok field.text :=
      bind_eq_ok_iff.mpr ⟨_, getMatchFieldName_of_mem ht field.declared_mem, rfl⟩
    rw [List.map_cons, List.mapM_cons, hfield, ih]
    rfl

/-! ## Hexadecimal values -/

/-- A numeral in hexadecimal is encoded as the number that it spells. -/
theorem encodeText_of_hexDigits (henv : env.Ipv6HasColon) {digits : Text} (hdigits : Digits 16 digits)
    (hne : digits ≠ []) (bitwidth : ℤ) :
    encodeText env ("0x".toList ++ digits) bitwidth = .bytes <$> encodeNum (numeral 16 digits) bitwidth := by
  have hmem : ∀ {c : Char}, c ∉ "0x".toList → digitOf 16 c = none → c ∉ "0x".toList ++ digits :=
    fun hprefix hdigit h => (List.mem_append.mp h).elim hprefix (hdigits.not_mem hdigit)
  have hline : '\n' ∉ "0x".toList ++ digits := hmem (by decide) (by decide)
  have hcolon : ':' ∉ "0x".toList ++ digits := hmem (by decide) (by decide)
  have hdot : '.' ∉ "0x".toList ++ digits := hmem (by decide) (by decide)
  have hdecimal : isdigit env.unicode ("0x".toList ++ digits) = false := by
    have hx : env.unicode.isDigit 'x' = false := (env.unicode.isDigit_ascii 'x' (by decide)).trans (by decide)
    rw [isdigit, List.all_append]
    simp [hx]
  have hhex : isHexStr ("0x".toList ++ digits) = true := by
    rw [isHexStr, Bool.and_eq_true]
    exact ⟨rfl, List.all_eq_true.mpr hdigits⟩
  have hint : int env.unicode env.maxStrDigits 16 (("0x".toList ++ digits).drop 2) =
      some (numeral 16 digits : ℤ) := by
    change int env.unicode env.maxStrDigits 16 digits = _
    rw [int_of_hexDigits env.unicode env.maxStrDigits hdigits hne]
  have hvalid : env.validIpv6 ("0x".toList ++ digits) = some false := henv _ (List.cons_ne_nil _ _) hcolon
  rw [encodeText, not_matchesMac hline hcolon, not_matchesIPv4 hline hdot, matchesIPv6, hvalid, hdecimal, hhex,
    hint]
  rfl

/-- A character of a value in hexadecimal is a digit or the letter of the prefix. -/
theorem mem_decodeToHex {bytes : Bytes} {c : Char} (h : c ∈ decodeToHex bytes) :
    c = 'x' ∨ (digitOf 16 c).isSome := by
  obtain h | h := List.mem_append.mp h
  · obtain rfl | rfl : c = '0' ∨ c = 'x' := by simpa using h
    · exact Or.inr (by decide)
    · exact Or.inl rfl
  · exact Or.inr (digits_hexlify bytes c h)

/-- A character that is neither a digit nor the letter of the prefix is not in a value in hexadecimal. -/
theorem not_mem_decodeToHex {c : Char} (hletter : c ≠ 'x') (hdigit : digitOf 16 c = none) (bytes : Bytes) :
    c ∉ decodeToHex bytes := by
  intro h
  obtain h | h := mem_decodeToHex h
  · exact hletter h
  · rw [hdigit] at h
    cases h

/-- A value in hexadecimal is encoded as the number that its bytes spell. -/
theorem encodeText_decodeToHex (henv : env.Ipv6HasColon) {bytes : Bytes} (hne : bytes ≠ []) (bitwidth : ℤ) :
    encodeText env (decodeToHex bytes) bitwidth = .bytes <$> encodeNum (fromBytes bytes) bitwidth := by
  rw [decodeToHex, encodeText_of_hexDigits henv (digits_hexlify bytes) (hexlify_ne_nil hne), numeral_hexlify]

/-- A value in hexadecimal is encoded as its bytes if and only if their number is below the power of two. -/
theorem encode_decodeToHex_eq_ok_iff (henv : env.Ipv6HasColon) {bytes bytes' : Bytes} {width : ℕ}
    (hpos : 1 ≤ width) (hlength : bytes.length = (width + 7) / 8) :
    encode env (.scalar (.str (decodeToHex bytes))) width = .ok (.bytes bytes') ↔
      bytes' = bytes ∧ fromBytes bytes < 2 ^ width := by
  have hne : bytes ≠ [] := by
    rintro rfl
    rw [List.length_nil] at hlength
    omega
  have hencode : encodeText env (decodeToHex bytes) width = .ok (.bytes bytes') ↔
      encodeNum (fromBytes bytes) width = .ok bytes' := by
    rw [encodeText_decodeToHex henv hne, map_eq_ok_iff]
    exact ⟨fun ⟨_, h, hbytes⟩ => Encoded.bytes.inj hbytes ▸ h, fun h => ⟨_, h, rfl⟩⟩
  rw [encode_eq_ok_iff]
  constructor
  · rintro ⟨⟨text, htext, h⟩ | ⟨number, _, hnumber, -⟩, hcount⟩
    · cases htext
      obtain ⟨hvalue, hlt, hcount⟩ := (encodeNum_eq_ok_iff hpos).mp (hencode.mp h)
      have hvalue : fromBytes bytes = fromBytes bytes' := by exact_mod_cast hvalue
      exact ⟨fromBytes_injective (hcount.trans hlength.symm) hvalue.symm, hvalue ▸ hlt⟩
    · cases hnumber
  · rintro ⟨rfl, hlt⟩
    exact ⟨Or.inl ⟨_, rfl, hencode.mpr ((encodeNum_eq_ok_iff hpos).mpr ⟨rfl, hlt, hlength⟩)⟩, hlength⟩

/-! ## Match lists of values and prefixes -/

/-- The second half of a pair that is a byte string. -/
def FieldMatchType.literal : FieldMatchType → Option Bytes
  | .ternary _ mask => some mask
  | .range _ high => some high
  | _ => none

/-- The key of the dictionary that is read for a match field without a byte string. -/
def BuiltField.key (field : BuiltField t) : Text × Value :=
  (field.declared.name,
    match field.matched with
    | .lpm value prefixLen => .tuple [.str (decodeToHex value), .int prefixLen.toInt]
    | other => .scalar (.str (decodeToHex other.first)))

/-- A value that is below the power of two that the declared width gives. -/
def BuiltField.Fits (field : BuiltField t) : Prop :=
  fromBytes field.matched.first < 2 ^ field.width

/-- A character that is not a digit and not a sign is not in a formatted integer. -/
theorem not_mem_intText {c : Char} (hsign : c ≠ '-') (hdigit : digitOf 10 c = none) (number : ℤ) :
    c ∉ intText number := by
  intro h
  obtain h | h := mem_intText h
  · exact hsign h
  · rw [hdigit] at h
    cases h

/-- A formatted integer of ten digits is read as the integer. -/
theorem intOfText_intText {number : ℤ} (h : number.natAbs < 10 ^ 10) :
    intOfText env (intText number) = .ok number := by
  have hlength : (Nat.toDigits 10 number.natAbs).length ≤ 640 :=
    (Nat.toDigits_length 10 number.natAbs 10 (by decide) h).trans (by decide)
  rw [intOfText, int_intText env.unicode fun limit hlimit => hlength.trans (env.maxStrDigits_ge limit hlimit)]
  rfl

/-- A formatted signed 32-bit number is read as the number. -/
theorem intOfText_int32 (number : Int32) : intOfText env (intText number.toInt) = .ok number.toInt := by
  have hle := number.le_toInt
  have hlt := number.toInt_lt
  exact intOfText_intText (by omega)

/-- A printed match field without a byte string is entered with its value. -/
theorem addMatchKey_printed {field : BuiltField t} (hname : Plain field.declared.name)
    (hliteral : field.matched.literal = none) (matchKeys : Dict Value) :
    addMatchKey (numberSuffix env) matchKeys field.text = .ok (matchKeys.setItem field.key.1 field.key.2) := by
  rw [BuiltField.text, BuiltField.key, formatValue]
  have hequals := not_mem_decodeToHex (c := '=') (by decide) (by decide)
  have hslash := not_mem_decodeToHex (c := '/') (by decide) (by decide)
  cases hmatched : field.matched with
  | exact value => exact addMatchKey_value _ matchKeys hname.equals (hequals value) (hslash value)
  | lpm value prefixLen =>
    have hread : numberSuffix env (intText prefixLen.toInt) = .ok (.int prefixLen.toInt) := by
      rw [numberSuffix, intOfText_int32]
      rfl
    exact addMatchKey_suffix matchKeys hread hname.equals (hequals value) (hslash value)
      (not_mem_intText (by decide) (by decide) _) (not_mem_intText (by decide) (by decide) _)
  | ternary value mask | range low high =>
    rw [hmatched] at hliteral
    cases hliteral

/-- A printed match field without a byte string has no comma. -/
theorem comma_not_mem_printed {field : BuiltField t} (hname : Plain field.declared.name)
    (hliteral : field.matched.literal = none) : ',' ∉ field.text := by
  have hhex := not_mem_decodeToHex (c := ',') (by decide) (by decide)
  have hvalue : ',' ∉ formatValue field.matched := by
    rw [formatValue]
    cases hmatched : field.matched with
    | exact value => exact hhex value
    | lpm value prefixLen =>
      change ',' ∉ decodeToHex value ++ '/' :: intText prefixLen.toInt
      rw [List.mem_append, List.mem_cons]
      exact fun h => h.elim (hhex value) fun h => h.elim (by decide)
        (not_mem_intText (by decide) (by decide) _)
    | ternary value mask | range low high =>
      rw [hmatched] at hliteral
      cases hliteral
  rw [BuiltField.text, List.mem_append, List.mem_cons]
  exact fun h => h.elim hname.comma fun h => h.elim (by decide) hvalue

/-- A match list without byte strings is read back key by key. -/
theorem parseMatchKey_printed (env : Environment) {fields : List (BuiltField t)} (hne : fields ≠ [])
    (hnodup : (fields.map fun field => field.declared.name).Nodup)
    (hnames : ∀ field ∈ fields, Plain field.declared.name)
    (hliteral : ∀ field ∈ fields, field.matched.literal = none) :
    parseMatchKey env (join ',' (fields.map BuiltField.text)) = .ok (fields.map BuiltField.key) := by
  have hcomma : ∀ text ∈ fields.map BuiltField.text, ',' ∉ text := by
    rintro _ htext
    obtain ⟨field, hfield, rfl⟩ := List.mem_map.mp htext
    exact comma_not_mem_printed (hnames field hfield) (hliteral field hfield)
  have hsplit : split (join ',' (fields.map BuiltField.text)) ",".toList = fields.map BuiltField.text :=
    split_join (mt List.map_eq_nil_iff.mp hne) hcomma
  rw [parseMatchKey, readMatchKeys, hsplit]
  exact foldlM_addMatchKey fields [] (fun field hfield matchKeys =>
    addMatchKey_printed (hnames field hfield) (hliteral field hfield) matchKeys) hnodup

/-- What is built for the key of a match field without a byte string is the field, if it fits. -/
theorem fieldBuilt_key_iff (henv : env.Ipv6HasColon) {field : BuiltField t}
    (hliteral : field.matched.literal = none) {fieldMatchType : FieldMatchType} :
    FieldBuilt env field.declared field.key.2 fieldMatchType ↔
      fieldMatchType = field.matched ∧ field.Fits := by
  have htype := field.matchType_eq
  have hlength := field.length_first
  have hencode (bytes : Bytes) :=
    @encode_decodeToHex_eq_ok_iff env henv field.matched.first bytes field.width field.width_pos hlength
  rw [← field.bitwidth_eq] at hencode
  rw [BuiltField.Fits]
  cases hmatched : field.matched with
  | exact value =>
    rw [hmatched] at htype hencode
    have hkey : field.key.2 = .scalar (.str (decodeToHex value)) := by
      rw [BuiltField.key, hmatched]
      rfl
    rw [hkey]
    constructor
    · intro h
      cases h with
      | exact _ h =>
        obtain ⟨rfl, hfits⟩ := (hencode _).mp h
        exact ⟨rfl, hfits⟩
      | lpm h | ternary h | range h => cases htype.symm.trans h
    · rintro ⟨rfl, hfits⟩
      exact .exact htype ((hencode _).mpr ⟨rfl, hfits⟩)
  | lpm value prefixLen =>
    rw [hmatched] at htype hencode
    have hkey : field.key.2 = .tuple [.str (decodeToHex value), .int prefixLen.toInt] := by
      rw [BuiltField.key, hmatched]
    have hset : setInt32 prefixLen.toInt = .ok prefixLen := by
      rw [setInt32, if_pos ⟨prefixLen.le_toInt, prefixLen.toInt_lt⟩, Int32.ofInt_toInt]
    rw [hkey]
    constructor
    · intro h
      cases h with
      | lpm _ hitem h hsecond hlen =>
        cases hitem
        cases hsecond
        obtain ⟨rfl, hfits⟩ := (hencode _).mp h
        rw [hset] at hlen
        obtain rfl := Except.ok.inj hlen
        exact ⟨rfl, hfits⟩
      | exact h | ternary h | range h => cases htype.symm.trans h
    · rintro ⟨rfl, hfits⟩
      exact .lpm htype rfl ((hencode _).mpr ⟨rfl, hfits⟩) rfl hset
  | ternary value mask | range low high =>
    rw [hmatched] at hliteral
    cases hliteral

/-- What is built for the key of such a field is its message, if it fits. -/
theorem entryBuilt_key_iff (henv : env.Ipv6HasColon) (ht : Declares p4info t) {field : BuiltField t}
    (hliteral : field.matched.literal = none) {fieldMatch : FieldMatch} :
    EntryBuilt env t field.key fieldMatch ↔ fieldMatch = field.toFieldMatch ∧ field.Fits := by
  constructor
  · rintro ⟨mf, hmem, hname, hid, hbuilt⟩
    obtain rfl : mf = field.declared :=
      List.inj_on_of_nodup_map ht.names_distinct hmem field.declared_mem hname
    obtain ⟨hmatched, hfits⟩ := (fieldBuilt_key_iff henv hliteral).mp hbuilt
    obtain ⟨fieldId, fieldMatchType⟩ := fieldMatch
    dsimp only at hid hmatched
    exact ⟨by rw [BuiltField.toFieldMatch, hid, hmatched], hfits⟩
  · rintro ⟨rfl, hfits⟩
    exact ⟨field.declared, field.declared_mem, rfl, rfl, (fieldBuilt_key_iff henv hliteral).mpr ⟨rfl, hfits⟩⟩

/-- The match list that is built for the keys of such fields is theirs, if all fit. -/
theorem forall₂_key_iff (henv : env.Ipv6HasColon) (ht : Declares p4info t) {fields : List (BuiltField t)}
    (hliteral : ∀ field ∈ fields, field.matched.literal = none) {built : List FieldMatch} :
    List.Forall₂ (EntryBuilt env t) (fields.map BuiltField.key) built ↔
      built = fields.map BuiltField.toFieldMatch ∧ ∀ field ∈ fields, field.Fits := by
  induction fields generalizing built with
  | nil =>
    rw [List.map_nil, List.forall₂_nil_left_iff]
    exact ⟨fun h => ⟨h, nofun⟩, fun h => h.1⟩
  | cons field rest ih =>
    have hrest := fun other hother => hliteral other (List.mem_cons_of_mem _ hother)
    rw [List.map_cons, List.forall₂_cons_left_iff]
    constructor
    · rintro ⟨fieldMatch, others, hfield, hothers, rfl⟩
      obtain ⟨rfl, hfits⟩ := (entryBuilt_key_iff henv ht (hliteral field List.mem_cons_self)).mp hfield
      obtain ⟨rfl, hall⟩ := (ih hrest).mp hothers
      exact ⟨rfl, List.forall_mem_cons.mpr ⟨hfits, hall⟩⟩
    · rintro ⟨rfl, hall⟩
      obtain ⟨hfits, hothers⟩ := List.forall_mem_cons.mp hall
      exact ⟨field.toFieldMatch, rest.map BuiltField.toFieldMatch,
        (entryBuilt_key_iff henv ht (hliteral field List.mem_cons_self)).mpr ⟨rfl, hfits⟩,
        (ih hrest).mpr ⟨rfl, hothers⟩, rfl⟩

/-- No such field is ternary. -/
theorem any_isTernary_eq_false {fields : List (BuiltField t)}
    (hliteral : ∀ field ∈ fields, field.matched.literal = none) :
    ((fields.map BuiltField.toFieldMatch).any fun fieldMatch => fieldMatch.fieldMatchType.isTernary) = false := by
  rw [List.any_eq_false]
  rintro _ hmem
  obtain ⟨field, hfield, rfl⟩ := List.mem_map.mp hmem
  have hnone := hliteral field hfield
  rw [BuiltField.toFieldMatch]
  cases hmatched : field.matched with
  | exact value | lpm value prefixLen | range low high => exact Bool.false_ne_true
  | ternary value mask =>
    rw [hmatched] at hnone
    cases hnone

/-! ## The word for the priority -/

/-- The names of a table's match fields have no separator, and do not mention a priority. -/
structure ReadableNames (t : Table) : Prop where
  plain : ∀ mf ∈ t.matchFields, Plain mf.name
  word : ∀ mf ∈ t.matchFields, contains mf.name "priority".toList = false

/-- A printed match list without byte strings does not mention a priority. -/
theorem not_contains_priority_printed (hnames : ReadableNames t) {fields : List (BuiltField t)} (hne : fields ≠ [])
    (hliteral : ∀ field ∈ fields, field.matched.literal = none) :
    contains (join ',' (fields.map BuiltField.text)) "priority".toList = false := by
  have hhex (bytes : Bytes) : ¬ "priority".toList <:+: decodeToHex bytes := fun h =>
    not_mem_decodeToHex (c := 'p') (by decide) (by decide) bytes (h.subset List.mem_cons_self)
  rw [Bool.eq_false_iff, ne_eq, contains_iff,
    infix_join_iff (mt List.map_eq_nil_iff.mp hne) (by decide)]
  rintro ⟨_, htext, hinfix⟩
  obtain ⟨field, hfield, rfl⟩ := List.mem_map.mp htext
  rw [BuiltField.text, infix_append_cons_iff (by decide)] at hinfix
  obtain hinfix | hinfix := hinfix
  · exact Bool.eq_false_iff.mp (hnames.word _ field.declared_mem) (contains_iff.mpr hinfix)
  · have hnone := hliteral field hfield
    rw [formatValue] at hinfix
    cases hmatched : field.matched with
    | exact value =>
      rw [hmatched] at hinfix
      exact hhex value hinfix
    | lpm value prefixLen =>
      rw [hmatched] at hinfix
      change "priority".toList <:+: decodeToHex value ++ '/' :: intText prefixLen.toInt at hinfix
      rw [infix_append_cons_iff (by decide)] at hinfix
      obtain hinfix | hinfix := hinfix
      · exact hhex value hinfix
      · have hmem := hinfix.subset List.mem_cons_self
        exact not_mem_intText (c := 'p') (by decide) (by decide) _ hmem
    | ternary value mask | range low high =>
      rw [hmatched] at hnone
      cases hnone

/-- A printed match list without byte strings is deleted as it is if and only if every value fits. -/
theorem p4ctlDelEntry_printed_iff (henv : env.Ipv6HasColon) (ht : Declares p4info t) (hnames : ReadableNames t)
    (hname : t.preamble.name ≠ []) {fields : List (BuiltField t)} (hne : fields ≠ [])
    (hnodup : (fields.map fun field => field.declared.name).Nodup)
    (hliteral : ∀ field ∈ fields, field.matched.literal = none) (bridge : Text) :
    (∃ back, p4ctlDelEntry env (some p4info) bridge t.preamble.name (join ',' (fields.map BuiltField.text)) =
        .ok back ∧ back.matchList = fields.map BuiltField.toFieldMatch ∧ back.priority = 0) ↔
      ∀ field ∈ fields, field.Fits := by
  have hread : readDelKey env (join ',' (fields.map BuiltField.text)) = .ok (fields.map BuiltField.key, none) := by
    rw [readDelKey, not_contains_priority_printed hnames hne hliteral, if_neg Bool.false_ne_true]
    exact bind_eq_ok_iff.mpr ⟨_, parseMatchKey_printed env hne hnodup
      (fun field _ => hnames.plain _ field.declared_mem) hliteral, rfl⟩
  have hdelete (back : TableEntry) :
      p4ctlDelEntry env (some p4info) bridge t.preamble.name (join ',' (fields.map BuiltField.text)) = .ok back ↔
        p4info.buildTableEntry env t.preamble.name (fields.map BuiltField.key) false none none none 0 0 none =
          .ok back := by
    rw [p4ctlDelEntry, hread]
    rfl
  constructor
  · rintro ⟨back, hback, -, -⟩
    obtain ⟨-, hbuilt, -⟩ := forall₂_of_buildTableEntry ht ((hdelete back).mp hback)
    exact ((forall₂_key_iff henv ht hliteral).mp hbuilt).2
  · intro hfits
    refine ⟨_, (hdelete _).mpr (buildTableEntry_of_forall₂ ht hname
      ((forall₂_key_iff henv ht hliteral).mpr ⟨rfl, hfits⟩) (any_isTernary_eq_false hliteral)), rfl, rfl⟩

end NetworkingRecipe.P4rtCtl
