import NetworkingRecipe.P4rtCtl.FieldWidth
import NetworkingRecipe.P4rtCtl.P4InfoHelper
import NetworkingRecipe.Python.Pieces
import Mathlib.Data.List.Forall2

/-!
# Entries as they are built

What the entry builder has put into the match list of an entry: one match field for each key of
the dictionary, of the kind that the table declares for it, with values of as many bytes as the
declared width needs.
-/

namespace NetworkingRecipe.P4rtCtl

open Python

variable {env : Environment} {p4info : P4Info}

/-! ## Encoded bytes -/

/-- The text that a pattern compares consists of characters of the text. -/
theorem mem_of_mem_chomp {text : Text} {c : Char} (h : c ∈ chomp text) : c ∈ text := by
  rw [chomp] at h
  split at h
  · exact List.mem_of_mem_dropLast h
  · exact h

/-- A MAC address has a digit. -/
theorem exists_ne_colon_of_matchesMac {x : Text} (h : matchesMac env x = true) : ∃ c ∈ x, c ≠ ':' := by
  rw [matchesMac, Bool.and_eq_true, beq_iff_eq, List.all_eq_true] at h
  obtain ⟨hlength, hgroups⟩ := h
  obtain ⟨group, others, hsplit⟩ := List.exists_cons_of_length_eq_add_one hlength
  have hgroup := hgroups group (hsplit ▸ List.mem_cons_self)
  rw [Bool.and_eq_true, beq_iff_eq, List.all_eq_true] at hgroup
  obtain ⟨c, rest, rfl⟩ := List.exists_cons_of_length_eq_add_one hgroup.1
  refine ⟨c, mem_of_mem_chomp (mem_of_mem_split (hsplit ▸ List.mem_cons_self) List.mem_cons_self), ?_⟩
  rintro rfl
  have hdigit := hgroup.2 ':' List.mem_cons_self
  rw [isMacDigit, env.unicode.decimal_ascii ':' (by decide)] at hdigit
  exact absurd hdigit (by decide)

/-- What the codec decodes from a text that is not empty is not empty. -/
theorem ne_nil_of_unhex {text : Text} {bytes : Bytes} (h : unhex text = some bytes) (hne : text ≠ []) :
    bytes ≠ [] := by
  rintro rfl
  exact hne (List.length_eq_zero_iff.mp (digits_of_unhex h).2)

/-- The bytes of an address are not empty. -/
theorem ne_nil_of_addressOf {x : Text} {bytes : Bytes} (h : addressOf env x = some bytes) : bytes ≠ [] := by
  rw [addressOf] at h
  split at h
  · rename_i hmac
    obtain ⟨c, hc, hne⟩ := exists_ne_colon_of_matchesMac hmac
    exact ne_nil_of_unhex h (List.ne_nil_of_mem (List.mem_filter.mpr ⟨hc, by simpa using hne⟩))
  · split at h
    · exact List.ne_nil_of_length_pos (by rw [env.inetAton_length x bytes h]; decide)
    · split at h
      · exact List.ne_nil_of_length_pos (by rw [env.inetPton6_length x bytes h]; decide)
      · cases h

/-- The bytes of a number are not empty. -/
theorem ne_nil_of_encodeNum {number bitwidth : ℤ} {bytes : Bytes}
    (h : encodeNum number bitwidth = .ok bytes) : bytes ≠ [] := by
  cases hreach : reachesPower number bitwidth with
  | true =>
    rw [encodeNum, hreach] at h
    cases h
  | false =>
    rw [encodeNum_of_not_reachesPower hreach, orRaise_eq_ok_iff] at h
    refine ne_nil_of_unhex h (List.append_ne_nil_of_right_ne_nil _ ?_)
    rw [hexText]
    split
    · exact List.cons_ne_nil _ _
    · exact Nat.toDigits_ne_nil

/-- Bytes that `encode` returns are not empty. -/
theorem ne_nil_of_encode {x : Value} {bitwidth : ℤ} {bytes : Bytes}
    (h : encode env x bitwidth = .ok (.bytes bytes)) : bytes ≠ [] := by
  obtain ⟨⟨text, -, htext⟩ | ⟨number, found, -, hfound, heq⟩, -⟩ := encode_eq_ok_iff_of_bitwidth.mp h
  · obtain ⟨found, heq, haddress⟩ | ⟨found, number, heq, hnumber, -⟩ | ⟨heq, -⟩ := encodeText_cases htext
    · cases heq
      exact ne_nil_of_addressOf haddress
    · cases heq
      exact ne_nil_of_encodeNum hnumber
    · cases heq
  · cases heq
    exact ne_nil_of_encodeNum hfound

/-- A field for which `encode` returns bytes has a positive width, and the bytes are as many as it needs. -/
theorem exists_width_of_encode {x : Value} {bitwidth : ℤ} {bytes : Bytes}
    (h : encode env x bitwidth = .ok (.bytes bytes)) :
    ∃ width : ℕ, bitwidth = width ∧ 1 ≤ width ∧ bytes.length = (width + 7) / 8 := by
  have hlength : (bytes.length : ℤ) = bitwidthToBytes bitwidth := (encode_eq_ok_iff_of_bitwidth.mp h).2
  have hpos := List.length_pos_iff.mpr (ne_nil_of_encode h)
  rw [bitwidthToBytes] at hlength
  exact ⟨bitwidth.toNat, by omega, by omega, by omega⟩

/-! ## Match fields -/

/-- How a match field is built from a value, by the kind that is declared for it. -/
inductive FieldBuilt (env : Environment) (mf : MatchField) (value : Value) : FieldMatchType → Prop
  | exact {bytes : Bytes} : mf.matchType = .exact →
      encode env value mf.bitwidth = .ok (.bytes bytes) → FieldBuilt env mf value (.exact bytes)
  | lpm {item : Scalar} {bytes : Bytes} {number : ℤ} {prefixLen : Int32} : mf.matchType = .lpm →
      value.item 0 = .ok item → encode env (.scalar item) mf.bitwidth = .ok (.bytes bytes) →
      value.item 1 = .ok (.int number) → setInt32 number = .ok prefixLen →
      FieldBuilt env mf value (.lpm bytes prefixLen)
  | ternary {first second : Scalar} {bytes mask : Bytes} : mf.matchType = .ternary →
      value.item 0 = .ok first → encode env (.scalar first) mf.bitwidth = .ok (.bytes bytes) →
      value.item 1 = .ok second → encode env (.scalar second) mf.bitwidth = .ok (.bytes mask) →
      FieldBuilt env mf value (.ternary bytes mask)
  | range {first second : Scalar} {low high : Bytes} : mf.matchType = .range →
      value.item 0 = .ok first → encode env (.scalar first) mf.bitwidth = .ok (.bytes low) →
      value.item 1 = .ok second → encode env (.scalar second) mf.bitwidth = .ok (.bytes high) →
      FieldBuilt env mf value (.range low high)

/-- A bytes field takes what is bytes. -/
theorem setBytes_eq_ok_iff {encoded : Encoded} {bytes : Bytes} :
    setBytes encoded = .ok bytes ↔ encoded = .bytes bytes := by
  cases encoded with
  | bytes value => exact ⟨fun h => congrArg Encoded.bytes (Except.ok.inj h), fun h => by cases h; rfl⟩
  | text value => exact ⟨nofun, nofun⟩

/-- The match field that is built for a declared field is the one of its kind. -/
theorem getMatchFieldPb_eq_ok_iff {tableName name : Text} {mf : MatchField}
    (hmf : p4info.getMatchField tableName name = .ok mf) {value : Value} {fieldMatch : FieldMatch} :
    p4info.getMatchFieldPb env tableName name value = .ok fieldMatch ↔
      fieldMatch.fieldId = mf.id ∧ FieldBuilt env mf value fieldMatch.fieldMatchType := by
  rw [P4Info.getMatchFieldPb, bind_eq_ok_iff]
  constructor
  · rintro ⟨mf', hmf', h⟩
    obtain rfl := Except.ok.inj (hmf.symm.trans hmf')
    dsimp only at h
    split at h
    · rename_i htype
      obtain ⟨encoded, hencode, h⟩ := bind_eq_ok_iff.mp h
      obtain ⟨bytes, hbytes, h⟩ := bind_eq_ok_iff.mp h
      cases h
      exact ⟨rfl, .exact htype (setBytes_eq_ok_iff.mp hbytes ▸ hencode)⟩
    · rename_i htype
      obtain ⟨item, hitem, h⟩ := bind_eq_ok_iff.mp h
      obtain ⟨encoded, hencode, h⟩ := bind_eq_ok_iff.mp h
      obtain ⟨bytes, hbytes, h⟩ := bind_eq_ok_iff.mp h
      obtain ⟨second, hsecond, h⟩ := bind_eq_ok_iff.mp h
      split at h
      · rename_i number
        obtain ⟨prefixLen, hprefix, h⟩ := bind_eq_ok_iff.mp h
        cases h
        exact ⟨rfl, .lpm htype hitem (setBytes_eq_ok_iff.mp hbytes ▸ hencode) hsecond hprefix⟩
      · cases h
    · rename_i htype
      obtain ⟨first, hfirst, h⟩ := bind_eq_ok_iff.mp h
      obtain ⟨encoded, hencode, h⟩ := bind_eq_ok_iff.mp h
      obtain ⟨bytes, hbytes, h⟩ := bind_eq_ok_iff.mp h
      obtain ⟨second, hsecond, h⟩ := bind_eq_ok_iff.mp h
      obtain ⟨encodedMask, hencodeMask, h⟩ := bind_eq_ok_iff.mp h
      obtain ⟨mask, hmask, h⟩ := bind_eq_ok_iff.mp h
      cases h
      exact ⟨rfl, .ternary htype hfirst (setBytes_eq_ok_iff.mp hbytes ▸ hencode) hsecond
        (setBytes_eq_ok_iff.mp hmask ▸ hencodeMask)⟩
    · rename_i htype
      obtain ⟨first, hfirst, h⟩ := bind_eq_ok_iff.mp h
      obtain ⟨encoded, hencode, h⟩ := bind_eq_ok_iff.mp h
      obtain ⟨low, hlow, h⟩ := bind_eq_ok_iff.mp h
      obtain ⟨second, hsecond, h⟩ := bind_eq_ok_iff.mp h
      obtain ⟨encodedHigh, hencodeHigh, h⟩ := bind_eq_ok_iff.mp h
      obtain ⟨high, hhigh, h⟩ := bind_eq_ok_iff.mp h
      cases h
      exact ⟨rfl, .range htype hfirst (setBytes_eq_ok_iff.mp hlow ▸ hencode) hsecond
        (setBytes_eq_ok_iff.mp hhigh ▸ hencodeHigh)⟩
    · cases h
  · obtain ⟨fieldId, fieldMatchType⟩ := fieldMatch
    rintro ⟨hid, hbuilt⟩
    dsimp only at hid hbuilt
    obtain rfl := hid
    refine ⟨mf, hmf, ?_⟩
    cases hbuilt with
    | exact htype hencode =>
      rw [htype]
      exact bind_eq_ok_iff.mpr ⟨_, hencode, rfl⟩
    | lpm htype hitem hencode hsecond hprefix =>
      rw [htype]
      refine bind_eq_ok_iff.mpr ⟨_, hitem, bind_eq_ok_iff.mpr ⟨_, hencode, bind_eq_ok_iff.mpr ⟨_, rfl, ?_⟩⟩⟩
      exact bind_eq_ok_iff.mpr ⟨_, hsecond, bind_eq_ok_iff.mpr ⟨_, hprefix, rfl⟩⟩
    | ternary htype hfirst hencode hsecond hencodeMask =>
      rw [htype]
      refine bind_eq_ok_iff.mpr ⟨_, hfirst, bind_eq_ok_iff.mpr ⟨_, hencode, bind_eq_ok_iff.mpr ⟨_, rfl, ?_⟩⟩⟩
      exact bind_eq_ok_iff.mpr ⟨_, hsecond, bind_eq_ok_iff.mpr ⟨_, hencodeMask, rfl⟩⟩
    | range htype hfirst hencode hsecond hencodeHigh =>
      rw [htype]
      refine bind_eq_ok_iff.mpr ⟨_, hfirst, bind_eq_ok_iff.mpr ⟨_, hencode, bind_eq_ok_iff.mpr ⟨_, rfl, ?_⟩⟩⟩
      exact bind_eq_ok_iff.mpr ⟨_, hsecond, bind_eq_ok_iff.mpr ⟨_, hencodeHigh, rfl⟩⟩

/-! ## Declared tables -/

/-- A table that its name and its identifier find, with match fields that their names and their identifiers
tell apart. -/
structure Declares (p4info : P4Info) (t : Table) : Prop where
  by_name : (p4info.tables.find? fun o =>
    o.preamble.name == t.preamble.name || o.preamble.aliasName == t.preamble.name) = some t
  by_id : (p4info.tables.find? fun o => o.preamble.id == t.preamble.id) = some t
  alone : (p4info.tables.filter fun o => o.preamble.name == t.preamble.name) = [t]
  names_distinct : (t.matchFields.map MatchField.name).Nodup
  ids_distinct : (t.matchFields.map MatchField.id).Nodup

/-- Elements that a property tells apart are found by it. -/
theorem find?_of_nodup {A B : Type*} [BEq B] [LawfulBEq B] {property : A → B} {list : List A}
    (hnodup : (list.map property).Nodup) {a : A} (ha : a ∈ list) :
    (list.find? fun other => property other == property a) = some a := by
  induction list with
  | nil => cases ha
  | cons first rest ih =>
    obtain ⟨hfirst, hrest⟩ := List.nodup_cons.mp hnodup
    obtain rfl | hmem := List.mem_cons.mp ha
    · exact List.find?_cons_of_pos (beq_self_eq_true (property a))
    · have hne : property first ≠ property a := fun heq => hfirst (heq ▸ List.mem_map_of_mem hmem)
      rw [List.find?_cons_of_neg (by rw [beq_iff_eq]; exact hne), ih hrest hmem]

variable {t : Table}

/-- The fields that are searched are those of the table. -/
theorem fields_of_declares (ht : Declares p4info t) :
    (p4info.tables.filter fun o => o.preamble.name == t.preamble.name).flatMap Table.matchFields =
      t.matchFields := by
  rw [ht.alone, List.flatMap_singleton]

/-- A match field is found by its name. -/
theorem getMatchField_eq_ok_iff (ht : Declares p4info t) {name : Text} {mf : MatchField} :
    p4info.getMatchField t.preamble.name name = .ok mf ↔ mf ∈ t.matchFields ∧ mf.name = name := by
  rw [P4Info.getMatchField, fields_of_declares ht, orRaise_eq_ok_iff]
  constructor
  · intro h
    exact ⟨List.mem_of_find?_eq_some h, by simpa using List.find?_some h⟩
  · rintro ⟨hmem, rfl⟩
    exact find?_of_nodup ht.names_distinct hmem

/-- The identifier of a table is found by its name. -/
theorem getTablesId_of_declares (ht : Declares p4info t) {tableId : UInt32}
    (h : p4info.getTablesId t.preamble.name = .ok tableId) : tableId = t.preamble.id := by
  obtain ⟨table, hget, h⟩ := bind_eq_ok_iff.mp h
  cases h
  rw [get] at hget
  split at hget
  · cases hget
  · rw [orRaise_eq_ok_iff, ht.by_name] at hget
    rw [Option.some.inj hget]

/-- A table that is found has a name. -/
theorem name_ne_nil_of_getTablesId {tableName : Text} {tableId : UInt32}
    (h : p4info.getTablesId tableName = .ok tableId) : tableName ≠ [] := by
  rintro rfl
  cases h

/-! ## Match lists -/

/-- The match field that is built for a key of the dictionary. -/
def EntryBuilt (env : Environment) (t : Table) (field : Text × Value) (fieldMatch : FieldMatch) : Prop :=
  ∃ mf ∈ t.matchFields, mf.name = field.1 ∧ fieldMatch.fieldId = mf.id ∧
    FieldBuilt env mf field.2 fieldMatch.fieldMatchType

/-- A ternary match. -/
def FieldMatchType.isTernary : FieldMatchType → Bool
  | .ternary _ _ => true
  | _ => false

/-- A match is ternary if its field is declared so. -/
theorem isTernary_of_fieldBuilt {mf : MatchField} {value : Value} {fieldMatchType : FieldMatchType}
    (h : FieldBuilt env mf value fieldMatchType) : (mf.matchType == .ternary) = fieldMatchType.isTernary := by
  cases h with
  | exact htype | lpm htype | ternary htype | range htype =>
    rw [htype]
    rfl

/-- Adding a key of the dictionary appends the match field that is built for it. -/
theorem addMatchField_eq_ok_iff (ht : Declares p4info t) {priority : Option Text}
    {added result : List FieldMatch × Bool} {field : Text × Value} :
    p4info.addMatchField env t.preamble.name priority added field = .ok result ↔
      ∃ fieldMatch, EntryBuilt env t field fieldMatch ∧
        (fieldMatch.fieldMatchType.isTernary = true → priority ≠ none) ∧
        result = (added.1 ++ [fieldMatch], added.2 || fieldMatch.fieldMatchType.isTernary) := by
  rw [P4Info.addMatchField, bind_eq_ok_iff]
  constructor
  · rintro ⟨mf, hmf, h⟩
    split at h
    · cases h
    · rename_i hexit
      obtain ⟨fieldMatch, hpb, h⟩ := bind_eq_ok_iff.mp h
      obtain ⟨hid, hbuilt⟩ := (getMatchFieldPb_eq_ok_iff hmf).mp hpb
      obtain ⟨hmem, hname⟩ := (getMatchField_eq_ok_iff ht).mp hmf
      rw [isTernary_of_fieldBuilt hbuilt] at h
      refine ⟨fieldMatch, ⟨mf, hmem, hname, hid, hbuilt⟩, fun hternary hnone => hexit ⟨?_, hnone⟩,
        (Except.ok.inj h).symm⟩
      rw [← isTernary_of_fieldBuilt hbuilt] at hternary
      exact beq_iff_eq.mp hternary
  · rintro ⟨fieldMatch, ⟨mf, hmem, hname, hid, hbuilt⟩, hpriority, rfl⟩
    have hmf := (getMatchField_eq_ok_iff ht).mpr ⟨hmem, hname⟩
    refine ⟨mf, hmf, ?_⟩
    rw [← isTernary_of_fieldBuilt hbuilt] at hpriority ⊢
    rw [if_neg fun hexit => hpriority (beq_iff_eq.mpr hexit.1) hexit.2]
    exact bind_eq_ok_iff.mpr ⟨fieldMatch, (getMatchFieldPb_eq_ok_iff hmf).mpr ⟨hid, hbuilt⟩, rfl⟩

/-- The match list of an entry has the match field that is built for each key of the dictionary. -/
theorem foldlM_addMatchField_eq_ok_iff (ht : Declares p4info t) {priority : Option Text}
    {fields : Dict Value} {added result : List FieldMatch × Bool} :
    fields.foldlM (p4info.addMatchField env t.preamble.name priority) added = .ok result ↔
      ∃ built, List.Forall₂ (EntryBuilt env t) fields built ∧
        (built.any (fun fieldMatch => fieldMatch.fieldMatchType.isTernary) = true → priority ≠ none) ∧
        result = (added.1 ++ built, added.2 || built.any fun fieldMatch => fieldMatch.fieldMatchType.isTernary) := by
  induction fields generalizing added with
  | nil =>
    rw [List.foldlM_nil]
    constructor
    · rintro h
      obtain rfl := Except.ok.inj h
      exact ⟨[], .nil, nofun, by rw [List.append_nil, List.any_nil, Bool.or_false]⟩
    · rintro ⟨built, hbuilt, -, rfl⟩
      obtain rfl := List.forall₂_nil_left_iff.mp hbuilt
      rw [List.append_nil, List.any_nil, Bool.or_false]
      rfl
  | cons field rest ih =>
    rw [List.foldlM_cons, bind_eq_ok_iff]
    constructor
    · rintro ⟨next, hnext, h⟩
      obtain ⟨fieldMatch, hfield, hpriority, rfl⟩ := (addMatchField_eq_ok_iff ht).mp hnext
      obtain ⟨built, hbuilt, hrest, rfl⟩ := ih.mp h
      refine ⟨fieldMatch :: built, .cons hfield hbuilt, ?_, ?_⟩
      · rw [List.any_cons, Bool.or_eq_true]
        exact fun hternary => hternary.elim hpriority hrest
      · rw [List.any_cons, Bool.or_assoc, List.append_assoc, List.singleton_append]
    · rintro ⟨built, hbuilt, hpriority, rfl⟩
      obtain ⟨fieldMatch, others, hfield, hothers, rfl⟩ := List.forall₂_cons_left_iff.mp hbuilt
      rw [List.any_cons, Bool.or_eq_true] at hpriority
      refine ⟨_, (addMatchField_eq_ok_iff ht).mpr ⟨fieldMatch, hfield, fun h => hpriority (Or.inl h), rfl⟩,
        ih.mpr ⟨others, hothers, fun h => hpriority (Or.inr h), ?_⟩⟩
      rw [List.any_cons, Bool.or_assoc, List.append_assoc, List.singleton_append]

/-! ## Built entries -/

/-- An entry that is built has the identifier of its table, the match list that the dictionary gives, and a
priority other than zero only with a ternary field. -/
theorem buildTableEntry_cases {tableName : Text} {matchFields : Dict Value} {defaultAction : Bool}
    {actionName : Option Text} {actionParams : Option (Dict ℤ)} {priority : Option Text}
    {groupId memberId : ℤ} {configData : Option Text} {te : TableEntry}
    (h : p4info.buildTableEntry env tableName matchFields defaultAction actionName actionParams priority
      groupId memberId configData = .ok te) :
    ∃ flag, p4info.getTablesId tableName = .ok te.tableId ∧
      matchFields.foldlM (p4info.addMatchField env tableName priority) ([], false) = .ok (te.matchList, flag) ∧
      (flag = false → te.priority = 0) := by
  rw [P4Info.buildTableEntry] at h
  obtain ⟨tableId, hid, h⟩ := bind_eq_ok_iff.mp h
  obtain ⟨⟨matchList, flag⟩, hfold, h⟩ := bind_eq_ok_iff.mp h
  dsimp only at h
  have htail : ∃ priorityValue, (flag = false → priorityValue = 0) ∧ tableId = te.tableId ∧
      matchList = te.matchList ∧ priorityValue = te.priority := by
    split at h
    · obtain ⟨_, -, h⟩ := bind_eq_ok_iff.mp h
      obtain ⟨value, -, h⟩ := bind_eq_ok_iff.mp h
      refine ⟨value, nofun, ?_⟩
      split at h
      all_goals
        obtain ⟨action, -, h⟩ := bind_eq_ok_iff.mp h
        split at h
        all_goals
          obtain ⟨memberAction, -, h⟩ := bind_eq_ok_iff.mp h
          split at h
          all_goals
            obtain ⟨groupAction, -, h⟩ := bind_eq_ok_iff.mp h
            split at h
            all_goals
              obtain ⟨config, -, h⟩ := bind_eq_ok_iff.mp h
              cases h
              exact ⟨rfl, rfl, rfl⟩
    · obtain ⟨value, hvalue, h⟩ := bind_eq_ok_iff.mp h
      refine ⟨value, fun _ => (Except.ok.inj hvalue).symm, ?_⟩
      split at h
      all_goals
        obtain ⟨action, -, h⟩ := bind_eq_ok_iff.mp h
        split at h
        all_goals
          obtain ⟨memberAction, -, h⟩ := bind_eq_ok_iff.mp h
          split at h
          all_goals
            obtain ⟨groupAction, -, h⟩ := bind_eq_ok_iff.mp h
            split at h
            all_goals
              obtain ⟨config, -, h⟩ := bind_eq_ok_iff.mp h
              cases h
              exact ⟨rfl, rfl, rfl⟩
  obtain ⟨value, hvalue, rfl, rfl, rfl⟩ := htail
  exact ⟨flag, hid, hfold, hvalue⟩

/-- An entry that is built has a match field for each key of the dictionary. -/
theorem forall₂_of_buildTableEntry (ht : Declares p4info t) {matchFields : Dict Value} {defaultAction : Bool}
    {actionName : Option Text} {actionParams : Option (Dict ℤ)} {priority : Option Text}
    {groupId memberId : ℤ} {configData : Option Text} {te : TableEntry}
    (h : p4info.buildTableEntry env t.preamble.name matchFields defaultAction actionName actionParams priority
      groupId memberId configData = .ok te) :
    te.tableId = t.preamble.id ∧ List.Forall₂ (EntryBuilt env t) matchFields te.matchList ∧
      ((te.matchList.any fun fieldMatch => fieldMatch.fieldMatchType.isTernary) = false → te.priority = 0) := by
  obtain ⟨flag, hid, hfold, hpriority⟩ := buildTableEntry_cases h
  obtain ⟨built, hbuilt, -, hresult⟩ := (foldlM_addMatchField_eq_ok_iff ht).mp hfold
  obtain ⟨rfl, rfl⟩ := Prod.mk.inj hresult
  exact ⟨getTablesId_of_declares ht hid, hbuilt, hpriority⟩

/-- Without a ternary field, an entry is built from the match keys alone. -/
theorem buildTableEntry_of_forall₂ (ht : Declares p4info t) (hname : t.preamble.name ≠ [])
    {matchFields : Dict Value} {built : List FieldMatch}
    (hbuilt : List.Forall₂ (EntryBuilt env t) matchFields built)
    (hternary : (built.any fun fieldMatch => fieldMatch.fieldMatchType.isTernary) = false) :
    p4info.buildTableEntry env t.preamble.name matchFields false none none none 0 0 none =
      .ok ⟨t.preamble.id, built, none, 0, false, []⟩ := by
  have hid : p4info.getTablesId t.preamble.name = .ok t.preamble.id := by
    refine bind_eq_ok_iff.mpr ⟨t, ?_, rfl⟩
    rw [get, if_neg hname, ht.by_name]
    rfl
  have hfold : matchFields.foldlM (p4info.addMatchField env t.preamble.name none) ([], false) =
      .ok (built, false) := by
    refine (foldlM_addMatchField_eq_ok_iff ht).mpr ⟨built, hbuilt, ?_, ?_⟩
    · rw [hternary]
      exact nofun
    · rw [hternary]
      rfl
  rw [P4Info.buildTableEntry]
  exact bind_eq_ok_iff.mpr ⟨_, hid, bind_eq_ok_iff.mpr ⟨_, hfold, rfl⟩⟩

/-! ## Fields of an entry -/

/-- The kind of a match. -/
def FieldMatchType.matchType : FieldMatchType → MatchType
  | .exact _ => .exact
  | .lpm _ _ => .lpm
  | .ternary _ _ => .ternary
  | .range _ _ => .range

/-- The value of a match, the first of a pair. -/
def FieldMatchType.first : FieldMatchType → Bytes
  | .exact value | .lpm value _ | .ternary value _ | .range value _ => value

/-- A match field of an entry, with its declaration: it is of the declared kind, and its value has as many
bytes as the declared width needs. -/
structure BuiltField (t : Table) where
  declared : MatchField
  declared_mem : declared ∈ t.matchFields
  matched : FieldMatchType
  width : ℕ
  width_pos : 1 ≤ width
  bitwidth_eq : declared.bitwidth = width
  matchType_eq : declared.matchType = matched.matchType
  length_first : matched.first.length = (width + 7) / 8

/-- The message of a match field. -/
def BuiltField.toFieldMatch (field : BuiltField t) : FieldMatch :=
  ⟨field.declared.id, field.matched⟩

/-- What is built for a field is of its kind. -/
theorem matchType_of_fieldBuilt {mf : MatchField} {value : Value} {fieldMatchType : FieldMatchType}
    (h : FieldBuilt env mf value fieldMatchType) : mf.matchType = fieldMatchType.matchType := by
  cases h <;> assumption

/-- The value of a match has been encoded in the width of its field. -/
theorem exists_encode_first {mf : MatchField} {value : Value} {fieldMatchType : FieldMatchType}
    (h : FieldBuilt env mf value fieldMatchType) :
    ∃ x, encode env x mf.bitwidth = .ok (.bytes fieldMatchType.first) := by
  cases h with
  | exact _ hencode | lpm _ _ hencode | ternary _ _ hencode | range _ _ hencode => exact ⟨_, hencode⟩

/-- What is built for a field is a match field of an entry. -/
theorem exists_builtField {mf : MatchField} (hmem : mf ∈ t.matchFields) {value : Value}
    {fieldMatchType : FieldMatchType} (h : FieldBuilt env mf value fieldMatchType) :
    ∃ field : BuiltField t, field.declared = mf ∧ field.matched = fieldMatchType := by
  obtain ⟨x, hencode⟩ := exists_encode_first h
  obtain ⟨width, hwidth, hpos, hlength⟩ := exists_width_of_encode hencode
  exact ⟨⟨mf, hmem, fieldMatchType, width, hpos, hwidth, matchType_of_fieldBuilt h, hlength⟩, rfl, rfl⟩

/-- The match list of an entry is a list of such fields, under the keys of the dictionary. -/
theorem exists_builtFields {fields : Dict Value} {matchList : List FieldMatch}
    (h : List.Forall₂ (EntryBuilt env t) fields matchList) :
    ∃ builtFields : List (BuiltField t), matchList = builtFields.map BuiltField.toFieldMatch ∧
      builtFields.map (fun field => field.declared.name) = fields.map Prod.fst := by
  induction h with
  | nil => exact ⟨[], rfl, rfl⟩
  | cons hfield _ ih =>
    obtain ⟨mf, hmem, hname, hid, hbuilt⟩ := hfield
    obtain ⟨field, hdeclared, hmatched⟩ := exists_builtField hmem hbuilt
    obtain ⟨builtFields, rfl, hnames⟩ := ih
    refine ⟨field :: builtFields, ?_, ?_⟩
    · rw [List.map_cons, BuiltField.toFieldMatch, hdeclared, hmatched, ← hid]
    · rw [List.map_cons, List.map_cons, hdeclared, hname, hnames]

end NetworkingRecipe.P4rtCtl
