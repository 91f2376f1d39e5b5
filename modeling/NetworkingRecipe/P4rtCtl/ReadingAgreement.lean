import NetworkingRecipe.P4rtCtl.NamedParameters
import NetworkingRecipe.P4rtCtl.PrintedMatch

/-!
# Agreement of adding and modifying

To add an entry looks for the words for a group and a member behind a comma, and to modify one
looks for them anywhere in the flow. Where the flow has them behind a comma whenever it has them,
both commands choose the same reader and agree.

Where it has them elsewhere only, as in the name of a match field, modifying always fails. The
commands then differ on every flow that renders an entry of the table, which adding sends.
-/

namespace NetworkingRecipe.P4rtCtl

open Python

/-! ## Markers -/

/-- Both commands fail before sending, or both send the same entry, one to insert and the
other to modify. -/
def SameReading : Run Update → Run Update → Prop
  | .error _, .error _ => True
  | .ok added, .ok modified =>
    added.type = .insert ∧ modified.type = .modify ∧ added.tableEntry = modified.tableEntry
  | _, _ => False

/-- A flow that mentions a group or a member mentions one behind a comma. -/
def MarkersAgree (flow : Text) : Prop :=
  contains flow "group_id".toList = true ∨ contains flow "member_id".toList = true →
    contains flow ",group_id".toList = true ∨ contains flow ",member_id".toList = true

instance (flow : Text) : Decidable (MarkersAgree flow) := by
  unfold MarkersAgree
  infer_instance

variable (env : Environment) (p4info : P4Info)

/-- Where a word stands behind a comma, it stands in the flow. -/
theorem mentions_of_comma {flow : Text}
    (h : contains flow ",group_id".toList = true ∨ contains flow ",member_id".toList = true) :
    contains flow "group_id".toList = true ∨ contains flow "member_id".toList = true :=
  h.imp (contains_of_part (by decide)) (contains_of_part (by decide))

/-- The readers are the same when both commands choose between the same branches. -/
theorem readModFlow_eq_readAddFlow {flow : Text} (hconfig : contains flow "config_data".toList = false)
    (hmarkers : MarkersAgree flow) : readModFlow env p4info flow = readAddFlow env p4info flow := by
  rw [readModFlow, readAddFlow, hconfig]
  by_cases hcomma : contains flow ",group_id".toList = true ∨ contains flow ",member_id".toList = true
  · rw [if_pos (Bool.or_eq_true_iff.mpr hcomma), if_pos (Bool.or_eq_true_iff.mpr (mentions_of_comma hcomma))]
  · rw [if_neg (fun h => hcomma (Bool.or_eq_true_iff.mp h)),
      if_neg (fun h => hcomma (hmarkers (Bool.or_eq_true_iff.mp h)))]
    rfl

/-- To modify an entry rejects a flow without a comma in front of the words. -/
theorem readModFlow_of_not_markersAgree {flow : Text} (hmarkers : ¬ MarkersAgree flow) :
    ∃ error, readModFlow env p4info flow = .error error := by
  obtain ⟨hmentions, hcomma⟩ := Classical.not_imp.mp hmarkers
  obtain ⟨hgroup, hmember⟩ := not_or.mp hcomma
  obtain ⟨error, hread⟩ := parseFlowAs_error env (Bool.eq_false_iff.mpr hgroup) (Bool.eq_false_iff.mpr hmember)
  rw [readModFlow, if_pos (Bool.or_eq_true_iff.mpr hmentions), readAs, hread]
  exact ⟨error, rfl⟩

/-- A command sends the entry of its reading, if there is one. -/
theorem writeEntry_some (type : UpdateType) (readFlow : P4Info → Text → Run FlowReading)
    (bridge tblName flow : Text) :
    writeEntry env type readFlow (some p4info) bridge tblName flow =
      Update.mk type <$> (readFlow p4info flow >>= entryOf env p4info tblName) := by
  rw [writeEntry]
  change (readFlow p4info flow >>= fun reading => entryOf env p4info tblName reading >>= fun te =>
    Except.ok (Update.mk type te)) = _
  cases readFlow p4info flow with
  | error error => rfl
  | ok reading => rfl

/-- Sent from the same entry or from none, the updates are the same reading. -/
theorem sameReading_map (entry : Run TableEntry) :
    SameReading (Update.mk .insert <$> entry) (Update.mk .modify <$> entry) := by
  cases entry with
  | error error => trivial
  | ok entry => exact ⟨rfl, rfl, rfl⟩

/-- Commands whose markers agree read a flow alike. -/
theorem sameReading_of_markersAgree (bridge tblName : Text) {flow : Text}
    (hconfig : contains flow "config_data".toList = false) (hmarkers : MarkersAgree flow) :
    SameReading (p4ctlAddEntry env (some p4info) bridge tblName flow)
      (p4ctlModEntry env (some p4info) bridge tblName flow) := by
  rw [p4ctlAddEntry, p4ctlModEntry, writeEntry_some, writeEntry_some,
    readModFlow_eq_readAddFlow env p4info hconfig hmarkers]
  exact sameReading_map _

/-! ## Values that a field holds -/

/-- A text that spells a value of a field: a numeral, decimal or hexadecimal, below the power of two,
or an address with as many bytes as the field. -/
inductive FieldText (width : ℕ) : Text → Prop
  | decimal {text : Text} : Decimal text → env.Converts text → numeral 10 text < 2 ^ width →
      FieldText width text
  | hex {digits : Text} : Digits 16 digits → digits ≠ [] → numeral 16 digits < 2 ^ width →
      FieldText width ("0x".toList ++ digits)
  | address {text : Text} {bytes : Bytes} : addressOf env text = some bytes →
      bytes.length = (width + 7) / 8 → FieldText width text

/-- A match key that the declaration of its field allows: an exact key has no suffix, that of a
prefix is a length, and that of a pair is a second value. -/
inductive KeyAllowed (mf : MatchField) (key : MatchKey) : Prop
  | exact {width : ℕ} : mf.matchType = .exact → mf.bitwidth = width → 1 ≤ width →
      FieldText env width key.value → key.suffix = none → KeyAllowed mf key
  | lpm {width : ℕ} {suffix : Text} : mf.matchType = .lpm → mf.bitwidth = width → 1 ≤ width →
      FieldText env width key.value → key.suffix = some suffix → numeral 10 suffix < 2 ^ 31 →
      KeyAllowed mf key
  | pair {width : ℕ} {suffix : Text} : mf.matchType = .ternary ∨ mf.matchType = .range →
      mf.bitwidth = width → 1 ≤ width → FieldText env width key.value → key.suffix = some suffix →
      numeral 10 suffix < 2 ^ width → KeyAllowed mf key

/-- A number that a parameter holds. -/
def ParamHolds (p : Param) (value : Text) : Prop :=
  ∃ width : ℕ, p.bitwidth = width ∧ 1 ≤ width ∧ numeral 10 value < 2 ^ width

/-- A flow that renders an entry of a table with an action: each match key is one that its field
allows, a ternary field comes with a priority, and each parameter has its value. -/
structure EntryFlow (t : Table) (decl : ActionDecl) (flow : FlowText) : Prop where
  unambiguous : Unambiguous flow
  convertible : flow.Convertible env
  table : Declares p4info t
  table_named : t.preamble.name ≠ []
  keys : ∀ key ∈ flow.keys, ∃ mf ∈ t.matchFields, mf.name = key.name ∧ KeyAllowed env mf key
  priority : (∃ key ∈ flow.keys, ∃ mf ∈ t.matchFields, mf.name = key.name ∧ mf.matchType = .ternary) →
    ∃ text ∈ flow.priority, env.Converts text ∧ numeral 10 text < 2 ^ 31
  action : OnlyDecl p4info decl
  action_name : decl.preamble.name = flow.action
  params_distinct : (decl.params.map Param.name).Nodup
  values : List.Forall₂ ParamHolds decl.params flow.values

/-- A flow text that renders an entry of the table with the name. -/
def RendersEntry (tblName text : Text) : Prop :=
  ∃ t decl flow, EntryFlow env p4info t decl flow ∧ t.preamble.name = tblName ∧ flow.text = text

variable {env p4info}

variable (env) in
/-- A number below the power of two is encoded in the field. -/
theorem exists_encode_number {number width : ℕ} (hpos : 1 ≤ width) (h : number < 2 ^ width) :
    ∃ bytes, encode env (.scalar (.int number)) width = .ok (.bytes bytes) := by
  obtain ⟨bytes, hencode, hlength, -⟩ := encodeNum_of_lt h hpos
  exact ⟨bytes, encode_eq_ok_iff.mpr ⟨Or.inr ⟨number, bytes, rfl, hencode, rfl⟩, hlength⟩⟩

/-- A decimal numeral is encoded as the number that it spells. -/
theorem encodeText_of_decimal (henv : env.Ipv6HasColon) {text : Text} (h : Decimal text)
    (hconverts : env.Converts text) (bitwidth : ℤ) :
    encodeText env text bitwidth = .bytes <$> encodeNum (numeral 10 text) bitwidth := by
  have hline : '\n' ∉ text := h.digits.not_mem (by decide)
  have hcolon : ':' ∉ text := h.digits.not_mem (by decide)
  have hnumber := orRaise_eq_ok_iff.mp (intOfText_of_decimal h hconverts)
  rw [encodeText, not_matchesMac hline hcolon, not_matchesIPv4 hline (h.digits.not_mem (by decide)),
    matchesIPv6, henv text h.nonempty hcolon, isdigit_of_digits env.unicode h.digits h.nonempty, hnumber]
  rfl

/-- A text that spells a value of the field is encoded in it. -/
theorem exists_encode_text (henv : env.Ipv6HasColon) {width : ℕ} (hpos : 1 ≤ width) {text : Text}
    (h : FieldText env width text) :
    ∃ bytes, encode env (.scalar (.str text)) width = .ok (.bytes bytes) := by
  have hencode : ∃ bytes, encodeText env text width = .ok (.bytes bytes) ∧ bytes.length = (width + 7) / 8 := by
    cases h with
    | decimal hdecimal hconverts hlt =>
      obtain ⟨bytes, hbytes, hlength, -⟩ := encodeNum_of_lt hlt hpos
      rw [encodeText_of_decimal henv hdecimal hconverts, hbytes]
      exact ⟨bytes, rfl, hlength⟩
    | hex hdigits hne hlt =>
      obtain ⟨bytes, hbytes, hlength, -⟩ := encodeNum_of_lt hlt hpos
      rw [encodeText_of_hexDigits henv hdigits hne, hbytes]
      exact ⟨bytes, rfl, hlength⟩
    | address haddress hlength => exact ⟨_, encodeText_of_addressOf haddress width, hlength⟩
  obtain ⟨bytes, htext, hlength⟩ := hencode
  exact ⟨bytes, encode_eq_ok_iff.mpr ⟨Or.inl ⟨text, rfl, htext⟩, hlength⟩⟩

/-! ## Entries of a flow -/

/-- An allowed match key has a match field built for it. -/
theorem exists_fieldBuilt (henv : env.Ipv6HasColon) {mf : MatchField} {key : MatchKey}
    (h : KeyAllowed env mf key) :
    ∃ fieldMatchType, FieldBuilt env mf key.entry.2 fieldMatchType := by
  cases h with
  | exact htype hwidth hpos hvalue hsuffix =>
    obtain ⟨bytes, hencode⟩ := exists_encode_text henv hpos hvalue
    rw [MatchKey.entry, hsuffix]
    exact ⟨_, .exact htype (by rw [hwidth]; exact hencode)⟩
  | lpm htype hwidth hpos hvalue hsuffix hlength =>
    obtain ⟨bytes, hencode⟩ := exists_encode_text henv hpos hvalue
    rw [MatchKey.entry, hsuffix]
    exact ⟨_, .lpm htype rfl (by rw [hwidth]; exact hencode) rfl (if_pos ⟨by omega, by omega⟩)⟩
  | pair htype hwidth hpos hvalue hsuffix hsecond =>
    obtain ⟨bytes, hencode⟩ := exists_encode_text henv hpos hvalue
    obtain ⟨second, hencodeSecond⟩ := exists_encode_number env hpos hsecond
    rw [MatchKey.entry, hsuffix]
    obtain htype | htype := htype
    · exact ⟨_, .ternary htype rfl (by rw [hwidth]; exact hencode) rfl (by rw [hwidth]; exact hencodeSecond)⟩
    · exact ⟨_, .range htype rfl (by rw [hwidth]; exact hencode) rfl (by rw [hwidth]; exact hencodeSecond)⟩

variable {t : Table} {decl : ActionDecl} {flow : FlowText}

/-- The match list of the entry that a flow renders. -/
theorem exists_matchList (henv : env.Ipv6HasColon) (h : EntryFlow env p4info t decl flow) :
    ∃ built, List.Forall₂ (EntryBuilt env t) flow.entries built := by
  have hkeys : ∀ entry ∈ flow.entries, ∃ fieldMatch, EntryBuilt env t entry fieldMatch := by
    intro entry hentry
    obtain ⟨key, hkey, rfl⟩ := List.mem_map.mp hentry
    obtain ⟨mf, hmem, hname, hallowed⟩ := h.keys key hkey
    obtain ⟨fieldMatchType, hbuilt⟩ := exists_fieldBuilt henv hallowed
    exact ⟨⟨mf.id, fieldMatchType⟩, mf, hmem, hname.trans key.entry_fst.symm, rfl, hbuilt⟩
  generalize flow.entries = entries at hkeys
  induction entries with
  | nil => exact ⟨[], .nil⟩
  | cons entry rest ih =>
    obtain ⟨fieldMatch, hfield⟩ := hkeys entry List.mem_cons_self
    obtain ⟨built, hrest⟩ := ih fun other hother => hkeys other (List.mem_cons_of_mem _ hother)
    exact ⟨fieldMatch :: built, .cons hfield hrest⟩

/-- What is related to the elements of a list is related to one of them. -/
theorem exists_mem_of_forall₂ {A B : Type*} {R : A → B → Prop} {first : List A} {second : List B}
    (h : List.Forall₂ R first second) {b : B} (hb : b ∈ second) : ∃ a ∈ first, R a b := by
  induction h with
  | nil => cases hb
  | @cons a other _ _ hab _ ih =>
    obtain rfl | hmem := List.mem_cons.mp hb
    · exact ⟨a, List.mem_cons_self, hab⟩
    · obtain ⟨found, hfound, hrelated⟩ := ih hmem
      exact ⟨found, List.mem_cons_of_mem a hfound, hrelated⟩

/-- A flow that renders an entry with a ternary field has a priority. -/
theorem priority_of_isTernary (h : EntryFlow env p4info t decl flow) {built : List FieldMatch}
    (hbuilt : List.Forall₂ (EntryBuilt env t) flow.entries built)
    (hternary : (built.any fun fieldMatch => fieldMatch.fieldMatchType.isTernary) = true) :
    ∃ text ∈ flow.priority, env.Converts text ∧ numeral 10 text < 2 ^ 31 := by
  obtain ⟨fieldMatch, hmem, htype⟩ := List.any_eq_true.mp hternary
  obtain ⟨entry, hentry, mf, hmf, hname, -, hfield⟩ := exists_mem_of_forall₂ hbuilt hmem
  obtain ⟨key, hkey, rfl⟩ := List.mem_map.mp hentry
  rw [← isTernary_of_fieldBuilt hfield, beq_iff_eq] at htype
  exact h.priority ⟨key, hkey, mf, hmf, hname.trans key.entry_fst, htype⟩

/-- The parameters of the action that a flow renders are built. -/
theorem exists_params (hdistinct : (decl.params.map Param.name).Nodup) (honly : OnlyDecl p4info decl)
    {values : List Text} (hvalues : List.Forall₂ ParamHolds decl.params values) :
    ∃ params, (List.zipWith (fun p value => (p.name, value)) decl.params
      (values.map fun value => (numeral 10 value : ℤ))).mapM
        (fun param => p4info.getActionParamPb env decl.preamble.name param.1 param.2) = .ok params := by
  have hparam : ∀ p ∈ decl.params, p4info.getActionParam decl.preamble.name p.name = .ok p := by
    intro p hp
    rw [P4Info.getActionParam, honly, List.flatMap_singleton, orRaise_eq_ok_iff]
    exact find?_of_nodup hdistinct hp
  generalize decl.params = declared at hparam hvalues
  induction hvalues with
  | nil => exact ⟨[], rfl⟩
  | @cons p value rest values hholds _ ih =>
    obtain ⟨width, hwidth, hpos, hlt⟩ := hholds
    obtain ⟨bytes, hencode⟩ := exists_encode_number env hpos hlt
    obtain ⟨params, hparams⟩ := ih fun other hother => hparam other (List.mem_cons_of_mem p hother)
    refine ⟨⟨p.id, bytes⟩ :: params, ?_⟩
    rw [List.map_cons, List.zipWith_cons_cons, List.mapM_cons]
    refine bind_eq_ok_iff.mpr ⟨⟨p.id, bytes⟩, ?_, bind_eq_ok_iff.mpr ⟨params, hparams, rfl⟩⟩
    refine bind_eq_ok_iff.mpr ⟨p, hparam p List.mem_cons_self, bind_eq_ok_iff.mpr ⟨.bytes bytes, ?_, rfl⟩⟩
    rw [hwidth]
    exact hencode

variable (env p4info) in
/-- The priority of an entry: that of the flow, if a ternary field has been added. -/
def entryPriority (priority : Option Text) (ternary : Bool) : Run Int32 :=
  match priority, ternary with
  | some text, true => intOfText env text >>= setInt32
  | _, _ => .ok 0

variable (env p4info) in
/-- The action of an entry; one without a name is none. -/
def entryAction (actionName : Text) (params : Dict ℤ) : Run (Option TableAction) :=
  match actionName with
  | [] => .ok none
  | c :: name => some <$> p4info.buildAction env (c :: name) params

/-- Without a group, a member and a configuration, an entry has a match list, a priority and an action. -/
theorem buildTableEntry_action (tableName : Text) (matchFields : Dict Value) (actionName : Text)
    (params : Dict ℤ) (priority : Option Text) :
    p4info.buildTableEntry env tableName matchFields false (some actionName) (some params) priority 0 0 none = (do
      let tableId ← p4info.getTablesId tableName
      let added ← matchFields.foldlM (p4info.addMatchField env tableName priority) ([], false)
      let value ← entryPriority env priority added.2
      let action ← entryAction env p4info actionName params
      .ok ⟨tableId, added.1, action, value, false, []⟩) := by
  rw [P4Info.buildTableEntry]
  refine bind_congr fun tableId => bind_congr fun added => ?_
  obtain ⟨matchList, ternary⟩ := added
  cases ternary with
  | false => cases priority <;> cases actionName <;> rfl
  | true =>
    cases priority with
    | none => cases actionName <;> rfl
    | some text =>
      rw [entryPriority, bind_assoc]
      cases actionName <;> rfl

/-- The priority of the entry that a flow renders fits its field. -/
theorem exists_entryPriority {ternary : Bool}
    (hternary : ternary = true → ∃ text ∈ flow.priority, env.Converts text ∧ numeral 10 text < 2 ^ 31) :
    ∃ value, entryPriority env flow.priority ternary = .ok value := by
  cases ternary with
  | false => exact ⟨0, by cases flow.priority <;> rfl⟩
  | true =>
    obtain ⟨text, htext, hconverts, hlt⟩ := hternary rfl
    rw [Option.mem_def.mp htext]
    exact ⟨_, bind_eq_ok_iff.mpr ⟨_, intOfText_of_decimal (flow.priority_decimal text htext) hconverts,
      if_pos ⟨by omega, by omega⟩⟩⟩

/-- The identifier of an action that is declared is found. -/
theorem exists_getActionsId (honly : OnlyDecl p4info decl) (hname : decl.preamble.name ≠ []) :
    ∃ actionId, p4info.getActionsId decl.preamble.name = .ok actionId := by
  have hfind : (p4info.actions.find? fun o =>
      o.preamble.name == decl.preamble.name || o.preamble.aliasName == decl.preamble.name).isSome := by
    refine List.find?_isSome.mpr ⟨decl, List.mem_of_mem_filter (honly ▸ List.mem_singleton_self decl), ?_⟩
    rw [beq_self_eq_true, Bool.true_or]
  obtain ⟨found, hfound⟩ := Option.isSome_iff_exists.mp hfind
  refine ⟨found.preamble.id, bind_eq_ok_iff.mpr ⟨found, ?_, rfl⟩⟩
  rw [get, if_neg hname, hfound]
  rfl

/-- The action of the entry that a flow renders is built. -/
theorem exists_entryAction (h : EntryFlow env p4info t decl flow) :
    ∃ action, entryAction env p4info decl.preamble.name
      (List.zipWith (fun p value => (p.name, value)) decl.params flow.numbers) = .ok action := by
  obtain ⟨params, hparams⟩ := exists_params h.params_distinct h.action h.values
  cases hname : decl.preamble.name with
  | nil => exact ⟨none, rfl⟩
  | cons c name =>
    obtain ⟨actionId, hid⟩ := exists_getActionsId h.action (hname ▸ List.cons_ne_nil c name)
    rw [hname] at hid hparams
    refine ⟨some (.action actionId params), map_eq_ok_iff.mpr ⟨_, ?_, rfl⟩⟩
    exact bind_eq_ok_iff.mpr ⟨actionId, hid, bind_eq_ok_iff.mpr ⟨params, hparams, rfl⟩⟩

/-- The entry that a flow renders is built. -/
theorem exists_entry (henv : env.Ipv6HasColon) (h : EntryFlow env p4info t decl flow) :
    ∃ te, entryOf env p4info t.preamble.name flow.reading = .ok te := by
  obtain ⟨built, hbuilt⟩ := exists_matchList henv h
  have hgiven := priority_of_isTernary h hbuilt
  have hsome : (built.any fun fieldMatch => fieldMatch.fieldMatchType.isTernary) = true → flow.priority ≠ none := by
    intro hternary hnone
    obtain ⟨text, htext, -⟩ := hgiven hternary
    rw [hnone] at htext
    cases htext
  have hid : p4info.getTablesId t.preamble.name = .ok t.preamble.id := by
    refine bind_eq_ok_iff.mpr ⟨t, ?_, rfl⟩
    rw [get, if_neg h.table_named, h.table.by_name]
    rfl
  have hfold : flow.entries.foldlM (p4info.addMatchField env t.preamble.name flow.priority) ([], false) =
      .ok (built, built.any fun fieldMatch => fieldMatch.fieldMatchType.isTernary) :=
    (foldlM_addMatchField_eq_ok_iff h.table).mpr ⟨built, hbuilt, hsome, by rw [List.nil_append, Bool.false_or]⟩
  have hlength : flow.numbers.length = decl.params.length := by
    rw [FlowText.numbers, List.length_map, h.values.length_eq]
  have hnamed : actionParams p4info (some decl.preamble.name) (some (.values flow.numbers)) =
      .ok (some (List.zipWith (fun p value => (p.name, value)) decl.params flow.numbers)) := by
    rw [actionParams, nameValues_of_onlyDecl h.params_distinct h.action hlength]
    rfl
  obtain ⟨value, hvalue⟩ := exists_entryPriority hgiven
  obtain ⟨action, haction⟩ := exists_entryAction h
  refine ⟨⟨t.preamble.id, built, action, value, false, []⟩, ?_⟩
  rw [FlowText.reading, ← h.action_name]
  refine bind_eq_ok_iff.mpr ⟨_, hnamed, bind_eq_ok_iff.mpr ⟨0, rfl, bind_eq_ok_iff.mpr ⟨0, rfl, ?_⟩⟩⟩
  rw [buildTableEntry_action]
  exact bind_eq_ok_iff.mpr ⟨_, hid, bind_eq_ok_iff.mpr ⟨_, hfold, bind_eq_ok_iff.mpr ⟨value, hvalue,
    bind_eq_ok_iff.mpr ⟨action, haction, rfl⟩⟩⟩⟩

/-! ## Agreement -/

/-- To add an entry sends one for a flow that renders it. -/
theorem exists_addEntry (henv : env.Ipv6HasColon) {tblName text : Text}
    (h : RendersEntry env p4info tblName text) (bridge : Text) :
    ∃ update, p4ctlAddEntry env (some p4info) bridge tblName text = .ok update := by
  obtain ⟨t, decl, flow, hentry, rfl, rfl⟩ := h
  obtain ⟨te, hte⟩ := exists_entry henv hentry
  refine ⟨⟨.insert, te⟩, ?_⟩
  rw [p4ctlAddEntry, writeEntry_some, FlowText.readAddFlow_text henv hentry.unambiguous hentry.convertible]
  exact map_eq_ok_iff.mpr ⟨te, hte, rfl⟩

variable (env p4info) in
/-- To modify an entry fails where the markers do not agree. -/
theorem exists_modEntry_error {flow : Text} (hmarkers : ¬ MarkersAgree flow) (bridge tblName : Text) :
    ∃ error, p4ctlModEntry env (some p4info) bridge tblName flow = .error error := by
  obtain ⟨error, hread⟩ := readModFlow_of_not_markersAgree env p4info hmarkers
  rw [p4ctlModEntry, writeEntry_some, hread]
  exact ⟨error, rfl⟩

/-- **Adding and modifying read a flow alike if it mentions groups and members behind commas whenever it
mentions them, and a flow that renders an entry of the table only then.** -/
theorem sameReading_iff (env : Environment) (p4info : P4Info) (bridge tblName flow : Text)
    (hconfig : contains flow "config_data".toList = false) :
    (MarkersAgree flow →
        SameReading (p4ctlAddEntry env (some p4info) bridge tblName flow)
          (p4ctlModEntry env (some p4info) bridge tblName flow)) ∧
      (env.Ipv6HasColon → RendersEntry env p4info tblName flow →
        (SameReading (p4ctlAddEntry env (some p4info) bridge tblName flow)
          (p4ctlModEntry env (some p4info) bridge tblName flow) ↔ MarkersAgree flow)) := by
  refine ⟨sameReading_of_markersAgree env p4info bridge tblName hconfig, fun henv hrenders =>
    ⟨fun hsame => ?_, sameReading_of_markersAgree env p4info bridge tblName hconfig⟩⟩
  by_contra hmarkers
  obtain ⟨update, hadd⟩ := exists_addEntry henv hrenders bridge
  obtain ⟨error, hmod⟩ := exists_modEntry_error env p4info hmarkers bridge tblName
  rw [hadd, hmod] at hsame
  exact hsame

/-- A table with a match field that is named after a group. -/
def groupFieldTable : Table :=
  ⟨⟨1, "ingress.select".toList, "select".toList⟩,
    [⟨1, "meta.group_id".toList, 8, .exact⟩, ⟨2, "hdr.dst".toList, 32, .lpm⟩]⟩

/-- The action of its entries. -/
def forwardDecl : ActionDecl :=
  ⟨⟨2, "ingress.forward".toList, "forward".toList⟩, [⟨1, "port".toList, 16⟩]⟩

/-- A pipeline with this table and this action. -/
def groupFieldP4Info : P4Info :=
  ⟨[groupFieldTable], [forwardDecl]⟩

/-- The value that the flow matches. -/
theorem plain_five : Plain "5".toList :=
  ⟨by decide, by decide, by decide⟩

/-- A flow without a priority has none that is not decimal. -/
theorem decimal_of_none : ∀ text ∈ (none : Option Text), Decimal text :=
  fun text h => absurd h (Option.not_mem_none text)

/-- The flow `meta.group_id=5,action=ingress.forward(7)`. -/
def groupFieldFlow : FlowText where
  keys := [exactKey "meta.group_id".toList "5".toList (by decide) ⟨by decide, by decide, by decide⟩ plain_five]
  priority := none
  action := "ingress.forward".toList
  values := ["7".toList]
  keys_nonempty := by decide
  names_distinct := by decide
  priority_decimal := decimal_of_none
  action_argument := ⟨by decide, by decide, by decide⟩
  values_nonempty := by decide
  values_decimal := by decide

/-- A group that is only a part of a field's name is no obstacle to adding the entry, and makes
modifying it fail. -/
theorem not_sameReading_groupField :
    contains groupFieldFlow.text "config_data".toList = false ∧
      ¬ SameReading
        (p4ctlAddEntry Environment.ascii (some groupFieldP4Info) "br0".toList "ingress.select".toList
          groupFieldFlow.text)
        (p4ctlModEntry Environment.ascii (some groupFieldP4Info) "br0".toList "ingress.select".toList
          groupFieldFlow.text) := by
  have hadd : p4ctlAddEntry Environment.ascii (some groupFieldP4Info) "br0".toList
      "ingress.select".toList groupFieldFlow.text =
        .ok ⟨.insert, ⟨1, [⟨1, .exact [5]⟩], some (.action 2 [⟨1, [0, 7]⟩]), 0, false, []⟩⟩ := by
    decide +kernel
  have hmod : p4ctlModEntry Environment.ascii (some groupFieldP4Info) "br0".toList
      "ingress.select".toList groupFieldFlow.text = .error .indexError := by
    decide +kernel
  rw [hadd, hmod]
  exact ⟨by decide +kernel, id⟩

/-- The flow renders an entry of the table. -/
theorem rendersEntry_groupField :
    RendersEntry Environment.ascii groupFieldP4Info "ingress.select".toList groupFieldFlow.text := by
  refine ⟨groupFieldTable, forwardDecl, groupFieldFlow, ?_, rfl, rfl⟩
  refine {
    unambiguous := ⟨nofun, nofun, nofun, fun _ => nofun, ?_⟩
    convertible := ⟨by decide, by decide⟩
    table := ⟨rfl, rfl, rfl, by decide, by decide⟩
    table_named := by decide
    keys := ?_
    priority := ?_
    action := rfl
    action_name := rfl
    params_distinct := by decide
    values := .cons ⟨16, rfl, by decide, by decide⟩ .nil }
  · exact fun _ => by decide +kernel
  · intro key hkey
    obtain rfl := List.mem_singleton.mp hkey
    exact ⟨_, List.mem_cons_self, rfl,
      .exact rfl rfl (by decide) (.decimal (by decide) (by decide) (by decide)) rfl⟩
  · rintro ⟨key, -, mf, hmf, -, hternary⟩
    obtain rfl | rfl : mf = ⟨1, "meta.group_id".toList, 8, .exact⟩ ∨ mf = ⟨2, "hdr.dst".toList, 32, .lpm⟩ := by
      simpa [groupFieldTable] using hmf
    · cases hternary
    · cases hternary

/-- On this pipeline a flow without a group or a member is read alike, and the flow that matches on the
field is not. -/
theorem sameReading_lpmField :
    SameReading
        (p4ctlAddEntry Environment.ascii (some groupFieldP4Info) "br0".toList "ingress.select".toList
          "hdr.dst=10/24,action=ingress.forward(port=7)".toList)
        (p4ctlModEntry Environment.ascii (some groupFieldP4Info) "br0".toList "ingress.select".toList
          "hdr.dst=10/24,action=ingress.forward(port=7)".toList) ∧
      ¬ SameReading
        (p4ctlAddEntry Environment.ascii (some groupFieldP4Info) "br0".toList "ingress.select".toList
          groupFieldFlow.text)
        (p4ctlModEntry Environment.ascii (some groupFieldP4Info) "br0".toList "ingress.select".toList
          groupFieldFlow.text) :=
  ⟨(sameReading_iff Environment.ascii groupFieldP4Info "br0".toList "ingress.select".toList
      "hdr.dst=10/24,action=ingress.forward(port=7)".toList (by decide +kernel)).1 (by decide +kernel),
    mt ((sameReading_iff Environment.ascii groupFieldP4Info "br0".toList "ingress.select".toList
      groupFieldFlow.text (by decide +kernel)).2 Environment.ascii_ipv6HasColon rendersEntry_groupField).mp
      (by decide +kernel)⟩

end NetworkingRecipe.P4rtCtl
