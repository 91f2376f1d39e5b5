import NetworkingRecipe.P4rtCtl.PrintedLiteral

/-!
# Deleting an entry by its printed match text

The match text that is printed for an entry, with its priority behind it, is given to the command that
deletes an entry. It is read and built again as the same match list with the same priority if and only if
every match field is an exact value or a prefix, every value is below the power of two that its declared
width gives, and the entry has no priority: only a table with a ternary field keeps one.
-/

namespace NetworkingRecipe.P4rtCtl

open Python

variable {env : Environment} {p4info : P4Info} {t : Table}

/-- The match fields of an entry as `_format_entry` prints them. -/
def printedMatch (p4info : P4Info) (te : TableEntry) : Run Text := do
  let tblName ← p4info.getTablesName te.tableId
  formatMatch p4info tblName te.matchList

/-- What `_format_entry` prints for an entry has this text behind the table and the priority. -/
theorem formatEntry_eq_ok_iff {te : TableEntry} {text : Text} :
    formatEntry p4info te = .ok text ↔ ∃ tblName matchText action,
      p4info.getTablesName te.tableId = .ok tblName ∧ printedMatch p4info te = .ok matchText ∧
      formatAction p4info te.action = .ok action ∧
      text = "  table=".toList ++ tblName ++ formatPriority te.priority ++
        (if te.matchList = [] then [] else ' ' :: matchText) ++ action := by
  simp only [formatEntry, printedMatch, bind_eq_ok_iff]
  constructor
  · rintro ⟨tblName, htable, matchText, hmatch, action, haction, htext⟩
    exact ⟨tblName, matchText, action, htable, ⟨tblName, htable, hmatch⟩, haction, (Except.ok.inj htext).symm⟩
  · rintro ⟨tblName, matchText, action, htable, ⟨tblName', htable', hmatch⟩, haction, rfl⟩
    obtain rfl := Except.ok.inj (htable.symm.trans htable')
    exact ⟨tblName, htable, matchText, hmatch, action, haction, rfl⟩

/-- The match text with `,priority=P` behind it, if the entry has a priority. -/
def deletionKey (te : TableEntry) (matchText : Text) : Text :=
  matchText ++ if te.priority = 0 then [] else ",priority=".toList ++ intText te.priority.toInt

/-- The printed match text of an entry is deleted as an entry with the same match list and priority. -/
def PrintsBack (env : Environment) (p4info : P4Info) (bridge : Text) (t : Table) (te : TableEntry) : Prop :=
  ∃ matchText back, printedMatch p4info te = .ok matchText ∧
    p4ctlDelEntry env (some p4info) bridge t.preamble.name (deletionKey te matchText) = .ok back ∧
    back.matchList = te.matchList ∧ back.priority = te.priority

/-- An exact value or a prefix, with a value below the power of two that the declared width gives. -/
def ReadableField (t : Table) (fieldMatch : FieldMatch) : Prop :=
  fieldMatch.fieldMatchType.literal = none ∧ ∃ mf ∈ t.matchFields, mf.id = fieldMatch.fieldId ∧
    fromBytes fieldMatch.fieldMatchType.first < 2 ^ mf.bitwidth.toNat

/-- An entry without a priority whose match list has such fields, and one at least. -/
structure ReadableEntry (t : Table) (te : TableEntry) : Prop where
  nonempty : te.matchList ≠ []
  fields : ∀ fieldMatch ∈ te.matchList, ReadableField t fieldMatch
  priority : te.priority = 0

/-! ## Byte strings -/

/-- Weights do not grow for ever in a list. -/
theorem not_of_exists_larger {A : Type} {weight : A → ℕ} {marked : A → Prop} {list : List A}
    (h : ∀ a ∈ list, marked a → ∃ b ∈ list, marked b ∧ weight a < weight b) : ∀ a ∈ list, ¬ marked a := by
  obtain ⟨bound, hbound⟩ : ∃ bound, ∀ a ∈ list, weight a ≤ bound := by
    clear h
    induction list with
    | nil => exact ⟨0, nofun⟩
    | cons a rest ih =>
      obtain ⟨bound, hbound⟩ := ih
      refine ⟨max (weight a) bound, List.forall_mem_cons.mpr ⟨le_max_left _ _, fun b hb => ?_⟩⟩
      exact (hbound b hb).trans (le_max_right _ _)
  have hbelow (room : ℕ) : ∀ a ∈ list, bound ≤ weight a + room → ¬ marked a := by
    induction room with
    | zero =>
      intro a ha hweight hmarked
      obtain ⟨b, hb, -, hlt⟩ := h a ha hmarked
      have hle := hbound b hb
      omega
    | succ room ih =>
      intro a ha hweight hmarked
      obtain ⟨b, hb, hmarkedB, hlt⟩ := h a ha hmarked
      exact ih b hb (by omega) hmarkedB
  exact fun a ha => hbelow bound a ha (Nat.le_add_left _ _)

/-- What is related to an element of the second of two related lists is in the first. -/
theorem exists_of_forall₂ {A B : Type} {related : A → B → Prop} {first : List A} {second : List B}
    (h : List.Forall₂ related first second) {b : B} (hb : b ∈ second) : ∃ a ∈ first, related a b := by
  induction h with
  | nil => cases hb
  | cons hhead _ ih =>
    obtain rfl | hb := List.mem_cons.mp hb
    · exact ⟨_, List.mem_cons_self, hhead⟩
    · obtain ⟨a, ha, hrelated⟩ := ih hb
      exact ⟨a, List.mem_cons_of_mem _ ha, hrelated⟩

/-- A match list is not built again from keys that are pieces of its own text, if it has a byte string. -/
theorem literal_eq_none_of_pieces (htexts : env.Ipv6Texts) (ht : Declares p4info t) (hnames : ReadableNames t)
    {fields : List (BuiltField t)} {keys : Dict Value}
    (hbuilt : List.Forall₂ (EntryBuilt env t) keys (fields.map BuiltField.toFieldMatch))
    (hkeys : ∀ entry ∈ keys, ∃ piece ∈ (fields.map BuiltField.text).flatMap fun text => split text [','],
      Enters (numberOrTextSuffix env) piece entry) :
    ∀ field ∈ fields, field.matched.literal = none := by
  have hlarger : ∀ field ∈ fields, field.matched.literal.isSome = true →
      ∃ other ∈ fields, other.matched.literal.isSome = true ∧
        nonzeroBytes (field.matched.literal.getD []) < nonzeroBytes (other.matched.literal.getD []) := by
    intro field hfield hsome
    obtain ⟨literal, hliteral⟩ := Option.isSome_iff_exists.mp hsome
    obtain ⟨entry, hentry, mf, hmem, hname, hid, hmatched⟩ :=
      exists_of_forall₂ hbuilt (List.mem_map_of_mem hfield)
    obtain rfl : field.declared = mf :=
      List.inj_on_of_nodup_map ht.ids_distinct field.declared_mem hmem hid
    obtain ⟨piece, hpiece, henters⟩ := hkeys entry hentry
    obtain ⟨other, hother, larger, hlarger, hlt⟩ :=
      exists_larger_literal htexts ht hnames hliteral hname.symm hmatched hpiece henters
    refine ⟨other, hother, by rw [hlarger]; rfl, ?_⟩
    rw [hliteral, hlarger]
    exact hlt
  intro field hfield
  exact Option.not_isSome_iff_eq_none.mp (not_of_exists_larger hlarger field hfield)

/-! ## Pieces of the match text -/

/-- The pieces of a text up to a comma are pieces of the text. -/
theorem mem_split_of_front {front text rest : Text} (hfront : front <+: text)
    (hcomma : front ++ [','] <+: text ++ rest) {piece : Text} (h : piece ∈ split front [',']) :
    piece ∈ split text [','] := by
  obtain ⟨back, rfl⟩ := hfront
  cases back with
  | nil => rwa [List.append_nil]
  | cons c back =>
    rw [List.append_assoc, List.prefix_append_right_inj, List.cons_append, List.cons_prefix_cons] at hcomma
    obtain ⟨rfl, -⟩ := hcomma
    rw [split_append_cons_append]
    exact List.mem_append_left _ h

/-- The pieces of the match text are pieces of the text that is deleted. -/
theorem mem_split_deletionKey (te : TableEntry) {matchText piece : Text} (h : piece ∈ split matchText [',']) :
    piece ∈ split (deletionKey te matchText) [','] := by
  rw [deletionKey]
  split
  · rwa [List.append_nil]
  · have hsplit := split_append_cons_append (c := ',') matchText ("priority=".toList ++ intText te.priority.toInt)
    exact hsplit ▸ List.mem_append_left _ h

/-- What stands in front of the priority has the pieces of the match text only. -/
theorem mem_split_of_cut_deletionKey {te : TableEntry} {matchText front priority piece : Text}
    (hcut : cut (deletionKey te matchText) ",priority=".toList = .ok (front, priority))
    (h : piece ∈ split front [',']) : piece ∈ split matchText [','] := by
  obtain ⟨rest, hsplit⟩ := exists_split_of_cut hcut
  have hmarker : front ++ [','] <+: deletionKey te matchText := by
    have hstart := append_separator_prefix (List.cons_ne_nil _ _) hsplit
    exact ((List.prefix_append_right_inj front).mpr ⟨"priority=".toList, rfl⟩).trans hstart
  rw [deletionKey] at hcut hmarker
  refine mem_split_of_front ?_ hmarker h
  split at hcut
  · rw [List.append_nil] at hcut
    obtain ⟨others, hothers⟩ := exists_split_of_cut hcut
    have hstart := append_separator_prefix (List.cons_ne_nil _ _) hothers
    exact (List.prefix_append _ _).trans hstart
  · exact isPrefix_of_cut (List.cons_ne_nil _ _) hcut

/-- A match list with a byte string is not deleted as it is. -/
theorem literal_eq_none_of_p4ctlDelEntry (htexts : env.Ipv6Texts) (ht : Declares p4info t)
    (hnames : ReadableNames t) {fields : List (BuiltField t)} (hne : fields ≠ []) {te back : TableEntry}
    {bridge : Text}
    (h : p4ctlDelEntry env (some p4info) bridge t.preamble.name
      (deletionKey te (join ',' (fields.map BuiltField.text))) = .ok back)
    (hback : back.matchList = fields.map BuiltField.toFieldMatch) :
    ∀ field ∈ fields, field.matched.literal = none := by
  have hpieces : split (join ',' (fields.map BuiltField.text)) [','] =
      (fields.map BuiltField.text).flatMap fun text => split text [','] :=
    split_join_eq_flatMap (mt List.map_eq_nil_iff.mp hne)
  obtain ⟨⟨keys, priority⟩, hread, h⟩ := bind_eq_ok_iff.mp h
  have hentry : p4info.buildTableEntry env t.preamble.name keys false none none priority 0 0 none = .ok back := h
  obtain ⟨-, hbuilt, -⟩ := forall₂_of_buildTableEntry ht hentry
  rw [hback] at hbuilt
  rw [readDelKey] at hread
  split at hread
  · obtain ⟨⟨found, foundPriority⟩, hparse, hread⟩ := bind_eq_ok_iff.mp hread
    cases hread
    obtain ⟨⟨front, behind⟩, hcut, hparse⟩ := bind_eq_ok_iff.mp hparse
    obtain ⟨found', hfold, hparse⟩ := bind_eq_ok_iff.mp hparse
    cases hparse
    refine literal_eq_none_of_pieces htexts ht hnames hbuilt fun entry hentry => ?_
    obtain hnil | ⟨piece, hpiece, henters⟩ := (enters_of_foldlM hfold).2 entry hentry
    · cases hnil
    · exact ⟨piece, hpieces ▸ mem_split_of_cut_deletionKey hcut hpiece, henters⟩
  · obtain ⟨found, hparse, hread⟩ := bind_eq_ok_iff.mp hread
    cases hread
    intro field hfield
    cases hliteral : field.matched.literal with
    | none => rfl
    | some literal =>
      have hplain := hnames.plain _ field.declared_mem
      obtain ⟨rest, hrest⟩ := exists_split_eq (c := ',') (literalRest (reprQuote literal) literal)
      have hpiece : field.literalHead literal ++ (literalRest (reprQuote literal) literal).takeWhile (· != ',') ∈
          split field.text [','] := by
        rw [text_of_literal hliteral, split_append_of_not_mem (comma_not_mem_literalHead hplain literal), hrest]
        exact List.mem_cons_self
      have hmem := mem_split_deletionKey te
        (hpieces ▸ List.mem_flatMap.mpr ⟨field.text, List.mem_map_of_mem hfield, hpiece⟩)
      obtain ⟨entry, henters⟩ := (enters_of_foldlM hparse).1 _ hmem
      obtain ⟨-, others, read, hsuffix, -⟩ := enters_head hplain henters
      rw [numberSuffix_of_letter] at hsuffix
      cases hsuffix

/-! ## The round trip -/

/-- A field of an entry is readable if it has no byte string and its value fits. -/
theorem readableField_iff (ht : Declares p4info t) (field : BuiltField t) :
    ReadableField t field.toFieldMatch ↔ field.matched.literal = none ∧ field.Fits := by
  have hwidth : field.declared.bitwidth.toNat = field.width := by
    rw [field.bitwidth_eq, Int.toNat_natCast]
  refine and_congr_right fun _ => ⟨?_, fun hfits => ⟨field.declared, field.declared_mem, rfl, ?_⟩⟩
  · rintro ⟨mf, hmem, hid, hfits⟩
    obtain rfl := List.inj_on_of_nodup_map ht.ids_distinct hmem field.declared_mem hid
    rw [hwidth] at hfits
    exact hfits
  · rw [hwidth]
    exact hfits

/-- An empty text is not deleted. -/
theorem p4ctlDelEntry_nil (env : Environment) (p4info : Option P4Info) (bridge tblName : Text) :
    p4ctlDelEntry env p4info bridge tblName [] = .error .indexError := rfl

/-- What is deleted without a byte string is an entry without a priority. -/
theorem priority_of_p4ctlDelEntry (ht : Declares p4info t) {fields : List (BuiltField t)}
    (hliteral : ∀ field ∈ fields, field.matched.literal = none) {bridge matchKey : Text} {back : TableEntry}
    (h : p4ctlDelEntry env (some p4info) bridge t.preamble.name matchKey = .ok back)
    (hback : back.matchList = fields.map BuiltField.toFieldMatch) : back.priority = 0 := by
  obtain ⟨⟨keys, priority⟩, -, h⟩ := bind_eq_ok_iff.mp h
  have hentry : p4info.buildTableEntry env t.preamble.name keys false none none priority 0 0 none = .ok back := h
  exact (forall₂_of_buildTableEntry ht hentry).2.2 (hback ▸ any_isTernary_eq_false hliteral)

/-- **The printed match text of an entry, with its priority, is deleted as the same match list with the same
priority if and only if the list is not empty and has exact values and prefixes only, each with a value below the
power of two that its declared width gives, and the priority is zero.** -/
theorem printsBack_iff (env : Environment) (henv : env.Ipv6HasColon) (htexts : env.Ipv6Texts) (p4info : P4Info)
    (t : Table) (ht : Declares p4info t) (hnames : ReadableNames t) (bridge : Text) (matchFields : Dict Value)
    (hkeys : (matchFields.map Prod.fst).Nodup) (defaultAction : Bool) (actionName : Option Text)
    (actionParams : Option (Dict ℤ)) (priority : Option Text) (groupId memberId : ℤ) (configData : Option Text)
    (built te : TableEntry)
    (h : p4info.buildTableEntry env t.preamble.name matchFields defaultAction actionName actionParams priority
      groupId memberId configData = .ok built)
    (htable : te.tableId = t.preamble.id) (hmatch : te.matchList = built.matchList) :
    PrintsBack env p4info bridge t te ↔ ReadableEntry t te := by
  obtain ⟨-, hbuilt, -⟩ := forall₂_of_buildTableEntry ht h
  obtain ⟨-, hname, -⟩ := buildTableEntry_cases h
  obtain ⟨fields, hlist, hfieldNames⟩ := exists_builtFields (hmatch ▸ hbuilt)
  have hnodup : (fields.map fun field => field.declared.name).Nodup := hfieldNames ▸ hkeys
  have hprinted : printedMatch p4info te = .ok (join ',' (fields.map BuiltField.text)) := by
    rw [printedMatch, htable, hlist]
    exact bind_eq_ok_iff.mpr ⟨_, getTablesName_of_declares ht, formatMatch_fields ht fields⟩
  have hiff (hne : fields ≠ []) (hliteral : ∀ field ∈ fields, field.matched.literal = none) :=
    p4ctlDelEntry_printed_iff henv ht hnames (name_ne_nil_of_getTablesId hname) hne hnodup hliteral bridge
  have hkey (hzero : te.priority = 0) (matchText : Text) : deletionKey te matchText = matchText := by
    rw [deletionKey, if_pos hzero, List.append_nil]
  constructor
  · rintro ⟨matchText, back, hmatchText, hback, hmatchList, hbackPriority⟩
    obtain rfl := Except.ok.inj (hprinted.symm.trans hmatchText)
    have hne : fields ≠ [] := by
      rintro rfl
      have hnil := hback
      rw [hlist] at hmatchList
      have hnone : ∀ field ∈ ([] : List (BuiltField t)), field.matched.literal = none := nofun
      have hzero : te.priority = 0 :=
        hbackPriority.symm.trans (priority_of_p4ctlDelEntry ht hnone hback hmatchList)
      rw [hkey hzero] at hnil
      cases (p4ctlDelEntry_nil env (some p4info) bridge t.preamble.name).symm.trans hnil
    have hliteral := literal_eq_none_of_p4ctlDelEntry htexts ht hnames hne hback (hmatchList.trans hlist)
    have hzero : te.priority = 0 :=
      hbackPriority.symm.trans (priority_of_p4ctlDelEntry ht hliteral hback (hmatchList.trans hlist))
    rw [hkey hzero] at hback
    have hfits := (hiff hne hliteral).mp ⟨back, hback, hmatchList.trans hlist, hbackPriority.trans hzero⟩
    refine ⟨by rw [hlist, ne_eq, List.map_eq_nil_iff]; exact hne, ?_, hzero⟩
    rw [hlist, List.forall_mem_map]
    exact fun field hfield => (readableField_iff ht field).mpr ⟨hliteral field hfield, hfits field hfield⟩
  · rintro ⟨hne, hreadable, hzero⟩
    rw [hlist, ne_eq, List.map_eq_nil_iff] at hne
    rw [hlist, List.forall_mem_map] at hreadable
    have hfields field hfield := (readableField_iff ht field).mp (hreadable field hfield)
    obtain ⟨back, hback, hmatchList, hbackPriority⟩ :=
      (hiff hne fun field hfield => (hfields field hfield).1).mpr fun field hfield => (hfields field hfield).2
    exact ⟨_, back, hprinted, by rw [hkey hzero]; exact hback, hmatchList.trans hlist.symm,
      hbackPriority.trans hzero.symm⟩

/-- A table with a ternary field, a prefix and an exact field. -/
def aclTable : Table where
  preamble := ⟨1, "ingress.acl".toList, "acl".toList⟩
  matchFields := [⟨1, "hdr.port".toList, 16, .ternary⟩, ⟨2, "hdr.dst".toList, 32, .lpm⟩,
    ⟨3, "hdr.mac".toList, 44, .exact⟩]

/-- A pipeline with this table. -/
def aclP4Info : P4Info where
  tables := [aclTable]
  actions := []

/-- The table is declared. -/
theorem declares_aclTable : Declares aclP4Info aclTable where
  by_name := by decide
  by_id := by decide
  alone := by decide
  names_distinct := by decide
  ids_distinct := by decide

/-- Its names can be read. -/
theorem readableNames_aclTable : ReadableNames aclTable where
  plain := by
    intro mf hmf
    obtain rfl | rfl | rfl : mf = ⟨1, "hdr.port".toList, 16, .ternary⟩ ∨ mf = ⟨2, "hdr.dst".toList, 32, .lpm⟩ ∨
        mf = ⟨3, "hdr.mac".toList, 44, .exact⟩ := by simpa [aclTable] using hmf
    all_goals exact ⟨by decide, by decide, by decide⟩
  word := by decide

/-- The entry for a port and its mask, with a priority. -/
def ternaryEntry : TableEntry :=
  ⟨1, [⟨1, .ternary [0, 80] [0, 255]⟩], none, 7, false, []⟩

/-- The entry for an address that does not fit its field. -/
def macEntry : TableEntry :=
  ⟨1, [⟨3, .exact [255, 255, 255, 255, 255, 255]⟩], none, 0, false, []⟩

/-- The entry for a prefix. -/
def prefixEntry : TableEntry :=
  ⟨1, [⟨2, .lpm [10, 0, 0, 1] 24⟩], none, 0, false, []⟩

/-- A mask is not read back, and neither is an address that does not fit its field. -/
theorem not_printsBack :
    (aclP4Info.buildTableEntry Environment.ascii aclTable.preamble.name
        [("hdr.port".toList, .tuple [.str "80".toList, .str "255".toList])] false none none (some "7".toList) 0 0
        none = .ok ternaryEntry ∧
      ¬ PrintsBack Environment.ascii aclP4Info "br0".toList aclTable ternaryEntry) ∧
      aclP4Info.buildTableEntry Environment.ascii aclTable.preamble.name
        [("hdr.mac".toList, .scalar (.str "ff:ff:ff:ff:ff:ff".toList))] false none none none 0 0 none =
          .ok macEntry ∧
      ¬ PrintsBack Environment.ascii aclP4Info "br0".toList aclTable macEntry := by
  refine ⟨⟨by decide +kernel, ?_⟩, by decide +kernel, ?_⟩
  · rintro ⟨matchText, back, hmatchText, hback, -⟩
    have hprinted : printedMatch aclP4Info ternaryEntry = .ok "hdr.port=0x0050/b'\\x00\\xff'".toList := by
      decide +kernel
    obtain rfl := Except.ok.inj (hprinted.symm.trans hmatchText)
    have hdelete : ∃ error, p4ctlDelEntry Environment.ascii (some aclP4Info) "br0".toList aclTable.preamble.name
        (deletionKey ternaryEntry "hdr.port=0x0050/b'\\x00\\xff'".toList) = .error error :=
      ⟨.assertionError, by decide +kernel⟩
    obtain ⟨error, hdelete⟩ := hdelete
    rw [hdelete] at hback
    cases hback
  · rintro ⟨matchText, back, hmatchText, hback, -⟩
    have hprinted : printedMatch aclP4Info macEntry = .ok "hdr.mac=0xffffffffffff".toList := by decide +kernel
    obtain rfl := Except.ok.inj (hprinted.symm.trans hmatchText)
    have hdelete : p4ctlDelEntry Environment.ascii (some aclP4Info) "br0".toList aclTable.preamble.name
        (deletionKey macEntry "hdr.mac=0xffffffffffff".toList) = .error (.doesNotFit 281474976710655 44) := by
      decide +kernel
    rw [hdelete] at hback
    cases hback

/-- A prefix is read back. -/
theorem printsBack_prefixEntry :
    aclP4Info.buildTableEntry Environment.ascii aclTable.preamble.name
        [("hdr.dst".toList, .tuple [.str "0x0a000001".toList, .int 24])] false none none none 0 0 none =
          .ok prefixEntry ∧
      PrintsBack Environment.ascii aclP4Info "br0".toList aclTable prefixEntry := by
  have hbuild : aclP4Info.buildTableEntry Environment.ascii aclTable.preamble.name
      [("hdr.dst".toList, .tuple [.str "0x0a000001".toList, .int 24])] false none none none 0 0 none =
        .ok prefixEntry := by
    decide +kernel
  refine ⟨hbuild, (printsBack_iff Environment.ascii Environment.ascii_ipv6HasColon Environment.ascii_ipv6Texts
    aclP4Info aclTable declares_aclTable readableNames_aclTable "br0".toList _ (by decide) false none none none 0 0
    none prefixEntry prefixEntry hbuild rfl rfl).mpr ⟨by decide, ?_, rfl⟩⟩
  intro fieldMatch hmem
  obtain rfl := List.mem_singleton.mp hmem
  exact ⟨rfl, ⟨2, "hdr.dst".toList, 32, .lpm⟩, by decide, rfl, by decide⟩

end NetworkingRecipe.P4rtCtl
