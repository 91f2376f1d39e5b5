import NetworkingRecipe.P4rtCtl.FlowText

/-!
# Reading a rendered flow

What the commands that add and delete an entry read from a rendered flow. Both readers return
the flow unless the name of a match field, a value or the name of the action contains one of
the words by which the commands choose a reader, or a match field has the name of a marker.
-/

namespace NetworkingRecipe.P4rtCtl

open Python

variable {env : Environment} {p4info : P4Info}

/-! ## Cuts -/

/-- A text is cut at the only marker in it. -/
theorem cut_append_marker {c : Char} {marker before after : Text} (hmarker : c ∉ marker)
    (hbefore : ¬ c :: marker <:+: before) (hafter : ¬ c :: marker <:+: after) :
    cut (before ++ (c :: marker ++ after)) (c :: marker) = .ok (before, after) := by
  have hsplit : split after (c :: marker) = [after] :=
    split_of_not_contains (Bool.eq_false_iff.mpr fun h => hafter (contains_iff.mp h))
  rw [cut, split_append_marker hmarker hbefore, hsplit]
  rfl

/-- A text is cut at the only character of its kind. -/
theorem cut_append_cons {c : Char} {before after : Text} (hbefore : c ∉ before) (hafter : c ∉ after) :
    cut (before ++ c :: after) [c] = .ok (before, after) :=
  cut_append_marker List.not_mem_nil (fun h => hbefore (h.subset List.mem_cons_self))
    fun h => hafter (h.subset List.mem_cons_self)

/-- A text that is cut has two pieces at least. -/
theorem exists_split_of_cut {text separator first second : Text} (h : cut text separator = .ok (first, second)) :
    ∃ rest, split text separator = first :: second :: rest := by
  rw [cut] at h
  obtain ⟨first', hfirst, h⟩ := bind_eq_ok_iff.mp h
  obtain ⟨second', hsecond, h⟩ := bind_eq_ok_iff.mp h
  cases h
  rw [itemAt, orRaise_eq_ok_iff] at hfirst hsecond
  generalize split text separator = pieces at hfirst hsecond ⊢
  obtain - | ⟨piece, - | ⟨next, rest⟩⟩ := pieces
  · cases hfirst
  · cases hsecond
  · cases hfirst
    cases hsecond
    exact ⟨rest, rfl⟩

/-- At a separator of one character, a text is cut into what stands in front of the first one and what stands
behind it up to the next. -/
theorem cut_eq_ok_iff {c : Char} {text first second : Text} :
    cut text [c] = .ok (first, second) ↔
      ∃ after, text = first ++ c :: after ∧ c ∉ first ∧ second = after.takeWhile (· != c) := by
  have hcut {before : Text} (after : Text) (hbefore : c ∉ before) :
      cut (before ++ c :: after) [c] = .ok (before, after.takeWhile (· != c)) := by
    obtain ⟨rest, hrest⟩ := exists_split_eq (c := c) after
    rw [cut, split_append_cons hbefore, hrest]
    rfl
  constructor
  · intro h
    have hmem : c ∈ text := by
      by_contra hnot
      rw [cut_of_not_contains (not_contains_of_not_mem List.mem_cons_self hnot)] at h
      cases h
    obtain ⟨before, after, rfl, hbefore⟩ := List.eq_append_cons_of_mem hmem
    rw [hcut after hbefore] at h
    cases h
    exact ⟨after, rfl, hbefore, rfl⟩
  · rintro ⟨after, rfl, hfirst, rfl⟩
    exact hcut after hfirst

/-- The first part of a cut ends where a separator stands, or before. -/
theorem isPrefix_of_cut {before separator after first second : Text} (hsome : separator ≠ [])
    (h : cut (before ++ (separator ++ after)) separator = .ok (first, second)) : first <+: before := by
  obtain ⟨rest, hsplit⟩ := exists_split_of_cut h
  exact head_split_prefix hsome (congrArg List.head? hsplit)

/-- The first part of a cut has fewer commas than the text, if the separator has one. -/
theorem count_lt_of_cut {text separator first second : Text} (hcomma : ',' ∈ separator)
    (h : cut text separator = .ok (first, second)) : first.count ',' < text.count ',' := by
  obtain ⟨rest, hsplit⟩ := exists_split_of_cut h
  have hstart := append_separator_prefix (List.ne_nil_of_mem hcomma) hsplit
  have hcount := hstart.sublist.count_le ','
  have hpositive := List.count_pos_iff.mpr hcomma
  rw [List.count_append] at hcount
  omega

/-! ## Match keys -/

/-- A reader of suffixes takes decimal numerals for numbers, as far as the interpreter converts them. -/
structure ReadsDecimals (env : Environment) (readSuffix : Text → Run Scalar) : Prop where
  read : ∀ suffix, Decimal suffix → env.Converts suffix →
    readSuffix suffix = .ok (.int (numeral 10 suffix))
  converts : ∀ suffix number, Decimal suffix → readSuffix suffix = .ok number → env.Converts suffix

/-- So does the reader without a priority. -/
theorem numberSuffix_readsDecimals : ReadsDecimals env (numberSuffix env) where
  read suffix hsuffix hconverts := by
    rw [numberSuffix, intOfText_of_decimal hsuffix hconverts]
    rfl
  converts suffix number hsuffix hread := by
    obtain ⟨value, hvalue, -⟩ := map_eq_ok_iff.mp hread
    exact converts_of_intOfText hsuffix hvalue

/-- The reader with a priority reads decimal numerals like the one without. -/
theorem numberOrTextSuffix_of_decimal {suffix : Text} (h : Decimal suffix) :
    numberOrTextSuffix env suffix = numberSuffix env suffix := by
  rw [numberOrTextSuffix, isdigit_of_digits env.unicode h.digits h.nonempty, if_pos rfl]

/-- And so does the reader with a priority. -/
theorem numberOrTextSuffix_readsDecimals : ReadsDecimals env (numberOrTextSuffix env) where
  read suffix hsuffix hconverts := by
    rw [numberOrTextSuffix_of_decimal hsuffix]
    exact numberSuffix_readsDecimals.read suffix hsuffix hconverts
  converts suffix number hsuffix hread := by
    rw [numberOrTextSuffix_of_decimal hsuffix] at hread
    exact numberSuffix_readsDecimals.converts suffix number hsuffix hread

/-- A name with a value is entered. -/
theorem addMatchKey_value (readSuffix : Text → Run Scalar) (matchKeys : Dict Value) {name value : Text}
    (hname : '=' ∉ name) (hequals : '=' ∉ value) (hslash : '/' ∉ value) :
    addMatchKey readSuffix matchKeys (name ++ '=' :: value) =
      .ok (matchKeys.setItem name (.scalar (.str value))) := by
  have hcut : cut (name ++ '=' :: value) "=".toList = .ok (name, value) := cut_append_cons hname hequals
  refine bind_eq_ok_iff.mpr ⟨_, hcut, ?_⟩
  dsimp only
  rw [not_contains_of_not_mem (c := '/') (by decide) hslash, if_neg Bool.false_ne_true]

/-- A name with a value and a suffix is entered with what is read for the suffix. -/
theorem addMatchKey_suffix {readSuffix : Text → Run Scalar} (matchKeys : Dict Value) {name value suffix : Text}
    {read : Scalar} (hread : readSuffix suffix = .ok read) (hname : '=' ∉ name) (hvalue : '=' ∉ value)
    (hslash : '/' ∉ value) (hsuffix : '=' ∉ suffix) (hsuffixSlash : '/' ∉ suffix) :
    addMatchKey readSuffix matchKeys (name ++ '=' :: (value ++ '/' :: suffix)) =
      .ok (matchKeys.setItem name (.tuple [.str value, read])) := by
  have hequals : '=' ∉ value ++ '/' :: suffix := by
    rw [List.mem_append, List.mem_cons]
    exact fun h => h.elim hvalue fun h => h.elim (by decide) hsuffix
  have hcut : cut (name ++ '=' :: (value ++ '/' :: suffix)) "=".toList = .ok (name, value ++ '/' :: suffix) :=
    cut_append_cons hname hequals
  have hcontains : contains (value ++ '/' :: suffix) "/".toList = true :=
    contains_iff.mpr ⟨value, suffix, by simp⟩
  have hcutValue : cut (value ++ '/' :: suffix) "/".toList = .ok (value, suffix) :=
    cut_append_cons hslash hsuffixSlash
  refine bind_eq_ok_iff.mpr ⟨_, hcut, ?_⟩
  dsimp only
  rw [hcontains, if_pos rfl]
  exact bind_eq_ok_iff.mpr ⟨_, hcutValue, bind_eq_ok_iff.mpr ⟨_, hread, rfl⟩⟩

/-- A name with a value and a suffix is entered only if the suffix is read. -/
theorem suffix_of_addMatchKey {readSuffix : Text → Run Scalar} {matchKeys result : Dict Value}
    {name value suffix : Text} (hname : '=' ∉ name) (hvalue : '=' ∉ value) (hslash : '/' ∉ value)
    (hsuffix : '=' ∉ suffix) (hsuffixSlash : '/' ∉ suffix)
    (h : addMatchKey readSuffix matchKeys (name ++ '=' :: (value ++ '/' :: suffix)) = .ok result) :
    ∃ read, readSuffix suffix = .ok read := by
  cases hread : readSuffix suffix with
  | ok read => exact ⟨read, rfl⟩
  | error error =>
    have hequals : '=' ∉ value ++ '/' :: suffix := by
      rw [List.mem_append, List.mem_cons]
      exact fun h => h.elim hvalue fun h => h.elim (by decide) hsuffix
    have hcut : cut (name ++ '=' :: (value ++ '/' :: suffix)) "=".toList = .ok (name, value ++ '/' :: suffix) :=
      cut_append_cons hname hequals
    have hcontains : contains (value ++ '/' :: suffix) "/".toList = true :=
      contains_iff.mpr ⟨value, suffix, by simp⟩
    have hcutValue : cut (value ++ '/' :: suffix) "/".toList = .ok (value, suffix) :=
      cut_append_cons hslash hsuffixSlash
    obtain ⟨pair, hpair, h⟩ := bind_eq_ok_iff.mp h
    obtain rfl := Except.ok.inj (hcut.symm.trans hpair)
    dsimp only at h
    rw [hcontains, if_pos rfl] at h
    obtain ⟨pieces, hpieces, h⟩ := bind_eq_ok_iff.mp h
    obtain rfl := Except.ok.inj (hcutValue.symm.trans hpieces)
    obtain ⟨read, h, -⟩ := bind_eq_ok_iff.mp h
    cases hread.symm.trans h

/-- A rendered match key is entered with its value, if the interpreter converts its suffix. -/
theorem addMatchKey_text {readSuffix : Text → Run Scalar} (hreads : ReadsDecimals env readSuffix)
    (matchKeys : Dict Value) (key : MatchKey) (hconverts : ∀ suffix ∈ key.suffix, env.Converts suffix) :
    addMatchKey readSuffix matchKeys key.text = .ok (matchKeys.setItem key.entry.1 key.entry.2) := by
  rw [MatchKey.text, MatchKey.entry, MatchKey.valueText]
  split
  · exact addMatchKey_value readSuffix matchKeys key.name_plain.equals key.value_plain.equals key.value_plain.slash
  · rename_i suffix hsuffix
    have hdecimal := key.suffix_decimal suffix hsuffix
    exact addMatchKey_suffix matchKeys (hreads.read suffix hdecimal (hconverts suffix hsuffix))
      key.name_plain.equals key.value_plain.equals key.value_plain.slash
      (hdecimal.digits.not_mem (by decide)) (hdecimal.digits.not_mem (by decide))

/-- A rendered match key is entered only if the interpreter converts its suffix. -/
theorem converts_of_addMatchKey {readSuffix : Text → Run Scalar} (hreads : ReadsDecimals env readSuffix)
    {matchKeys result : Dict Value} {key : MatchKey}
    (h : addMatchKey readSuffix matchKeys key.text = .ok result) :
    ∀ suffix ∈ key.suffix, env.Converts suffix := by
  intro suffix hsuffix
  have hdecimal := key.suffix_decimal suffix hsuffix
  rw [MatchKey.text, MatchKey.valueText, Option.mem_def.mp hsuffix] at h
  obtain ⟨read, hread⟩ := suffix_of_addMatchKey key.name_plain.equals key.value_plain.equals
    key.value_plain.slash (hdecimal.digits.not_mem (by decide)) (hdecimal.digits.not_mem (by decide)) h
  exact hreads.converts suffix read hdecimal hread

/-- Match keys with different names are entered one behind the other. -/
theorem foldlM_addMatchKey {A : Type} {readSuffix : Text → Run Scalar} {text : A → Text}
    {entry : A → Text × Value} (keys : List A) (matchKeys : Dict Value)
    (hkeys : ∀ key ∈ keys, ∀ matchKeys, addMatchKey readSuffix matchKeys (text key) =
      .ok (matchKeys.setItem (entry key).1 (entry key).2))
    (hnodup : (matchKeys.map Prod.fst ++ keys.map fun key => (entry key).1).Nodup) :
    (keys.map text).foldlM (addMatchKey readSuffix) matchKeys = .ok (matchKeys ++ keys.map entry) := by
  induction keys generalizing matchKeys with
  | nil => exact congrArg Except.ok (List.append_nil matchKeys).symm
  | cons key rest ih =>
    have hnew : (entry key).1 ∉ matchKeys.map Prod.fst := fun h =>
      (List.nodup_append.mp hnodup).2.2 _ h _ List.mem_cons_self rfl
    rw [List.map_cons, List.foldlM_cons, hkeys key List.mem_cons_self, Dict.setItem_of_not_mem _ hnew]
    refine (ih (matchKeys ++ [entry key]) (fun other hother => hkeys other (List.mem_cons_of_mem _ hother)) ?_).trans ?_
    · rw [List.map_append, List.map_singleton, List.append_assoc]
      exact hnodup
    · rw [List.append_assoc, List.singleton_append, List.map_cons]

/-- The match keys of a flow are its pieces at the commas. -/
theorem split_keyText (flow : FlowText) : split flow.keyText ",".toList = flow.keys.map MatchKey.text :=
  split_join (mt List.map_eq_nil_iff.mp flow.keys_nonempty) flow.comma_not_mem_keys

/-- The interpreter converts each suffix of a flow and each value of its action. -/
structure FlowText.Convertible (env : Environment) (flow : FlowText) : Prop where
  suffixes : ∀ key ∈ flow.keys, ∀ suffix ∈ key.suffix, env.Converts suffix
  values : ∀ value ∈ flow.values, env.Converts value

/-- The match keys of a flow are read back, if the interpreter converts their suffixes. -/
theorem readMatchKeys_keyText {readSuffix : Text → Run Scalar} (hreads : ReadsDecimals env readSuffix)
    {flow : FlowText} (hconverts : flow.Convertible env) :
    readMatchKeys readSuffix flow.keyText = .ok flow.entries := by
  rw [readMatchKeys, split_keyText]
  refine foldlM_addMatchKey flow.keys []
    (fun key hkey matchKeys => addMatchKey_text hreads matchKeys key (hconverts.suffixes key hkey)) ?_
  simp only [MatchKey.entry_fst]
  exact flow.names_distinct

/-- The match keys of a flow are read only if the interpreter converts their suffixes. -/
theorem converts_of_readMatchKeys {readSuffix : Text → Run Scalar} (hreads : ReadsDecimals env readSuffix)
    {flow : FlowText} {result : Dict Value} (h : readMatchKeys readSuffix flow.keyText = .ok result) :
    ∀ key ∈ flow.keys, ∀ suffix ∈ key.suffix, env.Converts suffix := by
  intro key hkey
  rw [readMatchKeys, split_keyText] at h
  obtain ⟨before, after, hstep⟩ := step_ok_of_foldlM h (List.mem_map_of_mem hkey)
  exact converts_of_addMatchKey hreads hstep

/-- Each piece of a text is entered in one place at most. -/
theorem length_of_foldlM_addMatchKey {readSuffix : Text → Run Scalar} {fields : List Text}
    {matchKeys result : Dict Value} (h : fields.foldlM (addMatchKey readSuffix) matchKeys = .ok result) :
    result.length ≤ matchKeys.length + fields.length := by
  induction fields generalizing matchKeys with
  | nil =>
    cases h
    exact le_rfl
  | cons field rest ih =>
    rw [List.foldlM_cons] at h
    obtain ⟨next, hnext, h⟩ := bind_eq_ok_iff.mp h
    have hlength : next.length ≤ matchKeys.length + 1 := by
      rw [addMatchKey] at hnext
      obtain ⟨⟨name, value⟩, -, hnext⟩ := bind_eq_ok_iff.mp hnext
      dsimp only at hnext
      split at hnext
      · obtain ⟨⟨lpmValue, lpmSuffix⟩, -, hnext⟩ := bind_eq_ok_iff.mp hnext
        obtain ⟨suffix, -, hnext⟩ := bind_eq_ok_iff.mp hnext
        cases hnext
        exact Dict.length_setItem_le ..
      · cases hnext
        exact Dict.length_setItem_le ..
    have hrest := ih h
    rw [List.length_cons]
    omega

/-- A text has no more match keys than pieces. -/
theorem length_of_readMatchKeys {readSuffix : Text → Run Scalar} {key : Text} {result : Dict Value}
    (h : readMatchKeys readSuffix key = .ok result) : result.length ≤ key.count ',' + 1 := by
  have hlength := length_of_foldlM_addMatchKey h
  have hsplit : (split key ",".toList).length = key.count ',' + 1 := length_split key
  rw [hsplit, List.length_nil, Nat.zero_add] at hlength
  exact hlength

/-- A text that is cut at a marker with a comma has fewer match keys than pieces. -/
theorem length_of_cut_readMatchKeys {readSuffix : Text → Run Scalar} {text separator key rest : Text}
    {result : Dict Value} (hcomma : ',' ∈ separator) (hcut : cut text separator = .ok (key, rest))
    (h : readMatchKeys readSuffix key = .ok result) : result.length < text.count ',' + 1 := by
  have hcount := count_lt_of_cut hcomma hcut
  have hlength := length_of_readMatchKeys h
  omega

/-! ## Unambiguous flows -/

/-- The words by which a command that adds or deletes an entry chooses a reader when there is no
priority. -/
def dispatchWords : List Text :=
  ["priority".toList, "config_data".toList]

/-- The word for the priority is one of them. -/
theorem priority_mem : "priority".toList ∈ dispatchWords :=
  List.mem_cons_self

/-- So is the word for the meter configuration. -/
theorem config_mem : "config_data".toList ∈ dispatchWords :=
  List.mem_cons_of_mem _ List.mem_cons_self

/-- No match key after the first has a name that begins with the word for a group or a member, or
that is a marker's, and without a priority no name and no value contains a word for a reader. -/
structure Unambiguous (flow : FlowText) : Prop where
  group : ∀ key ∈ flow.keys.tail, ¬ "group_id".toList <+: key.name
  member : ∀ key ∈ flow.keys.tail, ¬ "member_id".toList <+: key.name
  action : ∀ key ∈ flow.keys.tail, key.name ≠ "action".toList
  priority : flow.priority ≠ none → ∀ key ∈ flow.keys.tail, key.name ≠ "priority".toList
  words : flow.priority = none → ∀ word ∈ dispatchWords, contains flow.action word = false ∧
    ∀ key ∈ flow.keys, contains key.name word = false ∧ contains key.value word = false

/-- The match keys, the priority, the action and its values of a flow have been read. -/
def ReadsBack (flow : FlowText) (reading : Run FlowReading) : Prop :=
  ∃ result, reading = .ok result ∧ result.matchKeys = flow.entries ∧ result.priorityVal = flow.priority ∧
    result.action = some flow.action ∧ result.actionData = some (.values flow.numbers)

namespace FlowText

variable (flow : FlowText)

/-- The word for a group begins a name behind a comma. -/
theorem contains_group_iff :
    contains flow.text ",group_id".toList = true ↔ ∃ key ∈ flow.keys.tail, "group_id".toList <+: key.name :=
  flow.contains_comma_word_iff (by decide) ⟨by decide, by decide, by decide⟩ (by decide) (by decide) (by decide)

/-- The word for a member begins a name behind a comma. -/
theorem contains_member_iff :
    contains flow.text ",member_id".toList = true ↔ ∃ key ∈ flow.keys.tail, "member_id".toList <+: key.name :=
  flow.contains_comma_word_iff (by decide) ⟨by decide, by decide, by decide⟩ (by decide) (by decide) (by decide)

/-- A word for a reader stands in the match text if a name or a value contains it. -/
theorem contains_word_matchText_iff (h : flow.priority = none) {word : Text} (hword : word ∈ dispatchWords) :
    contains flow.matchText word = true ↔
      ∃ key ∈ flow.keys, contains key.name word = true ∨ contains key.value word = true := by
  obtain rfl | rfl : word = "priority".toList ∨ word = "config_data".toList := by simpa [dispatchWords] using hword
  · exact flow.contains_matchText_iff h (c := 'i') ⟨by decide, by decide, by decide⟩ (by decide) (by decide)
  · exact flow.contains_matchText_iff h (c := 'o') ⟨by decide, by decide, by decide⟩ (by decide) (by decide)

/-- A word for a reader stands in a flow if the match text or the name of the action contains it. -/
theorem contains_word_text_iff {word : Text} (hword : word ∈ dispatchWords) :
    contains flow.text word = true ↔ contains flow.matchText word = true ∨ contains flow.action word = true := by
  have haction (other : Text) (h : contains "action".toList other = false) : ¬ other <:+: "action".toList :=
    fun hinfix => Bool.eq_false_iff.mp h (contains_iff.mpr hinfix)
  obtain rfl | rfl : word = "priority".toList ∨ word = "config_data".toList := by simpa [dispatchWords] using hword
  · exact flow.contains_text_iff (c := 'i') ⟨by decide, by decide, by decide⟩ ⟨by decide, by decide, by decide⟩
      (by decide) (by decide) (haction _ (by decide))
  · exact flow.contains_text_iff (c := 'o') ⟨by decide, by decide, by decide⟩ ⟨by decide, by decide, by decide⟩
      (by decide) (by decide) (haction _ (by decide))

/-- An unambiguous flow without a priority contains no word for a reader. -/
theorem not_contains_word (hflow : Unambiguous flow) (h : flow.priority = none) {word : Text}
    (hword : word ∈ dispatchWords) :
    contains flow.matchText word = false ∧ contains flow.text word = false := by
  obtain ⟨haction, hkeys⟩ := hflow.words h word hword
  have hmatch : contains flow.matchText word = false := by
    rw [Bool.eq_false_iff, ne_eq, flow.contains_word_matchText_iff h hword]
    rintro ⟨key, hkey, hname | hvalue⟩
    · rw [(hkeys key hkey).1] at hname
      cases hname
    · rw [(hkeys key hkey).2] at hvalue
      cases hvalue
  refine ⟨hmatch, ?_⟩
  rw [Bool.eq_false_iff, ne_eq, flow.contains_word_text_iff hword, hmatch, haction]
  simp

/-- A flow is cut into its match text and its action. -/
theorem cut_text (h : ∀ key ∈ flow.keys.tail, key.name ≠ "action".toList) :
    cut flow.text ",action=".toList = .ok (flow.matchText, actionText flow.action flow.values) := by
  refine cut_append_marker (c := ',') (by decide) (fun hmarker => ?_)
    (flow.marker_not_infix_actionText (by decide) ⟨by decide, by decide, by decide⟩)
  obtain ⟨key, hkey, hname⟩ := flow.action_infix_matchText_iff.mp hmarker
  exact h key hkey hname

/-- The match text of a flow with a priority is cut into the match keys and the priority. -/
theorem cut_matchText {priority : Text} (hpriority : flow.priority = some priority)
    (h : ∀ key ∈ flow.keys.tail, key.name ≠ "priority".toList) :
    cut flow.matchText ",priority=".toList = .ok (flow.keyText, priority) := by
  rw [flow.matchText_of_priority hpriority]
  refine cut_append_marker (c := ',') (by decide) (fun hmarker => ?_) (fun hmarker => ?_)
  · obtain ⟨key, hkey, hname⟩ := flow.priority_infix_keyText_iff.mp hmarker
    exact h key hkey hname
  · exact (flow.priority_decimal priority hpriority).digits.not_mem (by decide) (hmarker.subset List.mem_cons_self)

/-- The match text of a flow with a priority is read back. -/
theorem parseMatchKeyTernary_matchText {flow : FlowText} (hconverts : flow.Convertible env) {priority : Text}
    (hpriority : flow.priority = some priority) (h : ∀ key ∈ flow.keys.tail, key.name ≠ "priority".toList) :
    parseMatchKeyTernary env flow.matchText = .ok (flow.entries, priority) := by
  rw [parseMatchKeyTernary, flow.cut_matchText hpriority h]
  change (do
    let matchKeys ← readMatchKeys (numberOrTextSuffix env) flow.keyText
    Except.ok (matchKeys, priority)) = _
  rw [readMatchKeys_keyText numberOrTextSuffix_readsDecimals hconverts]
  rfl

/-- The match text of a flow without a priority is read back. -/
theorem parseMatchKey_matchText {flow : FlowText} (hconverts : flow.Convertible env)
    (hpriority : flow.priority = none) : parseMatchKey env flow.matchText = .ok flow.entries := by
  rw [parseMatchKey, flow.matchText_of_no_priority hpriority,
    readMatchKeys_keyText numberSuffix_readsDecimals hconverts]

/-- The action of a flow is read back. -/
theorem parseAction_text (henv : env.Ipv6HasColon) (p4info : P4Info) {flow : FlowText}
    (hconverts : flow.Convertible env) :
    parseAction env p4info (actionText flow.action flow.values) = .ok (flow.action, .values flow.numbers) :=
  parseAction_of_decimal henv p4info flow.action_argument.left flow.values_decimal flow.values_nonempty
    hconverts.values

/-- What a command has read when it reads a flow back. -/
def reading : FlowReading where
  matchKeys := flow.entries
  action := some flow.action
  actionData := some (.values flow.numbers)
  priorityVal := flow.priority

/-- Such a reading is the flow. -/
theorem readsBack_reading : ReadsBack flow (.ok flow.reading) :=
  ⟨flow.reading, rfl, rfl, rfl, rfl, rfl⟩

/-- An unambiguous flow with a priority is read back. -/
theorem readTernary_text (henv : env.Ipv6HasColon) {flow : FlowText} (hflow : Unambiguous flow)
    (hconverts : flow.Convertible env) {priority : Text} (hpriority : flow.priority = some priority) :
    readTernary env p4info flow.text = .ok flow.reading := by
  have hkeys : ∀ key ∈ flow.keys.tail, key.name ≠ "priority".toList :=
    hflow.priority (by rw [hpriority]; nofun)
  have hparsed : parseFlowTernary env p4info flow.text =
      .ok (flow.entries, priority, flow.action, .values flow.numbers) :=
    bind_eq_ok_iff.mpr ⟨_, flow.cut_text hflow.action,
      bind_eq_ok_iff.mpr ⟨_, parseMatchKeyTernary_matchText hconverts hpriority hkeys,
        bind_eq_ok_iff.mpr ⟨_, parseAction_text henv p4info hconverts, rfl⟩⟩⟩
  rw [reading, hpriority]
  exact bind_eq_ok_iff.mpr ⟨_, hparsed, rfl⟩

/-- An unambiguous flow without a priority is read back. -/
theorem readAction_text (henv : env.Ipv6HasColon) {flow : FlowText} (hflow : Unambiguous flow)
    (hconverts : flow.Convertible env) (hpriority : flow.priority = none) :
    readAction env p4info flow.text = .ok flow.reading := by
  have hparsed : parseFlow env p4info flow.text = .ok (flow.entries, flow.action, .values flow.numbers) :=
    bind_eq_ok_iff.mpr ⟨_, flow.cut_text hflow.action,
      bind_eq_ok_iff.mpr ⟨_, parseMatchKey_matchText hconverts hpriority,
        bind_eq_ok_iff.mpr ⟨_, parseAction_text henv p4info hconverts, rfl⟩⟩⟩
  rw [reading, hpriority]
  exact bind_eq_ok_iff.mpr ⟨_, hparsed, rfl⟩

/-- The command that adds an entry reads an unambiguous flow with or without a priority. -/
theorem readAddFlow_of_unambiguous {flow : FlowText} (hflow : Unambiguous flow) :
    readAddFlow env p4info flow.text =
      if flow.priority.isSome then readTernary env p4info flow.text else readAction env p4info flow.text := by
  have hgroup : contains flow.text ",group_id".toList = false :=
    Bool.eq_false_iff.mpr fun h => let ⟨key, hkey, hname⟩ := flow.contains_group_iff.mp h
      hflow.group key hkey hname
  have hmember : contains flow.text ",member_id".toList = false :=
    Bool.eq_false_iff.mpr fun h => let ⟨key, hkey, hname⟩ := flow.contains_member_iff.mp h
      hflow.member key hkey hname
  rw [readAddFlow, hgroup, hmember]
  cases hpriority : flow.priority with
  | some priority =>
    have hword : contains flow.text "priority".toList = true :=
      (flow.contains_word_text_iff priority_mem).mpr (Or.inl (flow.contains_priority_matchText hpriority))
    rw [hword]
    rfl
  | none =>
    rw [(flow.not_contains_word hflow hpriority priority_mem).2,
      (flow.not_contains_word hflow hpriority config_mem).2]
    rfl

/-- An unambiguous flow is read back by the command that adds an entry. -/
theorem readAddFlow_text (henv : env.Ipv6HasColon) {flow : FlowText} (hflow : Unambiguous flow)
    (hconverts : flow.Convertible env) : readAddFlow env p4info flow.text = .ok flow.reading := by
  rw [readAddFlow_of_unambiguous hflow]
  cases hpriority : flow.priority with
  | some priority => exact readTernary_text henv hflow hconverts hpriority
  | none => exact readAction_text henv hflow hconverts hpriority

/-- The match text of an unambiguous flow is read back by the command that deletes an entry. -/
theorem readDelKey_matchText {flow : FlowText} (hflow : Unambiguous flow) (hconverts : flow.Convertible env) :
    readDelKey env flow.matchText = .ok (flow.entries, flow.priority) := by
  rw [readDelKey]
  cases hpriority : flow.priority with
  | some priority =>
    rw [flow.contains_priority_matchText hpriority, if_pos rfl,
      parseMatchKeyTernary_matchText hconverts hpriority (hflow.priority (by rw [hpriority]; nofun))]
    rfl
  | none =>
    rw [(flow.not_contains_word hflow hpriority priority_mem).1,
      if_neg Bool.false_ne_true, parseMatchKey_matchText hconverts hpriority]
    rfl

/-! ## Ambiguous flows -/

/-- A piece stands at the start of what is joined from it on. -/
theorem exists_join_cons (c : Char) (piece : Text) (rest : List Text) :
    ∃ after, join c (piece :: rest) = piece ++ after := by
  cases rest with
  | nil => exact ⟨[], by rw [join_singleton, List.append_nil]⟩
  | cons next rest => exact ⟨_, join_cons_cons ..⟩

/-- Pieces without commas are joined by one comma less than there are pieces. -/
theorem count_join_lt {pieces : List Text} (hpieces : pieces ≠ []) (hfree : ∀ piece ∈ pieces, ',' ∉ piece) :
    (join ',' pieces).count ',' < pieces.length := by
  have hsplit := congrArg List.length (split_join hpieces hfree)
  rw [length_split] at hsplit
  omega

/-- Where a match key after the first has the name of a marker, the marker stands in the match text
behind fewer commas than there are other match keys. -/
theorem exists_matchText_of_name {name : Text} {key : MatchKey} (hkey : key ∈ flow.keys.tail)
    (hname : key.name = name) :
    ∃ before after, flow.matchText = before ++ (',' :: (name ++ ['=']) ++ after) ∧
      before.count ',' + 1 < flow.keys.length := by
  obtain ⟨first, others, hkeys⟩ := List.exists_cons_of_ne_nil flow.keys_nonempty
  rw [hkeys, List.tail_cons] at hkey
  obtain ⟨middle, rest, rfl⟩ := List.append_of_mem hkey
  have hpieces : flow.matchPieces = (first :: middle).map MatchKey.text ++
      (key.text :: (rest.map MatchKey.text ++ flow.priority.toList.map ("priority=".toList ++ ·))) := by
    rw [matchPieces, hkeys]
    simp
  obtain ⟨after, hafter⟩ := exists_join_cons ',' key.text
    (rest.map MatchKey.text ++ flow.priority.toList.map ("priority=".toList ++ ·))
  have hbefore : (first :: middle).map MatchKey.text ≠ [] := List.cons_ne_nil _ _
  refine ⟨join ',' ((first :: middle).map MatchKey.text), key.valueText ++ after, ?_, ?_⟩
  · rw [matchText, hpieces, join_append hbefore (List.cons_ne_nil _ _), hafter, MatchKey.text, hname]
    simp
  · have hcount := count_join_lt hbefore fun piece hpiece =>
      flow.comma_not_mem_matchPieces piece (hpieces ▸ List.mem_append_left _ hpiece)
    rw [hkeys]
    simp only [List.length_map, List.length_cons, List.length_append] at hcount ⊢
    omega

end FlowText

/-- What the reader of flows with a priority has cut and read. -/
theorem readTernary_cases {text : Text} {reading : FlowReading} (h : readTernary env p4info text = .ok reading) :
    ∃ mk act key priority, cut text ",action=".toList = .ok (mk, act) ∧
      cut mk ",priority=".toList = .ok (key, priority) ∧
      readMatchKeys (numberOrTextSuffix env) key = .ok reading.matchKeys ∧
      (∃ parsed, parseAction env p4info act = .ok parsed) ∧ reading.priorityVal = some priority := by
  rw [readTernary] at h
  obtain ⟨⟨matchKeys, priority, action, data⟩, hflow, h⟩ := bind_eq_ok_iff.mp h
  cases h
  rw [parseFlowTernary] at hflow
  obtain ⟨⟨mk, act⟩, hcut, hflow⟩ := bind_eq_ok_iff.mp hflow
  obtain ⟨⟨keys, found⟩, hkeys, hflow⟩ := bind_eq_ok_iff.mp hflow
  obtain ⟨⟨name, values⟩, haction, hflow⟩ := bind_eq_ok_iff.mp hflow
  cases hflow
  rw [parseMatchKeyTernary] at hkeys
  obtain ⟨⟨key, rest⟩, hpriority, hkeys⟩ := bind_eq_ok_iff.mp hkeys
  obtain ⟨read, hread, hkeys⟩ := bind_eq_ok_iff.mp hkeys
  cases hkeys
  exact ⟨mk, act, key, _, hcut, hpriority, hread, ⟨_, haction⟩, rfl⟩

/-- What the reader of flows with a meter configuration has cut and read. -/
theorem readMeter_cases {text : Text} {reading : FlowReading} (h : readMeter env p4info text = .ok reading) :
    ∃ mk act key config, cut text ",action=".toList = .ok (mk, act) ∧
      cut mk ",config_data=".toList = .ok (key, config) ∧
      readMatchKeys (numberSuffix env) key = .ok reading.matchKeys := by
  rw [readMeter] at h
  obtain ⟨⟨matchKeys, config, action, data⟩, hflow, h⟩ := bind_eq_ok_iff.mp h
  cases h
  rw [parseFlowMeter] at hflow
  obtain ⟨⟨mk, act⟩, hcut, hflow⟩ := bind_eq_ok_iff.mp hflow
  obtain ⟨⟨keys, found⟩, hkeys, hflow⟩ := bind_eq_ok_iff.mp hflow
  obtain ⟨⟨name, values⟩, -, hflow⟩ := bind_eq_ok_iff.mp hflow
  cases hflow
  rw [parseMatchKeyConfigData] at hkeys
  obtain ⟨⟨key, rest⟩, hconfig, hkeys⟩ := bind_eq_ok_iff.mp hkeys
  obtain ⟨read, hread, hkeys⟩ := bind_eq_ok_iff.mp hkeys
  cases hkeys
  exact ⟨mk, act, key, _, hcut, hconfig, hread⟩

/-- What the reader of flows with match keys and an action has cut and read. -/
theorem readAction_cases {text : Text} {reading : FlowReading} (h : readAction env p4info text = .ok reading) :
    ∃ mk act, cut text ",action=".toList = .ok (mk, act) ∧
      readMatchKeys (numberSuffix env) mk = .ok reading.matchKeys ∧
      ∃ parsed, parseAction env p4info act = .ok parsed := by
  rw [readAction] at h
  obtain ⟨⟨matchKeys, action, data⟩, hflow, h⟩ := bind_eq_ok_iff.mp h
  cases h
  rw [parseFlow] at hflow
  obtain ⟨⟨mk, act⟩, hcut, hflow⟩ := bind_eq_ok_iff.mp hflow
  obtain ⟨keys, hkeys, hflow⟩ := bind_eq_ok_iff.mp hflow
  obtain ⟨⟨name, values⟩, haction, hflow⟩ := bind_eq_ok_iff.mp hflow
  cases hflow
  exact ⟨mk, act, hcut, hkeys, _, haction⟩

/-- The reader of flows with a group or a member reads no action. -/
theorem action_of_readAs {text : Text} {reading : FlowReading} (h : readAs env text = .ok reading) :
    reading.action = none := by
  rw [readAs] at h
  obtain ⟨⟨matchKeys, grpId, memId⟩, -, h⟩ := bind_eq_ok_iff.mp h
  cases h
  rfl

/-- A reader of flows with an action reads no more match keys than there are pieces before the marker
for the action. -/
theorem exists_cut_of_read {text : Text} {reading : FlowReading}
    (h : readTernary env p4info text = .ok reading ∨ readMeter env p4info text = .ok reading ∨
      readAction env p4info text = .ok reading) :
    ∃ mk act, cut text ",action=".toList = .ok (mk, act) ∧ reading.matchKeys.length ≤ mk.count ',' + 1 := by
  obtain h | h | h := h
  · obtain ⟨mk, act, key, priority, hcut, hpriority, hread, -, -⟩ := readTernary_cases h
    exact ⟨mk, act, hcut, (length_of_cut_readMatchKeys (by decide) hpriority hread).le⟩
  · obtain ⟨mk, act, key, config, hcut, hconfig, hread⟩ := readMeter_cases h
    exact ⟨mk, act, hcut, (length_of_cut_readMatchKeys (by decide) hconfig hread).le⟩
  · obtain ⟨mk, act, hcut, hread, -⟩ := readAction_cases h
    exact ⟨mk, act, hcut, length_of_readMatchKeys hread⟩

/-- The first part of a cut has no more commas than what stands before a separator. -/
theorem count_le_of_cut {before separator after first second : Text} (hsome : separator ≠ [])
    (h : cut (before ++ (separator ++ after)) separator = .ok (first, second)) :
    first.count ',' ≤ before.count ',' :=
  (isPrefix_of_cut hsome h).sublist.count_le ','

/-- What the command that adds an entry has looked for, and which reader it took, when it read an action. -/
theorem readAddFlow_cases {text : Text} {reading : FlowReading} (h : readAddFlow env p4info text = .ok reading)
    (haction : reading.action ≠ none) :
    contains text ",group_id".toList = false ∧ contains text ",member_id".toList = false ∧
      (contains text "priority".toList = true ∧ readTernary env p4info text = .ok reading ∨
        contains text "priority".toList = false ∧ contains text "config_data".toList = true ∧
          readMeter env p4info text = .ok reading ∨
        contains text "priority".toList = false ∧ contains text "config_data".toList = false ∧
          readAction env p4info text = .ok reading) := by
  have hcomma : ¬ (contains text ",group_id".toList || contains text ",member_id".toList) = true := by
    intro hcomma
    rw [readAddFlow, if_pos hcomma] at h
    exact haction (action_of_readAs h)
  rw [readAddFlow, if_neg hcomma] at h
  rw [Bool.or_eq_true, not_or, Bool.not_eq_true, Bool.not_eq_true] at hcomma
  refine ⟨hcomma.1, hcomma.2, ?_⟩
  split at h
  case isTrue hpriority => exact Or.inl ⟨hpriority, h⟩
  case isFalse hpriority =>
    rw [Bool.not_eq_true] at hpriority
    split at h
    case isTrue hconfig => exact Or.inr (Or.inl ⟨hpriority, hconfig, h⟩)
    case isFalse hconfig =>
      rw [Bool.not_eq_true] at hconfig
      exact Or.inr (Or.inr ⟨hpriority, hconfig, h⟩)

namespace FlowText

/-- No field after the first is named action where a reader has found all match keys before the action. -/
theorem name_ne_action_of_read {flow : FlowText} {reading : FlowReading}
    (h : readTernary env p4info flow.text = .ok reading ∨ readMeter env p4info flow.text = .ok reading ∨
      readAction env p4info flow.text = .ok reading)
    (hlength : reading.matchKeys.length = flow.keys.length) :
    ∀ key ∈ flow.keys.tail, key.name ≠ "action".toList := by
  intro key hkey hname
  obtain ⟨mk, act, hcut, hle⟩ := exists_cut_of_read h
  obtain ⟨before, after, htext, hcount⟩ := flow.exists_matchText_of_name hkey hname
  rw [text, htext, List.append_assoc before, List.append_assoc _ after] at hcut
  have hmk := count_le_of_cut (List.cons_ne_nil _ _) hcut
  omega

/-- No field after the first is named priority where all match keys have been found before the priority. -/
theorem name_ne_priority_of_readTernary {flow : FlowText} {reading : FlowReading}
    (hnames : ∀ key ∈ flow.keys.tail, key.name ≠ "action".toList)
    (h : readTernary env p4info flow.text = .ok reading)
    (hlength : reading.matchKeys.length = flow.keys.length) :
    ∀ key ∈ flow.keys.tail, key.name ≠ "priority".toList := by
  intro key hkey hname
  obtain ⟨mk, act, keyText, found, hcut, hmatch, hmatchKeys, -, -⟩ := readTernary_cases h
  rw [flow.cut_text hnames] at hcut
  cases hcut
  obtain ⟨before, after, htext, hcount⟩ := flow.exists_matchText_of_name hkey hname
  rw [htext] at hmatch
  have hkeyText := count_le_of_cut (List.cons_ne_nil _ _) hmatch
  have hread := length_of_readMatchKeys hmatchKeys
  omega

/-- The reader of meter configurations loses a match key of a flow without a priority: the marker it cuts
at stands behind a comma of the match keys. -/
theorem length_lt_of_readMeter {flow : FlowText} {reading : FlowReading} (hnone : flow.priority = none)
    (hnames : ∀ key ∈ flow.keys.tail, key.name ≠ "action".toList)
    (h : readMeter env p4info flow.text = .ok reading) : reading.matchKeys.length < flow.keys.length := by
  obtain ⟨mk, act, keyText, config, hcut, hconfig, hmatchKeys⟩ := readMeter_cases h
  rw [flow.cut_text hnames] at hcut
  cases hcut
  have hfewer := length_of_cut_readMatchKeys (by decide) hconfig hmatchKeys
  rw [flow.matchText_of_no_priority hnone, FlowText.keyText] at hfewer
  have hcount := count_join_lt (mt List.map_eq_nil_iff.mp flow.keys_nonempty) flow.comma_not_mem_keys
  rw [List.length_map] at hcount
  omega

/-- A word of the dispatch that the text of a flow without a priority lacks is in no name and no value. -/
theorem words_absent_of_text {flow : FlowText} (hnone : flow.priority = none) {word : Text}
    (hword : word ∈ dispatchWords) (h : contains flow.text word = false) :
    contains flow.action word = false ∧ ∀ key ∈ flow.keys,
      contains key.name word = false ∧ contains key.value word = false := by
  rw [Bool.eq_false_iff, ne_eq, flow.contains_word_text_iff hword, not_or,
    flow.contains_word_matchText_iff hnone hword] at h
  refine ⟨Bool.eq_false_iff.mpr h.2, fun key hkey => ⟨Bool.eq_false_iff.mpr fun hname => ?_,
    Bool.eq_false_iff.mpr fun hvalue => ?_⟩⟩
  · exact h.1 ⟨key, hkey, Or.inl hname⟩
  · exact h.1 ⟨key, hkey, Or.inr hvalue⟩

end FlowText

/-- A flow that is read back by the command that adds an entry is unambiguous. -/
theorem unambiguous_of_readsBack {flow : FlowText} (h : ReadsBack flow (readAddFlow env p4info flow.text)) :
    Unambiguous flow := by
  obtain ⟨result, hread, hkeys, hpriority, haction, -⟩ := h
  have hlength : result.matchKeys.length = flow.keys.length := by
    rw [hkeys, FlowText.entries, List.length_map]
  obtain ⟨hgroup, hmember, hreader⟩ := readAddFlow_cases hread (haction ▸ nofun)
  have hnames : ∀ key ∈ flow.keys.tail, key.name ≠ "action".toList := by
    obtain ⟨-, hternary⟩ | ⟨-, -, hmeter⟩ | ⟨-, -, hplain⟩ := hreader
    · exact FlowText.name_ne_action_of_read (Or.inl hternary) hlength
    · exact FlowText.name_ne_action_of_read (Or.inr (Or.inl hmeter)) hlength
    · exact FlowText.name_ne_action_of_read (Or.inr (Or.inr hplain)) hlength
  refine ⟨fun key hkey hname => ?_, fun key hkey hname => ?_, hnames, fun hsome => ?_,
    fun hnone word hword => FlowText.words_absent_of_text hnone hword ?_⟩
  · exact Bool.eq_false_iff.mp hgroup (flow.contains_group_iff.mpr ⟨key, hkey, hname⟩)
  · exact Bool.eq_false_iff.mp hmember (flow.contains_member_iff.mpr ⟨key, hkey, hname⟩)
  · obtain ⟨priority, hflow⟩ := Option.ne_none_iff_exists'.mp hsome
    have hword : contains flow.text "priority".toList = true :=
      (flow.contains_word_text_iff priority_mem).mpr (Or.inl (flow.contains_priority_matchText hflow))
    obtain ⟨-, hternary⟩ | ⟨habsent, -⟩ | ⟨habsent, -⟩ := hreader
    · exact FlowText.name_ne_priority_of_readTernary hnames hternary hlength
    · exact absurd hword (Bool.eq_false_iff.mp habsent)
    · exact absurd hword (Bool.eq_false_iff.mp habsent)
  · obtain ⟨-, hternary⟩ | ⟨-, -, hmeter⟩ | ⟨hpriorityWord, hconfigWord, -⟩ := hreader
    · obtain ⟨-, -, -, found, -, -, -, -, hfound⟩ := readTernary_cases hternary
      rw [hpriority, hnone] at hfound
      cases hfound
    · exact absurd hlength (FlowText.length_lt_of_readMeter hnone hnames hmeter).ne
    · obtain rfl | rfl : word = "priority".toList ∨ word = "config_data".toList := by
        simpa [dispatchWords] using hword
      · exact hpriorityWord
      · exact hconfigWord

/-- The interpreter converts the numerals of a flow that is read back by the command that adds an entry. -/
theorem convertible_of_readsBack (henv : env.Ipv6HasColon) {flow : FlowText}
    (h : ReadsBack flow (readAddFlow env p4info flow.text)) : flow.Convertible env := by
  have hflow := unambiguous_of_readsBack h
  obtain ⟨result, hread, -⟩ := h
  have hvalues {parsed : Text × ActionData}
      (haction : parseAction env p4info (actionText flow.action flow.values) = .ok parsed) :
      ∀ value ∈ flow.values, env.Converts value :=
    converts_of_parseAction henv flow.action_argument.left flow.values_decimal flow.values_nonempty haction
  rw [FlowText.readAddFlow_of_unambiguous hflow] at hread
  cases hpriority : flow.priority with
  | some priority =>
    rw [hpriority] at hread
    obtain ⟨mk, act, key, found, hcut, hmatch, hkeys, ⟨parsed, haction⟩, -⟩ := readTernary_cases hread
    rw [flow.cut_text hflow.action] at hcut
    cases hcut
    rw [flow.cut_matchText hpriority (hflow.priority (by rw [hpriority]; nofun))] at hmatch
    cases hmatch
    exact ⟨converts_of_readMatchKeys numberOrTextSuffix_readsDecimals hkeys, hvalues haction⟩
  | none =>
    rw [hpriority] at hread
    obtain ⟨mk, act, hcut, hkeys, parsed, haction⟩ := readAction_cases hread
    rw [flow.cut_text hflow.action] at hcut
    cases hcut
    rw [flow.matchText_of_no_priority hpriority] at hkeys
    exact ⟨converts_of_readMatchKeys numberSuffix_readsDecimals hkeys, hvalues haction⟩

/-- **A rendered flow is read back by the command that adds an entry, and its match text by the command
that deletes one, exactly when the flow is unambiguous and the interpreter converts its numerals.** -/
theorem flow_roundTrip_iff (env : Environment) (henv : env.Ipv6HasColon) (p4info : P4Info) (flow : FlowText) :
    ReadsBack flow (readAddFlow env p4info flow.text) ∧
        readDelKey env flow.matchText = .ok (flow.entries, flow.priority) ↔
      Unambiguous flow ∧ flow.Convertible env :=
  ⟨fun h => ⟨unambiguous_of_readsBack h.1, convertible_of_readsBack henv h.1⟩, fun h => by
    have hread : readAddFlow env p4info flow.text = .ok flow.reading := FlowText.readAddFlow_text henv h.1 h.2
    exact ⟨hread ▸ flow.readsBack_reading, FlowText.readDelKey_matchText h.1 h.2⟩⟩

/-- A match key without a suffix and with a plain value. -/
def exactKey (name value : Text) (hne : name ≠ []) (hname : Plain name) (hvalue : Plain value) : MatchKey :=
  ⟨name, value, none, hne, hname, hvalue, nofun⟩

/-- The flow `meta.priority=5,action=fwd(1)`. -/
def priorityFieldFlow : FlowText where
  keys := [exactKey "meta.priority".toList "5".toList (by decide) ⟨by decide, by decide, by decide⟩
    ⟨by decide, by decide, by decide⟩]
  priority := none
  action := "fwd".toList
  values := ["1".toList]
  keys_nonempty := by decide
  names_distinct := by decide
  priority_decimal := nofun
  action_argument := ⟨by decide, by decide, by decide⟩
  values_nonempty := by decide
  values_decimal := by decide

/-- A match field that is named after a priority makes both commands fail. -/
theorem not_flow_roundTrip :
    ¬ (ReadsBack priorityFieldFlow (readAddFlow Environment.ascii ⟨[], []⟩ priorityFieldFlow.text) ∧
      readDelKey Environment.ascii priorityFieldFlow.matchText =
        .ok (priorityFieldFlow.entries, priorityFieldFlow.priority)) := by
  have hadd : readAddFlow Environment.ascii ⟨[], []⟩ priorityFieldFlow.text = .error .indexError := by
    decide +kernel
  rintro ⟨⟨result, hread, -⟩, -⟩
  rw [hadd] at hread
  cases hread

/-- The flow `dst=10/24,priority=7,action=fwd(1,20)`. -/
def lpmFlow : FlowText where
  keys := [⟨"dst".toList, "10".toList, some "24".toList, by decide, ⟨by decide, by decide, by decide⟩,
    ⟨by decide, by decide, by decide⟩, by decide⟩]
  priority := some "7".toList
  action := "fwd".toList
  values := ["1".toList, "20".toList]
  keys_nonempty := by decide
  names_distinct := by decide
  priority_decimal := by decide
  action_argument := ⟨by decide, by decide, by decide⟩
  values_nonempty := by decide
  values_decimal := by decide

/-- A flow with one match key and a priority is read back by both commands. -/
theorem flow_roundTrip_lpm :
    ReadsBack lpmFlow (readAddFlow Environment.ascii ⟨[], []⟩ lpmFlow.text) ∧
      readDelKey Environment.ascii lpmFlow.matchText = .ok (lpmFlow.entries, lpmFlow.priority) :=
  (flow_roundTrip_iff Environment.ascii Environment.ascii_ipv6HasColon ⟨[], []⟩ lpmFlow).mpr
    ⟨⟨nofun, nofun, nofun, fun _ => nofun, nofun⟩, by decide, by decide⟩

end NetworkingRecipe.P4rtCtl
