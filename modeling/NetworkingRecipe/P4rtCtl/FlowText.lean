import NetworkingRecipe.P4rtCtl.ActionText
import NetworkingRecipe.P4rtCtl.EntryCommands

/-!
# Flow texts that render a flow

A flow is rendered as its match keys, an optional priority and an action, joined by commas. The
readers search the whole line for words and markers, so that what they find depends on the names
of the match fields, on the values and on the name of the action.

This module says where the words and markers stand in a rendered flow.
-/

namespace NetworkingRecipe.P4rtCtl

open Python

/-- A text without the characters that separate match keys, values and suffixes. -/
structure Plain (text : Text) : Prop where
  comma : ',' ∉ text
  equals : '=' ∉ text
  slash : '/' ∉ text

/-- A match key of a flow, with the text of its suffix. -/
structure MatchKey where
  name : Text
  value : Text
  suffix : Option Text
  name_nonempty : name ≠ []
  name_plain : Plain name
  value_plain : Plain value
  suffix_decimal : ∀ text ∈ suffix, Decimal text

namespace MatchKey

/-- The value of a match key with its suffix. -/
def valueText (key : MatchKey) : Text :=
  match key.suffix with
  | none => key.value
  | some suffix => key.value ++ '/' :: suffix

/-- `name=value` or `name=value/suffix` -/
def text (key : MatchKey) : Text :=
  key.name ++ '=' :: key.valueText

/-- The entry of a match key in the dictionary of a reading. -/
def entry (key : MatchKey) : Text × Value :=
  match key.suffix with
  | none => (key.name, .scalar (.str key.value))
  | some suffix => (key.name, .tuple [.str key.value, .int (numeral 10 suffix)])

/-- A match key is entered under its name. -/
theorem entry_fst (key : MatchKey) : key.entry.1 = key.name := by
  rw [entry]
  split <;> rfl

/-- The value of a match key lacks the characters that neither a value nor a suffix has. -/
theorem not_mem_valueText (key : MatchKey) {c : Char} (hvalue : c ∉ key.value) (hslash : c ≠ '/')
    (hdigit : digitOf 10 c = none) : c ∉ key.valueText := by
  rw [valueText]
  split
  · exact hvalue
  · rename_i suffix hsuffix
    rw [List.mem_append, List.mem_cons]
    exact fun h => h.elim hvalue fun h => h.elim hslash
      ((key.suffix_decimal suffix hsuffix).digits.not_mem hdigit)

/-- A match key has no comma. -/
theorem comma_not_mem_text (key : MatchKey) : ',' ∉ key.text := by
  rw [text, List.mem_append, List.mem_cons]
  exact fun h => h.elim key.name_plain.comma fun h => h.elim (by decide)
    (key.not_mem_valueText key.value_plain.comma (by decide) (by decide))

/-- A word begins a match key if it begins the name. -/
theorem prefix_text_iff (key : MatchKey) {word : Text} (hword : '=' ∉ word) :
    word <+: key.text ↔ word <+: key.name :=
  prefix_append_cons_iff hword

/-- A word with an equals sign behind it begins a match key if it is the name. -/
theorem prefix_equals_text_iff (key : MatchKey) (word : Text) (hword : '=' ∉ word) :
    word ++ ['='] <+: key.text ↔ key.name = word :=
  concat_prefix_append_cons_iff hword key.name_plain.equals

/-- A word of letters lies in a match key if it lies in the name or in the value. -/
theorem infix_text_iff (key : MatchKey) {word : Text} {c : Char} (hequals : '=' ∉ word) (hslash : '/' ∉ word)
    (hletter : c ∈ word) (hdigit : digitOf 10 c = none) :
    word <:+: key.text ↔ word <:+: key.name ∨ word <:+: key.value := by
  rw [text, infix_append_cons_iff hequals, valueText]
  split
  · rfl
  · rename_i suffix hsuffix
    have hnone : ¬ word <:+: suffix := fun h =>
      (key.suffix_decimal suffix hsuffix).digits.not_mem hdigit (h.subset hletter)
    rw [infix_append_cons_iff hslash, or_iff_left hnone]

end MatchKey

/-- The match keys, the priority, the action and its values that a flow text renders. -/
structure FlowText where
  keys : List MatchKey
  priority : Option Text
  action : Text
  values : List Text
  keys_nonempty : keys ≠ []
  names_distinct : (keys.map MatchKey.name).Nodup
  priority_decimal : ∀ text ∈ priority, Decimal text
  action_argument : Argument action
  values_nonempty : values ≠ []
  values_decimal : ∀ value ∈ values, Decimal value

namespace FlowText

variable (flow : FlowText)

/-- The match keys of a flow, joined by commas. -/
def keyText : Text :=
  join ',' (flow.keys.map MatchKey.text)

/-- The match keys and the priority of a flow. -/
def matchPieces : List Text :=
  flow.keys.map MatchKey.text ++ flow.priority.toList.map ("priority=".toList ++ ·)

/-- `name=value[/n],...[,priority=P]` -/
def matchText : Text :=
  join ',' flow.matchPieces

/-- `name=value[/n],...[,priority=P],action=A(v1,...,vk)` -/
def text : Text :=
  flow.matchText ++ (",action=".toList ++ actionText flow.action flow.values)

/-- The dictionary of the match keys. -/
def entries : Dict Value :=
  flow.keys.map MatchKey.entry

/-- The numbers that the values of the action spell. -/
def numbers : List ℤ :=
  flow.values.map fun value => (numeral 10 value : ℤ)

/-- No piece of the match text has a comma. -/
theorem comma_not_mem_matchPieces : ∀ piece ∈ flow.matchPieces, ',' ∉ piece := by
  intro piece hpiece
  rw [matchPieces, List.mem_append, List.mem_map, List.mem_map] at hpiece
  obtain ⟨key, -, rfl⟩ | ⟨priority, hpriority, rfl⟩ := hpiece
  · exact key.comma_not_mem_text
  · rw [List.mem_append, not_or]
    exact ⟨by decide, (flow.priority_decimal priority (Option.mem_toList.mp hpriority)).digits.not_mem (by decide)⟩

/-- The match keys have no comma. -/
theorem comma_not_mem_keys : ∀ piece ∈ flow.keys.map MatchKey.text, ',' ∉ piece :=
  fun piece hpiece => flow.comma_not_mem_matchPieces piece (List.mem_append_left _ hpiece)

/-- Behind the first match key come the others and the priority. -/
theorem tail_matchPieces :
    flow.matchPieces.tail = flow.keys.tail.map MatchKey.text ++ flow.priority.toList.map ("priority=".toList ++ ·) := by
  rw [matchPieces, List.tail_append_of_ne_nil (mt List.map_eq_nil_iff.mp flow.keys_nonempty), List.map_tail]

/-! ## Markers -/

/-- The values of an action are numerals, so that no marker stands among them. -/
theorem marker_not_infix_actionText {e : Char} {marker : Text} (hdigit : digitOf 10 e = none)
    (hmarker : Argument (e :: marker)) : ¬ ',' :: e :: marker <:+: actionText flow.action flow.values := by
  have hleft : '(' ∉ ',' :: e :: marker := List.not_mem_cons_of_ne_of_not_mem (by decide) hmarker.left
  have hright : ')' ∉ ',' :: e :: marker := List.not_mem_cons_of_ne_of_not_mem (by decide) hmarker.right
  rw [actionText, infix_append_cons_iff hleft, infix_append_cons_iff hright,
    marker_infix_join_iff (fun value hvalue => (flow.values_decimal value hvalue).digits.not_mem (by decide))
      hmarker.comma]
  rintro (h | ⟨value, hvalue, h⟩ | h)
  · exact flow.action_argument.comma (h.subset List.mem_cons_self)
  · exact (flow.values_decimal value (List.mem_of_mem_tail hvalue)).digits.not_mem hdigit
      (h.subset List.mem_cons_self)
  · cases List.infix_nil.mp h

/-- A marker that is not the one for the action stands in the match text, or not at all. -/
theorem marker_infix_text_iff {e : Char} {marker : Text} (hdigit : digitOf 10 e = none)
    (hmarker : Argument (e :: marker)) (hequals : '=' ∉ e :: marker) (hother : e ≠ 'a') :
    ',' :: e :: marker <:+: flow.text ↔ ',' :: e :: marker <:+: flow.matchText := by
  have hstart : ¬ e :: marker <+: "action=".toList ++ actionText flow.action flow.values :=
    fun h => hother (List.cons_prefix_cons.mp h).1
  have haction : ¬ ',' :: e :: marker <:+: "action=".toList ++ actionText flow.action flow.values := by
    change ¬ ',' :: e :: marker <:+: "action".toList ++ '=' :: actionText flow.action flow.values
    rw [infix_append_cons_iff (List.not_mem_cons_of_ne_of_not_mem (by decide) hequals), not_or]
    refine ⟨fun h => ?_, flow.marker_not_infix_actionText hdigit hmarker⟩
    exact absurd (h.subset List.mem_cons_self) (by decide)
  change _ <:+: flow.matchText ++ ',' :: ("action=".toList ++ actionText flow.action flow.values) ↔ _
  rw [marker_infix_append_cons_iff hmarker.comma, or_iff_left (not_or.mpr ⟨hstart, haction⟩)]

/-- A word that is not the one for the priority stands behind a comma of the match text if it begins
the name of a match key after the first. -/
theorem marker_infix_matchText_iff {e : Char} {marker : Text} (hcomma : ',' ∉ e :: marker)
    (hother : e ≠ 'p') :
    ',' :: e :: marker <:+: flow.matchText ↔ ∃ key ∈ flow.keys.tail, e :: marker <+: key.text := by
  rw [matchText, marker_infix_join_iff flow.comma_not_mem_matchPieces hcomma, tail_matchPieces]
  constructor
  · rintro ⟨piece, hpiece, h⟩
    rw [List.mem_append, List.mem_map, List.mem_map] at hpiece
    obtain ⟨key, hkey, rfl⟩ | ⟨priority, -, rfl⟩ := hpiece
    · exact ⟨key, hkey, h⟩
    · exact absurd (List.cons_prefix_cons.mp h).1 hother
  · rintro ⟨key, hkey, h⟩
    exact ⟨key.text, List.mem_append_left _ (List.mem_map_of_mem hkey), h⟩

/-- A word for a group or a member stands behind a comma of a flow if it begins the name of a match
key after the first. -/
theorem contains_comma_word_iff {e : Char} {marker : Text} (hdigit : digitOf 10 e = none)
    (hmarker : Argument (e :: marker)) (hequals : '=' ∉ e :: marker) (haction : e ≠ 'a') (hpriority : e ≠ 'p') :
    contains flow.text (',' :: e :: marker) = true ↔ ∃ key ∈ flow.keys.tail, e :: marker <+: key.name := by
  rw [contains_iff, marker_infix_text_iff flow hdigit hmarker hequals haction,
    marker_infix_matchText_iff flow hmarker.comma hpriority]
  exact exists_congr fun key => and_congr_right fun _ => key.prefix_text_iff hequals

/-- The marker for the action stands in the match text if a match key after the first has its name. -/
theorem action_infix_matchText_iff :
    ",action=".toList <:+: flow.matchText ↔ ∃ key ∈ flow.keys.tail, key.name = "action".toList := by
  refine (marker_infix_matchText_iff flow (by decide) (by decide)).trans ?_
  exact exists_congr fun key => and_congr_right fun _ => key.prefix_equals_text_iff "action".toList (by decide)

/-- The marker for the priority stands among the match keys if one after the first has its name. -/
theorem priority_infix_keyText_iff :
    ",priority=".toList <:+: flow.keyText ↔ ∃ key ∈ flow.keys.tail, key.name = "priority".toList := by
  have hmarker : ',' ∉ "priority=".toList := by decide
  refine (marker_infix_join_iff flow.comma_not_mem_keys hmarker).trans ?_
  rw [← List.map_tail]
  simp only [List.mem_map, exists_exists_and_eq_and]
  exact exists_congr fun key => and_congr_right fun _ =>
    key.prefix_equals_text_iff "priority".toList (by decide)

/-! ## Words -/

/-- The match text of a flow with a priority ends with it. -/
theorem matchText_of_priority {priority : Text} (h : flow.priority = some priority) :
    flow.matchText = flow.keyText ++ (",priority=".toList ++ priority) := by
  rw [matchText, matchPieces, h, keyText, Option.toList_some, List.map_singleton,
    join_append (mt List.map_eq_nil_iff.mp flow.keys_nonempty) (List.cons_ne_nil _ _), join_singleton]
  rfl

/-- The match text of a flow without a priority is that of its match keys. -/
theorem matchText_of_no_priority (h : flow.priority = none) : flow.matchText = flow.keyText := by
  rw [matchText, matchPieces, h, keyText, Option.toList_none, List.map_nil, List.append_nil]

/-- The word for the priority stands in a flow that has one. -/
theorem contains_priority_matchText {priority : Text} (h : flow.priority = some priority) :
    contains flow.matchText "priority".toList = true := by
  rw [contains_iff, flow.matchText_of_priority h]
  exact ⟨flow.keyText ++ [','], '=' :: priority, by simp⟩

/-- A word stands in the match text of a flow without a priority if it stands in a name or in a value. -/
theorem contains_matchText_iff (h : flow.priority = none) {word : Text} {c : Char} (hplain : Plain word)
    (hletter : c ∈ word) (hdigit : digitOf 10 c = none) :
    contains flow.matchText word = true ↔
      ∃ key ∈ flow.keys, contains key.name word = true ∨ contains key.value word = true := by
  rw [contains_iff, flow.matchText_of_no_priority h, keyText,
    infix_join_iff (mt List.map_eq_nil_iff.mp flow.keys_nonempty) hplain.comma]
  simp only [List.mem_map, exists_exists_and_eq_and, contains_iff]
  exact exists_congr fun key => and_congr_right fun _ =>
    key.infix_text_iff hplain.equals hplain.slash hletter hdigit

/-- A word of letters stands in an action if it stands in its name. -/
theorem infix_actionText_iff {word : Text} {c : Char} (hargument : Argument word) (hletter : c ∈ word)
    (hdigit : digitOf 10 c = none) :
    word <:+: actionText flow.action flow.values ↔ word <:+: flow.action := by
  rw [actionText, infix_append_cons_iff hargument.left, infix_append_cons_iff hargument.right,
    infix_join_iff flow.values_nonempty hargument.comma]
  refine or_iff_left ?_
  rintro (⟨value, hvalue, h⟩ | h)
  · exact (flow.values_decimal value hvalue).digits.not_mem hdigit (h.subset hletter)
  · exact List.not_mem_nil (h.subset hletter)

/-- A word stands in a flow if it stands in the match text or in the name of the action. -/
theorem contains_text_iff {word : Text} {c : Char} (hplain : Plain word) (hargument : Argument word)
    (hletter : c ∈ word) (hdigit : digitOf 10 c = none) (haction : ¬ word <:+: "action".toList) :
    contains flow.text word = true ↔
      contains flow.matchText word = true ∨ contains flow.action word = true := by
  rw [contains_iff, contains_iff, contains_iff, ← flow.infix_actionText_iff hargument hletter hdigit]
  change word <:+: flow.matchText ++ ',' :: ("action".toList ++ '=' :: actionText flow.action flow.values) ↔ _
  rw [infix_append_cons_iff hplain.comma, infix_append_cons_iff hplain.equals, or_iff_right haction]

end FlowText

end NetworkingRecipe.P4rtCtl
