import NetworkingRecipe.Python.Text

/-!
# Joined texts

Texts that are joined by a separator of one character, and what `split` and the search for a
word find in them. A word without the separator lies within one piece. A marker that begins
with the separator stands where a piece after the first begins with the rest of the marker.
-/

namespace Python

/-- `separator.join(pieces)` for a separator of one character. -/
def join (separator : Char) (pieces : List Text) : Text :=
  [separator].intercalate pieces

@[simp] theorem join_singleton (separator : Char) (piece : Text) : join separator [piece] = piece :=
  List.intercalate_singleton

@[simp] theorem join_cons_cons (separator : Char) (first second : Text) (rest : List Text) :
    join separator (first :: second :: rest) = first ++ separator :: join separator (second :: rest) := by
  rw [join, List.intercalate_cons_cons, List.append_assoc]
  rfl

/-- The first of several pieces is followed by the separator. -/
theorem join_cons {separator : Char} (first : Text) {rest : List Text} (hrest : rest ≠ []) :
    join separator (first :: rest) = first ++ separator :: join separator rest := by
  obtain ⟨second, rest, rfl⟩ := List.exists_cons_of_ne_nil hrest
  exact join_cons_cons ..

/-- Two joined texts are joined by the separator. -/
theorem join_append {separator : Char} {first second : List Text} (hfirst : first ≠ [])
    (hsecond : second ≠ []) :
    join separator (first ++ second) = join separator first ++ separator :: join separator second := by
  induction first with
  | nil => exact absurd rfl hfirst
  | cons piece rest ih =>
    cases rest with
    | nil => rw [List.singleton_append, join_cons piece hsecond, join_singleton]
    | cons next rest =>
      rw [List.cons_append, join_cons piece (List.append_ne_nil_of_left_ne_nil (List.cons_ne_nil _ _) _),
        ih (List.cons_ne_nil _ _), join_cons_cons, List.append_assoc, List.cons_append]

/-- A character occurs in a joined text as the separator or in a piece. -/
theorem not_mem_join {separator c : Char} {pieces : List Text} (hseparator : c ≠ separator)
    (hpieces : ∀ piece ∈ pieces, c ∉ piece) : c ∉ join separator pieces := by
  induction pieces with
  | nil => exact List.not_mem_nil
  | cons piece rest ih =>
    have hpiece : c ∉ piece := hpieces piece List.mem_cons_self
    cases rest with
    | nil => rwa [join_singleton]
    | cons next rest =>
      have hrest := ih fun other hother => hpieces other (List.mem_cons_of_mem _ hother)
      rw [join_cons_cons, List.mem_append, List.mem_cons]
      exact fun h => h.elim hpiece fun h => h.elim hseparator hrest

/-! ## Words and markers -/

/-- A word does not occur in a text that lacks one of its characters. -/
theorem not_contains_of_not_mem {text word : Text} {c : Char} (hword : c ∈ word) (htext : c ∉ text) :
    contains text word = false :=
  Bool.eq_false_iff.mpr fun h => htext ((contains_iff.mp h).subset hword)

variable {c d : Char} {word marker before after : Text}

/-- A word at the start of a text ends before a character that it lacks. -/
theorem prefix_append_cons_iff (hword : c ∉ word) : word <+: before ++ c :: after ↔ word <+: before := by
  induction before generalizing word with
  | nil =>
    rw [List.nil_append, List.prefix_nil]
    constructor
    · intro h
      obtain rfl | ⟨tail, rfl, -⟩ := List.prefix_cons_iff.mp h
      · rfl
      · exact absurd List.mem_cons_self hword
    · rintro rfl
      exact List.nil_prefix
  | cons e before ih =>
    rw [List.cons_append, List.prefix_cons_iff, List.prefix_cons_iff]
    refine or_congr_right (exists_congr fun tail => and_congr_right fun htail => ih ?_)
    exact fun hmem => hword (htail ▸ List.mem_cons_of_mem e hmem)

/-- A word and a character behind it begin a text if the word is what the text has before the character. -/
theorem concat_prefix_append_cons_iff (hword : c ∉ word) (hbefore : c ∉ before) :
    word ++ [c] <+: before ++ c :: after ↔ before = word := by
  induction word generalizing before with
  | nil =>
    cases before with
    | nil => simp
    | cons e before =>
      have he : c ≠ e := fun he => hbefore (he ▸ List.mem_cons_self)
      simp [he]
  | cons d word ih =>
    rw [List.mem_cons, not_or] at hword
    cases before with
    | nil =>
      have hd : d ≠ c := fun hd => hword.1 hd.symm
      simp [hd]
    | cons e before =>
      rw [List.mem_cons, not_or] at hbefore
      rw [List.cons_append, List.cons_append, List.cons_prefix_cons, ih hword.2 hbefore.2, List.cons.injEq,
        @eq_comm _ d e]

/-- A word lies on one side of a character that it lacks. -/
theorem infix_append_cons_iff (hword : c ∉ word) :
    word <:+: before ++ c :: after ↔ word <:+: before ∨ word <:+: after := by
  induction before with
  | nil =>
    rw [List.nil_append, List.infix_cons_iff, ← List.nil_append (c :: after), prefix_append_cons_iff hword,
      List.prefix_nil, List.infix_nil]
  | cons e before ih =>
    rw [List.cons_append, List.infix_cons_iff, List.infix_cons_iff, ih, ← List.cons_append,
      prefix_append_cons_iff hword, or_assoc]

/-- A marker lies on one side of its first character, or begins with it. -/
theorem marker_infix_append_cons_iff (hmarker : c ∉ marker) :
    c :: marker <:+: before ++ c :: after ↔
      c :: marker <:+: before ∨ marker <+: after ∨ c :: marker <:+: after := by
  induction before with
  | nil =>
    rw [List.nil_append, List.infix_cons_iff, List.cons_prefix_cons, List.infix_nil]
    simp
  | cons e before ih =>
    rw [List.cons_append, List.infix_cons_iff, List.infix_cons_iff, ih, List.cons_prefix_cons,
      List.cons_prefix_cons, prefix_append_cons_iff hmarker, or_assoc]

/-- A word without the separator lies within a piece. -/
theorem infix_join_iff {pieces : List Text} (hpieces : pieces ≠ []) (hword : c ∉ word) :
    word <:+: join c pieces ↔ ∃ piece ∈ pieces, word <:+: piece := by
  induction pieces with
  | nil => exact absurd rfl hpieces
  | cons piece rest ih =>
    cases rest with
    | nil => simp
    | cons next rest =>
      rw [join_cons_cons, infix_append_cons_iff hword, ih (List.cons_ne_nil _ _)]
      simp only [List.mem_cons, exists_eq_or_imp]

/-- A word without the separator begins a joined text if it begins the first piece. -/
theorem prefix_join_iff (piece : Text) (rest : List Text) (hword : c ∉ word) :
    word <+: join c (piece :: rest) ↔ word <+: piece := by
  cases rest with
  | nil => rw [join_singleton]
  | cons next rest => rw [join_cons_cons, prefix_append_cons_iff hword]

/-- A marker stands where a piece after the first begins with the rest of the marker. -/
theorem marker_infix_join_iff {pieces : List Text} (hfree : ∀ piece ∈ pieces, c ∉ piece)
    (hmarker : c ∉ marker) :
    c :: marker <:+: join c pieces ↔ ∃ piece ∈ pieces.tail, marker <+: piece := by
  induction pieces with
  | nil => simp [join]
  | cons piece rest ih =>
    have hpiece : ¬ c :: marker <:+: piece := fun h =>
      hfree piece List.mem_cons_self (h.subset List.mem_cons_self)
    cases rest with
    | nil => simpa using hpiece
    | cons next rest =>
      rw [join_cons_cons, marker_infix_append_cons_iff hmarker, or_iff_right hpiece, prefix_join_iff _ _ hmarker,
        ih fun other hother => hfree other (List.mem_cons_of_mem _ hother)]
      simp only [List.tail_cons, List.mem_cons, exists_eq_or_imp]

/-! ## Split -/

/-- Characters of a separator that has been found are passed over. -/
theorem splitFrom_eq_drop {separator : Text} (skip : ℕ) (text : Text) (hskip : skip ≤ text.length) :
    splitFrom separator skip text = splitFrom separator 0 (text.drop skip) := by
  induction skip generalizing text with
  | zero => rfl
  | succ skip ih =>
    cases text with
    | nil => cases hskip
    | cons e rest => rw [splitFrom, List.drop_succ_cons, ih rest (Nat.le_of_succ_le_succ hskip)]

/-- A separator at the start of a text ends an empty piece. -/
theorem split_separator_append {separator : Text} (hsome : separator ≠ []) (text : Text) :
    split (separator ++ text) separator = [] :: split text separator := by
  obtain ⟨e, rest, rfl⟩ := List.exists_cons_of_ne_nil hsome
  have hstart : (e :: rest).isPrefixOf (e :: (rest ++ text)) = true :=
    List.isPrefixOf_iff_prefix.mpr (List.prefix_append ..)
  rw [split, List.cons_append, splitFrom, hstart, if_pos rfl, List.length_cons, Nat.add_sub_cancel,
    splitFrom_eq_drop _ _ (by rw [List.length_append]; omega), List.drop_left, split]

/-- A character at which no separator stands belongs to the first piece. -/
theorem split_cons {separator : Text} {e : Char} {rest : Text} (h : ¬ separator <+: e :: rest) :
    split (e :: rest) separator = (split rest separator).modifyHead (List.cons e) := by
  have hstart : separator.isPrefixOf (e :: rest) = false :=
    Bool.eq_false_iff.mpr fun hp => h (List.isPrefixOf_iff_prefix.mp hp)
  rw [split, splitFrom, hstart, if_neg Bool.false_ne_true, split]

/-- The first piece is the text up to the first separator. -/
theorem split_append {separator : Text} (hsome : separator ≠ []) (first rest : Text)
    (h : ∀ tail, tail ≠ [] → tail <:+ first → ¬ separator <+: tail ++ (separator ++ rest)) :
    split (first ++ (separator ++ rest)) separator = first :: split rest separator := by
  induction first with
  | nil => rw [List.nil_append, split_separator_append hsome]
  | cons e first ih =>
    have hhead := h (e :: first) (List.cons_ne_nil _ _) (List.suffix_refl _)
    rw [List.cons_append] at hhead ⊢
    rw [split_cons hhead,
      ih fun tail hne htail => h tail hne (htail.trans (List.suffix_cons e first))]
    rfl

/-- At a separator of one character that the first part lacks, a text is split. -/
theorem split_append_cons (hfirst : c ∉ before) : split (before ++ c :: after) [c] = before :: split after [c] := by
  refine split_append (List.cons_ne_nil _ _) before after fun tail hne htail hstart => ?_
  obtain ⟨e, tail, rfl⟩ := List.exists_cons_of_ne_nil hne
  rw [List.cons_append, List.cons_prefix_cons] at hstart
  exact hfirst (htail.subset (hstart.1 ▸ List.mem_cons_self))

/-- A text without the separator is its own only piece. -/
theorem split_of_not_mem (htext : c ∉ before) : split before [c] = [before] := by
  refine split_of_not_contains (Bool.eq_false_iff.mpr fun hcontains => htext ?_)
  exact (contains_iff.mp hcontains).subset List.mem_cons_self

/-- Joined pieces without the separator are split again. -/
theorem split_join {pieces : List Text} (hpieces : pieces ≠ []) (hfree : ∀ piece ∈ pieces, c ∉ piece) :
    split (join c pieces) [c] = pieces := by
  induction pieces with
  | nil => exact absurd rfl hpieces
  | cons piece rest ih =>
    have hpiece : c ∉ piece := hfree piece List.mem_cons_self
    cases rest with
    | nil => rw [join_singleton, split_of_not_mem hpiece]
    | cons next rest =>
      rw [join_cons_cons, split_append_cons hpiece,
        ih (List.cons_ne_nil _ _) fun other hother => hfree other (List.mem_cons_of_mem _ hother)]

/-- A text is split at the first marker behind a part that has none. -/
theorem split_append_marker (hmarker : c ∉ marker) (hnone : ¬ c :: marker <:+: before) (after : Text) :
    split (before ++ (c :: marker ++ after)) (c :: marker) = before :: split after (c :: marker) := by
  refine split_append (List.cons_ne_nil _ _) before after fun tail hne htail hstart => hnone ?_
  obtain ⟨e, tail, rfl⟩ := List.exists_cons_of_ne_nil hne
  rw [List.cons_append, List.cons_prefix_cons, List.cons_append, prefix_append_cons_iff hmarker] at hstart
  obtain ⟨rfl, hstart⟩ := hstart
  exact (List.cons_prefix_cons.mpr ⟨rfl, hstart⟩).isInfix.trans htail.isInfix

/-- The first piece ends where a separator stands, or before. -/
theorem head_split_prefix {separator first : Text} (hsome : separator ≠ [])
    (h : (split (before ++ (separator ++ after)) separator).head? = some first) : first <+: before := by
  induction before generalizing first with
  | nil =>
    rw [List.nil_append, split_separator_append hsome] at h
    cases h
    exact List.nil_prefix
  | cons e before ih =>
    by_cases hstart : separator <+: e :: (before ++ (separator ++ after))
    · obtain ⟨tail, htail⟩ := hstart
      rw [List.cons_append, ← htail, split_separator_append hsome] at h
      cases h
      exact List.nil_prefix
    · rw [List.cons_append, split_cons hstart, List.head?_modifyHead, Option.map_eq_some_iff] at h
      obtain ⟨piece, hpiece, rfl⟩ := h
      exact List.cons_prefix_cons.mpr ⟨rfl, ih hpiece⟩

/-- Where there is a second piece, a separator follows the first. -/
theorem append_separator_prefix {separator text first second : Text} {rest : List Text} (hsome : separator ≠ [])
    (h : split text separator = first :: second :: rest) : first ++ separator <+: text := by
  induction text generalizing first with
  | nil => cases h
  | cons e text ih =>
    by_cases hstart : separator <+: e :: text
    · obtain ⟨tail, htail⟩ := hstart
      rw [← htail, split_separator_append hsome] at h
      obtain ⟨rfl, -⟩ := List.cons.inj h
      rw [← htail]
      exact List.prefix_append ..
    · rw [split_cons hstart] at h
      cases hsplit : split text separator with
      | nil => rw [hsplit] at h; cases h
      | cons piece pieces =>
        rw [hsplit] at h
        cases h
        exact List.cons_prefix_cons.mpr ⟨rfl, ih hsplit⟩

/-- At a separator of one character a piece ends. -/
theorem split_cons_self (text : Text) : split (c :: text) [c] = [] :: split text [c] :=
  split_separator_append (List.cons_ne_nil c []) text

/-- Another character belongs to the first piece. -/
theorem split_cons_of_ne {e : Char} (he : e ≠ c) (text : Text) :
    split (e :: text) [c] = (split text [c]).modifyHead (List.cons e) :=
  split_cons fun h => he (List.cons_prefix_cons.mp h).1.symm

/-- A text has one piece more than separators of one character. -/
theorem length_split (text : Text) : (split text [c]).length = text.count c + 1 := by
  induction text with
  | nil => rfl
  | cons e text ih =>
    by_cases he : e = c
    · obtain rfl := he
      rw [split_cons_self, List.length_cons, ih, List.count_cons_self]
    · rw [split_cons_of_ne he, List.length_modifyHead, ih, List.count_cons_of_ne he]

/-- The first piece is the text in front of the first separator, and there may be others. -/
theorem exists_split_eq (text : Text) : ∃ rest, split text [c] = text.takeWhile (· != c) :: rest := by
  induction text with
  | nil => exact ⟨[], rfl⟩
  | cons e text ih =>
    obtain ⟨rest, hrest⟩ := ih
    by_cases he : e = c
    · obtain rfl := he
      refine ⟨split text [e], ?_⟩
      rw [split_cons_self, List.takeWhile_cons_of_neg (by simp)]
    · refine ⟨rest, ?_⟩
      rw [split_cons_of_ne he, hrest, List.takeWhile_cons_of_pos (by simpa using he)]
      rfl

/-- The pieces of two texts with a separator between them are those of both. -/
theorem split_append_cons_append (first second : Text) :
    split (first ++ c :: second) [c] = split first [c] ++ split second [c] := by
  induction first with
  | nil => exact split_cons_self second
  | cons e first ih =>
    by_cases he : e = c
    · obtain rfl := he
      rw [List.cons_append, split_cons_self, split_cons_self, ih, List.cons_append]
    · obtain ⟨rest, hrest⟩ := exists_split_eq (c := c) first
      rw [List.cons_append, split_cons_of_ne he, split_cons_of_ne he, ih, hrest]
      rfl

/-- The pieces of joined texts are those of the texts. -/
theorem split_join_eq_flatMap {texts : List Text} (hne : texts ≠ []) :
    split (join c texts) [c] = texts.flatMap fun text => split text [c] := by
  induction texts with
  | nil => exact absurd rfl hne
  | cons text rest ih =>
    cases rest with
    | nil => rw [join_singleton, List.flatMap_singleton]
    | cons next rest =>
      rw [join_cons_cons, split_append_cons_append, ih (List.cons_ne_nil _ _)]
      rfl

/-- A part without a separator belongs to the first piece. -/
theorem split_append_of_not_mem (hfirst : c ∉ before) (rest : Text) :
    split (before ++ rest) [c] = (split rest [c]).modifyHead (before ++ ·) := by
  induction before with
  | nil => exact (congrFun List.modifyHead_id _).symm
  | cons e before ih =>
    rw [List.mem_cons, not_or] at hfirst
    obtain ⟨others, hothers⟩ := exists_split_eq (c := c) rest
    rw [List.cons_append, split_cons_of_ne (fun he => hfirst.1 he.symm), ih hfirst.2, hothers]
    rfl

/-- A piece behind the first stands behind a separator. -/
theorem exists_append_of_mem_tail_split {text piece : Text} (h : piece ∈ (split text [c]).tail) :
    ∃ front rest, text = front ++ c :: (piece ++ rest) := by
  induction text with
  | nil => cases h
  | cons e text ih =>
    by_cases he : e = c
    · obtain rfl := he
      rw [split_cons_self, List.tail_cons] at h
      obtain ⟨others, hothers⟩ := exists_split_eq (c := e) text
      rw [hothers] at h
      obtain rfl | h := List.mem_cons.mp h
      · exact ⟨[], text.dropWhile (· != e), by rw [List.takeWhile_append_dropWhile, List.nil_append]⟩
      · obtain ⟨front, rest, htext⟩ := ih (by rw [hothers]; exact h)
        exact ⟨e :: front, rest, by rw [htext, List.cons_append]⟩
    · obtain ⟨others, hothers⟩ := exists_split_eq (c := c) text
      rw [split_cons_of_ne he, hothers] at h
      obtain ⟨front, rest, htext⟩ := ih (by rw [hothers]; exact h)
      exact ⟨e :: front, rest, by rw [htext, List.cons_append]⟩

/-- The characters of a piece are characters of the text. -/
theorem mem_of_mem_split {text separator piece : Text} (hpiece : piece ∈ split text separator) {c : Char}
    (hc : c ∈ piece) : c ∈ text := by
  have hfrom (skip : ℕ) : piece ∈ splitFrom separator skip text → c ∈ text := by
    clear hpiece
    induction text generalizing skip piece with
    | nil =>
      intro h
      rw [splitFrom, List.mem_singleton] at h
      exact absurd (h ▸ hc) List.not_mem_nil
    | cons d rest ih =>
      intro h
      cases skip with
      | succ skip => exact List.mem_cons_of_mem d (ih hc skip h)
      | zero =>
        rw [splitFrom] at h
        split at h
        · obtain rfl | h := List.mem_cons.mp h
          · exact absurd hc List.not_mem_nil
          · exact List.mem_cons_of_mem d (ih hc _ h)
        · cases hsplit : splitFrom separator 0 rest with
          | nil => rw [hsplit] at h; cases h
          | cons first others =>
            rw [hsplit, List.modifyHead_cons, List.mem_cons] at h
            obtain rfl | h := h
            · obtain rfl | hc := List.mem_cons.mp hc
              · exact List.mem_cons_self
              · exact List.mem_cons_of_mem d (ih hc 0 (hsplit ▸ List.mem_cons_self))
            · exact List.mem_cons_of_mem d (ih hc 0 (hsplit ▸ List.mem_cons_of_mem first h))
  exact hfrom 0 hpiece

/-- A character of the text that is no separator is in one of the pieces. -/
theorem exists_mem_split {text : Text} {d : Char} (hd : d ∈ text) (hne : d ≠ c) :
    ∃ piece ∈ split text [c], d ∈ piece := by
  induction text with
  | nil => cases hd
  | cons e text ih =>
    obtain ⟨others, hothers⟩ := exists_split_eq (c := c) text
    by_cases he : e = c
    · obtain rfl := he
      obtain ⟨piece, hpiece, hmem⟩ := ih ((List.mem_cons.mp hd).resolve_left hne)
      rw [split_cons_self]
      exact ⟨piece, List.mem_cons_of_mem _ hpiece, hmem⟩
    · rw [split_cons_of_ne he, hothers, List.modifyHead_cons]
      obtain rfl | hd := List.mem_cons.mp hd
      · exact ⟨_, List.mem_cons_self, List.mem_cons_self⟩
      · obtain ⟨piece, hpiece, hmem⟩ := ih hd
        rw [hothers] at hpiece
        obtain rfl | hpiece := List.mem_cons.mp hpiece
        · exact ⟨_, List.mem_cons_self, List.mem_cons_of_mem e hmem⟩
        · exact ⟨piece, List.mem_cons_of_mem _ hpiece, hmem⟩

end Python
