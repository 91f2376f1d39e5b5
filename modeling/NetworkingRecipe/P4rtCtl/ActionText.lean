import NetworkingRecipe.P4rtCtl.Flow
import NetworkingRecipe.Python.Numerals
import NetworkingRecipe.Python.Pieces

/-!
# Action texts

What the reader of actions finds in a text that is an action's name with its arguments between
parentheses, and the values of arguments that are decimal numerals.

A numeral is first offered to the recognizer of IPv6 addresses, which is not part of the
repository. All that is used of it is that an address has a colon. A numeral with more digits than
the interpreter converts is no value.
-/

namespace NetworkingRecipe.P4rtCtl

open Python

/-- A text without a colon is no IPv6 address. -/
def Environment.Ipv6HasColon (env : Environment) : Prop :=
  ∀ text, text ≠ [] → ':' ∉ text → env.validIpv6 text = some false

/-- The environment that recognizes no IP address does not either. -/
theorem Environment.ascii_ipv6HasColon : Environment.ascii.Ipv6HasColon :=
  fun _ hne _ => if_neg hne

variable {env : Environment}

/-! ## Numerals -/

/-- A text without a line break has none at its end. -/
theorem chomp_of_not_mem {text : Text} (h : '\n' ∉ text) : chomp text = text :=
  if_neg fun hlast => h (List.mem_of_getLast? hlast)

/-- A text without a dot is no IPv4 address. -/
theorem not_matchesIPv4 {text : Text} (hline : '\n' ∉ text) (hdot : '.' ∉ text) :
    matchesIPv4 env text = false := by
  have hsplit : split text ".".toList = [text] := split_of_not_mem hdot
  rw [matchesIPv4, chomp_of_not_mem hline, hsplit]
  rfl

/-- A text without a colon is no MAC address. -/
theorem not_matchesMac {text : Text} (hline : '\n' ∉ text) (hcolon : ':' ∉ text) :
    matchesMac env text = false := by
  have hsplit : split text ":".toList = [text] := split_of_not_mem hcolon
  rw [matchesMac, chomp_of_not_mem hline, hsplit]
  rfl

/-- The interpreter converts a decimal numeral to an integer: it does not have more digits than the
limit. -/
def Environment.Converts (env : Environment) (text : Text) : Prop :=
  ∀ limit ∈ env.maxStrDigits, text.length ≤ limit

instance (env : Environment) (text : Text) : Decidable (env.Converts text) :=
  inferInstanceAs (Decidable (∀ limit ∈ env.maxStrDigits, text.length ≤ limit))

/-- A short text has fewer digits than any limit. -/
theorem Environment.converts_of_length_le {text : Text} (h : text.length ≤ 640) : env.Converts text :=
  fun limit hlimit => h.trans (env.maxStrDigits_ge limit hlimit)

/-- A decimal numeral is short enough if the interpreter converts it. -/
theorem withinLimit_iff_converts {text : Text} (h : Decimal text) :
    withinLimit env.maxStrDigits 10 text = true ↔ env.Converts text :=
  (withinLimit_iff_of_digits h.digits).trans (or_iff_right (by decide))

/-- A decimal numeral is read as the number it spells. -/
theorem intOfText_of_decimal {text : Text} (h : Decimal text) (hconverts : env.Converts text) :
    intOfText env text = .ok (numeral 10 text : ℤ) := by
  rw [intOfText, int_of_digits env.unicode env.maxStrDigits (by decide) h.digits h.nonempty,
    if_pos ((withinLimit_iff_converts h).mpr hconverts)]
  rfl

/-- A decimal numeral that is read is converted. -/
theorem converts_of_intOfText {text : Text} (h : Decimal text) {number : ℤ}
    (hread : intOfText env text = .ok number) : env.Converts text := by
  rw [intOfText, int_of_digits env.unicode env.maxStrDigits (by decide) h.digits h.nonempty,
    orRaise_eq_ok_iff] at hread
  split at hread
  · rename_i hlimit
    exact (withinLimit_iff_converts h).mp hlimit
  · cases hread

/-- A decimal numeral is offered to `int` as the value of an argument. -/
theorem actionValue_eq_intOfText (henv : env.Ipv6HasColon) {text : Text} (h : Decimal text) :
    actionValue env text = intOfText env text := by
  have hline : '\n' ∉ text := h.digits.not_mem (by decide)
  have hcolon : ':' ∉ text := h.digits.not_mem (by decide)
  rw [actionValue, not_matchesIPv4 hline (h.digits.not_mem (by decide)), matchesIPv6,
    henv text h.nonempty hcolon, not_matchesMac hline hcolon,
    not_contains_of_not_mem (c := 'x') (by decide) (h.digits.not_mem (by decide))]
  rfl

/-- Decimal numerals are the values of a list of arguments. -/
theorem mapM_actionValue_of_decimal (henv : env.Ipv6HasColon) {texts : List Text}
    (h : ∀ text ∈ texts, Decimal text) (hconverts : ∀ text ∈ texts, env.Converts text) :
    texts.mapM (actionValue env) = .ok (texts.map fun text => (numeral 10 text : ℤ)) := by
  induction texts with
  | nil => rfl
  | cons text rest ih =>
    rw [List.mapM_cons, actionValue_eq_intOfText henv (h text List.mem_cons_self),
      intOfText_of_decimal (h text List.mem_cons_self) (hconverts text List.mem_cons_self),
      ih (fun other hother => h other (List.mem_cons_of_mem text hother))
        fun other hother => hconverts other (List.mem_cons_of_mem text hother)]
    rfl

/-! ## Arguments -/

/-- `name(arg1,arg2,...)` -/
def actionText (name : Text) (args : List Text) : Text :=
  name ++ '(' :: (join ',' args ++ [')'])

/-- An argument ends at a comma or a parenthesis. -/
structure Argument (arg : Text) : Prop where
  comma : ',' ∉ arg
  left : '(' ∉ arg
  right : ')' ∉ arg

/-- A decimal numeral is an argument. -/
theorem Argument.of_decimal {arg : Text} (h : Decimal arg) : Argument arg :=
  ⟨h.digits.not_mem (by decide), h.digits.not_mem (by decide), h.digits.not_mem (by decide)⟩

/-- The reader of actions takes the name and the arguments apart, and looks for an equals sign in
the first argument to see how they are given. -/
theorem parseAction_actionText (env : Environment) (p4info : P4Info) {name first : Text} {rest : List Text}
    (hname : '(' ∉ name) (hargs : ∀ arg ∈ first :: rest, Argument arg) :
    parseAction env p4info (actionText name (first :: rest)) = (do
      let values ← if contains first "=".toList then readNamed p4info name (first :: rest)
        else .ok (first :: rest)
      let numbers ← values.mapM (actionValue env)
      .ok (name, .values numbers)) := by
  have hleft : '(' ∉ join ',' (first :: rest) ++ [')'] := by
    rw [List.mem_append, not_or]
    exact ⟨not_mem_join (by decide) fun arg harg => (hargs arg harg).left, by decide⟩
  have hright : ')' ∉ join ',' (first :: rest) :=
    not_mem_join (by decide) fun arg harg => (hargs arg harg).right
  have hfields : split (actionText name (first :: rest)) "(".toList =
      [name, join ',' (first :: rest) ++ [')']] := by
    change split (name ++ '(' :: (join ',' (first :: rest) ++ [')'])) ['('] = _
    rw [split_append_cons hname, split_of_not_mem hleft]
  have hparams : split (join ',' (first :: rest) ++ [')']) ")".toList = [join ',' (first :: rest), []] := by
    change split (join ',' (first :: rest) ++ ')' :: []) [')'] = _
    rw [split_append_cons hright, split_of_not_mem List.not_mem_nil]
  have hdata : split (join ',' (first :: rest)) ",".toList = first :: rest :=
    split_join (List.cons_ne_nil _ _) fun arg harg => (hargs arg harg).comma
  rw [parseAction, hfields]
  change (do
    let params ← itemAt (split (join ',' (first :: rest) ++ [')']) ")".toList) 0
    let actData := split params ",".toList
    let values ←
      if contains (← itemAt actData 0) "=".toList then readNamed p4info name actData else .ok actData
    let numbers ← values.mapM (actionValue env)
    Except.ok (name, ActionData.values numbers)) = _
  rw [hparams]
  change (do
    let actData := split (join ',' (first :: rest)) ",".toList
    let values ←
      if contains (← itemAt actData 0) "=".toList then readNamed p4info name actData else .ok actData
    let numbers ← values.mapM (actionValue env)
    Except.ok (name, ActionData.values numbers)) = _
  rw [hdata]
  rfl

/-- Decimal arguments are offered to `int` one by one. -/
theorem parseAction_eq_of_decimal (env : Environment) (p4info : P4Info) {name : Text} {values : List Text}
    (hname : '(' ∉ name) (hvalues : ∀ value ∈ values, Decimal value) (hne : values ≠ []) :
    parseAction env p4info (actionText name values) = (do
      let numbers ← values.mapM (actionValue env)
      .ok (name, .values numbers)) := by
  obtain ⟨first, rest, rfl⟩ := List.exists_cons_of_ne_nil hne
  have hequals : contains first "=".toList = false :=
    not_contains_of_not_mem (c := '=') (by decide)
      ((hvalues first List.mem_cons_self).digits.not_mem (by decide))
  rw [parseAction_actionText env p4info hname fun arg harg => .of_decimal (hvalues arg harg), hequals]
  rfl

/-- Decimal arguments are the values of an action by position. -/
theorem parseAction_of_decimal (henv : env.Ipv6HasColon) (p4info : P4Info) {name : Text} {values : List Text}
    (hname : '(' ∉ name) (hvalues : ∀ value ∈ values, Decimal value) (hne : values ≠ [])
    (hconverts : ∀ value ∈ values, env.Converts value) :
    parseAction env p4info (actionText name values) =
      .ok (name, .values (values.map fun value => (numeral 10 value : ℤ))) := by
  rw [parseAction_eq_of_decimal env p4info hname hvalues hne,
    mapM_actionValue_of_decimal henv hvalues hconverts]
  rfl

/-- An action with decimal arguments is read only if each of them is converted. -/
theorem converts_of_parseAction (henv : env.Ipv6HasColon) {p4info : P4Info} {name : Text} {values : List Text}
    (hname : '(' ∉ name) (hvalues : ∀ value ∈ values, Decimal value) (hne : values ≠ [])
    {result : Text × ActionData} (h : parseAction env p4info (actionText name values) = .ok result) :
    ∀ value ∈ values, env.Converts value := by
  intro value hvalue
  rw [parseAction_eq_of_decimal env p4info hname hvalues hne] at h
  obtain ⟨numbers, hnumbers, -⟩ := bind_eq_ok_iff.mp h
  obtain ⟨number, hnumber⟩ := ok_of_mapM hnumbers hvalue
  rw [actionValue_eq_intOfText henv (hvalues value hvalue)] at hnumber
  exact converts_of_intOfText (hvalues value hvalue) hnumber

end NetworkingRecipe.P4rtCtl
