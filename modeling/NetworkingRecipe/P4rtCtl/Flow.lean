import NetworkingRecipe.P4rtCtl.P4InfoHelper

/-!
# Flow texts of p4rt-ctl

The readers of the flow text of a command: match keys with an optional suffix, actions with
positional or named values, and the four ways in which match keys, priority, action, group,
member and configuration are cut out of one line.

The cuts are made with `split` at marker texts, and a marker that is missing is an index
error.
-/

namespace NetworkingRecipe.P4rtCtl

open Python

variable (env : Environment)

/-- The text before the first separator, and the text from there to the next one or the end. -/
def cut (text separator : Text) : Run (Text × Text) := do
  let pieces := split text separator
  let first ← itemAt pieces 0
  let second ← itemAt pieces 1
  .ok (first, second)

/-- A text without the separator cannot be cut. -/
theorem cut_of_not_contains {text separator : Text} (h : contains text separator = false) :
    cut text separator = .error .indexError := by
  have hsecond : itemAt [text] 1 = .error .indexError := itemAt_of_length_le le_rfl
  rw [cut, split_of_not_contains h]
  change (do let second ← itemAt [text] 1; Except.ok (text, second)) = _
  rw [hsecond]
  rfl

/-! ## Match keys -/

/-- `int(text)` -/
def intOfText (text : Text) : Run ℤ :=
  orRaise (int env.unicode env.maxStrDigits 10 text) .valueError

/-- The suffix of a match key, which has to be a number. -/
def numberSuffix (suffix : Text) : Run Scalar :=
  .int <$> intOfText env suffix

/-- The suffix of a match key in a flow with a priority: a number, or a mask of another form. -/
def numberOrTextSuffix (suffix : Text) : Run Scalar :=
  if isdigit env.unicode suffix then numberSuffix env suffix else .ok (.str suffix)

/-- Add `name=value` or `name=value/suffix` to the match keys. -/
def addMatchKey (readSuffix : Text → Run Scalar) (matchKeys : Dict Value) (mkField : Text) :
    Run (Dict Value) := do
  let (name, value) ← cut mkField "=".toList
  if contains value "/".toList then
    let (lpmValue, lpmSuffix) ← cut value "/".toList
    let suffix ← readSuffix lpmSuffix
    .ok (matchKeys.setItem name (.tuple [.str lpmValue, suffix]))
  else
    .ok (matchKeys.setItem name (.scalar (.str value)))

/-- The match keys of a text, separated by commas. -/
def readMatchKeys (readSuffix : Text → Run Scalar) (key : Text) : Run (Dict Value) :=
  (split key ",".toList).foldlM (addMatchKey readSuffix) []

/-- Read match keys whose suffixes are numbers. -/
def parseMatchKey (key : Text) : Run (Dict Value) :=
  readMatchKeys (numberSuffix env) key

/-- Read match keys and the priority behind them. -/
def parseMatchKeyTernary (matchkey : Text) : Run (Dict Value × Text) := do
  let (key, priority) ← cut matchkey ",priority=".toList
  let matchKeys ← readMatchKeys (numberOrTextSuffix env) key
  .ok (matchKeys, priority)

/-- Read match keys and the meter configuration behind them. -/
def parseMatchKeyConfigData (matchkey : Text) : Run (Dict Value × Text) := do
  let (key, configData) ← cut matchkey ",config_data=".toList
  let matchKeys ← readMatchKeys (numberSuffix env) key
  .ok (matchKeys, configData)

/-! ## Actions -/

/-- What `parse_action` returns as the data of an action: `['']` for an action without
parentheses, and otherwise its values. -/
inductive ActionData where
  | noParams
  | values (data : List ℤ)
  deriving DecidableEq, Repr

/-- Store the value of a named argument at the position that the parameter's identifier
gives, which is one less than the identifier. -/
def storeNamed (p : Param) (actData : List Text) (act : Text) : Run (List Text) := do
  let actInfo := split act "=".toList
  if actInfo.head? = some p.name then
    let value ← itemAt actInfo 1
    orRaise (setIndex actData ((p.id.toNat : ℤ) - 1) value) .indexError
  else
    .ok actData

/-- The values of an action's parameters from named arguments; what is not named is `0`. -/
def namedValues (params : List Param) (actValues : List Text) : Run (List Text) :=
  params.foldlM (fun actData p => actValues.foldlM (storeNamed p) actData)
    (List.replicate params.length "0".toList)

/-- The values of an action from named arguments, by every declaration with its name. -/
def readNamed (p4info : P4Info) (actionName : Text) (actValues : List Text) : Run (List Text) :=
  (p4info.actions.filter fun av => av.preamble.name == actionName).foldlM
    (fun _ av => namedValues av.params actValues) actValues

/-- One value of an action: an address in any of its forms, or a number. -/
def actionValue (a : Text) : Run ℤ := do
  if matchesIPv4 env a then
    encodeIPv4Base10 env a
  else if ← matchesIPv6 env a then
    let bytes ← encodeIPv6 env a
    .ok (fromBytes bytes)
  else if matchesMac env a then
    let bytes ← encodeMac a
    .ok (fromBytes bytes)
  else if contains a "0x".toList then
    orRaise (int env.unicode env.maxStrDigits 0 a) .valueError
  else
    intOfText env a

/-- Read an action, with its values given by position or by name. -/
def parseAction (p4info : P4Info) (action : Text) : Run (Text × ActionData) := do
  let actFields := split action "(".toList
  let actionName ← itemAt actFields 0
  if actFields.length > 1 then
    let params ← itemAt (split (← itemAt actFields 1) ")".toList) 0
    let actData := split params ",".toList
    let values ←
      if contains (← itemAt actData 0) "=".toList then readNamed p4info actionName actData
      else .ok actData
    let numbers ← values.mapM (actionValue env)
    .ok (actionName, .values numbers)
  else
    .ok (actionName, .noParams)

/-! ## Flows -/

/-- Read match keys and an action. -/
def parseFlow (p4info : P4Info) (flow : Text) : Run (Dict Value × Text × ActionData) := do
  let (mk, act) ← cut flow ",action=".toList
  let matchKeys ← parseMatchKey env mk
  let (actionName, actData) ← parseAction env p4info act
  .ok (matchKeys, actionName, actData)

/-- Read match keys, a priority and an action. -/
def parseFlowTernary (p4info : P4Info) (flow : Text) : Run (Dict Value × Text × Text × ActionData) := do
  let (mk, act) ← cut flow ",action=".toList
  let (matchKeys, priority) ← parseMatchKeyTernary env mk
  let (actionName, actData) ← parseAction env p4info act
  .ok (matchKeys, priority, actionName, actData)

/-- Read match keys, a meter configuration and an action. -/
def parseFlowMeter (p4info : P4Info) (flow : Text) : Run (Dict Value × Text × Text × ActionData) := do
  let (mk, act) ← cut flow ",action=".toList
  let (matchKeys, configData) ← parseMatchKeyConfigData env mk
  let (actionName, actData) ← parseAction env p4info act
  .ok (matchKeys, configData, actionName, actData)

/-- Read match keys and a group or a member; the other of the two is the integer 0. The branch
of the source for an action is never taken. -/
def parseFlowAs (flow : Text) : Run (Dict Value × Scalar × Scalar) := do
  if contains flow "priority".toList then
    .error (.exit "Priority key is not expected in programming action profiles".toList)
  else if contains flow "group_id".toList then
    let (mk, act) ← cut flow ",group_id=".toList
    let matchKeys ← parseMatchKey env mk
    .ok (matchKeys, .str act, .int 0)
  else if contains flow "member_id".toList then
    let (mk, act) ← cut flow ",member_id=".toList
    let matchKeys ← parseMatchKey env mk
    .ok (matchKeys, .int 0, .str act)
  else
    .error .assertionError

/-- Without its comma, a word for a group or a member cannot be cut out of the flow. -/
theorem parseFlowAs_error {flow : Text} (hgroup : contains flow ",group_id".toList = false)
    (hmember : contains flow ",member_id".toList = false) :
    ∃ error, parseFlowAs env flow = .error error := by
  have hgroupCut : cut flow ",group_id=".toList = .error .indexError :=
    cut_of_not_contains (not_contains_of_part (by decide) hgroup)
  have hmemberCut : cut flow ",member_id=".toList = .error .indexError :=
    cut_of_not_contains (not_contains_of_part (by decide) hmember)
  rw [parseFlowAs, hgroupCut, hmemberCut]
  split
  · exact ⟨_, rfl⟩
  · split
    · exact ⟨.indexError, rfl⟩
    · split
      · exact ⟨.indexError, rfl⟩
      · exact ⟨_, rfl⟩

end NetworkingRecipe.P4rtCtl
