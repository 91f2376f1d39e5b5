import NetworkingRecipe.P4rtCtl.Encoding

/-!
# The P4Info helper of p4rt-ctl

The lookups in a pipeline description by which p4rt-ctl names tables, match fields, actions
and parameters, and the table entry that it builds from values found in a flow.

Tables and actions are found by name or alias for their identifiers, but by name alone for
their match fields and parameters.
-/

namespace NetworkingRecipe.P4rtCtl

open Python

/-! ## Messages -/

/-- Identifier, name and alias of a P4 object. -/
structure Preamble where
  id : UInt32
  name : Text
  aliasName : Text := []
  deriving DecidableEq, Repr

/-- The kinds of match key that p4rt-ctl supports, and any other value of the field. -/
inductive MatchType where
  | exact | lpm | ternary | range
  | other (value : ℤ)
  deriving DecidableEq, Repr

/-- A match key declared by a table. -/
structure MatchField where
  id : UInt32
  name : Text
  bitwidth : ℤ
  matchType : MatchType
  deriving DecidableEq, Repr

/-- A table declaration. -/
structure Table where
  preamble : Preamble
  matchFields : List MatchField
  deriving DecidableEq, Repr

/-- A parameter declared by an action. -/
structure Param where
  id : UInt32
  name : Text
  bitwidth : ℤ
  deriving DecidableEq, Repr

/-- An action declaration. -/
structure ActionDecl where
  preamble : Preamble
  params : List Param
  deriving DecidableEq, Repr

/-- The description of the loaded pipeline. -/
structure P4Info where
  tables : List Table
  actions : List ActionDecl
  deriving DecidableEq, Repr

/-- How a match field is matched, with its operands. -/
inductive FieldMatchType where
  | exact (value : Bytes)
  | lpm (value : Bytes) (prefixLen : Int32)
  | ternary (value mask : Bytes)
  | range (low high : Bytes)
  deriving DecidableEq, Repr

/-- One match field of a table entry. -/
structure FieldMatch where
  fieldId : UInt32
  fieldMatchType : FieldMatchType
  deriving DecidableEq, Repr

/-- One argument of an action. -/
structure ActionParam where
  paramId : UInt32
  value : Bytes
  deriving DecidableEq, Repr

/-- What an entry does with a packet that matches. -/
inductive TableAction where
  | action (actionId : UInt32) (params : List ActionParam)
  | actionProfileMemberId (memberId : UInt32)
  | actionProfileGroupId (groupId : UInt32)
  deriving DecidableEq, Repr

/-- A table entry. -/
structure TableEntry where
  tableId : UInt32
  matchList : List FieldMatch
  action : Option TableAction
  priority : Int32
  isDefaultAction : Bool
  policerMeterConfig : Dict ℤ
  deriving DecidableEq, Repr

/-- Assign an integer to a signed 32-bit field. -/
def setInt32 (number : ℤ) : Run Int32 :=
  if -2 ^ 31 ≤ number ∧ number < 2 ^ 31 then .ok (Int32.ofInt number) else .error .valueError

/-- Assign an integer to an unsigned 32-bit field. -/
def setUInt32 (number : ℤ) : Run UInt32 :=
  if 0 ≤ number ∧ number < 2 ^ 32 then .ok (UInt32.ofNat number.toNat) else .error .valueError

/-! ## Lookups -/

/-- `get(entity_type, name=name)`: the first entity with the name or alias. An empty name is
no name, and no identifier equals the missing one. -/
def get {α : Type*} (preamble : α → Preamble) (entityType : Text) (entities : List α) (name : Text) :
    Run α :=
  if name = [] then .error (.couldNotFind entityType name)
  else orRaise (entities.find? fun o => (preamble o).name == name || (preamble o).aliasName == name)
    (.couldNotFind entityType name)

namespace P4Info

variable (env : Environment) (p4info : P4Info)

/-- `get_tables_id(name)` -/
def getTablesId (name : Text) : Run UInt32 := do
  let table ← get Table.preamble "tables".toList p4info.tables name
  .ok table.preamble.id

/-- `get_actions_id(name)` -/
def getActionsId (name : Text) : Run UInt32 := do
  let action ← get ActionDecl.preamble "actions".toList p4info.actions name
  .ok action.preamble.id

/-- The first match field with the name, in any table with the table's name. -/
def getMatchField (tableName name : Text) : Run MatchField :=
  let matchFields := (p4info.tables.filter fun t => t.preamble.name == tableName).flatMap Table.matchFields
  orRaise (matchFields.find? fun mf => mf.name == name) (.noAttribute tableName name)

/-- The match field message for a value, by the match type of the field. -/
def getMatchFieldPb (tableName matchFieldName : Text) (value : Value) : Run FieldMatch := do
  let p4infoMatch ← p4info.getMatchField tableName matchFieldName
  let bitwidth := p4infoMatch.bitwidth
  match p4infoMatch.matchType with
  | .exact =>
    let encoded ← encode env value bitwidth
    .ok ⟨p4infoMatch.id, .exact (← setBytes encoded)⟩
  | .lpm =>
    let encoded ← encode env (.scalar (← value.item 0)) bitwidth
    let bytes ← setBytes encoded
    match ← value.item 1 with
    | .int prefixLen => .ok ⟨p4infoMatch.id, .lpm bytes (← setInt32 prefixLen)⟩
    | .str _ => .error .typeError
  | .ternary =>
    let encoded ← encode env (.scalar (← value.item 0)) bitwidth
    let bytes ← setBytes encoded
    let mask ← encode env (.scalar (← value.item 1)) bitwidth
    .ok ⟨p4infoMatch.id, .ternary bytes (← setBytes mask)⟩
  | .range =>
    let low ← encode env (.scalar (← value.item 0)) bitwidth
    let lowBytes ← setBytes low
    let high ← encode env (.scalar (← value.item 1)) bitwidth
    .ok ⟨p4infoMatch.id, .range lowBytes (← setBytes high)⟩
  | .other matchType => .error (.unsupportedMatchType matchType)

/-- The parameters of the first action with the name. -/
def getActionParams (actionName : Text) : Option (List Param) :=
  (p4info.actions.find? fun a => a.preamble.name == actionName).map ActionDecl.params

/-- The first parameter with the name, in any action with the action's name. -/
def getActionParam (actionName name : Text) : Run Param :=
  let params := (p4info.actions.filter fun a => a.preamble.name == actionName).flatMap ActionDecl.params
  orRaise (params.find? fun p => p.name == name) (.noParam actionName name)

/-- The action parameter message for a value. -/
def getActionParamPb (actionName paramName : Text) (value : ℤ) : Run ActionParam := do
  let p4infoParam ← p4info.getActionParam actionName paramName
  let encoded ← encode env (.scalar (.int value)) p4infoParam.bitwidth
  .ok ⟨p4infoParam.id, ← setBytes encoded⟩

/-! ## Table entries -/

/-- Add one match field of a flow; the flag says whether a ternary one has been added. -/
def addMatchField (tableName : Text) (priority : Option Text) (added : List FieldMatch × Bool)
    (field : Text × Value) : Run (List FieldMatch × Bool) := do
  let p4infoMatch ← p4info.getMatchField tableName field.1
  if p4infoMatch.matchType = .ternary ∧ priority = none then
    .error (.exit "For ternary match_type, priority field is needed".toList)
  else
    let fieldMatch ← p4info.getMatchFieldPb env tableName field.1 field.2
    .ok (added.1 ++ [fieldMatch], added.2 || p4infoMatch.matchType == .ternary)

/-- The action that a flow names, with its parameters. -/
def buildAction (actionName : Text) (actionParams : Dict ℤ) : Run TableAction := do
  let actionId ← p4info.getActionsId actionName
  let params ← actionParams.mapM fun param => p4info.getActionParamPb env actionName param.1 param.2
  .ok (.action actionId params)

/-- The fields of the policer configuration that a flow can set. -/
def attributeMapping : List Text :=
  ["policer_meter_prof_id".toList, "policer_spec_cir_unit".toList, "policer_spec_cbs_unit".toList,
    "policer_spec_eir_unit".toList, "policer_spec_ebs_unit".toList, "policer_spec_cir".toList,
    "policer_spec_cbs".toList, "policer_spec_eir".toList, "policer_spec_ebs".toList]

/-- Set one field of the policer configuration from `key=value`; unknown keys are passed over. -/
def setMeterAttribute (config : Dict ℤ) (data : Text) : Run (Dict ℤ) :=
  match split (strip env.unicode data) "=".toList with
  | [key, value] =>
    if attributeMapping.contains key then do
      let number ← orRaise (int env.unicode env.maxStrDigits 10 value) .valueError
      if env.policerHolds number then .ok (config.setItem key number) else .error .valueError
    else .ok config
  | _ => .error .valueError

/-- The table entry for what has been read from a flow. The parameters are `none` both for
`None` and for `['']`, and the priority is used by a table with a ternary field only. -/
def buildTableEntry (tableName : Text) (matchFields : Dict Value) (defaultAction : Bool)
    (actionName : Option Text) (actionParams : Option (Dict ℤ)) (priority : Option Text)
    (groupId memberId : ℤ) (configData : Option Text) : Run TableEntry := do
  let tableId ← p4info.getTablesId tableName
  let (matchList, oneMatchTypeIsTernary) ←
    matchFields.foldlM (p4info.addMatchField env tableName priority) ([], false)
  let priorityValue ←
    match priority, oneMatchTypeIsTernary with
    | some text, true => setInt32 (← orRaise (int env.unicode env.maxStrDigits 10 text) .valueError)
    | _, _ => .ok 0
  let action ←
    match actionName with
    | some (c :: name) => some <$> p4info.buildAction env (c :: name) (actionParams.getD [])
    | _ => .ok none
  let memberAction ←
    if memberId ≠ 0 then (some ∘ .actionProfileMemberId) <$> setUInt32 memberId else .ok action
  let groupAction ←
    if groupId ≠ 0 then (some ∘ .actionProfileGroupId) <$> setUInt32 groupId else .ok memberAction
  let policerMeterConfig ←
    match configData with
    | some (c :: data) => (split (c :: data) ",".toList).foldlM (setMeterAttribute env) []
    | _ => .ok []
  .ok { tableId := tableId
        matchList := matchList
        action := groupAction
        priority := priorityValue
        isDefaultAction := defaultAction
        policerMeterConfig := policerMeterConfig }

end P4Info

end NetworkingRecipe.P4rtCtl
