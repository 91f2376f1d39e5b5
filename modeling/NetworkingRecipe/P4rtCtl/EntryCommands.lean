import NetworkingRecipe.P4rtCtl.Flow

/-!
# The commands that write table entries

The commands that add, modify and delete a table entry, from the text to what they send. Each
command first chooses a reader by words that occur in its text, and all build the entry in the
same way. To add an entry looks for the words for a group and a member behind a comma, and to
modify one looks for them anywhere.
-/

namespace NetworkingRecipe.P4rtCtl

open Python

/-- The kinds of update. -/
inductive UpdateType where
  | insert | modify
  deriving DecidableEq, Repr

/-- An update of one table entry. -/
structure Update where
  type : UpdateType
  tableEntry : TableEntry
  deriving DecidableEq, Repr

/-- The variables of a command after its flow has been read. -/
structure FlowReading where
  matchKeys : Dict Value
  action : Option Text := none
  actionData : Option ActionData := none
  priorityVal : Option Text := none
  grpId : Scalar := .int 0
  memId : Scalar := .int 0
  configData : Option Text := none
  deriving DecidableEq, Repr

variable (env : Environment) (p4info : P4Info)

/-! ## Readers -/

/-- Read a flow that names a group or a member. -/
def readAs (flow : Text) : Run FlowReading := do
  let (matchKeys, grpId, memId) ← parseFlowAs env flow
  .ok { matchKeys := matchKeys, grpId := grpId, memId := memId }

/-- Read a flow with a priority. -/
def readTernary (flow : Text) : Run FlowReading := do
  let (matchKeys, priority, action, actionData) ← parseFlowTernary env p4info flow
  .ok { matchKeys := matchKeys, action := some action, actionData := some actionData
        priorityVal := some priority }

/-- Read a flow with a meter configuration. -/
def readMeter (flow : Text) : Run FlowReading := do
  let (matchKeys, configData, action, actionData) ← parseFlowMeter env p4info flow
  .ok { matchKeys := matchKeys, action := some action, actionData := some actionData
        configData := some configData }

/-- Read a flow of match keys and an action. -/
def readAction (flow : Text) : Run FlowReading := do
  let (matchKeys, action, actionData) ← parseFlow env p4info flow
  .ok { matchKeys := matchKeys, action := some action, actionData := some actionData }

/-- Read the flow of an entry to add. -/
def readAddFlow (flow : Text) : Run FlowReading :=
  if contains flow ",group_id".toList || contains flow ",member_id".toList then readAs env flow
  else if contains flow "priority".toList then readTernary env p4info flow
  else if contains flow "config_data".toList then readMeter env p4info flow
  else readAction env p4info flow

/-- Read the flow of an entry to modify. -/
def readModFlow (flow : Text) : Run FlowReading :=
  if contains flow "group_id".toList || contains flow "member_id".toList then readAs env flow
  else if contains flow "priority".toList then readTernary env p4info flow
  else readAction env p4info flow

/-! ## Entries -/

/-- `int(value)` -/
def intOfScalar : Scalar → Run ℤ
  | .int number => .ok number
  | .str text => intOfText env text

/-- The values of an action by the names of its parameters. A missing action is not iterable,
and a parameter without a value is an index error. -/
def nameValues (action : Text) (data : List ℤ) : Run (Dict ℤ) := do
  let params ← orRaise (p4info.getActionParams action) .typeError
  params.zipIdx.foldlM (fun named param => do
    let value ← itemAt data param.2
    .ok (Dict.setItem named param.1.name value)) []

/-- The parameters that the commands give to the entry builder. -/
def actionParams (action : Option Text) (actionData : Option ActionData) : Run (Option (Dict ℤ)) :=
  match actionData, action with
  | some (.values data), some action => some <$> nameValues p4info action data
  | some (.values _), none => .error .typeError
  | _, _ => .ok none

/-- Build the entry that a command has read. -/
def entryOf (tblName : Text) (reading : FlowReading) : Run TableEntry := do
  let params ← actionParams p4info reading.action reading.actionData
  let groupId ← intOfScalar env reading.grpId
  let memberId ← intOfScalar env reading.memId
  p4info.buildTableEntry env tblName reading.matchKeys false reading.action params reading.priorityVal
    groupId memberId reading.configData

/-- Read a flow, build the entry, and send an update of the given type. -/
def writeEntry (type : UpdateType) (readFlow : P4Info → Text → Run FlowReading) (p4info : Option P4Info)
    (bridge tblName flow : Text) : Run Update := do
  let p4info ← orRaise p4info (.noP4Info bridge)
  let reading ← readFlow p4info flow
  let te ← entryOf env p4info tblName reading
  .ok ⟨type, te⟩

/-- Add a table entry: the update that is sent, or the exception before it. -/
def p4ctlAddEntry (p4info : Option P4Info) (bridge tblName flow : Text) : Run Update :=
  writeEntry env .insert (readAddFlow env) p4info bridge tblName flow

/-- Modify a table entry: the update that is sent, or the exception before it. -/
def p4ctlModEntry (p4info : Option P4Info) (bridge tblName flow : Text) : Run Update :=
  writeEntry env .modify (readModFlow env) p4info bridge tblName flow

/-! ## Deletion -/

/-- Read the match keys of an entry to delete, with its priority if the text mentions one. -/
def readDelKey (matchKey : Text) : Run (Dict Value × Option Text) :=
  if contains matchKey "priority".toList then do
    let (key, priority) ← parseMatchKeyTernary env matchKey
    .ok (key, some priority)
  else do
    let key ← parseMatchKey env matchKey
    .ok (key, none)

/-- Delete a table entry: the entry of the update that is sent, or the exception before it. -/
def p4ctlDelEntry (p4info : Option P4Info) (bridge tblName matchKey : Text) : Run TableEntry := do
  let (key, priority) ← readDelKey env matchKey
  let p4info ← orRaise p4info (.noP4Info bridge)
  p4info.buildTableEntry env tblName key false none none priority 0 0 none

end NetworkingRecipe.P4rtCtl
