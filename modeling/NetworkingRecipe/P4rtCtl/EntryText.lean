import NetworkingRecipe.P4rtCtl.P4InfoHelper
import NetworkingRecipe.Python.Formatting

/-!
# The text of an entry

How p4rt-ctl prints a table entry: the name of its table, its priority, its match fields and its
action, each under the name that the pipeline description has for its identifier.

Values are printed in hexadecimal. The second half of a pair is printed as it is: the length of
a prefix is a number, but a mask and the end of a range are byte strings.
-/

namespace NetworkingRecipe.P4rtCtl

open Python

/-- `0x` and the digits of the bytes. -/
def decodeToHex (encodedBytes : Bytes) : Text :=
  "0x".toList ++ hexlify encodedBytes

/-- `get(entity_type, id=id)`: the first entity with the identifier. -/
def getById {α : Type*} (preamble : α → Preamble) (entityType : Text) (entities : List α) (id : UInt32) :
    Run α :=
  orRaise (entities.find? fun o => (preamble o).id == id) (.couldNotFind entityType (intText id.toNat))

namespace P4Info

variable (p4info : P4Info)

/-- `get_tables_name(id)` -/
def getTablesName (id : UInt32) : Run Text := do
  let table ← getById Table.preamble "tables".toList p4info.tables id
  .ok table.preamble.name

/-- `get_actions_name(id)` -/
def getActionsName (id : UInt32) : Run Text := do
  let action ← getById ActionDecl.preamble "actions".toList p4info.actions id
  .ok action.preamble.name

/-- The name of the first match field with the identifier, in any table with the table's name. -/
def getMatchFieldName (tableName : Text) (matchFieldId : UInt32) : Run Text := do
  let matchFields := (p4info.tables.filter fun t => t.preamble.name == tableName).flatMap Table.matchFields
  let matchField ← orRaise (matchFields.find? fun mf => mf.id == matchFieldId)
    (.noAttribute tableName (intText matchFieldId.toNat))
  .ok matchField.name

end P4Info

/-- The value of a match field, and the text of the second half of a pair. -/
def getMatchFieldValue : FieldMatchType → Bytes × Option Text
  | .exact value => (value, none)
  | .lpm value prefixLen => (value, some (intText prefixLen.toInt))
  | .ternary value mask => (value, some (reprBytes mask))
  | .range low high => (low, some (reprBytes high))

/-- A value as it is printed. -/
def formatValue (value : FieldMatchType) : Text :=
  match getMatchFieldValue value with
  | (first, some second) => decodeToHex first ++ '/' :: second
  | (value, none) => decodeToHex value

variable (p4info : P4Info)

/-- One match field as it is printed. -/
def formatMatchField (tblName : Text) (mf : FieldMatch) : Run Text := do
  let matchFieldName ← p4info.getMatchFieldName tblName mf.fieldId
  .ok (matchFieldName ++ '=' :: formatValue mf.fieldMatchType)

/-- The match fields of an entry, separated by commas. -/
def formatMatch (tblName : Text) (matchList : List FieldMatch) : Run Text := do
  let fields ← matchList.mapM (formatMatchField p4info tblName)
  .ok (join ',' fields)

/-- The parameters of an action, each under the name of the one that is declared at its position. -/
def formatParams (actionParams : List Param) (params : List ActionParam) : Run Text :=
  params.zipIdx.foldlM (fun paramsStr param => do
    let declared ← itemAt actionParams param.2
    .ok (paramsStr ++ declared.name ++ '=' :: decodeToHex param.1.value)) []

/-- The action of an entry as it is printed; what is zero is not printed. -/
def formatAction : Option TableAction → Run Text
  | none => .ok []
  | some (.action actionId params) =>
    if actionId = 0 then .ok []
    else do
      let actionName ← p4info.getActionsName actionId
      let paramsStr ← match p4info.getActionParams actionName with
        | some actionParams => formatParams actionParams params
        | none => if params = [] then .ok [] else .error .typeError
      .ok (" actions=".toList ++ actionName ++ '(' :: (paramsStr ++ [')']))
  | some (.actionProfileMemberId memberId) =>
    .ok (if memberId = 0 then [] else " actions= member_id(".toList ++ intText memberId.toNat ++ [')'])
  | some (.actionProfileGroupId groupId) =>
    .ok (if groupId = 0 then [] else " actions= group_id(".toList ++ intText groupId.toNat ++ [')'])

/-- The priority of an entry as it is printed. -/
def formatPriority (priority : Int32) : Text :=
  if priority = 0 then [] else " priority=".toList ++ intText priority.toInt

/-- `_format_entry` -/
def formatEntry (tableEntry : TableEntry) : Run Text := do
  let tblName ← p4info.getTablesName tableEntry.tableId
  let matchText ← formatMatch p4info tblName tableEntry.matchList
  let printedAction ← formatAction p4info tableEntry.action
  .ok ("  table=".toList ++ tblName ++ formatPriority tableEntry.priority ++
    (if tableEntry.matchList = [] then [] else ' ' :: matchText) ++ printedAction)

end NetworkingRecipe.P4rtCtl
