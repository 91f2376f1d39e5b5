import NetworkingRecipe.P4Runtime.TableServer
import NetworkingRecipe.P4Runtime.Conformance

/-!
# What an entry means to the data plane

An entry names its table, its match fields, its action and its arguments by identifiers, and
spells the numbers as bytes. Read against a P4Info it is a table name with the numbers of the
key, in the order in which the table declares its fields, and an action name with the numbers
of the arguments. Entries that match otherwise than exactly have no such reading.
-/

namespace NetworkingRecipe.P4Runtime

/-- The number that a key matches a field with. -/
def TableKey.fieldNumber (key : TableKey) (field : MatchField) : Option ℕ :=
  match key.matchList.find? fun fieldMatch => fieldMatch.fieldId == field.id with
  | some ⟨_, .exact value⟩ => some (byteNumber value)
  | _ => none

/-- The number that an action passes to a parameter. -/
def Action.paramNumber (action : Action) (param : Param) : Option ℕ :=
  (action.params.find? fun argument => argument.paramId == param.id).map fun argument =>
    byteNumber argument.value

/-- The table of a key by name, with the numbers of the key. -/
def P4Info.readKey (p4info : P4Info) (key : TableKey) : Option (String × List ℕ) := do
  let table ← p4info.tables.find? fun table => table.preamble.id == key.tableId
  let numbers ← table.matchFields.mapM key.fieldNumber
  return (table.preamble.name, numbers)

/-- An action by name, with the numbers of the arguments. -/
def P4Info.readAction (p4info : P4Info) (action : Action) : Option (String × List ℕ) := do
  let decl ← p4info.actions.find? fun decl => decl.preamble.id == action.actionId
  let arguments ← decl.params.mapM action.paramNumber
  return (decl.preamble.name, arguments)

section Serves

variable (p4info : P4Info) {A : Type} (read : String × List ℕ → Option A)

/-- The stored entries give a key of a named table an action. -/
def P4Info.Serves (s : Tables) (tName : String) (numbers : List ℕ) (action : A) : Prop :=
  ∃ key invoked, s key = some (some invoked) ∧ p4info.readKey key = some (tName, numbers) ∧
    (p4info.readAction invoked).bind read = some action

/-- The action that the first listed entry of a key gives it. -/
def P4Info.lookup (entries : List (TableKey × Option Action)) (tName : String) (numbers : List ℕ) :
    Option A :=
  entries.findSome? fun entry =>
    if p4info.readKey entry.1 = some (tName, numbers) then
      (entry.2.bind p4info.readAction).bind read
    else none

end Serves

end NetworkingRecipe.P4Runtime
