import NetworkingRecipe.Ovsp4rt.EncodeUtils

/-!
# Building a table entry statement by statement

The older cores fill in an entry through its mutators, one statement after the other, and
choose between targets with preprocessor conditionals. Their encoders are modelled here as
state programs over the entry, with one operation for each mutator and the target as an
argument, so that they can be compared with the target-specific encoders of the v3 core.

Touching the action of an entry creates it; its identifier and parameters are only set on
an action that was touched before.
-/

namespace NetworkingRecipe.Ovsp4rt.V2

open P4Runtime

/-- The targets that a core is compiled for. -/
inductive Target where
  | dpdk | es2k
  deriving DecidableEq, Repr

/-- A sequence of statements on the entry under construction. -/
abbrev EntryM := StateM TableEntry

namespace EntryM

/-- `set_table_id`. -/
def setTableId (id : Int32) : EntryM Unit :=
  modify fun entry => { entry with tableId := id.toUInt32 }

/-- `set_priority`. -/
def setPriority (priority : Int32) : EntryM Unit :=
  modify fun entry => { entry with priority := priority }

/-- `add_match` with an exact value. -/
def addExact (fieldId : Int32) (value : Bytes) : EntryM Unit :=
  modify fun entry => entry.addExact fieldId.toUInt32 value

/-- `add_match` with a ternary value and mask. -/
def addTernary (fieldId : Int32) (value mask : Bytes) : EntryM Unit :=
  modify fun entry => entry.addTernary fieldId.toUInt32 value mask

/-- `mutable_action`: the action exists from here on. -/
def mutableAction : EntryM Unit :=
  modify fun entry => { entry with action := some (entry.action.getD {}) }

/-- `set_action_id` on a touched action. -/
def setActionId (id : Int32) : EntryM Unit :=
  modify fun entry =>
    { entry with action := entry.action.map fun action => { action with actionId := id.toUInt32 } }

/-- `add_params` on a touched action. -/
def addParam (id : Int32) (value : Bytes) : EntryM Unit :=
  modify fun entry =>
    { entry with action := entry.action.map fun action =>
        { action with params := action.params ++ [⟨id.toUInt32, value⟩] } }

/-- The entry that the statements make of an initialized one. -/
def build (statements : EntryM Unit) : TableEntry :=
  (statements.run {}).2

end EntryM

end NetworkingRecipe.Ovsp4rt.V2
