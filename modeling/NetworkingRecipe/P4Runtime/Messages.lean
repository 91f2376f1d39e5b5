import NetworkingRecipe.Interaction.Program
import Mathlib.Data.UInt

/-!
# P4Runtime messages used by the clients

The parts of the `p4.config.v1` and `p4.v1` protocol buffers that the control-plane
clients read or fill in. Byte strings are lists of bytes, identifiers keep their 32-bit
protocol type, and a repeated field is a list in transmission order.

A status is either OK or an error with a canonical code, so an OK status cannot carry an
error message. A read or write request here holds the single table entry that every
client puts into it; the session adds the device and election identifiers.
-/

namespace NetworkingRecipe.P4Runtime

open Interaction

/-- A protocol-buffer `bytes` value. -/
abbrev Bytes := List UInt8

/-- The canonical error codes; the OK code is not an error. -/
inductive StatusCode where
  | cancelled | unknown | invalidArgument | deadlineExceeded | notFound | alreadyExists
  | permissionDenied | resourceExhausted | failedPrecondition | aborted | outOfRange
  | unimplemented | internal | unavailable | dataLoss | unauthenticated
  deriving DecidableEq, Repr

/-- A non-OK status. -/
structure Error where
  code : StatusCode
  message : String
  deriving DecidableEq, Repr

/-- A value, or the status that explains its absence. -/
abbrev StatusOr (A : Type) := Except Error A

/-- The outcome of an operation without a result. -/
abbrev Status := StatusOr Unit

/-- The OK status. -/
abbrev okStatus : Status := .ok ()

/-- Name and identifier of a P4 object. -/
structure Preamble where
  id : UInt32
  name : String
  deriving DecidableEq, Repr

/-- The kinds of match key a table can declare. -/
inductive MatchType where
  | exact | lpm | ternary | range | optional
  deriving DecidableEq, Repr

/-- A match key declared by a table. -/
structure MatchField where
  id : UInt32
  name : String
  bitwidth : Nat := 0
  matchType : MatchType := .exact
  deriving DecidableEq, Repr

/-- A table declaration. -/
structure Table where
  preamble : Preamble
  matchFields : List MatchField := []
  actionRefs : List UInt32 := []
  deriving DecidableEq, Repr

/-- A parameter declared by an action. -/
structure Param where
  id : UInt32
  name : String
  bitwidth : Nat := 0
  deriving DecidableEq, Repr

/-- An action declaration. -/
structure ActionDecl where
  preamble : Preamble
  params : List Param := []
  deriving DecidableEq, Repr

/-- The description of the loaded pipeline. -/
structure P4Info where
  tables : List Table := []
  actions : List ActionDecl := []
  deriving DecidableEq, Repr

/-- The tables and the actions of a P4Info with the given identifiers. -/
def P4Info.restrict (p4info : P4Info) (tableIds actionIds : List UInt32) : P4Info where
  tables := p4info.tables.filter fun table => tableIds.contains table.preamble.id
  actions := p4info.actions.filter fun action => actionIds.contains action.preamble.id

/-- How a match field is matched, with its operands. -/
inductive FieldMatchType where
  | exact (value : Bytes)
  | ternary (value mask : Bytes)
  deriving DecidableEq, Repr

/-- One match field of a table entry. -/
structure FieldMatch where
  fieldId : UInt32
  fieldMatchType : FieldMatchType
  deriving DecidableEq, Repr

/-- One argument of an action. -/
structure ActionParam where
  paramId : UInt32
  value : Bytes
  deriving DecidableEq, Repr

/-- An action invocation; a message that was only touched has the zero identifier. -/
structure Action where
  actionId : UInt32 := 0
  params : List ActionParam := []
  deriving DecidableEq, Repr

/-- A table entry; an absent action is different from an empty one. -/
structure TableEntry where
  tableId : UInt32 := 0
  matchList : List FieldMatch := []
  action : Option Action := none
  priority : Int32 := 0
  deriving DecidableEq, Repr

namespace TableEntry

/-- Append one match field, as `add_match` does. -/
def addMatch (entry : TableEntry) (fieldId : UInt32) (fieldMatchType : FieldMatchType) : TableEntry :=
  { entry with matchList := entry.matchList ++ [⟨fieldId, fieldMatchType⟩] }

/-- Append one exact match field. -/
def addExact (entry : TableEntry) (fieldId : UInt32) (value : Bytes) : TableEntry :=
  entry.addMatch fieldId (.exact value)

/-- Append one ternary match field. -/
def addTernary (entry : TableEntry) (fieldId : UInt32) (value mask : Bytes) : TableEntry :=
  entry.addMatch fieldId (.ternary value mask)

end TableEntry

/-- The update types that the clients' table operations use. -/
inductive UpdateType where
  | insert | delete
  deriving DecidableEq, Repr

/-- The table entries returned by a read, in order. -/
abbrev ReadResponse := List TableEntry

/-- A request on the entries of the tables. -/
inductive TableRequest where
  | read (entry : TableEntry)
  | write (type : UpdateType) (entry : TableEntry)
  deriving DecidableEq, Repr

/-- The reply to a table request. -/
def TableReply : TableRequest → Type
  | .read _ => StatusOr ReadResponse
  | .write _ _ => Status

/-- A program that reads and writes table entries. -/
abbrev TableProgram := Program TableRequest TableReply

/-- Send one read request. -/
def sendReadRequest (entry : TableEntry) : TableProgram (StatusOr ReadResponse) :=
  Program.send (TableRequest.read entry)

/-- Send one write request. -/
def sendWriteRequest (type : UpdateType) (entry : TableEntry) : TableProgram Status :=
  Program.send (TableRequest.write type entry)

/-- Sending a read and continuing is the read node itself. -/
@[simp] theorem sendReadRequest_bind {A : Type} (entry : TableEntry)
    (next : StatusOr ReadResponse → TableProgram A) :
    sendReadRequest entry >>= next = .request (.read entry) next := rfl

/-- Sending a write and continuing is the write node itself. -/
@[simp] theorem sendWriteRequest_bind {A : Type} (type : UpdateType) (entry : TableEntry)
    (next : Status → TableProgram A) :
    sendWriteRequest type entry >>= next = .request (.write type entry) next := rfl

/-- The update type selected by `initWriteRequest`. -/
def updateType (insertEntry : Bool) : UpdateType :=
  if insertEntry then .insert else .delete

end NetworkingRecipe.P4Runtime
