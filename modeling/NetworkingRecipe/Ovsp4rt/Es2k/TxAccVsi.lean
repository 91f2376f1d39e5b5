import NetworkingRecipe.Ovsp4rt.EncodeUtils

/-!
# The port lookup in the tx_acc_vsi table

A VSI's host port is the port parameter of its tx_acc_vsi entry, which is configured by
the operator and only read here. The lookup takes the first parameter with the port
identifier, in entity order and then in parameter order, and decodes its bytes as a
big-endian number modulo 2^32.
-/

namespace NetworkingRecipe.Ovsp4rt.Es2k

open P4Runtime

def txAccVsiTable : String := "linux_networking_control.tx_acc_vsi"
def txAccVsiTableKeyVsi : String := "vmeta.common.vsi"
def txAccVsiTableActionL2FwdAndBypassBridge : String :=
  "linux_networking_control.l2_fwd_and_bypass_bridge"
def actionL2FwdAndBypassBridgeParamPort : String := "port"

/-- `ES2K_VPORT_ID_OFFSET`. -/
def es2kVportIdOffset : UInt32 := 16

/-- `EncodeTxAccVsiTableEntry`. -/
def encodeTxAccVsiTableEntry (entry : TableEntry) (sp : UInt32) (p4info : P4Info) : TableEntry :=
  entry
    |> setTableId p4info txAccVsiTable
    |> addExactMatch p4info txAccVsiTable txAccVsiTableKeyVsi
        (encodeByteValue [sp - es2kVportIdOffset])

/-- `ReadTxAccVsiTableEntry`. -/
def readTxAccVsiTableEntry (sp : UInt32) (p4info : P4Info) : TableProgram (StatusOr ReadResponse) :=
  sendReadRequest (encodeTxAccVsiTableEntry {} sp p4info)

/-- The bytes of a port parameter as a 32-bit number, high byte first. -/
def decodeHostPort (value : Bytes) : UInt32 :=
  value.foldl (fun hostSp byte => (hostSp <<< 8) ||| (byte.toUInt32 &&& 0xff)) 0

/-- Decoding one more byte. -/
theorem decodeHostPort_concat (init : Bytes) (byte : UInt8) :
    decodeHostPort (init ++ [byte]) =
      (decodeHostPort init <<< 8) ||| (byte.toUInt32 &&& 0xff) := by
  rw [decodeHostPort, List.foldl_append]
  rfl

/-- The first port parameter of a read response. -/
def findHostPort (paramId : Int32) (readResponse : ReadResponse) : Option UInt32 :=
  readResponse.findSome? fun tableEntry =>
    ((tableEntry.action.getD {}).params.find? fun param => param.paramId == paramId.toUInt32).map
      fun param => decodeHostPort param.value

/-- The error of a response without a port parameter. -/
def missingPortError : Error := ⟨.internal, "Missing port parameter"⟩

/-- The port of a successful read, or an error if no entry carries one. -/
def hostPort (p4info : P4Info) (readResponse : ReadResponse) : StatusOr UInt32 :=
  match findHostPort (getParamId p4info txAccVsiTableActionL2FwdAndBypassBridge
      actionL2FwdAndBypassBridgeParamPort) readResponse with
  | some hostSp => .ok hostSp
  | none => .error missingPortError

/-- `GetTxAccVsiPort`. -/
def getTxAccVsiPort (p4info : P4Info) (srcPort : UInt32) : TableProgram (StatusOr UInt32) := do
  let responseOrStatus ← readTxAccVsiTableEntry srcPort p4info
  pure (responseOrStatus >>= hostPort p4info)

end NetworkingRecipe.Ovsp4rt.Es2k
