import NetworkingRecipe.Ovsp4rt.Client
import NetworkingRecipe.Ovsp4rt.Es2k.ConfigFdbEntry
import NetworkingRecipe.Ovsp4rt.Es2k.ConfigTunnelEntry
import NetworkingRecipe.Ovsp4rt.Es2k.ConfigPortEntries
import NetworkingRecipe.Ovsp4rt.Dpdk.ConfigEntries

/-!
# The API functions

The seven API functions of the ES2K target and the two of the DPDK target. Each starts a
session, fetches the pipeline description, and runs its own update of the tables.
-/

namespace NetworkingRecipe.Ovsp4rt

open Interaction P4Runtime

section Functions

variable {Request : Type} {Reply : Request → Type} {Handle : Type}
variable (client : ClientInterface Request Reply Handle)

/-- `DoConfigFdbEntry` for ES2K. -/
def Es2k.doConfigFdbEntry (learnInfo : MacLearningInfo) (insertEntry : Bool) (grpcAddr : String) :=
  client.doConfig (fun p4info => Es2k.configFdbEntry learnInfo p4info insertEntry) grpcAddr

/-- `DoConfigTunnelEntry` for ES2K. -/
def Es2k.doConfigTunnelEntry (tunnelInfo : TunnelInfo) (insertEntry : Bool) (grpcAddr : String) :=
  client.doConfig (fun p4info => Es2k.configTunnelEntry tunnelInfo p4info insertEntry) grpcAddr

/-- `DoConfigVlanEntry`. -/
def Es2k.doConfigVlanEntry (vlanId : UInt16) (insertEntry : Bool) (grpcAddr : String) :=
  client.doConfig (fun p4info => Es2k.configVlanEntry vlanId p4info insertEntry) grpcAddr

/-- `DoConfigSrcPortEntry`. -/
def Es2k.doConfigSrcPortEntry (portInfo : SrcPortInfo) (insertEntry : Bool) (grpcAddr : String) :=
  client.doConfig (fun p4info => Es2k.configSrcPortEntry portInfo p4info insertEntry) grpcAddr

/-- `DoConfigTunnelSrcPortEntry`. -/
def Es2k.doConfigTunnelSrcPortEntry (portInfo : SrcPortInfo) (insertEntry : Bool) (grpcAddr : String) :=
  client.doConfig (fun p4info => Es2k.writeTunnelSrcPortEntry portInfo p4info insertEntry) grpcAddr

/-- `DoConfigRxTunnelSrcEntry`. -/
def Es2k.doConfigRxTunnelSrcEntry (tunnelInfo : TunnelInfo) (insertEntry : Bool) (grpcAddr : String) :=
  client.doConfig (fun p4info => Es2k.writeRxTunnelSrcPortTableEntry tunnelInfo p4info insertEntry)
    grpcAddr

/-- `DoConfigIpMacMapEntry`. -/
def Es2k.doConfigIpMacMapEntry (ipInfo : IpMacMapInfo) (insertEntry : Bool) (grpcAddr : String) :=
  client.doConfig (fun p4info => Es2k.configIpMacMapEntry ipInfo p4info insertEntry) grpcAddr

/-- `DoConfigFdbEntry` for DPDK. -/
def Dpdk.doConfigFdbEntry (learnInfo : MacLearningInfo) (insertEntry : Bool) (grpcAddr : String) :=
  client.doConfig (fun p4info => Dpdk.configFdbEntry learnInfo p4info insertEntry) grpcAddr

/-- `DoConfigTunnelEntry` for DPDK. -/
def Dpdk.doConfigTunnelEntry (tunnelInfo : TunnelInfo) (insertEntry : Bool) (grpcAddr : String) :=
  client.doConfig (fun p4info => Dpdk.configTunnelEntry tunnelInfo p4info insertEntry) grpcAddr

end Functions

/-- An API function with its own argument. -/
inductive ApiFunction where
  | es2kFdb (learnInfo : MacLearningInfo)
  | es2kTunnel (tunnelInfo : TunnelInfo)
  | es2kVlan (vlanId : UInt16)
  | es2kSrcPort (portInfo : SrcPortInfo)
  | es2kTunnelSrcPort (portInfo : SrcPortInfo)
  | es2kRxTunnelSrc (tunnelInfo : TunnelInfo)
  | es2kIpMacMap (ipInfo : IpMacMapInfo)
  | dpdkFdb (learnInfo : MacLearningInfo)
  | dpdkTunnel (tunnelInfo : TunnelInfo)
  deriving DecidableEq, Repr

/-- A call of an API function. -/
structure ApiCall where
  function : ApiFunction
  insertEntry : Bool
  grpcAddr : String
  deriving DecidableEq, Repr

/-- The program of a call with the real client. -/
def ApiCall.program (flags : Flags) (call : ApiCall) : WireProgram Status :=
  match call.function with
  | .es2kFdb info => Es2k.doConfigFdbEntry (Client flags) info call.insertEntry call.grpcAddr
  | .es2kTunnel info => Es2k.doConfigTunnelEntry (Client flags) info call.insertEntry call.grpcAddr
  | .es2kVlan vlanId => Es2k.doConfigVlanEntry (Client flags) vlanId call.insertEntry call.grpcAddr
  | .es2kSrcPort info => Es2k.doConfigSrcPortEntry (Client flags) info call.insertEntry call.grpcAddr
  | .es2kTunnelSrcPort info =>
    Es2k.doConfigTunnelSrcPortEntry (Client flags) info call.insertEntry call.grpcAddr
  | .es2kRxTunnelSrc info =>
    Es2k.doConfigRxTunnelSrcEntry (Client flags) info call.insertEntry call.grpcAddr
  | .es2kIpMacMap info => Es2k.doConfigIpMacMapEntry (Client flags) info call.insertEntry call.grpcAddr
  | .dpdkFdb info => Dpdk.doConfigFdbEntry (Client flags) info call.insertEntry call.grpcAddr
  | .dpdkTunnel info => Dpdk.doConfigTunnelEntry (Client flags) info call.insertEntry call.grpcAddr

/-- The table update of a call. -/
def ApiCall.config (call : ApiCall) (p4info : P4Info) : TableProgram Status :=
  match call.function with
  | .es2kFdb info => Es2k.configFdbEntry info p4info call.insertEntry
  | .es2kTunnel info => Es2k.configTunnelEntry info p4info call.insertEntry
  | .es2kVlan vlanId => Es2k.configVlanEntry vlanId p4info call.insertEntry
  | .es2kSrcPort info => Es2k.configSrcPortEntry info p4info call.insertEntry
  | .es2kTunnelSrcPort info => Es2k.writeTunnelSrcPortEntry info p4info call.insertEntry
  | .es2kRxTunnelSrc info => Es2k.writeRxTunnelSrcPortTableEntry info p4info call.insertEntry
  | .es2kIpMacMap info => Es2k.configIpMacMapEntry info p4info call.insertEntry
  | .dpdkFdb info => Dpdk.configFdbEntry info p4info call.insertEntry
  | .dpdkTunnel info => Dpdk.configTunnelEntry info p4info call.insertEntry

/-- Every call is the common body around its own table update. -/
theorem ApiCall.program_eq (flags : Flags) (call : ApiCall) :
    call.program flags = (Client flags).doConfig call.config call.grpcAddr := by
  obtain ⟨function, insertEntry, grpcAddr⟩ := call
  cases function <;> rfl

end NetworkingRecipe.Ovsp4rt
