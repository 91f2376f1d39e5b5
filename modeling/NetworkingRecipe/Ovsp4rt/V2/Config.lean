import NetworkingRecipe.Ovsp4rt.V2.PortEncoders
import NetworkingRecipe.Ovsp4rt.Api

/-!
# The v2 core

The functions of `ovsp4rt_v2.cc`, which serves both targets from one file. Each write or
read initializes a request, prepares its entry, and sends it. The port lookup walks the
entities and parameters of a response and returns from inside the loops; the address-map
update jumps over the source entry when a read finds it.

The statuses of the forwarding-database and address-map writes are discarded, as the
source does. Diagnostics are left out, and `ValidIpAddr` is the text that both cores share.
-/

namespace NetworkingRecipe.Ovsp4rt.V2

open P4Runtime EntryM

/-- Initialize a write request, run the statements on its entry, and send it. -/
def writeEntry (insertEntry : Bool) (statements : EntryM Unit) : TableProgram Status :=
  sendWriteRequest (updateType insertEntry) (build statements)

/-- Initialize a read request, run the statements on its entry, and send it. -/
def readEntry (statements : EntryM Unit) : TableProgram (StatusOr ReadResponse) :=
  sendReadRequest (build statements)

/-! ### Forwarding database -/

/-- `WriteFdbSmacTableEntry`. -/
def writeFdbSmacTableEntry (learnInfo : MacLearningInfo) (p4info : P4Info) (insertEntry : Bool) :
    TableProgram Status :=
  writeEntry insertEntry (encodeFdbSmacTableEntry learnInfo p4info insertEntry)

/-- `PrepareL2TunnelTableEntry`. -/
def prepareL2TunnelTableEntry (learnInfo : MacLearningInfo) (p4info : P4Info) (insertEntry : Bool) :
    EntryM Unit :=
  if learnInfo.tnlInfo.localIp.family = afInet6 ∧ learnInfo.tnlInfo.remoteIp.family = afInet6 then
    encodeL2ToTunnelV6 learnInfo p4info insertEntry
  else encodeL2ToTunnelV4 learnInfo p4info insertEntry

/-- `WriteL2TunnelTableEntry`. -/
def writeL2TunnelTableEntry (learnInfo : MacLearningInfo) (p4info : P4Info) (insertEntry : Bool) :
    TableProgram Status :=
  writeEntry insertEntry (prepareL2TunnelTableEntry learnInfo p4info insertEntry)

/-- `WriteFdbTxVlanTableEntry`. -/
def writeFdbTxVlanTableEntry (target : Target) (learnInfo : MacLearningInfo) (p4info : P4Info)
    (insertEntry : Bool) : TableProgram Status :=
  writeEntry insertEntry (encodeFdbTxVlanTableEntry target learnInfo p4info insertEntry)

/-- `WriteFdbRxVlanTableEntry`. -/
def writeFdbRxVlanTableEntry (target : Target) (learnInfo : MacLearningInfo) (p4info : P4Info)
    (insertEntry : Bool) : TableProgram Status :=
  writeEntry insertEntry (encodeFdbRxVlanTableEntry target learnInfo p4info insertEntry)

/-- `PrepareFdbTunnelTableEntry`. -/
def prepareFdbTunnelTableEntry (learnInfo : MacLearningInfo) (p4info : P4Info) (insertEntry : Bool) :
    EntryM Unit := do
  if learnInfo.tnlInfo.tunnelType = ovsTunnelVxlan then
    encodeFdbTableEntryforV4VxlanTunnel .es2k learnInfo p4info insertEntry
  else if learnInfo.tnlInfo.tunnelType = ovsTunnelGeneve then
    encodeFdbTableEntryforV4GeneveTunnel .es2k learnInfo p4info insertEntry
  else if !insertEntry then encodeL2FwdTxTablePrologue .es2k learnInfo p4info

/-- `WriteFdbTunnelTableEntry`. -/
def writeFdbTunnelTableEntry (target : Target) (learnInfo : MacLearningInfo) (p4info : P4Info)
    (insertEntry : Bool) : TableProgram Status :=
  writeEntry insertEntry <|
    match target with
    | .dpdk => encodeFdbTableEntryforV4VxlanTunnel .dpdk learnInfo p4info insertEntry
    | .es2k => prepareFdbTunnelTableEntry learnInfo p4info insertEntry

/-- `ReadL2ToTunnelV4TableEntry`. -/
def readL2ToTunnelV4TableEntry (learnInfo : MacLearningInfo) (p4info : P4Info) :
    TableProgram (StatusOr ReadResponse) :=
  readEntry (encodeL2ToTunnelV4 learnInfo p4info false)

/-- `ReadL2ToTunnelV6TableEntry`. -/
def readL2ToTunnelV6TableEntry (learnInfo : MacLearningInfo) (p4info : P4Info) :
    TableProgram (StatusOr ReadResponse) :=
  readEntry (encodeL2ToTunnelV6 learnInfo p4info false)

/-- `PrepareFdbTableV4TunnelEntry`. -/
def prepareFdbTableV4TunnelEntry (learnInfo : MacLearningInfo) (p4info : P4Info)
    (_insertEntry testing : Bool) : EntryM Unit := do
  if learnInfo.tnlInfo.tunnelType = ovsTunnelVxlan then
    encodeFdbTableEntryforV4VxlanTunnel .es2k learnInfo p4info testing
  else if learnInfo.tnlInfo.tunnelType = ovsTunnelGeneve then
    encodeFdbTableEntryforV4GeneveTunnel .es2k learnInfo p4info testing

/-- `ReadFdbTunnelTableEntry`. -/
def readFdbTunnelTableEntry (learnInfo : MacLearningInfo) (p4info : P4Info) (_adding : Bool) :
    TableProgram (StatusOr ReadResponse) :=
  readEntry (prepareFdbTableV4TunnelEntry learnInfo p4info false false)

/-- `ReadFdbVlanTableEntry`. -/
def readFdbVlanTableEntry (learnInfo : MacLearningInfo) (p4info : P4Info) (_adding : Bool) :
    TableProgram (StatusOr ReadResponse) :=
  readEntry (encodeFdbTxVlanTableEntry .es2k learnInfo p4info false)

/-! ### The port lookup -/

/-- `ReadTxAccVsiTableEntry`. -/
def readTxAccVsiTableEntry (sp : UInt32) (p4info : P4Info) : TableProgram (StatusOr ReadResponse) :=
  readEntry (encodeTxAccVsiTableEntry sp p4info)

/-- The loop over the bytes of a port parameter, started at the value of the bytes before. -/
def decodeBytes (hostSp : UInt32) : Bytes → UInt32
  | [] => hostSp
  | byte :: rest => decodeBytes ((hostSp <<< 8) ||| (byte.toUInt32 &&& 0xff)) rest

/-- The loop over the parameters of one entity. -/
def findInParams (paramId : Int32) : List ActionParam → Option UInt32
  | [] => none
  | param :: rest =>
    if param.paramId = paramId.toUInt32 then some (decodeBytes 0 param.value)
    else findInParams paramId rest

/-- The loop over the entities of a response. -/
def findInEntities (paramId : Int32) : ReadResponse → Option UInt32
  | [] => none
  | tableEntry :: rest =>
    match findInParams paramId (tableEntry.action.getD {}).params with
    | some hostSp => some hostSp
    | none => findInEntities paramId rest

/-- `GetTxAccVsiPort`. -/
def getTxAccVsiPort (p4info : P4Info) (srcPort : UInt32) : TableProgram (StatusOr UInt32) := do
  match ← readTxAccVsiTableEntry srcPort p4info with
  | .error status => pure (.error status)
  | .ok readResponse =>
    let paramId := getParamId p4info Es2k.txAccVsiTableActionL2FwdAndBypassBridge
      Es2k.actionL2FwdAndBypassBridgeParamPort
    match findInEntities paramId readResponse with
    | some hostSp => pure (.ok hostSp)
    | none => pure (.error ⟨.internal, "Missing port parameter"⟩)

/-! ### Forwarding-database updates -/

/-- `UpdateFdbTunnelInfo`. -/
def updateFdbTunnelInfo (learnInfo : MacLearningInfo) (p4info : P4Info) :
    TableProgram MacLearningInfo := do
  let statusOrReadResponse ← readL2ToTunnelV4TableEntry learnInfo p4info
  let learnInfo :=
    if statusOrReadResponse.isOk then { learnInfo with isTunnel := true } else learnInfo
  if !learnInfo.isTunnel then
    let statusOrReadResponse ← readL2ToTunnelV6TableEntry learnInfo p4info
    if statusOrReadResponse.isOk then
      pure { learnInfo with
        isTunnel := true
        tnlInfo := { learnInfo.tnlInfo with
          localIp := { learnInfo.tnlInfo.localIp with family := afInet6 }
          remoteIp := { learnInfo.tnlInfo.remoteIp with family := afInet6 } } }
    else pure learnInfo
  else pure learnInfo

/-- `UpdateFdbSrcPortInfo`. -/
def updateFdbSrcPortInfo (learnInfo : MacLearningInfo) (p4info : P4Info) :
    TableProgram (StatusOr MacLearningInfo) := do
  match ← getTxAccVsiPort p4info learnInfo.srcPort with
  | .error status => pure (.error status)
  | .ok hostSp => pure (.ok { learnInfo with srcPort := hostSp })

/-- The part of `ConfigFdbTunnelEntry` after the existence check. -/
def writeFdbTunnelEntries (learnInfo : MacLearningInfo) (insertEntry : Bool) (p4info : P4Info) :
    TableProgram Status := do
  let _ ← writeFdbTunnelTableEntry .es2k learnInfo p4info insertEntry
  let _ ← writeL2TunnelTableEntry learnInfo p4info insertEntry
  let _ ← writeFdbSmacTableEntry learnInfo p4info insertEntry
  pure okStatus

/-- `ConfigFdbTunnelEntry`. -/
def configFdbTunnelEntry (learnInfo : MacLearningInfo) (insertEntry : Bool) (p4info : P4Info) :
    TableProgram Status := do
  if insertEntry then
    let statusOrReadResponse ← readFdbTunnelTableEntry learnInfo p4info true
    if statusOrReadResponse.isOk then pure okStatus
    else writeFdbTunnelEntries learnInfo insertEntry p4info
  else writeFdbTunnelEntries learnInfo insertEntry p4info

/-- The last two writes of `ConfigFdbVlanEntry`. -/
def writeFdbVlanEntries (learnInfo : MacLearningInfo) (insertEntry : Bool) (p4info : P4Info) :
    TableProgram Status := do
  let _ ← writeFdbTxVlanTableEntry .es2k learnInfo p4info insertEntry
  let _ ← writeFdbSmacTableEntry learnInfo p4info insertEntry
  pure okStatus

/-- `ConfigFdbVlanEntry`. -/
def configFdbVlanEntry (learnInfo : MacLearningInfo) (insertEntry : Bool) (p4info : P4Info) :
    TableProgram Status := do
  if insertEntry then
    let statusOrReadResponse ← readFdbVlanTableEntry learnInfo p4info true
    if statusOrReadResponse.isOk then pure okStatus
    else
      let _ ← writeFdbRxVlanTableEntry .es2k learnInfo p4info insertEntry
      match ← updateFdbSrcPortInfo learnInfo p4info with
      | .error status => pure (.error status)
      | .ok learnInfo => writeFdbVlanEntries learnInfo insertEntry p4info
  else writeFdbVlanEntries learnInfo insertEntry p4info

/-- `ConfigFdbEntry`, which has one definition for each target. -/
def configFdbEntry (target : Target) (learnInfo : MacLearningInfo) (p4info : P4Info)
    (insertEntry : Bool) : TableProgram Status :=
  match target with
  | .es2k => do
    let learnInfo ← if !insertEntry then updateFdbTunnelInfo learnInfo p4info else pure learnInfo
    if learnInfo.isTunnel then configFdbTunnelEntry learnInfo insertEntry p4info
    else configFdbVlanEntry learnInfo insertEntry p4info
  | .dpdk => do
    if learnInfo.isTunnel then writeFdbTunnelTableEntry .dpdk learnInfo p4info insertEntry
    else if learnInfo.isVlan then
      match ← writeFdbTxVlanTableEntry .dpdk learnInfo p4info insertEntry with
      | .error status => pure (.error status)
      | .ok () => writeFdbRxVlanTableEntry .dpdk learnInfo p4info insertEntry
    else pure okStatus

/-! ### Tunnels -/

/-- Statements for a tunnel entry. -/
abbrev TunnelStatements := TunnelInfo → P4Info → Bool → EntryM Unit

/-- The choice by tunnel type that the preparation functions share. -/
def prepareByTunnelType (vxlan geneve : TunnelStatements) : TunnelStatements :=
  fun tunnelInfo p4info insertEntry => do
    if tunnelInfo.tunnelType = ovsTunnelVxlan then vxlan tunnelInfo p4info insertEntry
    else if tunnelInfo.tunnelType = ovsTunnelGeneve then geneve tunnelInfo p4info insertEntry

/-- The choice by address family that the preparation functions share. -/
def prepareByFamily (v4 v6 : TunnelStatements) : TunnelStatements :=
  fun tunnelInfo p4info insertEntry => do
    if tunnelInfo.localIp.family = afInet ∧ tunnelInfo.remoteIp.family = afInet then
      v4 tunnelInfo p4info insertEntry
    else if tunnelInfo.localIp.family = afInet6 ∧ tunnelInfo.remoteIp.family = afInet6 then
      v6 tunnelInfo p4info insertEntry

/-- The choice by the VLAN mode of the port. -/
def prepareByVlanMode (mode : P4VlanMode) (inMode otherwise : TunnelStatements) : TunnelStatements :=
  fun tunnelInfo p4info insertEntry =>
    if tunnelInfo.vlanInfo.portVlanMode = mode then inMode tunnelInfo p4info insertEntry
    else otherwise tunnelInfo p4info insertEntry

/-- `PrepareV4EncapTableEntry`. -/
def prepareV4EncapTableEntry : Target → TunnelStatements
  | .dpdk => encodeVxlanEncapTableEntry .dpdk
  | .es2k => prepareByTunnelType (encodeVxlanEncapTableEntry .es2k) encodeGeneveEncapTableEntry

/-- `PrepareV6EncapTableEntry`. -/
def prepareV6EncapTableEntry : TunnelStatements :=
  prepareByTunnelType encodeV6VxlanEncapTableEntry encodeV6GeneveEncapTableEntry

/-- `PrepareV4EncapAndVlanPopTableEntry`. -/
def prepareV4EncapAndVlanPopTableEntry : TunnelStatements :=
  prepareByTunnelType encodeVxlanEncapAndVlanPopTableEntry encodeGeneveEncapAndVlanPopTableEntry

/-- `PrepareV6EncapAndVlanPopTableEntry`. -/
def prepareV6EncapAndVlanPopTableEntry : TunnelStatements :=
  prepareByTunnelType encodeV6VxlanEncapAndVlanPopTableEntry encodeV6GeneveEncapAndVlanPopTableEntry

/-- `PrepareEncapTableEntry`. -/
def prepareEncapTableEntry : TunnelStatements :=
  prepareByFamily
    (prepareByVlanMode .nativeUntagged prepareV4EncapAndVlanPopTableEntry
      (prepareV4EncapTableEntry .es2k))
    (prepareByVlanMode .nativeUntagged prepareV6EncapAndVlanPopTableEntry prepareV6EncapTableEntry)

/-- `WriteEncapTableEntry`. -/
def writeEncapTableEntry (target : Target) (tunnelInfo : TunnelInfo) (p4info : P4Info)
    (insertEntry : Bool) : TableProgram Status :=
  writeEntry insertEntry <|
    match target with
    | .dpdk => prepareV4EncapTableEntry .dpdk tunnelInfo p4info insertEntry
    | .es2k => prepareEncapTableEntry tunnelInfo p4info insertEntry

/-- `PrepareDecapModTableEntry`. -/
def prepareDecapModTableEntry : TunnelStatements :=
  prepareByTunnelType encodeVxlanDecapModTableEntry encodeGeneveDecapModTableEntry

/-- `PrepareDecapModAndVlanPushTableEntry`. -/
def prepareDecapModAndVlanPushTableEntry : TunnelStatements :=
  prepareByTunnelType encodeVxlanDecapModAndVlanPushTableEntry encodeGeneveDecapModAndVlanPushTableEntry

/-- `PrepareDecapTableEntry`. -/
def prepareDecapTableEntry : TunnelStatements :=
  prepareByVlanMode .nativeTagged prepareDecapModTableEntry prepareDecapModAndVlanPushTableEntry

/-- `WriteDecapTableEntry`. -/
def writeDecapTableEntry (tunnelInfo : TunnelInfo) (p4info : P4Info) (insertEntry : Bool) :
    TableProgram Status :=
  writeEntry insertEntry (prepareDecapTableEntry tunnelInfo p4info insertEntry)

/-- `PrepareTunnelTermTableEntry`. -/
def prepareTunnelTermTableEntry : TunnelStatements :=
  prepareByFamily (encodeTunnelTermTableEntry .es2k) encodeV6TunnelTermTableEntry

/-- `WriteTunnelTermTableEntry`. -/
def writeTunnelTermTableEntry (target : Target) (tunnelInfo : TunnelInfo) (p4info : P4Info)
    (insertEntry : Bool) : TableProgram Status :=
  writeEntry insertEntry <|
    match target with
    | .dpdk => encodeTunnelTermTableEntry .dpdk tunnelInfo p4info insertEntry
    | .es2k => prepareTunnelTermTableEntry tunnelInfo p4info insertEntry

/-- `ConfigTunnelEntry`: only the ES2K target writes a decapsulation entry. -/
def configTunnelEntry (target : Target) (tunnelInfo : TunnelInfo) (p4info : P4Info)
    (insertEntry : Bool) : TableProgram Status := do
  match ← writeEncapTableEntry target tunnelInfo p4info insertEntry with
  | .error status => pure (.error status)
  | .ok () =>
    match target with
    | .es2k =>
      match ← writeDecapTableEntry tunnelInfo p4info insertEntry with
      | .error status => pure (.error status)
      | .ok () => writeTunnelTermTableEntry .es2k tunnelInfo p4info insertEntry
    | .dpdk => writeTunnelTermTableEntry .dpdk tunnelInfo p4info insertEntry

/-- `PrepareRxTunnelSrcPortTableEntry`. -/
def prepareRxTunnelSrcPortTableEntry : TunnelStatements :=
  prepareByFamily encodeRxTunnelTableEntry encodeV6RxTunnelTableEntry

/-- `WriteRxTunnelSrcPortTableEntry`. -/
def writeRxTunnelSrcPortTableEntry (tunnelInfo : TunnelInfo) (p4info : P4Info) (insertEntry : Bool) :
    TableProgram Status :=
  writeEntry insertEntry (prepareRxTunnelSrcPortTableEntry tunnelInfo p4info insertEntry)

/-! ### VLANs, source ports, and learned addresses -/

/-- `WriteVlanPushTableEntry`. -/
def writeVlanPushTableEntry (vlanId : UInt16) (p4info : P4Info) (insertEntry : Bool) :
    TableProgram Status :=
  writeEntry insertEntry (encodeVlanPushTableEntry vlanId p4info insertEntry)

/-- `WriteVlanPopTableEntry`. -/
def writeVlanPopTableEntry (vlanId : UInt16) (p4info : P4Info) (insertEntry : Bool) :
    TableProgram Status :=
  writeEntry insertEntry (encodeVlanPopTableEntry vlanId p4info insertEntry)

/-- `ConfigVlanEntry`. -/
def configVlanEntry (vlanId : UInt16) (p4info : P4Info) (insertEntry : Bool) : TableProgram Status := do
  match ← writeVlanPushTableEntry vlanId p4info insertEntry with
  | .error status => pure (.error status)
  | .ok () => writeVlanPopTableEntry vlanId p4info insertEntry

/-- `WriteVsiSrcPortTableEntry`. -/
def writeVsiSrcPortTableEntry (portInfo : SrcPortInfo) (p4info : P4Info) (insertEntry : Bool) :
    TableProgram Status :=
  writeEntry insertEntry (encodeSrcPortTableEntry portInfo p4info insertEntry)

/-- `ConfigSrcPortEntry`. -/
def configSrcPortEntry (portInfo : SrcPortInfo) (p4info : P4Info) (insertEntry : Bool) :
    TableProgram Status := do
  match ← getTxAccVsiPort p4info portInfo.srcPort with
  | .error status => pure (.error status)
  | .ok hostSp => writeVsiSrcPortTableEntry { portInfo with srcPort := hostSp } p4info insertEntry

/-- `WriteTunnelSrcPortEntry`. -/
def writeTunnelSrcPortEntry (portInfo : SrcPortInfo) (p4info : P4Info) (insertEntry : Bool) :
    TableProgram Status :=
  writeEntry insertEntry (encodeSrcPortTableEntry portInfo p4info insertEntry)

/-- `ReadVmSrcTableEntry`. -/
def readVmSrcTableEntry (ipInfo : IpMacMapInfo) (p4info : P4Info) :
    TableProgram (StatusOr ReadResponse) :=
  readEntry (encodeSrcIpMacMapTableEntry ipInfo p4info false)

/-- `ReadVmDstTableEntry`. -/
def readVmDstTableEntry (ipInfo : IpMacMapInfo) (p4info : P4Info) :
    TableProgram (StatusOr ReadResponse) :=
  readEntry (encodeDstIpMacMapTableEntry ipInfo p4info false)

/-- `WriteSrcIpMacMapTableEntry`. -/
def writeSrcIpMacMapTableEntry (ipInfo : IpMacMapInfo) (p4info : P4Info) (insertEntry : Bool) :
    TableProgram Status :=
  writeEntry insertEntry (encodeSrcIpMacMapTableEntry ipInfo p4info insertEntry)

/-- `WriteDstIpMacMapTableEntry`. -/
def writeDstIpMacMapTableEntry (ipInfo : IpMacMapInfo) (p4info : P4Info) (insertEntry : Bool) :
    TableProgram Status :=
  writeEntry insertEntry (encodeDstIpMacMapTableEntry ipInfo p4info insertEntry)

/-- The part of `ConfigIpMacMapEntry` after the destination check. -/
def writeDstIfValid (ipInfo : IpMacMapInfo) (p4info : P4Info) (insertEntry : Bool) :
    TableProgram Status := do
  if Es2k.validIpAddr ipInfo.srcIpAddr.ip.sAddr then
    let _ ← writeDstIpMacMapTableEntry ipInfo p4info insertEntry
    pure okStatus
  else pure okStatus

/-- `ConfigIpMacMapEntry` from its label `try_dstip`. -/
def tryDstip (ipInfo : IpMacMapInfo) (p4info : P4Info) (insertEntry : Bool) : TableProgram Status := do
  if insertEntry then
    match ← readVmDstTableEntry ipInfo p4info with
    | .ok _ => pure okStatus
    | .error _ => writeDstIfValid ipInfo p4info insertEntry
  else writeDstIfValid ipInfo p4info insertEntry

/-- The part of `ConfigIpMacMapEntry` between the source check and the label. -/
def writeSrcIfValid (ipInfo : IpMacMapInfo) (p4info : P4Info) (insertEntry : Bool) :
    TableProgram Status := do
  if Es2k.validIpAddr ipInfo.srcIpAddr.ip.sAddr then
    let _ ← writeSrcIpMacMapTableEntry ipInfo p4info insertEntry
    tryDstip ipInfo p4info insertEntry
  else tryDstip ipInfo p4info insertEntry

/-- `ConfigIpMacMapEntry`: a source entry that is found is jumped over. -/
def configIpMacMapEntry (ipInfo : IpMacMapInfo) (p4info : P4Info) (insertEntry : Bool) :
    TableProgram Status := do
  if insertEntry then
    let statusOrReadResponse ← readVmSrcTableEntry ipInfo p4info
    if statusOrReadResponse.isOk then tryDstip ipInfo p4info insertEntry
    else writeSrcIfValid ipInfo p4info insertEntry
  else writeSrcIfValid ipInfo p4info insertEntry

/-! ### The API functions -/

section Functions

variable {Request : Type} {Reply : Request → Type} {Handle : Type}
variable (client : ClientInterface Request Reply Handle)

/-- `DoConfigFdbEntry`. -/
def doConfigFdbEntry (target : Target) (learnInfo : MacLearningInfo) (insertEntry : Bool)
    (grpcAddr : String) :=
  client.doConfig (fun p4info => configFdbEntry target learnInfo p4info insertEntry) grpcAddr

/-- `DoConfigTunnelEntry`. -/
def doConfigTunnelEntry (target : Target) (tunnelInfo : TunnelInfo) (insertEntry : Bool)
    (grpcAddr : String) :=
  client.doConfig (fun p4info => configTunnelEntry target tunnelInfo p4info insertEntry) grpcAddr

/-- `DoConfigVlanEntry`. -/
def doConfigVlanEntry (vlanId : UInt16) (insertEntry : Bool) (grpcAddr : String) :=
  client.doConfig (fun p4info => configVlanEntry vlanId p4info insertEntry) grpcAddr

/-- `DoConfigSrcPortEntry`. -/
def doConfigSrcPortEntry (portInfo : SrcPortInfo) (insertEntry : Bool) (grpcAddr : String) :=
  client.doConfig (fun p4info => configSrcPortEntry portInfo p4info insertEntry) grpcAddr

/-- `DoConfigTunnelSrcPortEntry`. -/
def doConfigTunnelSrcPortEntry (portInfo : SrcPortInfo) (insertEntry : Bool) (grpcAddr : String) :=
  client.doConfig (fun p4info => writeTunnelSrcPortEntry portInfo p4info insertEntry) grpcAddr

/-- `DoConfigRxTunnelSrcEntry`. -/
def doConfigRxTunnelSrcEntry (tunnelInfo : TunnelInfo) (insertEntry : Bool) (grpcAddr : String) :=
  client.doConfig (fun p4info => writeRxTunnelSrcPortTableEntry tunnelInfo p4info insertEntry) grpcAddr

/-- `DoConfigIpMacMapEntry`. -/
def doConfigIpMacMapEntry (ipInfo : IpMacMapInfo) (insertEntry : Bool) (grpcAddr : String) :=
  client.doConfig (fun p4info => configIpMacMapEntry ipInfo p4info insertEntry) grpcAddr

end Functions

/-- The v2 program of a call with the real client. -/
def program (flags : Flags) (call : ApiCall) : WireProgram Status :=
  match call.function with
  | .es2kFdb info => doConfigFdbEntry (Client flags) .es2k info call.insertEntry call.grpcAddr
  | .es2kTunnel info => doConfigTunnelEntry (Client flags) .es2k info call.insertEntry call.grpcAddr
  | .es2kVlan vlanId => doConfigVlanEntry (Client flags) vlanId call.insertEntry call.grpcAddr
  | .es2kSrcPort info => doConfigSrcPortEntry (Client flags) info call.insertEntry call.grpcAddr
  | .es2kTunnelSrcPort info =>
    doConfigTunnelSrcPortEntry (Client flags) info call.insertEntry call.grpcAddr
  | .es2kRxTunnelSrc info =>
    doConfigRxTunnelSrcEntry (Client flags) info call.insertEntry call.grpcAddr
  | .es2kIpMacMap info => doConfigIpMacMapEntry (Client flags) info call.insertEntry call.grpcAddr
  | .dpdkFdb info => doConfigFdbEntry (Client flags) .dpdk info call.insertEntry call.grpcAddr
  | .dpdkTunnel info => doConfigTunnelEntry (Client flags) .dpdk info call.insertEntry call.grpcAddr

end NetworkingRecipe.Ovsp4rt.V2
