import NetworkingRecipe.Ovsp4rt.V2.Config

/-!
# The v1 core

The functions of `v1/ovsp4rt.cc`, the core that a default build compiles: one file for both
targets, whose API functions open a session, fetch the P4Info, and update the tables in one
body each and return nothing. The encoders and preparation functions whose text is the same
in the v2 core are taken from there. The encoders that write the l2_fwd_tx key inline, the
reads, the writes, and the API functions are v1's own.

The port of a VSI is decoded inline: four bytes of every port parameter, each promoted from
a signed `char`, are shifted into one accumulator that is never reset between entities. A
string yields a zero byte at its end; what an access beyond that yields is not defined by
the language and is a parameter here.
-/

namespace NetworkingRecipe.Ovsp4rt.V1

open Interaction P4Runtime
open V2 (Target EntryM writeEntry readEntry)
open V2.EntryM (addExact)

/-! ### Encoders with an inline key -/

/-- The statements on the key of an l2_fwd_tx entry, which three encoders repeat. -/
def encodeL2FwdTxKey (target : Target) (learnInfo : MacLearningInfo) (p4info : P4Info) :
    EntryM Unit := do
  EntryM.setTableId (getTableId p4info (V2.l2FwdTxTable target))
  addExact (getMatchFieldId p4info (V2.l2FwdTxTable target) (V2.l2FwdTxTableKeyDstMac target))
    (canonicalizeMac learnInfo.macAddr)
  match target with
  | .es2k =>
    addExact (getMatchFieldId p4info Es2k.l2FwdTxTable Es2k.l2FwdTxTableKeyBridgeId)
      (encodeByteValue [learnInfo.bridgeId.toUInt32])
  | .dpdk => pure ()

/-- `EncodeFdbTxVlanTableEntry`. -/
def encodeFdbTxVlanTableEntry (target : Target) (learnInfo : MacLearningInfo) (p4info : P4Info)
    (insertEntry : Bool) : EntryM Unit := do
  encodeL2FwdTxKey target learnInfo p4info
  V2.encodeFdbTxVlanAction target learnInfo p4info insertEntry

/-- `EncodeFdbTableEntryforV4VxlanTunnel`. -/
def encodeFdbTableEntryforV4VxlanTunnel (target : Target) (learnInfo : MacLearningInfo)
    (p4info : P4Info) (insertEntry : Bool) : EntryM Unit := do
  encodeL2FwdTxKey target learnInfo p4info
  V2.encodeFdbTunnelAction Es2k.vxlanUnderlayActions target learnInfo p4info insertEntry

/-- `EncodeFdbTableEntryforV4GeneveTunnel`. -/
def encodeFdbTableEntryforV4GeneveTunnel (target : Target) (learnInfo : MacLearningInfo)
    (p4info : P4Info) (insertEntry : Bool) : EntryM Unit := do
  encodeL2FwdTxKey target learnInfo p4info
  V2.encodeFdbTunnelAction Es2k.geneveUnderlayActions target learnInfo p4info insertEntry

/-! ### Writes -/

/-- `WriteFdbSmacTableEntry`. -/
def writeFdbSmacTableEntry (learnInfo : MacLearningInfo) (p4info : P4Info) (insertEntry : Bool) :
    TableProgram Status :=
  writeEntry insertEntry (V2.encodeFdbSmacTableEntry learnInfo p4info insertEntry)

/-- `WriteL2TunnelTableEntry`. -/
def writeL2TunnelTableEntry (learnInfo : MacLearningInfo) (p4info : P4Info) (insertEntry : Bool) :
    TableProgram Status :=
  writeEntry insertEntry <|
    if learnInfo.tnlInfo.localIp.family = afInet6 ∧ learnInfo.tnlInfo.remoteIp.family = afInet6 then
      V2.encodeL2ToTunnelV6 learnInfo p4info insertEntry
    else V2.encodeL2ToTunnelV4 learnInfo p4info insertEntry

/-- `WriteFdbTxVlanTableEntry`. -/
def writeFdbTxVlanTableEntry (target : Target) (learnInfo : MacLearningInfo) (p4info : P4Info)
    (insertEntry : Bool) : TableProgram Status :=
  writeEntry insertEntry (encodeFdbTxVlanTableEntry target learnInfo p4info insertEntry)

/-- `WriteFdbRxVlanTableEntry`. -/
def writeFdbRxVlanTableEntry (target : Target) (learnInfo : MacLearningInfo) (p4info : P4Info)
    (insertEntry : Bool) : TableProgram Status :=
  writeEntry insertEntry (V2.encodeFdbRxVlanTableEntry target learnInfo p4info insertEntry)

/-- The choice of an encoder in `WriteFdbTunnelTableEntry`: an unknown type is deleted as VXLAN. -/
def encodeFdbTunnelTableEntry (target : Target) (learnInfo : MacLearningInfo) (p4info : P4Info)
    (insertEntry : Bool) : EntryM Unit :=
  match target with
  | .dpdk => encodeFdbTableEntryforV4VxlanTunnel .dpdk learnInfo p4info insertEntry
  | .es2k => do
    if learnInfo.tnlInfo.tunnelType = ovsTunnelVxlan then
      encodeFdbTableEntryforV4VxlanTunnel .es2k learnInfo p4info insertEntry
    else if learnInfo.tnlInfo.tunnelType = ovsTunnelGeneve then
      encodeFdbTableEntryforV4GeneveTunnel .es2k learnInfo p4info insertEntry
    else
      if !insertEntry then
        encodeFdbTableEntryforV4VxlanTunnel .es2k learnInfo p4info insertEntry

/-- `WriteFdbTunnelTableEntry`. -/
def writeFdbTunnelTableEntry (target : Target) (learnInfo : MacLearningInfo) (p4info : P4Info)
    (insertEntry : Bool) : TableProgram Status :=
  writeEntry insertEntry (encodeFdbTunnelTableEntry target learnInfo p4info insertEntry)

/-- `WriteEncapTableEntry`; the ES2K choice is the text of the v2 preparation. -/
def writeEncapTableEntry (target : Target) (tunnelInfo : TunnelInfo) (p4info : P4Info)
    (insertEntry : Bool) : TableProgram Status :=
  writeEntry insertEntry <|
    match target with
    | .dpdk => V2.prepareV4EncapTableEntry .dpdk tunnelInfo p4info insertEntry
    | .es2k => V2.prepareEncapTableEntry tunnelInfo p4info insertEntry

/-- `WriteDecapTableEntry`. -/
def writeDecapTableEntry (tunnelInfo : TunnelInfo) (p4info : P4Info) (insertEntry : Bool) :
    TableProgram Status :=
  writeEntry insertEntry (V2.prepareDecapTableEntry tunnelInfo p4info insertEntry)

/-- `WriteTunnelTermTableEntry`. -/
def writeTunnelTermTableEntry (target : Target) (tunnelInfo : TunnelInfo) (p4info : P4Info)
    (insertEntry : Bool) : TableProgram Status :=
  writeEntry insertEntry <|
    match target with
    | .dpdk => V2.encodeTunnelTermTableEntry .dpdk tunnelInfo p4info insertEntry
    | .es2k => V2.prepareTunnelTermTableEntry tunnelInfo p4info insertEntry

/-- `WriteRxTunnelSrcPortTableEntry`. -/
def writeRxTunnelSrcPortTableEntry (tunnelInfo : TunnelInfo) (p4info : P4Info) (insertEntry : Bool) :
    TableProgram Status :=
  writeEntry insertEntry (V2.prepareRxTunnelSrcPortTableEntry tunnelInfo p4info insertEntry)

/-- `WriteVlanPushTableEntry`. -/
def writeVlanPushTableEntry (vlanId : UInt16) (p4info : P4Info) (insertEntry : Bool) :
    TableProgram Status :=
  writeEntry insertEntry (V2.encodeVlanPushTableEntry vlanId p4info insertEntry)

/-- `WriteVlanPopTableEntry`. -/
def writeVlanPopTableEntry (vlanId : UInt16) (p4info : P4Info) (insertEntry : Bool) :
    TableProgram Status :=
  writeEntry insertEntry (V2.encodeVlanPopTableEntry vlanId p4info insertEntry)

/-- `ConfigureVsiSrcPortTableEntry`. -/
def configureVsiSrcPortTableEntry (sp : SrcPortInfo) (p4info : P4Info) (insertEntry : Bool) :
    TableProgram Status :=
  writeEntry insertEntry (V2.encodeSrcPortTableEntry sp p4info insertEntry)

/-- `WriteSrcIpMacMapTableEntry`. -/
def writeSrcIpMacMapTableEntry (ipInfo : IpMacMapInfo) (p4info : P4Info) (insertEntry : Bool) :
    TableProgram Status :=
  writeEntry insertEntry (V2.encodeSrcIpMacMapTableEntry ipInfo p4info insertEntry)

/-- `WriteDstIpMacMapTableEntry`. -/
def writeDstIpMacMapTableEntry (ipInfo : IpMacMapInfo) (p4info : P4Info) (insertEntry : Bool) :
    TableProgram Status :=
  writeEntry insertEntry (V2.encodeDstIpMacMapTableEntry ipInfo p4info insertEntry)

/-! ### Reads -/

/-- `ReadL2ToTunnelV4TableEntry`. -/
def readL2ToTunnelV4TableEntry (learnInfo : MacLearningInfo) (p4info : P4Info) :
    TableProgram (StatusOr ReadResponse) :=
  readEntry (V2.encodeL2ToTunnelV4 learnInfo p4info false)

/-- `ReadL2ToTunnelV6TableEntry`. -/
def readL2ToTunnelV6TableEntry (learnInfo : MacLearningInfo) (p4info : P4Info) :
    TableProgram (StatusOr ReadResponse) :=
  readEntry (V2.encodeL2ToTunnelV6 learnInfo p4info false)

/-- `ReadFdbTunnelTableEntry` on ES2K: an unknown tunnel type is an error without a request. -/
def readFdbTunnelTableEntry (learnInfo : MacLearningInfo) (p4info : P4Info) (_adding : Bool) :
    TableProgram (StatusOr ReadResponse) :=
  if learnInfo.tnlInfo.tunnelType = ovsTunnelVxlan then
    readEntry (encodeFdbTableEntryforV4VxlanTunnel .es2k learnInfo p4info false)
  else if learnInfo.tnlInfo.tunnelType = ovsTunnelGeneve then
    readEntry (encodeFdbTableEntryforV4GeneveTunnel .es2k learnInfo p4info false)
  else pure (.error ⟨.unknown, "Unsupported tunnel type"⟩)

/-- `ReadFdbVlanTableEntry`. -/
def readFdbVlanTableEntry (learnInfo : MacLearningInfo) (p4info : P4Info) (_adding : Bool) :
    TableProgram (StatusOr ReadResponse) :=
  readEntry (encodeFdbTxVlanTableEntry .es2k learnInfo p4info false)

/-- `ReadVmSrcTableEntry`. -/
def readVmSrcTableEntry (ipInfo : IpMacMapInfo) (p4info : P4Info) :
    TableProgram (StatusOr ReadResponse) :=
  readEntry (V2.encodeSrcIpMacMapTableEntry ipInfo p4info false)

/-- `ReadVmDstTableEntry`. -/
def readVmDstTableEntry (ipInfo : IpMacMapInfo) (p4info : P4Info) :
    TableProgram (StatusOr ReadResponse) :=
  readEntry (V2.encodeDstIpMacMapTableEntry ipInfo p4info false)

/-- `ReadTxAccVsiTableEntry`. -/
def readTxAccVsiTableEntry (sp : UInt32) (p4info : P4Info) : TableProgram (StatusOr ReadResponse) :=
  readEntry (V2.encodeTxAccVsiTableEntry sp p4info)

/-! ### The inline port lookup -/

/-- What the memory behind a string holds, by the string and the index of the access. -/
abbrev PastEnd := Bytes → ℕ → UInt8

/-- `s2[i]`: a byte of the string, its terminating zero, or whatever lies behind. -/
def charAt (pastEnd : PastEnd) (s2 : Bytes) (i : ℕ) : UInt8 :=
  if i < s2.length then s2.getD i 0 else if i = s2.length then 0 else pastEnd s2 i

/-- `int(c)` for a signed `char`, as an operand of unsigned arithmetic. -/
def charToInt (c : UInt8) : UInt32 := c.toInt8.toInt32.toUInt32

/-- The loop over the four bytes of one port parameter. -/
def shiftInBytes (pastEnd : PastEnd) (hostSp : UInt32) (s2 : Bytes) : UInt32 :=
  [0, 1, 2, 3].foldl
    (fun (hostSp : UInt32) i => (hostSp <<< 8) ||| charToInt (charAt pastEnd s2 i)) hostSp

/-- The loop over the parameters of one entity, which breaks at the first port parameter. -/
def shiftInParams (pastEnd : PastEnd) (paramId : Int32) (hostSp : UInt32) : List ActionParam → UInt32
  | [] => hostSp
  | param :: rest =>
    if paramId.toUInt32 = param.paramId then shiftInBytes pastEnd hostSp param.value
    else shiftInParams pastEnd paramId hostSp rest

/-- The loop over the entities of a response. -/
def decodeHostSp (pastEnd : PastEnd) (paramId : Int32) (readResponse : ReadResponse) : UInt32 :=
  readResponse.foldl
    (fun hostSp tableEntry =>
      shiftInParams pastEnd paramId hostSp (tableEntry.action.getD {}).params) 0

/-- The lookup that two API functions repeat inline. -/
def readHostSp (pastEnd : PastEnd) (srcPort : UInt32) (p4info : P4Info) :
    TableProgram (StatusOr UInt32) := do
  match ← readTxAccVsiTableEntry srcPort p4info with
  | .error status => pure (.error status)
  | .ok readResponse =>
    let paramId := getParamId p4info Es2k.txAccVsiTableActionL2FwdAndBypassBridge
      Es2k.actionL2FwdAndBypassBridgeParamPort
    pure (.ok (decodeHostSp pastEnd paramId readResponse))

/-! ### The updates of the API functions -/

/-- The deletion checks of `ovsp4rt_config_fdb_entry`. -/
def probeTunnelTables (learnInfo : MacLearningInfo) (p4info : P4Info) :
    TableProgram MacLearningInfo := do
  let statusOrReadResponse ← readL2ToTunnelV4TableEntry learnInfo p4info
  let learnInfo :=
    if statusOrReadResponse.isOk then { learnInfo with isTunnel := true } else learnInfo
  if !learnInfo.isTunnel then
    let statusOrReadResponse ← readL2ToTunnelV6TableEntry learnInfo p4info
    if statusOrReadResponse.isOk then
      pure { learnInfo with
        isTunnel := true
        tnlInfo := { learnInfo.tnlInfo with
          localIp := { learnInfo.tnlInfo.localIp with family := afInet6 }
          remoteIp := { learnInfo.tnlInfo.remoteIp with family := afInet6 } } }
    else pure learnInfo
  else pure learnInfo

/-- The writes of `ovsp4rt_config_fdb_entry` for a tunnel. -/
def writeFdbTunnelEntries (learnInfo : MacLearningInfo) (p4info : P4Info) (insertEntry : Bool) :
    TableProgram Unit := do
  let _ ← writeFdbTunnelTableEntry .es2k learnInfo p4info insertEntry
  let _ ← writeL2TunnelTableEntry learnInfo p4info insertEntry
  let _ ← writeFdbSmacTableEntry learnInfo p4info insertEntry
  pure ()

/-- The last writes of `ovsp4rt_config_fdb_entry` for a VLAN. -/
def writeFdbVlanEntries (learnInfo : MacLearningInfo) (p4info : P4Info) (insertEntry : Bool) :
    TableProgram Unit := do
  let _ ← writeFdbTxVlanTableEntry .es2k learnInfo p4info insertEntry
  let _ ← writeFdbSmacTableEntry learnInfo p4info insertEntry
  pure ()

/-- The tunnel branch of `ovsp4rt_config_fdb_entry`. -/
def configFdbTunnel (learnInfo : MacLearningInfo) (p4info : P4Info) (insertEntry : Bool) :
    TableProgram Unit := do
  if insertEntry then
    let statusOrReadResponse ← readFdbTunnelTableEntry learnInfo p4info true
    if statusOrReadResponse.isOk then pure ()
    else writeFdbTunnelEntries learnInfo p4info insertEntry
  else writeFdbTunnelEntries learnInfo p4info insertEntry

/-- The VLAN branch of `ovsp4rt_config_fdb_entry`. -/
def configFdbVlan (pastEnd : PastEnd) (learnInfo : MacLearningInfo) (p4info : P4Info)
    (insertEntry : Bool) : TableProgram Unit := do
  if insertEntry then
    let statusOrReadResponse ← readFdbVlanTableEntry learnInfo p4info true
    if statusOrReadResponse.isOk then pure ()
    else
      let _ ← writeFdbRxVlanTableEntry .es2k learnInfo p4info insertEntry
      match ← readHostSp pastEnd learnInfo.srcPort p4info with
      | .error _ => pure ()
      | .ok hostSp => writeFdbVlanEntries { learnInfo with srcPort := hostSp } p4info insertEntry
  else writeFdbVlanEntries learnInfo p4info insertEntry

/-- The updates of `ovsp4rt_config_fdb_entry`, which has one definition for each target. -/
def configFdbEntry (pastEnd : PastEnd) (target : Target) (learnInfo : MacLearningInfo)
    (p4info : P4Info) (insertEntry : Bool) : TableProgram Unit :=
  match target with
  | .es2k => do
    let learnInfo ← if !insertEntry then probeTunnelTables learnInfo p4info else pure learnInfo
    if learnInfo.isTunnel then configFdbTunnel learnInfo p4info insertEntry
    else configFdbVlan pastEnd learnInfo p4info insertEntry
  | .dpdk => do
    if learnInfo.isTunnel then
      let _ ← writeFdbTunnelTableEntry .dpdk learnInfo p4info insertEntry
      pure ()
    else if learnInfo.isVlan then
      match ← writeFdbTxVlanTableEntry .dpdk learnInfo p4info insertEntry with
      | .error _ => pure ()
      | .ok () =>
        let _ ← writeFdbRxVlanTableEntry .dpdk learnInfo p4info insertEntry
        pure ()
    else pure ()

/-- The updates of `ovsp4rt_config_tunnel_entry`. -/
def configTunnelEntry (target : Target) (tunnelInfo : TunnelInfo) (p4info : P4Info)
    (insertEntry : Bool) : TableProgram Unit := do
  match ← writeEncapTableEntry target tunnelInfo p4info insertEntry with
  | .error _ => pure ()
  | .ok () =>
    match target with
    | .es2k =>
      match ← writeDecapTableEntry tunnelInfo p4info insertEntry with
      | .error _ => pure ()
      | .ok () =>
        let _ ← writeTunnelTermTableEntry .es2k tunnelInfo p4info insertEntry
        pure ()
    | .dpdk =>
      let _ ← writeTunnelTermTableEntry .dpdk tunnelInfo p4info insertEntry
      pure ()

/-- The update of `ovsp4rt_config_rx_tunnel_src_entry`. -/
def configRxTunnelSrcEntry (tunnelInfo : TunnelInfo) (p4info : P4Info) (insertEntry : Bool) :
    TableProgram Unit := do
  let _ ← writeRxTunnelSrcPortTableEntry tunnelInfo p4info insertEntry
  pure ()

/-- The update of `ovsp4rt_config_tunnel_src_port_entry`. -/
def configTunnelSrcPortEntry (tnlSp : SrcPortInfo) (p4info : P4Info) (insertEntry : Bool) :
    TableProgram Unit := do
  let _ ← writeEntry insertEntry (V2.encodeSrcPortTableEntry tnlSp p4info insertEntry)
  pure ()

/-- The updates of `ovsp4rt_config_src_port_entry`. -/
def configSrcPortEntry (pastEnd : PastEnd) (vsiSp : SrcPortInfo) (p4info : P4Info)
    (insertEntry : Bool) : TableProgram Unit := do
  match ← readHostSp pastEnd vsiSp.srcPort p4info with
  | .error _ => pure ()
  | .ok hostSp =>
    let _ ← configureVsiSrcPortTableEntry { vsiSp with srcPort := hostSp } p4info insertEntry
    pure ()

/-- The updates of `ovsp4rt_config_vlan_entry`. -/
def configVlanEntry (vlanId : UInt16) (p4info : P4Info) (insertEntry : Bool) : TableProgram Unit := do
  match ← writeVlanPushTableEntry vlanId p4info insertEntry with
  | .error _ => pure ()
  | .ok () =>
    let _ ← writeVlanPopTableEntry vlanId p4info insertEntry
    pure ()

/-- The part of `ovsp4rt_config_ip_mac_map_entry` after the destination check. -/
def writeDstIfValid (ipInfo : IpMacMapInfo) (p4info : P4Info) (insertEntry : Bool) :
    TableProgram Unit := do
  if Es2k.validIpAddr ipInfo.srcIpAddr.ip.sAddr then
    let _ ← writeDstIpMacMapTableEntry ipInfo p4info insertEntry
    pure ()
  else pure ()

/-- `ovsp4rt_config_ip_mac_map_entry` from its label `try_dstip`. -/
def tryDstip (ipInfo : IpMacMapInfo) (p4info : P4Info) (insertEntry : Bool) : TableProgram Unit := do
  if insertEntry then
    let statusOrReadResponse ← readVmDstTableEntry ipInfo p4info
    if statusOrReadResponse.isOk then pure ()
    else writeDstIfValid ipInfo p4info insertEntry
  else writeDstIfValid ipInfo p4info insertEntry

/-- The part of `ovsp4rt_config_ip_mac_map_entry` between the source check and the label. -/
def writeSrcIfValid (ipInfo : IpMacMapInfo) (p4info : P4Info) (insertEntry : Bool) :
    TableProgram Unit := do
  if Es2k.validIpAddr ipInfo.srcIpAddr.ip.sAddr then
    let _ ← writeSrcIpMacMapTableEntry ipInfo p4info insertEntry
    tryDstip ipInfo p4info insertEntry
  else tryDstip ipInfo p4info insertEntry

/-- The updates of `ovsp4rt_config_ip_mac_map_entry`. -/
def configIpMacMapEntry (ipInfo : IpMacMapInfo) (p4info : P4Info) (insertEntry : Bool) :
    TableProgram Unit := do
  if insertEntry then
    let statusOrReadResponse ← readVmSrcTableEntry ipInfo p4info
    if statusOrReadResponse.isOk then tryDstip ipInfo p4info insertEntry
    else writeSrcIfValid ipInfo p4info insertEntry
  else writeSrcIfValid ipInfo p4info insertEntry

/-! ### The API functions -/

/-- The frame of the API functions: create a session, fetch the P4Info, update the tables. A failure to
do either is silent. -/
def withSession (flags : Flags) (config : P4Info → TableProgram Unit) (grpcAddr : String) :
    WireProgram Unit := do
  match ← OvsP4rtSession.create grpcAddr flags.deviceId.toUInt32 flags.roleName with
  | .error _ => pure ()
  | .ok session =>
    let (status, p4info) ← getForwardingPipelineConfig session
    match status with
    | .error _ => pure ()
    | .ok () => (config p4info).interpret fun
        | .read entry => sendSessionReadRequest session entry
        | .write type entry => sendSessionWriteRequest session type entry

/-- `ovsp4rt_config_fdb_entry`. -/
def ovsp4rtConfigFdbEntry (pastEnd : PastEnd) (target : Target) (flags : Flags)
    (learnInfo : MacLearningInfo) (insertEntry : Bool) (grpcAddr : String) : WireProgram Unit :=
  withSession flags (fun p4info => configFdbEntry pastEnd target learnInfo p4info insertEntry) grpcAddr

/-- `ovsp4rt_config_tunnel_entry`. -/
def ovsp4rtConfigTunnelEntry (target : Target) (flags : Flags) (tunnelInfo : TunnelInfo)
    (insertEntry : Bool) (grpcAddr : String) : WireProgram Unit :=
  withSession flags (fun p4info => configTunnelEntry target tunnelInfo p4info insertEntry) grpcAddr

/-- `ovsp4rt_config_rx_tunnel_src_entry` on ES2K. -/
def ovsp4rtConfigRxTunnelSrcEntry (flags : Flags) (tunnelInfo : TunnelInfo) (insertEntry : Bool)
    (grpcAddr : String) : WireProgram Unit :=
  withSession flags (fun p4info => configRxTunnelSrcEntry tunnelInfo p4info insertEntry) grpcAddr

/-- `ovsp4rt_config_tunnel_src_port_entry` on ES2K. -/
def ovsp4rtConfigTunnelSrcPortEntry (flags : Flags) (tnlSp : SrcPortInfo) (insertEntry : Bool)
    (grpcAddr : String) : WireProgram Unit :=
  withSession flags (fun p4info => configTunnelSrcPortEntry tnlSp p4info insertEntry) grpcAddr

/-- `ovsp4rt_config_src_port_entry` on ES2K. -/
def ovsp4rtConfigSrcPortEntry (pastEnd : PastEnd) (flags : Flags) (vsiSp : SrcPortInfo)
    (insertEntry : Bool) (grpcAddr : String) : WireProgram Unit :=
  withSession flags (fun p4info => configSrcPortEntry pastEnd vsiSp p4info insertEntry) grpcAddr

/-- `ovsp4rt_config_vlan_entry` on ES2K. -/
def ovsp4rtConfigVlanEntry (flags : Flags) (vlanId : UInt16) (insertEntry : Bool) (grpcAddr : String) :
    WireProgram Unit :=
  withSession flags (fun p4info => configVlanEntry vlanId p4info insertEntry) grpcAddr

/-- `ovsp4rt_config_ip_mac_map_entry` on ES2K. -/
def ovsp4rtConfigIpMacMapEntry (flags : Flags) (ipInfo : IpMacMapInfo) (insertEntry : Bool)
    (grpcAddr : String) : WireProgram Unit :=
  withSession flags (fun p4info => configIpMacMapEntry ipInfo p4info insertEntry) grpcAddr

/-- The v1 program of a call. -/
def program (pastEnd : PastEnd) (flags : Flags) (call : ApiCall) : WireProgram Unit :=
  match call.function with
  | .es2kFdb info => ovsp4rtConfigFdbEntry pastEnd .es2k flags info call.insertEntry call.grpcAddr
  | .es2kTunnel info => ovsp4rtConfigTunnelEntry .es2k flags info call.insertEntry call.grpcAddr
  | .es2kVlan vlanId => ovsp4rtConfigVlanEntry flags vlanId call.insertEntry call.grpcAddr
  | .es2kSrcPort info => ovsp4rtConfigSrcPortEntry pastEnd flags info call.insertEntry call.grpcAddr
  | .es2kTunnelSrcPort info =>
    ovsp4rtConfigTunnelSrcPortEntry flags info call.insertEntry call.grpcAddr
  | .es2kRxTunnelSrc info => ovsp4rtConfigRxTunnelSrcEntry flags info call.insertEntry call.grpcAddr
  | .es2kIpMacMap info => ovsp4rtConfigIpMacMapEntry flags info call.insertEntry call.grpcAddr
  | .dpdkFdb info => ovsp4rtConfigFdbEntry pastEnd .dpdk flags info call.insertEntry call.grpcAddr
  | .dpdkTunnel info => ovsp4rtConfigTunnelEntry .dpdk flags info call.insertEntry call.grpcAddr

end NetworkingRecipe.Ovsp4rt.V1
