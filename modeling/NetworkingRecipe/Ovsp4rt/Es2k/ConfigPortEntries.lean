import NetworkingRecipe.Ovsp4rt.Es2k.PortEncoders
import NetworkingRecipe.Ovsp4rt.Es2k.TxAccVsi

/-!
# ES2K configuration of VLANs, source ports, and learned addresses

The updates of the VLAN, source-port, and address-map tables. A VLAN update stops at a
failed push write and a source-port update stops at a failed port lookup. An address-map
update reports OK whatever its writes return, skips an entry that a read finds, and takes
the validity of the source address for both of its entries.
-/

namespace NetworkingRecipe.Ovsp4rt.Es2k

open P4Runtime

/-! ### VLANs -/

/-- `WriteVlanPushTableEntry`. -/
def writeVlanPushTableEntry (vlanId : UInt16) (p4info : P4Info) (insertEntry : Bool) :
    TableProgram Status :=
  sendWriteRequest (updateType insertEntry) (encodeVlanPushTableEntry {} vlanId p4info insertEntry)

/-- `WriteVlanPopTableEntry`. -/
def writeVlanPopTableEntry (vlanId : UInt16) (p4info : P4Info) (insertEntry : Bool) :
    TableProgram Status :=
  sendWriteRequest (updateType insertEntry) (encodeVlanPopTableEntry {} vlanId p4info insertEntry)

/-- `ConfigVlanEntry`. -/
def configVlanEntry (vlanId : UInt16) (p4info : P4Info) (insertEntry : Bool) : TableProgram Status := do
  match ← writeVlanPushTableEntry vlanId p4info insertEntry with
  | .error status => pure (.error status)
  | .ok () => writeVlanPopTableEntry vlanId p4info insertEntry

/-! ### Source ports -/

/-- `WriteVsiSrcPortTableEntry`. -/
def writeVsiSrcPortTableEntry (portInfo : SrcPortInfo) (p4info : P4Info) (insertEntry : Bool) :
    TableProgram Status :=
  sendWriteRequest (updateType insertEntry) (encodeSrcPortTableEntry {} portInfo p4info insertEntry)

/-- `ConfigSrcPortEntry`: the VSI port is replaced by its host port. -/
def configSrcPortEntry (portInfo : SrcPortInfo) (p4info : P4Info) (insertEntry : Bool) :
    TableProgram Status := do
  match ← getTxAccVsiPort p4info portInfo.srcPort with
  | .error status => pure (.error status)
  | .ok hostSp => writeVsiSrcPortTableEntry { portInfo with srcPort := hostSp } p4info insertEntry

/-- `WriteTunnelSrcPortEntry`: the port of a tunnel is written as it is. -/
def writeTunnelSrcPortEntry (portInfo : SrcPortInfo) (p4info : P4Info) (insertEntry : Bool) :
    TableProgram Status :=
  sendWriteRequest (updateType insertEntry) (encodeSrcPortTableEntry {} portInfo p4info insertEntry)

/-! ### Learned addresses -/

/-- `INADDR_ANY`. -/
def inaddrAny : UInt32 := 0

/-- `INADDR_LOOPBACK`, in host order as in the C header. -/
def inaddrLoopback : UInt32 := 0x7f000001

/-- `ValidIpAddr`. -/
def validIpAddr (nwAddr : UInt32) : Bool :=
  nwAddr != 0 && nwAddr != inaddrAny && nwAddr != inaddrLoopback && nwAddr != 0xffffffff

/-- `ReadVmSrcTableEntry`. -/
def readVmSrcTableEntry (ipInfo : IpMacMapInfo) (p4info : P4Info) :
    TableProgram (StatusOr ReadResponse) :=
  sendReadRequest (encodeSrcIpMacMapTableEntry {} ipInfo p4info false)

/-- `ReadVmDstTableEntry`. -/
def readVmDstTableEntry (ipInfo : IpMacMapInfo) (p4info : P4Info) :
    TableProgram (StatusOr ReadResponse) :=
  sendReadRequest (encodeDstIpMacMapTableEntry {} ipInfo p4info false)

/-- `WriteSrcIpMacMapTableEntry`. -/
def writeSrcIpMacMapTableEntry (ipInfo : IpMacMapInfo) (p4info : P4Info) (insertEntry : Bool) :
    TableProgram Status :=
  sendWriteRequest (updateType insertEntry) (encodeSrcIpMacMapTableEntry {} ipInfo p4info insertEntry)

/-- `WriteDstIpMacMapTableEntry`. -/
def writeDstIpMacMapTableEntry (ipInfo : IpMacMapInfo) (p4info : P4Info) (insertEntry : Bool) :
    TableProgram Status :=
  sendWriteRequest (updateType insertEntry) (encodeDstIpMacMapTableEntry {} ipInfo p4info insertEntry)

/-- Write one entry of the address map if the source address is valid; the status is ignored. -/
def writeIfValid (ipInfo : IpMacMapInfo) (write : TableProgram Status) : TableProgram Unit := do
  if validIpAddr ipInfo.srcIpAddr.ip.sAddr then
    let _ ← write
    pure ()
  else pure ()

/-- The source entry of `ConfigIpMacMapEntry`: an insertion skips an entry that is found. -/
def configSrcIpMacMap (ipInfo : IpMacMapInfo) (p4info : P4Info) (insertEntry : Bool) :
    TableProgram Unit := do
  if insertEntry then
    let statusOrReadResponse ← readVmSrcTableEntry ipInfo p4info
    if statusOrReadResponse.isOk then pure ()
    else writeIfValid ipInfo (writeSrcIpMacMapTableEntry ipInfo p4info insertEntry)
  else writeIfValid ipInfo (writeSrcIpMacMapTableEntry ipInfo p4info insertEntry)

/-- The destination entry of `ConfigIpMacMapEntry`, which is checked by the source address too. -/
def configDstIpMacMap (ipInfo : IpMacMapInfo) (p4info : P4Info) (insertEntry : Bool) :
    TableProgram Unit := do
  if insertEntry then
    let statusOrReadResponse ← readVmDstTableEntry ipInfo p4info
    if statusOrReadResponse.isOk then pure ()
    else writeIfValid ipInfo (writeDstIpMacMapTableEntry ipInfo p4info insertEntry)
  else writeIfValid ipInfo (writeDstIpMacMapTableEntry ipInfo p4info insertEntry)

/-- `ConfigIpMacMapEntry`. -/
def configIpMacMapEntry (ipInfo : IpMacMapInfo) (p4info : P4Info) (insertEntry : Bool) :
    TableProgram Status := do
  configSrcIpMacMap ipInfo p4info insertEntry
  configDstIpMacMap ipInfo p4info insertEntry
  pure okStatus

end NetworkingRecipe.Ovsp4rt.Es2k
