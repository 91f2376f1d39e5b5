import NetworkingRecipe.Ovsp4rt.Es2k.FdbEncoders
import NetworkingRecipe.Ovsp4rt.Es2k.TxAccVsi

/-!
# ES2K configuration of a learned MAC address

`ConfigFdbEntry` with its read, write, and update helpers, as a program over table
requests. Deleting first probes the two tunnel tables, because the caller does not say how
the address was learned; inserting first reads the l2_fwd_tx key and stops if it exists.

The statuses of the writes are discarded where the source discards them. Log messages are
not part of the model.
-/

namespace NetworkingRecipe.Ovsp4rt.Es2k

open P4Runtime

/-- `WriteFdbSmacTableEntry`. -/
def writeFdbSmacTableEntry (learnInfo : MacLearningInfo) (p4info : P4Info) (insertEntry : Bool) :
    TableProgram Status :=
  sendWriteRequest (updateType insertEntry) (encodeFdbSmacTableEntry {} learnInfo p4info insertEntry)

/-- `PrepareL2TunnelTableEntry`: the IPv6 table when both families say so, else the IPv4 one. -/
def prepareL2TunnelTableEntry (entry : TableEntry) (learnInfo : MacLearningInfo) (p4info : P4Info)
    (insertEntry : Bool) : TableEntry :=
  if learnInfo.tnlInfo.bothFamilies afInet6 then encodeL2ToTunnelV6 entry learnInfo p4info insertEntry
  else encodeL2ToTunnelV4 entry learnInfo p4info insertEntry

/-- `WriteL2TunnelTableEntry`. -/
def writeL2TunnelTableEntry (learnInfo : MacLearningInfo) (p4info : P4Info) (insertEntry : Bool) :
    TableProgram Status :=
  sendWriteRequest (updateType insertEntry) (prepareL2TunnelTableEntry {} learnInfo p4info insertEntry)

/-- `WriteFdbTxVlanTableEntry`. -/
def writeFdbTxVlanTableEntry (learnInfo : MacLearningInfo) (p4info : P4Info) (insertEntry : Bool) :
    TableProgram Status :=
  sendWriteRequest (updateType insertEntry) (encodeFdbTxVlanTableEntry {} learnInfo p4info insertEntry)

/-- `WriteFdbRxVlanTableEntry`. -/
def writeFdbRxVlanTableEntry (learnInfo : MacLearningInfo) (p4info : P4Info) (insertEntry : Bool) :
    TableProgram Status :=
  sendWriteRequest (updateType insertEntry) (encodeFdbRxVlanTableEntry {} learnInfo p4info insertEntry)

/-- `PrepareFdbTunnelTableEntry`: an unknown tunnel type fills in the key when deleting and
nothing at all when inserting. -/
def prepareFdbTunnelTableEntry (entry : TableEntry) (learnInfo : MacLearningInfo) (p4info : P4Info)
    (insertEntry : Bool) : TableEntry :=
  if learnInfo.tnlInfo.tunnelType = ovsTunnelVxlan then
    encodeFdbTableEntryforV4VxlanTunnel entry learnInfo p4info insertEntry
  else if learnInfo.tnlInfo.tunnelType = ovsTunnelGeneve then
    encodeFdbTableEntryforV4GeneveTunnel entry learnInfo p4info insertEntry
  else if !insertEntry then encodeL2FwdTxTablePrologue entry learnInfo p4info
  else entry

/-- `WriteFdbTunnelTableEntry`. -/
def writeFdbTunnelTableEntry (learnInfo : MacLearningInfo) (p4info : P4Info) (insertEntry : Bool) :
    TableProgram Status :=
  sendWriteRequest (updateType insertEntry) (prepareFdbTunnelTableEntry {} learnInfo p4info insertEntry)

/-- `ReadL2ToTunnelV4TableEntry`. -/
def readL2ToTunnelV4TableEntry (learnInfo : MacLearningInfo) (p4info : P4Info) :
    TableProgram (StatusOr ReadResponse) :=
  sendReadRequest (encodeL2ToTunnelV4 {} learnInfo p4info false)

/-- `ReadL2ToTunnelV6TableEntry`. -/
def readL2ToTunnelV6TableEntry (learnInfo : MacLearningInfo) (p4info : P4Info) :
    TableProgram (StatusOr ReadResponse) :=
  sendReadRequest (encodeL2ToTunnelV6 {} learnInfo p4info false)

/-- `PrepareFdbTableV4TunnelEntry`: only the key is wanted, so `insert_entry` is ignored and
the `testing` flag stands in for it. -/
def prepareFdbTableV4TunnelEntry (entry : TableEntry) (learnInfo : MacLearningInfo) (p4info : P4Info)
    (_insertEntry : Bool) (testing : Bool) : TableEntry :=
  if learnInfo.tnlInfo.tunnelType = ovsTunnelVxlan then
    encodeFdbTableEntryforV4VxlanTunnel entry learnInfo p4info testing
  else if learnInfo.tnlInfo.tunnelType = ovsTunnelGeneve then
    encodeFdbTableEntryforV4GeneveTunnel entry learnInfo p4info testing
  else entry

/-- `ReadFdbTunnelTableEntry`. -/
def readFdbTunnelTableEntry (learnInfo : MacLearningInfo) (p4info : P4Info) (_adding : Bool) :
    TableProgram (StatusOr ReadResponse) :=
  sendReadRequest (prepareFdbTableV4TunnelEntry {} learnInfo p4info false false)

/-- `ReadFdbVlanTableEntry`. -/
def readFdbVlanTableEntry (learnInfo : MacLearningInfo) (p4info : P4Info) (_adding : Bool) :
    TableProgram (StatusOr ReadResponse) :=
  sendReadRequest (encodeFdbTxVlanTableEntry {} learnInfo p4info false)

/-- The record of an address found in the IPv6 tunnel table. -/
def markV6Tunnel (learnInfo : MacLearningInfo) : MacLearningInfo :=
  { learnInfo with
    isTunnel := true
    tnlInfo := { learnInfo.tnlInfo with
      localIp := { learnInfo.tnlInfo.localIp with family := afInet6 }
      remoteIp := { learnInfo.tnlInfo.remoteIp with family := afInet6 } } }

/-- `UpdateFdbTunnelInfo`: find out from the tunnel tables how the address was learned. -/
def updateFdbTunnelInfo (learnInfo : MacLearningInfo) (p4info : P4Info) :
    TableProgram MacLearningInfo := do
  let statusOrReadResponse ← readL2ToTunnelV4TableEntry learnInfo p4info
  let learnInfo :=
    if statusOrReadResponse.isOk then { learnInfo with isTunnel := true } else learnInfo
  if !learnInfo.isTunnel then
    let statusOrReadResponse ← readL2ToTunnelV6TableEntry learnInfo p4info
    if statusOrReadResponse.isOk then pure (markV6Tunnel learnInfo) else pure learnInfo
  else pure learnInfo

/-- `UpdateFdbSrcPortInfo`: replace the source port by the host port of its VSI. -/
def updateFdbSrcPortInfo (learnInfo : MacLearningInfo) (p4info : P4Info) :
    TableProgram (StatusOr MacLearningInfo) := do
  let hostSp ← getTxAccVsiPort p4info learnInfo.srcPort
  pure (hostSp.map fun srcPort => { learnInfo with srcPort := srcPort })

/-- The writes of `ConfigFdbTunnelEntry`, whose statuses are ignored. -/
def writeFdbTunnelEntries (learnInfo : MacLearningInfo) (insertEntry : Bool) (p4info : P4Info) :
    TableProgram Status := do
  let _ ← writeFdbTunnelTableEntry learnInfo p4info insertEntry
  let _ ← writeL2TunnelTableEntry learnInfo p4info insertEntry
  let _ ← writeFdbSmacTableEntry learnInfo p4info insertEntry
  pure okStatus

/-- `ConfigFdbTunnelEntry`. -/
def configFdbTunnelEntry (learnInfo : MacLearningInfo) (insertEntry : Bool) (p4info : P4Info) :
    TableProgram Status := do
  if insertEntry then
    let statusOrReadResponse ← readFdbTunnelTableEntry learnInfo p4info true
    if statusOrReadResponse.isOk then pure okStatus
    else writeFdbTunnelEntries learnInfo insertEntry p4info
  else writeFdbTunnelEntries learnInfo insertEntry p4info

/-- The last writes of `ConfigFdbVlanEntry`, whose statuses are ignored. -/
def writeFdbVlanEntries (learnInfo : MacLearningInfo) (insertEntry : Bool) (p4info : P4Info) :
    TableProgram Status := do
  let _ ← writeFdbTxVlanTableEntry learnInfo p4info insertEntry
  let _ ← writeFdbSmacTableEntry learnInfo p4info insertEntry
  pure okStatus

/-- `ConfigFdbVlanEntry`. -/
def configFdbVlanEntry (learnInfo : MacLearningInfo) (insertEntry : Bool) (p4info : P4Info) :
    TableProgram Status := do
  if insertEntry then
    let statusOrReadResponse ← readFdbVlanTableEntry learnInfo p4info true
    if statusOrReadResponse.isOk then pure okStatus
    else
      let _ ← writeFdbRxVlanTableEntry learnInfo p4info insertEntry
      match ← updateFdbSrcPortInfo learnInfo p4info with
      | .error status => pure (.error status)
      | .ok learnInfo => writeFdbVlanEntries learnInfo insertEntry p4info
  else writeFdbVlanEntries learnInfo insertEntry p4info

/-- `ConfigFdbEntry`. -/
def configFdbEntry (learnInfo : MacLearningInfo) (p4info : P4Info) (insertEntry : Bool) :
    TableProgram Status := do
  let learnInfo ← if !insertEntry then updateFdbTunnelInfo learnInfo p4info else pure learnInfo
  if learnInfo.isTunnel then configFdbTunnelEntry learnInfo insertEntry p4info
  else configFdbVlanEntry learnInfo insertEntry p4info

end NetworkingRecipe.Ovsp4rt.Es2k
