import NetworkingRecipe.Ovsp4rt.EncodeUtils

/-!
# DPDK encoders and updates

The DPDK target has one forwarding entry for a tunnel and two for a VLAN, and it reads
nothing before it writes. Every update returns the status of its first failed write, and a
learning record that is neither a tunnel nor a VLAN is accepted without any request.

Ports, tunnel identifiers, and the tunnel type are cut to one byte by the encoders.
-/

namespace NetworkingRecipe.Ovsp4rt.Dpdk

open P4Runtime

/-! ### Names -/

def l2FwdTxTable : String := "linux_networking_control.l2_fwd_tx_table"
def l2FwdTxTableKeyDstMac : String := "dst_mac"
def l2FwdTxTableActionL2Fwd : String := "linux_networking_control.l2_fwd"
def l2FwdTxTableActionSetTunnel : String := "linux_networking_control.set_tunnel"
def l2FwdRxWithTunnelTable : String := "linux_networking_control.l2_fwd_rx_with_tunnel_table"
def l2FwdRxTableActionL2Fwd : String := "linux_networking_control.l2_fwd"
def actionL2FwdParamPort : String := "port"
def actionSetTunnelParamTunnelId : String := "tunnel_id"
def actionSetTunnelParamDstAddr : String := "dst_addr"
def vxlanEncapModTable : String := "linux_networking_control.vxlan_encap_mod_table"
def vxlanEncapModTableKeyVendormetaModDataPtr : String := "vendormeta_mod_data_ptr"
def actionVxlanEncap : String := "linux_networking_control.vxlan_encap"
def actionVxlanEncapParamSrcAddr : String := "src_addr"
def actionVxlanEncapParamDstAddr : String := "dst_addr"
def actionVxlanEncapParamDstPort : String := "dst_port"
def actionVxlanEncapParamVni : String := "vni"
def ipv4TunnelTermTable : String := "linux_networking_control.ipv4_tunnel_term_table"
def ipv4TunnelTermTableKeyTunnelType : String := "tunnel_type"
def ipv4TunnelTermTableKeyIpv4Src : String := "ipv4_src"
def ipv4TunnelTermTableKeyIpv4Dst : String := "ipv4_dst"
def actionDecapOuterIpv4 : String := "linux_networking_control.decap_outer_ipv4"
def actionDecapOuterIpv4ParamTunnelId : String := "tunnel_id"

/-- `TUNNEL_TYPE_VXLAN`. -/
def tunnelTypeVxlan : UInt32 := 2

/-! ### Encoders -/

/-- `EncodeL2FwdTxTablePrologue`: the key has no bridge. -/
def encodeL2FwdTxTablePrologue (entry : TableEntry) (learnInfo : MacLearningInfo)
    (p4info : P4Info) : TableEntry :=
  entry
    |> setTableId p4info l2FwdTxTable
    |> addExactMatch p4info l2FwdTxTable l2FwdTxTableKeyDstMac (canonicalizeMac learnInfo.macAddr)

/-- `EncodeFdbTxVlanTableEntry`. -/
def encodeFdbTxVlanTableEntry (entry : TableEntry) (learnInfo : MacLearningInfo) (p4info : P4Info)
    (insertEntry : Bool) : TableEntry :=
  encodeL2FwdTxTablePrologue entry learnInfo p4info
    |> setAction insertEntry (actionCall p4info l2FwdTxTableActionL2Fwd
        [actionParam p4info l2FwdTxTableActionL2Fwd actionL2FwdParamPort
          (encodeByteValue [learnInfo.vlnInfo.vlanId - 1])])

/-- `EncodeFdbRxVlanTableEntry`. -/
def encodeFdbRxVlanTableEntry (entry : TableEntry) (learnInfo : MacLearningInfo) (p4info : P4Info)
    (insertEntry : Bool) : TableEntry :=
  entry
    |> setTableId p4info l2FwdRxWithTunnelTable
    |> addExactMatch p4info l2FwdRxWithTunnelTable l2FwdTxTableKeyDstMac
        (canonicalizeMac learnInfo.macAddr)
    |> setAction insertEntry (actionCall p4info l2FwdTxTableActionL2Fwd
        [actionParam p4info l2FwdRxTableActionL2Fwd actionL2FwdParamPort
          (encodeByteValue [learnInfo.vlnInfo.vlanId - 1])])

/-- `EncodeFdbTableEntryforV4VxlanTunnel`. -/
def encodeFdbTableEntryforV4VxlanTunnel (entry : TableEntry) (learnInfo : MacLearningInfo)
    (p4info : P4Info) (insertEntry : Bool) : TableEntry :=
  encodeL2FwdTxTablePrologue entry learnInfo p4info
    |> setAction insertEntry (actionCall p4info l2FwdTxTableActionSetTunnel
        [actionParam p4info l2FwdTxTableActionSetTunnel actionSetTunnelParamTunnelId
          (encodeByteValue [learnInfo.tnlInfo.vni]),
         actionParam p4info l2FwdTxTableActionSetTunnel actionSetTunnelParamDstAddr
          (canonicalizeIp learnInfo.tnlInfo.remoteIp.ip.sAddr)])

/-- `EncodeVxlanEncapTableEntry`. -/
def encodeVxlanEncapTableEntry (entry : TableEntry) (tunnelInfo : TunnelInfo) (p4info : P4Info)
    (insertEntry : Bool) : TableEntry :=
  entry
    |> setTableId p4info vxlanEncapModTable
    |> addExactMatch p4info vxlanEncapModTable vxlanEncapModTableKeyVendormetaModDataPtr
        (encodeVniValue tunnelInfo.vni)
    |> setAction insertEntry (actionCall p4info actionVxlanEncap
        [actionParam p4info actionVxlanEncap actionVxlanEncapParamSrcAddr
          (canonicalizeIp tunnelInfo.localIp.ip.sAddr),
         actionParam p4info actionVxlanEncap actionVxlanEncapParamDstAddr
          (canonicalizeIp tunnelInfo.remoteIp.ip.sAddr),
         actionParam p4info actionVxlanEncap actionVxlanEncapParamDstPort
          (encodeUint16 (htons tunnelInfo.dstPort)),
         actionParam p4info actionVxlanEncap actionVxlanEncapParamVni (encodeVniValue tunnelInfo.vni)])

/-- `EncodeTunnelTermTableEntry`. -/
def encodeTunnelTermTableEntry (entry : TableEntry) (tunnelInfo : TunnelInfo) (p4info : P4Info)
    (insertEntry : Bool) : TableEntry :=
  entry
    |> addExactMatch p4info ipv4TunnelTermTable ipv4TunnelTermTableKeyIpv4Src
        (canonicalizeIp tunnelInfo.remoteIp.ip.sAddr)
    |> setTableId p4info ipv4TunnelTermTable
    |> addExactMatch p4info ipv4TunnelTermTable ipv4TunnelTermTableKeyTunnelType
        (encodeByteValue [tunnelTypeVxlan])
    |> addExactMatch p4info ipv4TunnelTermTable ipv4TunnelTermTableKeyIpv4Dst
        (canonicalizeIp tunnelInfo.localIp.ip.sAddr)
    |> setAction insertEntry (actionCall p4info actionDecapOuterIpv4
        [actionParam p4info actionDecapOuterIpv4 actionDecapOuterIpv4ParamTunnelId
          (encodeByteValue [tunnelInfo.vni])])

/-! ### Updates -/

/-- `WriteFdbTxVlanTableEntry`. -/
def writeFdbTxVlanTableEntry (learnInfo : MacLearningInfo) (p4info : P4Info) (insertEntry : Bool) :
    TableProgram Status :=
  sendWriteRequest (updateType insertEntry) (encodeFdbTxVlanTableEntry {} learnInfo p4info insertEntry)

/-- `WriteFdbRxVlanTableEntry`. -/
def writeFdbRxVlanTableEntry (learnInfo : MacLearningInfo) (p4info : P4Info) (insertEntry : Bool) :
    TableProgram Status :=
  sendWriteRequest (updateType insertEntry) (encodeFdbRxVlanTableEntry {} learnInfo p4info insertEntry)

/-- `WriteFdbTunnelTableEntry`: VXLAN over IPv4, whatever the record says. -/
def writeFdbTunnelTableEntry (learnInfo : MacLearningInfo) (p4info : P4Info) (insertEntry : Bool) :
    TableProgram Status :=
  sendWriteRequest (updateType insertEntry)
    (encodeFdbTableEntryforV4VxlanTunnel {} learnInfo p4info insertEntry)

/-- `ConfigFdbEntry`. -/
def configFdbEntry (learnInfo : MacLearningInfo) (p4info : P4Info) (insertEntry : Bool) :
    TableProgram Status := do
  if learnInfo.isTunnel then writeFdbTunnelTableEntry learnInfo p4info insertEntry
  else if learnInfo.isVlan then
    match ← writeFdbTxVlanTableEntry learnInfo p4info insertEntry with
    | .error status => pure (.error status)
    | .ok () => writeFdbRxVlanTableEntry learnInfo p4info insertEntry
  else pure okStatus

/-- `PrepareV4EncapTableEntry`. -/
def prepareV4EncapTableEntry (entry : TableEntry) (tunnelInfo : TunnelInfo) (p4info : P4Info)
    (insertEntry : Bool) : TableEntry :=
  encodeVxlanEncapTableEntry entry tunnelInfo p4info insertEntry

/-- `WriteEncapTableEntry`. -/
def writeEncapTableEntry (tunnelInfo : TunnelInfo) (p4info : P4Info) (insertEntry : Bool) :
    TableProgram Status :=
  sendWriteRequest (updateType insertEntry) (prepareV4EncapTableEntry {} tunnelInfo p4info insertEntry)

/-- `WriteTunnelTermTableEntry`. -/
def writeTunnelTermTableEntry (tunnelInfo : TunnelInfo) (p4info : P4Info) (insertEntry : Bool) :
    TableProgram Status :=
  sendWriteRequest (updateType insertEntry) (encodeTunnelTermTableEntry {} tunnelInfo p4info insertEntry)

/-- `ConfigTunnelEntry`. -/
def configTunnelEntry (tunnelInfo : TunnelInfo) (p4info : P4Info) (insertEntry : Bool) :
    TableProgram Status := do
  match ← writeEncapTableEntry tunnelInfo p4info insertEntry with
  | .error status => pure (.error status)
  | .ok () => writeTunnelTermTableEntry tunnelInfo p4info insertEntry

end NetworkingRecipe.Ovsp4rt.Dpdk
