import NetworkingRecipe.Ovsp4rt.EncodeUtils

/-!
# ES2K encoders of the forwarding database

The encoders that build l2_fwd_tx, l2_fwd_rx, l2_fwd_smac, l2_to_tunnel_v4, and
l2_to_tunnel_v6 entries from a learning record, with the table, key, action, and parameter
names of the ES2K name mapping. Each takes the entry to fill in and returns it; the
diagnostic detail that the source records for its log messages is left out.

The VXLAN and Geneve tunnel encoders differ only in their action names, so both apply one
definition. Address families that differ leave the touched action empty, as in the source.
-/

namespace NetworkingRecipe.Ovsp4rt.Es2k

open P4Runtime

/-! ### Names -/

def l2FwdSmacTable : String := "linux_networking_control.l2_fwd_smac_table"
def l2FwdSmacTableKeySa : String := "hdrs.mac[vmeta.common.depth].sa"
def l2FwdSmacTableKeyBridgeId : String := "user_meta.pmeta.bridge_id"
def l2FwdSmacTableActionNoAction : String := "NoAction"

def l2FwdTxTable : String := "linux_networking_control.l2_fwd_tx_table"
def l2FwdTxTableKeyDstMac : String := "dst_mac"
def l2FwdTxTableKeyBridgeId : String := "user_meta.pmeta.bridge_id"
def l2FwdTxTableActionL2Fwd : String := "linux_networking_control.l2_fwd"
def l2FwdTxTableActionRemoveVlanAndFwd : String := "linux_networking_control.remove_vlan_and_fwd"
def actionL2FwdParamPort : String := "port"
def actionRemoveVlanAndFwdParamPortId : String := "port_id"
def actionRemoveVlanAndFwdParamVlanPtr : String := "vlan_ptr"
def actionParamTunnelId : String := "tunnel_id"

def l2FwdRxTable : String := "linux_networking_control.l2_fwd_rx_table"
def l2FwdRxTableKeyDstMac : String := "dst_mac"
def l2FwdRxTableKeyBridgeId : String := "user_meta.pmeta.bridge_id"
def l2FwdRxTableActionL2Fwd : String := "linux_networking_control.l2_fwd"

def l2ToTunnelV4Table : String := "linux_networking_control.l2_to_tunnel_v4"
def l2ToTunnelV4KeyDa : String := "hdrs.mac[vmeta.common.depth].da"
def l2ToTunnelV4ActionSetTunnelV4 : String := "linux_networking_control.set_tunnel_v4"
def actionSetTunnelV4ParamDstAddr : String := "dst_addr"

def l2ToTunnelV6Table : String := "linux_networking_control.l2_to_tunnel_v6"
def l2ToTunnelV6KeyDa : String := "hdrs.mac[vmeta.common.depth].da"
def l2ToTunnelV6ActionSetTunnelV6 : String := "linux_networking_control.set_tunnel_v6"

/-- The four address parameters of set_tunnel_v6, in order. -/
def tunnelV6ParamName : List String := ["ipv6_1", "ipv6_2", "ipv6_3", "ipv6_4"]

/-- The l2_fwd_tx actions of one tunnel type. -/
structure UnderlayActions where
  setUnderlayV4 : String
  popVlanSetUnderlayV4 : String
  setUnderlayV6 : String
  popVlanSetUnderlayV6 : String

/-- The l2_fwd_tx actions for VXLAN. -/
def vxlanUnderlayActions : UnderlayActions where
  setUnderlayV4 := "linux_networking_control.set_vxlan_underlay_v4"
  popVlanSetUnderlayV4 := "linux_networking_control.pop_vlan_set_vxlan_underlay_v4"
  setUnderlayV6 := "linux_networking_control.set_vxlan_underlay_v6"
  popVlanSetUnderlayV6 := "linux_networking_control.pop_vlan_set_vxlan_underlay_v6"

/-- The l2_fwd_tx actions for Geneve. -/
def geneveUnderlayActions : UnderlayActions where
  setUnderlayV4 := "linux_networking_control.set_geneve_underlay_v4"
  popVlanSetUnderlayV4 := "linux_networking_control.pop_vlan_set_geneve_underlay_v4"
  setUnderlayV6 := "linux_networking_control.set_geneve_underlay_v6"
  popVlanSetUnderlayV6 := "linux_networking_control.pop_vlan_set_geneve_underlay_v6"

/-- The five tables that hold learned MAC addresses. -/
def fdbTableNames : List String :=
  [l2FwdTxTable, l2FwdRxTable, l2FwdSmacTable, l2ToTunnelV4Table, l2ToTunnelV6Table]

/-! ### Encoders -/

/-- `EncodeFdbSmacTableEntry`. -/
def encodeFdbSmacTableEntry (entry : TableEntry) (learnInfo : MacLearningInfo) (p4info : P4Info)
    (insertEntry : Bool) : TableEntry :=
  entry
    |> setTableId p4info l2FwdSmacTable
    |> addExactMatch p4info l2FwdSmacTable l2FwdSmacTableKeySa (canonicalizeMac learnInfo.macAddr)
    |> addExactMatch p4info l2FwdSmacTable l2FwdSmacTableKeyBridgeId
        (encodeByteValue [learnInfo.bridgeId.toUInt32])
    |> setAction insertEntry (actionCall p4info l2FwdSmacTableActionNoAction [])

/-- `EncodeL2FwdTxTablePrologue`: the key of an l2_fwd_tx entry. -/
def encodeL2FwdTxTablePrologue (entry : TableEntry) (learnInfo : MacLearningInfo)
    (p4info : P4Info) : TableEntry :=
  entry
    |> setTableId p4info l2FwdTxTable
    |> addExactMatch p4info l2FwdTxTable l2FwdTxTableKeyDstMac (canonicalizeMac learnInfo.macAddr)
    |> addExactMatch p4info l2FwdTxTable l2FwdTxTableKeyBridgeId
        (encodeByteValue [learnInfo.bridgeId.toUInt32])

/-- The action of a VLAN-learned l2_fwd_tx entry. -/
def fdbTxVlanAction (learnInfo : MacLearningInfo) (p4info : P4Info) : Action :=
  if learnInfo.vlanInfo.portVlanMode = .nativeUntagged then
    actionCall p4info l2FwdTxTableActionRemoveVlanAndFwd
      [actionParam p4info l2FwdTxTableActionRemoveVlanAndFwd actionRemoveVlanAndFwdParamPortId
        (encodeByteValue [learnInfo.srcPort]),
       actionParam p4info l2FwdTxTableActionRemoveVlanAndFwd actionRemoveVlanAndFwdParamVlanPtr
        (encodeByteValue [learnInfo.vlanInfo.portVlan.toUInt32])]
  else
    actionCall p4info l2FwdTxTableActionL2Fwd
      [actionParam p4info l2FwdTxTableActionL2Fwd actionL2FwdParamPort
        (encodeByteValue [learnInfo.srcPort])]

/-- `EncodeFdbTxVlanTableEntry`. -/
def encodeFdbTxVlanTableEntry (entry : TableEntry) (learnInfo : MacLearningInfo) (p4info : P4Info)
    (insertEntry : Bool) : TableEntry :=
  encodeL2FwdTxTablePrologue entry learnInfo p4info
    |> setAction insertEntry (fdbTxVlanAction learnInfo p4info)

/-- `EncodeFdbRxVlanTableEntry`. -/
def encodeFdbRxVlanTableEntry (entry : TableEntry) (learnInfo : MacLearningInfo) (p4info : P4Info)
    (insertEntry : Bool) : TableEntry :=
  entry
    |> setTableId p4info l2FwdRxTable
    |> addExactMatch p4info l2FwdRxTable l2FwdRxTableKeyDstMac (canonicalizeMac learnInfo.macAddr)
    |> addExactMatch p4info l2FwdRxTable l2FwdRxTableKeyBridgeId
        (encodeByteValue [learnInfo.bridgeId.toUInt32])
    |> setAction insertEntry (actionCall p4info l2FwdRxTableActionL2Fwd
        [actionParam p4info l2FwdRxTableActionL2Fwd actionL2FwdParamPort
          (encodeByteValue [learnInfo.rxSrcPort])])

/-- A tunnel action with its only parameter, the tunnel identifier. -/
def tunnelIdAction (p4info : P4Info) (aName : String) (vni : UInt32) : Action :=
  actionCall p4info aName [actionParam p4info aName actionParamTunnelId (encodeTunnelId vni)]

/-- The action of a tunnel-learned l2_fwd_tx entry. -/
def fdbTunnelAction (names : UnderlayActions) (learnInfo : MacLearningInfo) (p4info : P4Info) : Action :=
  if learnInfo.tnlInfo.bothFamilies afInet then
    if learnInfo.vlanInfo.portVlanMode = .nativeUntagged then
      tunnelIdAction p4info names.popVlanSetUnderlayV4 learnInfo.tnlInfo.vni
    else tunnelIdAction p4info names.setUnderlayV4 learnInfo.tnlInfo.vni
  else if learnInfo.tnlInfo.bothFamilies afInet6 then
    if learnInfo.vlanInfo.portVlanMode = .nativeUntagged then
      tunnelIdAction p4info names.popVlanSetUnderlayV6 learnInfo.tnlInfo.vni
    else tunnelIdAction p4info names.setUnderlayV6 learnInfo.tnlInfo.vni
  else {}

/-- The common body of the two tunnel encoders. -/
def encodeFdbTableEntryforTunnel (names : UnderlayActions) (entry : TableEntry)
    (learnInfo : MacLearningInfo) (p4info : P4Info) (insertEntry : Bool) : TableEntry :=
  encodeL2FwdTxTablePrologue entry learnInfo p4info
    |> setAction insertEntry (fdbTunnelAction names learnInfo p4info)

/-- `EncodeFdbTableEntryforV4VxlanTunnel`. -/
def encodeFdbTableEntryforV4VxlanTunnel :=
  encodeFdbTableEntryforTunnel vxlanUnderlayActions

/-- `EncodeFdbTableEntryforV4GeneveTunnel`. -/
def encodeFdbTableEntryforV4GeneveTunnel :=
  encodeFdbTableEntryforTunnel geneveUnderlayActions

/-- `EncodeL2ToTunnelV4`. -/
def encodeL2ToTunnelV4 (entry : TableEntry) (learnInfo : MacLearningInfo) (p4info : P4Info)
    (insertEntry : Bool) : TableEntry :=
  entry
    |> setTableId p4info l2ToTunnelV4Table
    |> addExactMatch p4info l2ToTunnelV4Table l2ToTunnelV4KeyDa (canonicalizeMac learnInfo.macAddr)
    |> setAction insertEntry (actionCall p4info l2ToTunnelV4ActionSetTunnelV4
        [actionParam p4info l2ToTunnelV4ActionSetTunnelV4 actionSetTunnelV4ParamDstAddr
          (canonicalizeIp learnInfo.tnlInfo.remoteIp.ip.sAddr)])

/-- `EncodeL2ToTunnelV6`. -/
def encodeL2ToTunnelV6 (entry : TableEntry) (learnInfo : MacLearningInfo) (p4info : P4Info)
    (insertEntry : Bool) : TableEntry :=
  entry
    |> setTableId p4info l2ToTunnelV6Table
    |> addExactMatch p4info l2ToTunnelV6Table l2ToTunnelV6KeyDa (canonicalizeMac learnInfo.macAddr)
    |> setAction insertEntry (actionCall p4info l2ToTunnelV6ActionSetTunnelV6
        (List.zipWith
          (fun paramName word =>
            actionParam p4info l2ToTunnelV6ActionSetTunnelV6 paramName (canonicalizeIp word))
          tunnelV6ParamName learnInfo.tnlInfo.remoteIp.ip.u6Addr32.toList))

end NetworkingRecipe.Ovsp4rt.Es2k
