import NetworkingRecipe.Ovsp4rt.V2.TunnelEncoders
import NetworkingRecipe.Ovsp4rt.Es2k.PortEncoders
import NetworkingRecipe.Ovsp4rt.Es2k.TxAccVsi

/-!
# VLAN, source-port, and address-map encoders of the v2 core

The remaining encoders of `ovsp4rt_encoders.cc`, all of them for ES2K. The priority of a
source-port entry is set between its first match field and that field's identifier, which
touches nothing else.
-/

namespace NetworkingRecipe.Ovsp4rt.V2

open P4Runtime EntryM

/-- `EncodeVlanPushTableEntry`. -/
def encodeVlanPushTableEntry (vlanId : UInt16) (p4info : P4Info) (insertEntry : Bool) :
    EntryM Unit := do
  EntryM.setTableId (getTableId p4info Es2k.vlanPushModTable)
  addExact (getMatchFieldId p4info Es2k.vlanPushModTable "vmeta.common.mod_blob_ptr")
    (encodeByteValue [vlanId.toUInt32])
  if insertEntry then
    mutableAction
    setActionId (getActionId p4info Es2k.vlanPushModActionVlanPush)
    addPushVlanParams p4info Es2k.vlanPushModActionVlanPush vlanId.toUInt32

/-- `EncodeVlanPopTableEntry`. -/
def encodeVlanPopTableEntry (vlanId : UInt16) (p4info : P4Info) (insertEntry : Bool) :
    EntryM Unit := do
  EntryM.setTableId (getTableId p4info Es2k.vlanPopModTable)
  addExact (getMatchFieldId p4info Es2k.vlanPopModTable "vmeta.common.mod_blob_ptr")
    (encodeByteValue [vlanId.toUInt32])
  if insertEntry then
    mutableAction
    setActionId (getActionId p4info Es2k.vlanPopModActionVlanPop)

/-- `EncodeSrcPortTableEntry`. -/
def encodeSrcPortTableEntry (sp : SrcPortInfo) (p4info : P4Info) (insertEntry : Bool) :
    EntryM Unit := do
  EntryM.setTableId (getTableId p4info Es2k.sourcePortToBridgeMapTable)
  setPriority 1
  addTernary (getMatchFieldId p4info Es2k.sourcePortToBridgeMapTable
      Es2k.sourcePortToBridgeMapTableKeySrcPort)
    (encodeByteValue [(sp.srcPort >>> 8) &&& 0xff, sp.srcPort &&& 0xff])
    (encodeByteValue [0xff, 0xff])
  addTernary (getMatchFieldId p4info Es2k.sourcePortToBridgeMapTable
      Es2k.sourcePortToBridgeMapTableKeyVid)
    (encodeByteValue [(sp.vlanId.toUInt32 >>> 8) &&& 0x0f, sp.vlanId.toUInt32 &&& 0xff])
    (encodeByteValue [0x0f, 0xff])
  if insertEntry then
    mutableAction
    setActionId (getActionId p4info Es2k.sourcePortToBridgeMapTableActionSetBridgeId)
    addParam (getParamId p4info Es2k.sourcePortToBridgeMapTableActionSetBridgeId
      Es2k.actionSetBridgeIdParamBridgeId) (encodeByteValue [sp.bridgeId.toUInt32])

/-- The common body of the two address-map encoders. -/
def encodeIpMacMapEntry (names : Es2k.IpMacMapNames) (ipAddr : P4Ipaddr) (mac : MacAddr)
    (p4info : P4Info) (insertEntry : Bool) : EntryM Unit := do
  EntryM.setTableId (getTableId p4info names.table)
  addExact (getMatchFieldId p4info names.table names.key) (canonicalizeIp ipAddr.ip.sAddr)
  if insertEntry then
    mutableAction
    setActionId (getActionId p4info names.action)
    addParam (getParamId p4info names.action names.high)
      (encodeByteValue [(mac.get 0).toUInt32 &&& 0xff, (mac.get 1).toUInt32 &&& 0xff])
    addParam (getParamId p4info names.action names.mid)
      (encodeByteValue [(mac.get 2).toUInt32 &&& 0xff, (mac.get 3).toUInt32 &&& 0xff])
    addParam (getParamId p4info names.action names.low)
      (encodeByteValue [(mac.get 4).toUInt32 &&& 0xff, (mac.get 5).toUInt32 &&& 0xff])

/-- `EncodeSrcIpMacMapTableEntry`. -/
def encodeSrcIpMacMapTableEntry (ipInfo : IpMacMapInfo) (p4info : P4Info) (insertEntry : Bool) :
    EntryM Unit :=
  encodeIpMacMapEntry
    { table := "linux_networking_control.vm_src_ip4_mac_map_table"
      key := "ipv4_src"
      action := "linux_networking_control.vm_src_ip4_mac_map_action"
      high := "smac_high", mid := "smac_mid", low := "smac_low" }
    ipInfo.srcIpAddr ipInfo.srcMacAddr p4info insertEntry

/-- `EncodeDstIpMacMapTableEntry`. -/
def encodeDstIpMacMapTableEntry (ipInfo : IpMacMapInfo) (p4info : P4Info) (insertEntry : Bool) :
    EntryM Unit :=
  encodeIpMacMapEntry
    { table := "linux_networking_control.vm_dst_ip4_mac_map_table"
      key := "ipv4_dst"
      action := "linux_networking_control.vm_dst_ip4_mac_map_action"
      high := "dmac_high", mid := "dmac_mid", low := "dmac_low" }
    ipInfo.dstIpAddr ipInfo.dstMacAddr p4info insertEntry

/-- `EncodeTxAccVsiTableEntry`. -/
def encodeTxAccVsiTableEntry (sp : UInt32) (p4info : P4Info) : EntryM Unit := do
  EntryM.setTableId (getTableId p4info Es2k.txAccVsiTable)
  addExact (getMatchFieldId p4info Es2k.txAccVsiTable Es2k.txAccVsiTableKeyVsi)
    (encodeByteValue [sp - Es2k.es2kVportIdOffset])

end NetworkingRecipe.Ovsp4rt.V2
