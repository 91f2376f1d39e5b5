import NetworkingRecipe.Ovsp4rt.Es2k.TunnelEncoders

/-!
# ES2K encoders of the VLAN, source-port, and address-map tables

VLAN identifiers are cut to their low byte by the encoders, and the VLAN of a source port
is matched on its low twelve bits. The source-port entry is the only one with a priority,
because its match is ternary.
-/

namespace NetworkingRecipe.Ovsp4rt.Es2k

open P4Runtime

def vlanPushModTable : String := "linux_networking_control.vlan_push_mod_table"
def vlanPushModActionVlanPush : String := "linux_networking_control.vlan_push"
def vlanPopModTable : String := "linux_networking_control.vlan_pop_mod_table"
def vlanPopModActionVlanPop : String := "linux_networking_control.vlan_pop"
def sourcePortToBridgeMapTable : String := "linux_networking_control.source_port_to_bridge_map"
def sourcePortToBridgeMapTableKeySrcPort : String := "user_meta.cmeta.source_port"
def sourcePortToBridgeMapTableKeyVid : String := "hdrs.vlan_ext[vmeta.common.depth].hdr.vid"
def sourcePortToBridgeMapTableActionSetBridgeId : String := "linux_networking_control.set_bridge_id"
def actionSetBridgeIdParamBridgeId : String := "bridge_id"

/-- `EncodeVlanPushTableEntry`. -/
def encodeVlanPushTableEntry (entry : TableEntry) (vlanId : UInt16) (p4info : P4Info)
    (insertEntry : Bool) : TableEntry :=
  entry
    |> setTableId p4info vlanPushModTable
    |> addExactMatch p4info vlanPushModTable modBlobPtr (encodeByteValue [vlanId.toUInt32])
    |> setAction insertEntry (actionCall p4info vlanPushModActionVlanPush
        (pushVlanParams vlanPushModActionVlanPush vlanId.toUInt32 p4info))

/-- `EncodeVlanPopTableEntry`. -/
def encodeVlanPopTableEntry (entry : TableEntry) (vlanId : UInt16) (p4info : P4Info)
    (insertEntry : Bool) : TableEntry :=
  entry
    |> setTableId p4info vlanPopModTable
    |> addExactMatch p4info vlanPopModTable modBlobPtr (encodeByteValue [vlanId.toUInt32])
    |> setAction insertEntry (actionCall p4info vlanPopModActionVlanPop [])

/-- `EncodeSrcPortTableEntry`. -/
def encodeSrcPortTableEntry (entry : TableEntry) (sp : SrcPortInfo) (p4info : P4Info)
    (insertEntry : Bool) : TableEntry :=
  { entry with priority := 1 }
    |> setTableId p4info sourcePortToBridgeMapTable
    |> addTernaryMatch p4info sourcePortToBridgeMapTable sourcePortToBridgeMapTableKeySrcPort
        (encodeByteValue [(sp.srcPort >>> 8) &&& 0xff, sp.srcPort &&& 0xff])
        (encodeByteValue [0xff, 0xff])
    |> addTernaryMatch p4info sourcePortToBridgeMapTable sourcePortToBridgeMapTableKeyVid
        (encodeByteValue [(sp.vlanId.toUInt32 >>> 8) &&& 0x0f, sp.vlanId.toUInt32 &&& 0xff])
        (encodeByteValue [0x0f, 0xff])
    |> setAction insertEntry (actionCall p4info sourcePortToBridgeMapTableActionSetBridgeId
        [actionParam p4info sourcePortToBridgeMapTableActionSetBridgeId actionSetBridgeIdParamBridgeId
          (encodeByteValue [sp.bridgeId.toUInt32])])

/-- The names of one direction of the address map: table, key, action, and the action parameters for
the high, middle, and low part of the MAC address. -/
structure IpMacMapNames where
  table : String
  key : String
  action : String
  high : String
  mid : String
  low : String

/-- The common body of the two address-map encoders. -/
def encodeIpMacMapEntry (names : IpMacMapNames) (entry : TableEntry) (ipAddr : P4Ipaddr) (mac : MacAddr)
    (p4info : P4Info) (insertEntry : Bool) : TableEntry :=
  entry
    |> setTableId p4info names.table
    |> addExactMatch p4info names.table names.key (canonicalizeIp ipAddr.ip.sAddr)
    |> setAction insertEntry (actionCall p4info names.action
        [actionParam p4info names.action names.high
          (encodeByteValue [mac[0].toUInt32 &&& 0xff, mac[1].toUInt32 &&& 0xff]),
         actionParam p4info names.action names.mid
          (encodeByteValue [mac[2].toUInt32 &&& 0xff, mac[3].toUInt32 &&& 0xff]),
         actionParam p4info names.action names.low
          (encodeByteValue [mac[4].toUInt32 &&& 0xff, mac[5].toUInt32 &&& 0xff])])

/-- `EncodeSrcIpMacMapTableEntry`. -/
def encodeSrcIpMacMapTableEntry (entry : TableEntry) (ipInfo : IpMacMapInfo) (p4info : P4Info)
    (insertEntry : Bool) : TableEntry :=
  encodeIpMacMapEntry ⟨"linux_networking_control.vm_src_ip4_mac_map_table", "ipv4_src",
    "linux_networking_control.vm_src_ip4_mac_map_action", "smac_high", "smac_mid", "smac_low"⟩
    entry ipInfo.srcIpAddr ipInfo.srcMacAddr p4info insertEntry

/-- `EncodeDstIpMacMapTableEntry`. -/
def encodeDstIpMacMapTableEntry (entry : TableEntry) (ipInfo : IpMacMapInfo) (p4info : P4Info)
    (insertEntry : Bool) : TableEntry :=
  encodeIpMacMapEntry ⟨"linux_networking_control.vm_dst_ip4_mac_map_table", "ipv4_dst",
    "linux_networking_control.vm_dst_ip4_mac_map_action", "dmac_high", "dmac_mid", "dmac_low"⟩
    entry ipInfo.dstIpAddr ipInfo.dstMacAddr p4info insertEntry

end NetworkingRecipe.Ovsp4rt.Es2k
