import NetworkingRecipe.Ovsp4rt.Es2k.FdbEncoders

/-!
# ES2K encoders of the tunnel tables

The encoders of the encapsulation, decapsulation, tunnel-termination, and receive-tunnel
tables. The eight encapsulation encoders differ only in their names and in how they write
an address, so each applies one definition to its own names; the same holds for the
decapsulation encoders.

The source port of an encapsulation is not the caller's: it is twice the destination port,
modulo 2^16, to work around a limitation of the P4 program. The two tunnel-termination
encoders add their match fields in different orders and keep their own bodies.
-/

namespace NetworkingRecipe.Ovsp4rt.Es2k

open P4Runtime

def modBlobPtr : String := "vmeta.common.mod_blob_ptr"
def actionEncapParamSrcAddr : String := "src_addr"
def actionEncapParamDstAddr : String := "dst_addr"
def actionEncapParamSrcPort : String := "src_port"
def actionEncapParamDstPort : String := "dst_port"
def actionEncapParamVni : String := "vni"

/-! ### Encapsulation -/

/-- The table, the action, and the address format of one encapsulation encoder. -/
structure EncapNames where
  table : String
  action : String
  address : IpAddr → Bytes

/-- The common body of the encapsulation encoders. -/
def encodeEncapEntry (names : EncapNames) (entry : TableEntry) (tunnelInfo : TunnelInfo)
    (p4info : P4Info) (insertEntry : Bool) : TableEntry :=
  entry
    |> setTableId p4info names.table
    |> addExactMatch p4info names.table modBlobPtr (encodeVniValue tunnelInfo.vni)
    |> setAction insertEntry (actionCall p4info names.action
        [actionParam p4info names.action actionEncapParamSrcAddr (names.address tunnelInfo.localIp.ip),
         actionParam p4info names.action actionEncapParamDstAddr (names.address tunnelInfo.remoteIp.ip),
         actionParam p4info names.action actionEncapParamSrcPort
          (encodeUint16 (htons tunnelInfo.dstPort * 2)),
         actionParam p4info names.action actionEncapParamDstPort
          (encodeUint16 (htons tunnelInfo.dstPort)),
         actionParam p4info names.action actionEncapParamVni (encodeVniValue tunnelInfo.vni)])

/-- The IPv4 address format. -/
def encodeV4Addr (ip : IpAddr) : Bytes := canonicalizeIp ip.sAddr

/-- `EncodeVxlanEncapTableEntry`. -/
def encodeVxlanEncapTableEntry :=
  encodeEncapEntry ⟨"linux_networking_control.vxlan_encap_mod_table",
    "linux_networking_control.vxlan_encap", encodeV4Addr⟩

/-- `EncodeGeneveEncapTableEntry`. -/
def encodeGeneveEncapTableEntry :=
  encodeEncapEntry ⟨"linux_networking_control.geneve_encap_mod_table",
    "linux_networking_control.geneve_encap", encodeV4Addr⟩

/-- `EncodeV6VxlanEncapTableEntry`. -/
def encodeV6VxlanEncapTableEntry :=
  encodeEncapEntry ⟨"linux_networking_control.vxlan_encap_v6_mod_table",
    "linux_networking_control.vxlan_encap_v6", canonicalizeIpv6⟩

/-- `EncodeV6GeneveEncapTableEntry`. -/
def encodeV6GeneveEncapTableEntry :=
  encodeEncapEntry ⟨"linux_networking_control.geneve_encap_v6_mod_table",
    "linux_networking_control.geneve_encap_v6", canonicalizeIpv6⟩

/-- `EncodeVxlanEncapAndVlanPopTableEntry`. -/
def encodeVxlanEncapAndVlanPopTableEntry :=
  encodeEncapEntry ⟨"linux_networking_control.vxlan_encap_vlan_pop_mod_table",
    "linux_networking_control.vxlan_encap_vlan_pop", encodeV4Addr⟩

/-- `EncodeGeneveEncapAndVlanPopTableEntry`. -/
def encodeGeneveEncapAndVlanPopTableEntry :=
  encodeEncapEntry ⟨"linux_networking_control.geneve_encap_vlan_pop_mod_table",
    "linux_networking_control.geneve_encap_vlan_pop", encodeV4Addr⟩

/-- `EncodeV6VxlanEncapAndVlanPopTableEntry`. -/
def encodeV6VxlanEncapAndVlanPopTableEntry :=
  encodeEncapEntry ⟨"linux_networking_control.vxlan_encap_v6_vlan_pop_mod_table",
    "linux_networking_control.vxlan_encap_v6_vlan_pop", canonicalizeIpv6⟩

/-- `EncodeV6GeneveEncapAndVlanPopTableEntry`. -/
def encodeV6GeneveEncapAndVlanPopTableEntry :=
  encodeEncapEntry ⟨"linux_networking_control.geneve_encap_v6_vlan_pop_mod_table",
    "linux_networking_control.geneve_encap_v6_vlan_pop", canonicalizeIpv6⟩

/-! ### Decapsulation -/

/-- The common body of the decapsulation encoders; the parameters are those of the action. -/
def encodeDecapEntry (table aName : String) (params : TunnelInfo → P4Info → List ActionParam)
    (entry : TableEntry) (tunnelInfo : TunnelInfo) (p4info : P4Info) (insertEntry : Bool) : TableEntry :=
  entry
    |> setTableId p4info table
    |> addExactMatch p4info table modBlobPtr (encodeVniValue tunnelInfo.vni)
    |> setAction insertEntry (actionCall p4info aName (params tunnelInfo p4info))

/-- The parameters of an action that pushes a VLAN header: priority 1, not discardable, and the low
byte of the VLAN. -/
def pushVlanParams (aName : String) (vlan : UInt32) (p4info : P4Info) : List ActionParam :=
  [actionParam p4info aName "pcp" (encodeByteValue [1]),
   actionParam p4info aName "dei" (encodeByteValue [0]),
   actionParam p4info aName "vlan_id" (encodeByteValue [vlan])]

/-- `EncodeVxlanDecapModTableEntry`. -/
def encodeVxlanDecapModTableEntry :=
  encodeDecapEntry "linux_networking_control.vxlan_decap_mod_table"
    "linux_networking_control.vxlan_decap_outer_hdr" fun _ _ => []

/-- `EncodeGeneveDecapModTableEntry`. -/
def encodeGeneveDecapModTableEntry :=
  encodeDecapEntry "linux_networking_control.geneve_decap_mod_table"
    "linux_networking_control.geneve_decap_outer_hdr" fun _ _ => []

/-- `EncodeVxlanDecapModAndVlanPushTableEntry`. -/
def encodeVxlanDecapModAndVlanPushTableEntry :=
  encodeDecapEntry "linux_networking_control.vxlan_decap_and_push_vlan_mod_table"
    "linux_networking_control.vxlan_decap_and_push_vlan" fun tunnelInfo =>
      pushVlanParams "linux_networking_control.vxlan_decap_and_push_vlan"
        tunnelInfo.vlanInfo.portVlan.toUInt32

/-- `EncodeGeneveDecapModAndVlanPushTableEntry`. -/
def encodeGeneveDecapModAndVlanPushTableEntry :=
  encodeDecapEntry "linux_networking_control.geneve_decap_and_push_vlan_mod_table"
    "linux_networking_control.geneve_decap_and_push_vlan" fun tunnelInfo =>
      pushVlanParams "linux_networking_control.geneve_decap_and_push_vlan"
        tunnelInfo.vlanInfo.portVlan.toUInt32

/-! ### Tunnel termination -/

def ipv4TunnelTermTable : String := "linux_networking_control.ipv4_tunnel_term_table"
def ipv4TunnelTermTableKeyBridgeId : String := "user_meta.pmeta.bridge_id"
def ipv4TunnelTermTableKeyIpv4Src : String := "ipv4_src"
def ipv4TunnelTermTableKeyVni : String := "vni"
def ipv6TunnelTermTable : String := "linux_networking_control.ipv6_tunnel_term_table"
def ipv6TunnelTermTableKeyBridgeId : String := "user_meta.pmeta.bridge_id"
def ipv6TunnelTermTableKeyIpv6Src : String := "ipv6_src"
def ipv6TunnelTermTableKeyVni : String := "vni"
def actionSetVxlanDecapOuterHdr : String := "linux_networking_control.set_vxlan_decap_outer_hdr"
def actionSetVxlanDecapOuterHdrAndPushVlan : String :=
  "linux_networking_control.set_vxlan_decap_outer_and_push_vlan"
def actionSetGeneveDecapOuterHdr : String := "linux_networking_control.set_geneve_decap_outer_hdr"
def actionSetGeneveDecapOuterHdrAndPushVlan : String :=
  "linux_networking_control.set_geneve_decap_outer_and_push_vlan"

/-- The action of a tunnel-termination entry; an unknown tunnel type leaves it empty. -/
def tunnelTermAction (tunnelInfo : TunnelInfo) (p4info : P4Info) : Action :=
  if tunnelInfo.vlanInfo.portVlanMode = .nativeUntagged then
    if tunnelInfo.tunnelType = ovsTunnelVxlan then
      tunnelIdAction p4info actionSetVxlanDecapOuterHdrAndPushVlan tunnelInfo.vni
    else if tunnelInfo.tunnelType = ovsTunnelGeneve then
      tunnelIdAction p4info actionSetGeneveDecapOuterHdrAndPushVlan tunnelInfo.vni
    else {}
  else if tunnelInfo.tunnelType = ovsTunnelVxlan then
    tunnelIdAction p4info actionSetVxlanDecapOuterHdr tunnelInfo.vni
  else if tunnelInfo.tunnelType = ovsTunnelGeneve then
    tunnelIdAction p4info actionSetGeneveDecapOuterHdr tunnelInfo.vni
  else {}

/-- `EncodeTunnelTermTableEntry`. -/
def encodeTunnelTermTableEntry (entry : TableEntry) (tunnelInfo : TunnelInfo) (p4info : P4Info)
    (insertEntry : Bool) : TableEntry :=
  entry
    |> addExactMatch p4info ipv4TunnelTermTable ipv4TunnelTermTableKeyIpv4Src
        (canonicalizeIp tunnelInfo.remoteIp.ip.sAddr)
    |> setTableId p4info ipv4TunnelTermTable
    |> addExactMatch p4info ipv4TunnelTermTable ipv4TunnelTermTableKeyBridgeId
        (encodeByteValue [tunnelInfo.bridgeId.toUInt32])
    |> addExactMatch p4info ipv4TunnelTermTable ipv4TunnelTermTableKeyVni (encodeVniValue tunnelInfo.vni)
    |> setAction insertEntry (tunnelTermAction tunnelInfo p4info)

/-- `EncodeV6TunnelTermTableEntry`. -/
def encodeV6TunnelTermTableEntry (entry : TableEntry) (tunnelInfo : TunnelInfo) (p4info : P4Info)
    (insertEntry : Bool) : TableEntry :=
  entry
    |> setTableId p4info ipv6TunnelTermTable
    |> addExactMatch p4info ipv6TunnelTermTable ipv6TunnelTermTableKeyBridgeId
        (encodeByteValue [tunnelInfo.bridgeId.toUInt32])
    |> addExactMatch p4info ipv6TunnelTermTable ipv6TunnelTermTableKeyIpv6Src
        (canonicalizeIpv6 tunnelInfo.remoteIp.ip)
    |> addExactMatch p4info ipv6TunnelTermTable ipv6TunnelTermTableKeyVni (encodeVniValue tunnelInfo.vni)
    |> setAction insertEntry (tunnelTermAction tunnelInfo p4info)

/-! ### Receive tunnels -/

def rxTunnelSourcePortTableKeyVni : String := "vni"
def rxTunnelSourcePortTableActionSetSrcPort : String := "linux_networking_control.set_source_port"
def actionSetSrcPort : String := "source_port"

/-- The common body of the receive-tunnel encoders. -/
def encodeRxTunnelEntry (table keySrc : String) (address : IpAddr → Bytes) (entry : TableEntry)
    (tunnelInfo : TunnelInfo) (p4info : P4Info) (insertEntry : Bool) : TableEntry :=
  entry
    |> setTableId p4info table
    |> addExactMatch p4info table rxTunnelSourcePortTableKeyVni (encodeVniValue tunnelInfo.vni)
    |> addExactMatch p4info table keySrc (address tunnelInfo.remoteIp.ip)
    |> setAction insertEntry (actionCall p4info rxTunnelSourcePortTableActionSetSrcPort
        [actionParam p4info rxTunnelSourcePortTableActionSetSrcPort actionSetSrcPort
          (encodeByteValue [(tunnelInfo.srcPort >>> 8) &&& 0xff, tunnelInfo.srcPort &&& 0xff])])

/-- `EncodeRxTunnelTableEntry`. -/
def encodeRxTunnelTableEntry :=
  encodeRxTunnelEntry "linux_networking_control.rx_ipv4_tunnel_source_port" "ipv4_src" encodeV4Addr

/-- `EncodeV6RxTunnelTableEntry`. -/
def encodeV6RxTunnelTableEntry :=
  encodeRxTunnelEntry "linux_networking_control.rx_ipv6_tunnel_source_port" "ipv6_src" canonicalizeIpv6

end NetworkingRecipe.Ovsp4rt.Es2k
