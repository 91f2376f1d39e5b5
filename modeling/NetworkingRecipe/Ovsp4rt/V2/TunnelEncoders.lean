import NetworkingRecipe.Ovsp4rt.V2.FdbEncoders
import NetworkingRecipe.Ovsp4rt.Es2k.TunnelEncoders

/-!
# Tunnel encoders of the v2 core

The encapsulation, decapsulation, tunnel-termination, and receive-tunnel encoders of
`ovsp4rt_encoders.cc`. Only the VXLAN encapsulation and the IPv4 termination exist for both
targets; they keep their own bodies with both sides of the conditionals.

The other encapsulation and decapsulation encoders are families: one body, and for each
member the names it uses.
-/

namespace NetworkingRecipe.Ovsp4rt.V2

open P4Runtime EntryM

/-! ### Encapsulation -/

/-- The names used by an encapsulation encoder. -/
structure EncapNames where
  table : String
  key : String
  action : String
  srcAddr : String := "src_addr"
  dstAddr : String := "dst_addr"
  srcPort : String := "src_port"
  dstPort : String := "dst_port"
  vni : String := "vni"

/-- The names of the VXLAN encapsulation; the DPDK action has no source port. -/
def vxlanEncapNames : Target → EncapNames
  | .dpdk =>
    { table := "linux_networking_control.vxlan_encap_mod_table"
      key := "vendormeta_mod_data_ptr"
      action := "linux_networking_control.vxlan_encap" }
  | .es2k =>
    { table := "linux_networking_control.vxlan_encap_mod_table"
      key := "vmeta.common.mod_blob_ptr"
      action := "linux_networking_control.vxlan_encap" }

/-- `EncodeVxlanEncapTableEntry`. -/
def encodeVxlanEncapTableEntry (target : Target) (tunnelInfo : TunnelInfo) (p4info : P4Info)
    (insertEntry : Bool) : EntryM Unit := do
  let names := vxlanEncapNames target
  EntryM.setTableId (getTableId p4info names.table)
  addExact (getMatchFieldId p4info names.table names.key) (encodeVniValue tunnelInfo.vni)
  if insertEntry then
    mutableAction
    setActionId (getActionId p4info names.action)
    addParam (getParamId p4info names.action names.srcAddr)
      (canonicalizeIp tunnelInfo.localIp.ip.sAddr)
    addParam (getParamId p4info names.action names.dstAddr)
      (canonicalizeIp tunnelInfo.remoteIp.ip.sAddr)
    match target with
    | .es2k =>
      addParam (getParamId p4info names.action names.srcPort)
        (encodeUint16 (htons tunnelInfo.dstPort * 2))
    | .dpdk => pure ()
    addParam (getParamId p4info names.action names.dstPort) (encodeUint16 (htons tunnelInfo.dstPort))
    addParam (getParamId p4info names.action names.vni) (encodeVniValue tunnelInfo.vni)

/-- The common body of the encapsulation encoders that exist for ES2K only. -/
def encodeEncapEntry (names : EncapNames) (address : IpAddr → Bytes) (tunnelInfo : TunnelInfo)
    (p4info : P4Info) (insertEntry : Bool) : EntryM Unit := do
  EntryM.setTableId (getTableId p4info names.table)
  addExact (getMatchFieldId p4info names.table names.key) (encodeVniValue tunnelInfo.vni)
  if insertEntry then
    mutableAction
    setActionId (getActionId p4info names.action)
    addParam (getParamId p4info names.action names.srcAddr) (address tunnelInfo.localIp.ip)
    addParam (getParamId p4info names.action names.dstAddr) (address tunnelInfo.remoteIp.ip)
    addParam (getParamId p4info names.action names.srcPort)
      (encodeUint16 (htons tunnelInfo.dstPort * 2))
    addParam (getParamId p4info names.action names.dstPort) (encodeUint16 (htons tunnelInfo.dstPort))
    addParam (getParamId p4info names.action names.vni) (encodeVniValue tunnelInfo.vni)

/-- The IPv4 address of an endpoint. -/
def v4addr (ip : IpAddr) : Bytes := canonicalizeIp ip.sAddr

/-- `EncodeGeneveEncapTableEntry`. -/
def encodeGeneveEncapTableEntry :=
  encodeEncapEntry
    { table := "linux_networking_control.geneve_encap_mod_table"
      key := "vmeta.common.mod_blob_ptr"
      action := "linux_networking_control.geneve_encap" } v4addr

/-- `EncodeV6VxlanEncapTableEntry`. -/
def encodeV6VxlanEncapTableEntry :=
  encodeEncapEntry
    { table := "linux_networking_control.vxlan_encap_v6_mod_table"
      key := "vmeta.common.mod_blob_ptr"
      action := "linux_networking_control.vxlan_encap_v6" } canonicalizeIpv6

/-- `EncodeV6GeneveEncapTableEntry`. -/
def encodeV6GeneveEncapTableEntry :=
  encodeEncapEntry
    { table := "linux_networking_control.geneve_encap_v6_mod_table"
      key := "vmeta.common.mod_blob_ptr"
      action := "linux_networking_control.geneve_encap_v6" } canonicalizeIpv6

/-- `EncodeVxlanEncapAndVlanPopTableEntry`. -/
def encodeVxlanEncapAndVlanPopTableEntry :=
  encodeEncapEntry
    { table := "linux_networking_control.vxlan_encap_vlan_pop_mod_table"
      key := "vmeta.common.mod_blob_ptr"
      action := "linux_networking_control.vxlan_encap_vlan_pop" } v4addr

/-- `EncodeGeneveEncapAndVlanPopTableEntry`. -/
def encodeGeneveEncapAndVlanPopTableEntry :=
  encodeEncapEntry
    { table := "linux_networking_control.geneve_encap_vlan_pop_mod_table"
      key := "vmeta.common.mod_blob_ptr"
      action := "linux_networking_control.geneve_encap_vlan_pop" } v4addr

/-- `EncodeV6VxlanEncapAndVlanPopTableEntry`. -/
def encodeV6VxlanEncapAndVlanPopTableEntry :=
  encodeEncapEntry
    { table := "linux_networking_control.vxlan_encap_v6_vlan_pop_mod_table"
      key := "vmeta.common.mod_blob_ptr"
      action := "linux_networking_control.vxlan_encap_v6_vlan_pop" } canonicalizeIpv6

/-- `EncodeV6GeneveEncapAndVlanPopTableEntry`. -/
def encodeV6GeneveEncapAndVlanPopTableEntry :=
  encodeEncapEntry
    { table := "linux_networking_control.geneve_encap_v6_vlan_pop_mod_table"
      key := "vmeta.common.mod_blob_ptr"
      action := "linux_networking_control.geneve_encap_v6_vlan_pop" } canonicalizeIpv6

/-! ### Decapsulation -/

/-- The names used by a decapsulation encoder. -/
structure DecapNames where
  table : String
  key : String := "vmeta.common.mod_blob_ptr"
  action : String

/-- The common body of `EncodeVxlanDecapModTableEntry` and `EncodeGeneveDecapModTableEntry`. -/
def encodeDecapModEntry (names : DecapNames) (tunnelInfo : TunnelInfo) (p4info : P4Info)
    (insertEntry : Bool) : EntryM Unit := do
  EntryM.setTableId (getTableId p4info names.table)
  addExact (getMatchFieldId p4info names.table names.key) (encodeVniValue tunnelInfo.vni)
  if insertEntry then
    mutableAction
    setActionId (getActionId p4info names.action)

/-- `EncodeVxlanDecapModTableEntry`. -/
def encodeVxlanDecapModTableEntry :=
  encodeDecapModEntry
    { table := "linux_networking_control.vxlan_decap_mod_table"
      action := "linux_networking_control.vxlan_decap_outer_hdr" }

/-- `EncodeGeneveDecapModTableEntry`. -/
def encodeGeneveDecapModTableEntry :=
  encodeDecapModEntry
    { table := "linux_networking_control.geneve_decap_mod_table"
      action := "linux_networking_control.geneve_decap_outer_hdr" }

/-- The three parameters of an action that pushes a VLAN header. -/
def addPushVlanParams (p4info : P4Info) (aName : String) (vlan : UInt32) : EntryM Unit := do
  addParam (getParamId p4info aName "pcp") (encodeByteValue [1])
  addParam (getParamId p4info aName "dei") (encodeByteValue [0])
  addParam (getParamId p4info aName "vlan_id") (encodeByteValue [vlan])

/-- The common body of the two encoders that also push a VLAN header. -/
def encodeDecapModAndVlanPushEntry (names : DecapNames) (tunnelInfo : TunnelInfo) (p4info : P4Info)
    (insertEntry : Bool) : EntryM Unit := do
  EntryM.setTableId (getTableId p4info names.table)
  addExact (getMatchFieldId p4info names.table names.key) (encodeVniValue tunnelInfo.vni)
  if insertEntry then
    mutableAction
    setActionId (getActionId p4info names.action)
    addPushVlanParams p4info names.action tunnelInfo.vlanInfo.portVlan.toUInt32

/-- `EncodeVxlanDecapModAndVlanPushTableEntry`. -/
def encodeVxlanDecapModAndVlanPushTableEntry :=
  encodeDecapModAndVlanPushEntry
    { table := "linux_networking_control.vxlan_decap_and_push_vlan_mod_table"
      action := "linux_networking_control.vxlan_decap_and_push_vlan" }

/-- `EncodeGeneveDecapModAndVlanPushTableEntry`. -/
def encodeGeneveDecapModAndVlanPushTableEntry :=
  encodeDecapModAndVlanPushEntry
    { table := "linux_networking_control.geneve_decap_and_push_vlan_mod_table"
      action := "linux_networking_control.geneve_decap_and_push_vlan" }

/-! ### Tunnel termination -/

/-- The ES2K choice of a decapsulation action by VLAN mode and tunnel type. -/
def setDecapAction (tunnelInfo : TunnelInfo) (p4info : P4Info) : EntryM Unit := do
  if tunnelInfo.vlanInfo.portVlanMode = .nativeUntagged then
    if tunnelInfo.tunnelType = ovsTunnelVxlan then
      setTunnelAction p4info Es2k.actionSetVxlanDecapOuterHdrAndPushVlan tunnelInfo.vni
    else if tunnelInfo.tunnelType = ovsTunnelGeneve then
      setTunnelAction p4info Es2k.actionSetGeneveDecapOuterHdrAndPushVlan tunnelInfo.vni
  else
    if tunnelInfo.tunnelType = ovsTunnelVxlan then
      setTunnelAction p4info Es2k.actionSetVxlanDecapOuterHdr tunnelInfo.vni
    else if tunnelInfo.tunnelType = ovsTunnelGeneve then
      setTunnelAction p4info Es2k.actionSetGeneveDecapOuterHdr tunnelInfo.vni

/-- `IPV4_TUNNEL_TERM_TABLE`. -/
def ipv4TunnelTermTable : Target → String
  | .dpdk => Dpdk.ipv4TunnelTermTable
  | .es2k => Es2k.ipv4TunnelTermTable

/-- `IPV4_TUNNEL_TERM_TABLE_KEY_IPV4_SRC`. -/
def ipv4TunnelTermTableKeyIpv4Src : Target → String
  | .dpdk => Dpdk.ipv4TunnelTermTableKeyIpv4Src
  | .es2k => Es2k.ipv4TunnelTermTableKeyIpv4Src

/-- `EncodeTunnelTermTableEntry`. -/
def encodeTunnelTermTableEntry (target : Target) (tunnelInfo : TunnelInfo) (p4info : P4Info)
    (insertEntry : Bool) : EntryM Unit := do
  addExact (getMatchFieldId p4info (ipv4TunnelTermTable target) (ipv4TunnelTermTableKeyIpv4Src target))
    (canonicalizeIp tunnelInfo.remoteIp.ip.sAddr)
  match target with
  | .es2k =>
    EntryM.setTableId (getTableId p4info Es2k.ipv4TunnelTermTable)
    addExact (getMatchFieldId p4info Es2k.ipv4TunnelTermTable Es2k.ipv4TunnelTermTableKeyBridgeId)
      (encodeByteValue [tunnelInfo.bridgeId.toUInt32])
    addExact (getMatchFieldId p4info Es2k.ipv4TunnelTermTable Es2k.ipv4TunnelTermTableKeyVni)
      (encodeVniValue tunnelInfo.vni)
  | .dpdk =>
    EntryM.setTableId (getTableId p4info Dpdk.ipv4TunnelTermTable)
    addExact (getMatchFieldId p4info Dpdk.ipv4TunnelTermTable Dpdk.ipv4TunnelTermTableKeyTunnelType)
      (encodeByteValue [Dpdk.tunnelTypeVxlan])
    addExact (getMatchFieldId p4info Dpdk.ipv4TunnelTermTable Dpdk.ipv4TunnelTermTableKeyIpv4Dst)
      (canonicalizeIp tunnelInfo.localIp.ip.sAddr)
  match target with
  | .dpdk =>
    if insertEntry then
      mutableAction
      setActionId (getActionId p4info Dpdk.actionDecapOuterIpv4)
      addParam (getParamId p4info Dpdk.actionDecapOuterIpv4 Dpdk.actionDecapOuterIpv4ParamTunnelId)
        (encodeByteValue [tunnelInfo.vni])
  | .es2k =>
    if insertEntry then
      mutableAction
      setDecapAction tunnelInfo p4info

/-- `EncodeV6TunnelTermTableEntry`. -/
def encodeV6TunnelTermTableEntry (tunnelInfo : TunnelInfo) (p4info : P4Info) (insertEntry : Bool) :
    EntryM Unit := do
  EntryM.setTableId (getTableId p4info Es2k.ipv6TunnelTermTable)
  addExact (getMatchFieldId p4info Es2k.ipv6TunnelTermTable Es2k.ipv6TunnelTermTableKeyBridgeId)
    (encodeByteValue [tunnelInfo.bridgeId.toUInt32])
  addExact (getMatchFieldId p4info Es2k.ipv6TunnelTermTable Es2k.ipv6TunnelTermTableKeyIpv6Src)
    (canonicalizeIpv6 tunnelInfo.remoteIp.ip)
  addExact (getMatchFieldId p4info Es2k.ipv6TunnelTermTable Es2k.ipv6TunnelTermTableKeyVni)
    (encodeVniValue tunnelInfo.vni)
  if insertEntry then
    mutableAction
    setDecapAction tunnelInfo p4info

/-! ### Receive tunnels -/

/-- The common body of the two receive-tunnel encoders. -/
def encodeRxTunnelEntry (table keyVni keySrc aName : String) (address : IpAddr → Bytes)
    (tunnelInfo : TunnelInfo) (p4info : P4Info) (insertEntry : Bool) : EntryM Unit := do
  EntryM.setTableId (getTableId p4info table)
  addExact (getMatchFieldId p4info table keyVni) (encodeVniValue tunnelInfo.vni)
  addExact (getMatchFieldId p4info table keySrc) (address tunnelInfo.remoteIp.ip)
  if insertEntry then
    mutableAction
    setActionId (getActionId p4info aName)
    addParam (getParamId p4info aName Es2k.actionSetSrcPort)
      (encodeByteValue [(tunnelInfo.srcPort >>> 8) &&& 0xff, tunnelInfo.srcPort &&& 0xff])

/-- `EncodeRxTunnelTableEntry`. -/
def encodeRxTunnelTableEntry :=
  encodeRxTunnelEntry "linux_networking_control.rx_ipv4_tunnel_source_port" "vni" "ipv4_src"
    "linux_networking_control.set_source_port" v4addr

/-- `EncodeV6RxTunnelTableEntry`. -/
def encodeV6RxTunnelTableEntry :=
  encodeRxTunnelEntry "linux_networking_control.rx_ipv6_tunnel_source_port" "vni" "ipv6_src"
    "linux_networking_control.set_source_port" canonicalizeIpv6

end NetworkingRecipe.Ovsp4rt.V2
