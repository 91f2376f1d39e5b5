import NetworkingRecipe.Json.Value
import NetworkingRecipe.Ovsp4rt.Api

/-!
# Journal records of API inputs

What the journaling client writes down before an API function runs. The address of a
`p4_ipaddr` is recorded only for the two known families, and of the union in a learning
record only the arm that the flags select. Every record but that of a tunnel keeps its
input structure under `params`.
-/

namespace NetworkingRecipe.Ovsp4rt

/-- `v6addr.__u6_addr16`: the eight half words of the storage in memory order. -/
def IpAddr.u6Addr16 (ip : IpAddr) : List UInt16 :=
  ip.u6Addr32.toList.flatMap fun word : UInt32 => [word.toUInt16, (word >>> 16).toUInt16]

namespace Journal

/-! ### Structures -/

/-- `IpAddrToJson`. -/
def ipAddrToJson (json : Json) (info : P4Ipaddr) : Json :=
  let json := json
    |>.set "family" (.ofNat info.family.toNat)
    |>.set "prefix_len" (.ofNat info.prefixLen.toNat)
  if info.family = afInet then json.set "ipv4_addr" (.array [.ofNat info.ip.sAddr.toNat])
  else if info.family = afInet6 then
    json.set "ipv6_addr" (.array (info.ip.u6Addr16.map fun half => .ofNat half.toNat))
  else json

/-- `MacAddrToJson`. -/
def macAddrToJson (macAddr : MacAddr) : Json :=
  .array (macAddr.toList.map fun byte => .ofNat byte.toNat)

/-- `IpMacMapInfoToJson`. -/
def ipMacMapInfoToJson (json : Json) (info : IpMacMapInfo) : Json :=
  json
    |>.set "src_mac_addr" (macAddrToJson info.srcMacAddr)
    |>.set "dst_mac_addr" (macAddrToJson info.dstMacAddr)
    |>.set "src_ip_addr" (ipAddrToJson .null info.srcIpAddr)
    |>.set "dst_ip_addr" (ipAddrToJson .null info.dstIpAddr)

/-- The number of a VLAN mode in its C enumeration. -/
def vlanModeNumber : P4VlanMode → ℕ
  | .access => 0
  | .trunk => 1
  | .nativeTagged => 2
  | .nativeUntagged => 3
  | .dot1qTunnel => 4
  | .unsupported => 5

/-- `PortVlanInfoToJson`. -/
def portVlanInfoToJson (json : Json) (info : PortVlanInfo) : Json :=
  json
    |>.set "port_vlan_mode" (.ofNat (vlanModeNumber info.portVlanMode))
    |>.set "port_vlan" (.number info.portVlan.toInt)

/-- `SrcPortInfoToJson`. -/
def srcPortInfoToJson (json : Json) (info : SrcPortInfo) : Json :=
  json
    |>.set "bridge_id" (.ofNat info.bridgeId.toNat)
    |>.set "vlan_id" (.ofNat info.vlanId.toNat)
    |>.set "src_port" (.ofNat info.srcPort.toNat)

/-- `TunnelInfoToJson`. -/
def tunnelInfoToJson (json : Json) (info : TunnelInfo) : Json :=
  json
    |>.set "ifindex" (.ofNat info.ifindex.toNat)
    |>.set "port_id" (.ofNat info.portId.toNat)
    |>.set "src_port" (.ofNat info.srcPort.toNat)
    |>.set "local_ip" (ipAddrToJson .null info.localIp)
    |>.set "remote_ip" (ipAddrToJson .null info.remoteIp)
    |>.set "dst_port" (.ofNat info.dstPort.toNat)
    |>.set "vni" (.ofNat info.vni.toNat)
    |>.set "vlan_info" (portVlanInfoToJson .null info.vlanInfo)
    |>.set "bridge_id" (.ofNat info.bridgeId.toNat)
    |>.set "tunnel_type" (.ofNat info.tunnelType.toNat)

/-- `VlanInfoToJson`. -/
def vlanInfoToJson (json : Json) (info : VlanInfo) : Json :=
  json.set "vlan_id" (.ofNat info.vlanId.toNat)

/-- `MacLearningInfoToJson`: one arm of the union at most. -/
def macLearningInfoToJson (json : Json) (info : MacLearningInfo) : Json :=
  let json := json
    |>.set "is_tunnel" (.bool info.isTunnel)
    |>.set "is_vlan" (.bool info.isVlan)
    |>.set "mac_addr" (macAddrToJson info.macAddr)
    |>.set "bridge_id" (.ofNat info.bridgeId.toNat)
    |>.set "src_port" (.ofNat info.srcPort.toNat)
    |>.set "rx_src_port" (.ofNat info.rxSrcPort.toNat)
    |>.set "vlan_info" (portVlanInfoToJson .null info.vlanInfo)
  if info.isTunnel then json.set "tnl_info" (tunnelInfoToJson .null info.tnlInfo)
  else if info.isVlan then json.set "vln_info" (vlanInfoToJson .null info.vlnInfo)
  else json

/-! ### Records -/

/-- The common start of the records. -/
def initRecord (funcName : String) (version : ℕ) : Json :=
  Json.null
    |>.set "func_name" (.string funcName)
    |>.set "version" (.ofNat version)

/-- The common body of the records that keep their structure under `params`. -/
def encodeStruct (funcName : String) (version : ℕ) (structName paramName : String) (info : Json)
    (insertEntry : Bool) : Json :=
  initRecord funcName version
    |>.set "struct_name" (.string structName)
    |>.set "params" (Json.null |>.set paramName info |>.set "insert_entry" (.bool insertEntry))

/-- `EncodeIpMacMapInfo`. -/
def encodeIpMacMapInfo (funcName : String) (info : IpMacMapInfo) (insertEntry : Bool) : Json :=
  encodeStruct funcName 1 "ip_mac_map_info" "ip_mac_map_info" (ipMacMapInfoToJson .null info) insertEntry

/-- `EncodeMacLearningInfo`. -/
def encodeMacLearningInfo (funcName : String) (info : MacLearningInfo) (insertEntry : Bool) : Json :=
  encodeStruct funcName 1 "mac_learning_info" "learn_info" (macLearningInfoToJson .null info) insertEntry

/-- `EncodeSrcPortInfo`. -/
def encodeSrcPortInfo (funcName : String) (info : SrcPortInfo) (insertEntry : Bool) : Json :=
  encodeStruct funcName 1 "src_port_info" "port_info" (srcPortInfoToJson .null info) insertEntry

/-- `EncodeTunnelInfo`: the structure is stored in the record itself, next to `params`. -/
def encodeTunnelInfo (funcName : String) (info : TunnelInfo) (insertEntry : Bool) : Json :=
  initRecord funcName 1
    |>.set "struct_name" (.string "tunnel_info")
    |>.set "tunnel_info" (tunnelInfoToJson .null info)
    |>.set "params" (Json.null |>.set "insert_entry" (.bool insertEntry))

/-- `EncodeVlanId`: there is no structure to name. -/
def encodeVlanId (funcName : String) (vlanId : UInt16) (insertEntry : Bool) : Json :=
  initRecord funcName 1
    |>.set "params" (Json.null
      |>.set "vlan_id" (.ofNat vlanId.toNat)
      |>.set "insert_entry" (.bool insertEntry))

end Journal

/-- The inputs that the journal tells apart. -/
inductive JournalInput where
  | macLearningInfo (info : MacLearningInfo)
  | ipMacMapInfo (info : IpMacMapInfo)
  | tunnelInfo (info : TunnelInfo)
  | srcPortInfo (info : SrcPortInfo)
  | vlanId (id : UInt16)
  deriving DecidableEq, Repr

/-- `Journal::recordInputs`, with one overload for each kind of input. -/
def JournalInput.record (funcName : String) (insertEntry : Bool) : JournalInput → Json
  | macLearningInfo info => Journal.encodeMacLearningInfo funcName info insertEntry
  | ipMacMapInfo info => Journal.encodeIpMacMapInfo funcName info insertEntry
  | tunnelInfo info => Journal.encodeTunnelInfo funcName info insertEntry
  | srcPortInfo info => Journal.encodeSrcPortInfo funcName info insertEntry
  | vlanId id => Journal.encodeVlanId funcName id insertEntry

namespace ApiFunction

/-- The C name of a function, `__func__` in its body. -/
def funcName : ApiFunction → String
  | es2kFdb _ | dpdkFdb _ => "ovsp4rt_config_fdb_entry"
  | es2kTunnel _ | dpdkTunnel _ => "ovsp4rt_config_tunnel_entry"
  | es2kVlan _ => "ovsp4rt_config_vlan_entry"
  | es2kSrcPort _ => "ovsp4rt_config_src_port_entry"
  | es2kTunnelSrcPort _ => "ovsp4rt_config_tunnel_src_port_entry"
  | es2kRxTunnelSrc _ => "ovsp4rt_config_rx_tunnel_src_entry"
  | es2kIpMacMap _ => "ovsp4rt_config_ip_mac_map_entry"

/-- The input of a function. -/
def input : ApiFunction → JournalInput
  | es2kFdb info | dpdkFdb info => .macLearningInfo info
  | es2kTunnel info | dpdkTunnel info | es2kRxTunnelSrc info => .tunnelInfo info
  | es2kVlan vlanId => .vlanId vlanId
  | es2kSrcPort info | es2kTunnelSrcPort info => .srcPortInfo info
  | es2kIpMacMap info => .ipMacMapInfo info

end ApiFunction

/-- The record that the journaling client writes of a call. The address of the server is not part of it. -/
def ApiCall.record (call : ApiCall) : Json :=
  call.function.input.record call.function.funcName call.insertEntry

end NetworkingRecipe.Ovsp4rt
