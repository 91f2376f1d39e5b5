import Mathlib.Data.UInt

/-!
# The public input structures of ovs-p4rt

These follow `ovs-p4rt.h` field by field, with the same fixed-width types; every default
is the zero of a cleared C structure. Unions are modelled by their storage on a
little-endian host: an IP address is its four 32-bit words, of which the first is also the
IPv4 address, and the VLAN arm of a learning record shares the first word of its tunnel arm.

`tunnel_type` and the address families are plain bytes in the header, so unsupported values
are inputs here too.
-/

namespace NetworkingRecipe.Ovsp4rt

/-- The VLAN modes of a port. -/
inductive P4VlanMode where
  | access | trunk | nativeTagged | nativeUntagged | dot1qTunnel | unsupported
  deriving DecidableEq, Repr, Inhabited

/-- `OVS_TUNNEL_VXLAN`. -/
def ovsTunnelVxlan : UInt8 := 1

/-- `OVS_TUNNEL_GENEVE`. -/
def ovsTunnelGeneve : UInt8 := 2

/-- The address family `AF_INET`. -/
def afInet : UInt8 := 2

/-- The address family `AF_INET6`. -/
def afInet6 : UInt8 := 10

/-- The storage shared by `v4addr` and `v6addr`. -/
structure IpAddr where
  u6Addr32 : Vector UInt32 4 := Vector.replicate 4 0
  deriving DecidableEq, Repr, Inhabited

namespace IpAddr

/-- `v4addr.s_addr`: the first word of the storage. -/
def sAddr (ip : IpAddr) : UInt32 := ip.u6Addr32[0]

/-- The bytes of one word in memory order. -/
def wordBytes (word : UInt32) : List UInt8 :=
  [word.toUInt8, (word >>> 8).toUInt8, (word >>> 16).toUInt8, (word >>> 24).toUInt8]

/-- `v6addr.__u6_addr8`: the sixteen bytes of the storage in memory order. -/
def u6Addr8 (ip : IpAddr) : List UInt8 := ip.u6Addr32.toList.flatMap wordBytes

end IpAddr

/-- An IP address with its family. -/
structure P4Ipaddr where
  family : UInt8 := 0
  prefixLen : UInt8 := 0
  ip : IpAddr := {}
  deriving DecidableEq, Repr, Inhabited

/-- The VLAN settings of a port. -/
structure PortVlanInfo where
  portVlanMode : P4VlanMode := .access
  portVlan : Int32 := 0
  deriving DecidableEq, Repr, Inhabited

/-- A tunnel as configured in the switch. -/
structure TunnelInfo where
  ifindex : UInt32 := 0
  portId : UInt32 := 0
  srcPort : UInt32 := 0
  localIp : P4Ipaddr := {}
  remoteIp : P4Ipaddr := {}
  dstPort : UInt16 := 0
  vni : UInt32 := 0
  vlanInfo : PortVlanInfo := {}
  bridgeId : UInt8 := 0
  tunnelType : UInt8 := 0
  deriving DecidableEq, Repr, Inhabited

/-- Both endpoint addresses belong to the given family. -/
def TunnelInfo.bothFamilies (tunnelInfo : TunnelInfo) (family : UInt8) : Bool :=
  tunnelInfo.localIp.family == family && tunnelInfo.remoteIp.family == family

/-- A source port attached to a bridge. -/
structure SrcPortInfo where
  bridgeId : UInt8 := 0
  vlanId : UInt16 := 0
  srcPort : UInt32 := 0
  deriving DecidableEq, Repr, Inhabited

/-- The VLAN arm of a learning record. -/
structure VlanInfo where
  vlanId : UInt32 := 0
  deriving DecidableEq, Repr, Inhabited

/-- The six bytes of a MAC address. -/
abbrev MacAddr := Vector UInt8 6

/-- A learned MAC address. The union of `tnl_info` and `vln_info` is kept as its tunnel arm. -/
structure MacLearningInfo where
  isTunnel : Bool := false
  isVlan : Bool := false
  macAddr : MacAddr := Vector.replicate 6 0
  bridgeId : UInt8 := 0
  srcPort : UInt32 := 0
  rxSrcPort : UInt32 := 0
  vlanInfo : PortVlanInfo := {}
  tnlInfo : TunnelInfo := {}
  deriving DecidableEq, Repr, Inhabited

/-- The VLAN arm of the union, which occupies the first word of the tunnel arm. -/
def MacLearningInfo.vlnInfo (learnInfo : MacLearningInfo) : VlanInfo :=
  ⟨learnInfo.tnlInfo.ifindex⟩

/-- The addresses of a learned flow. -/
structure IpMacMapInfo where
  srcMacAddr : MacAddr := Vector.replicate 6 0
  dstMacAddr : MacAddr := Vector.replicate 6 0
  srcIpAddr : P4Ipaddr := {}
  dstIpAddr : P4Ipaddr := {}
  deriving DecidableEq, Repr, Inhabited

end NetworkingRecipe.Ovsp4rt
