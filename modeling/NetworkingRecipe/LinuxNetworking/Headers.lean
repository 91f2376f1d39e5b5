import NetworkingRecipe.P4.Packet

/-!
# Protocol headers

The headers that the Linux Networking program knows, bit for bit, and the header stack of a
packet. The stack has an outer and an inner layer of the same kinds of header with the tunnel
header between them.
-/

namespace NetworkingRecipe.LinuxNetworking

open Bits P4

/-- The ether types, protocols and ports that the parser selects on. -/
def ETHERTYPE_IPV4 : BitVec 16 := 0x0800

@[inherit_doc ETHERTYPE_IPV4] def ETHERTYPE_ARP : BitVec 16 := 0x0806

@[inherit_doc ETHERTYPE_IPV4] def ETHERTYPE_VLAN : BitVec 16 := 0x8100

@[inherit_doc ETHERTYPE_IPV4] def IP_PROTOCOL_TCP : BitVec 8 := 0x06

@[inherit_doc ETHERTYPE_IPV4] def IP_PROTOCOL_UDP : BitVec 8 := 0x11

@[inherit_doc ETHERTYPE_IPV4] def IP_PROTOCOL_ICMP : BitVec 8 := 0x01

@[inherit_doc ETHERTYPE_IPV4] def IP_PROTOCOLS_UDP_PORT_VXLAN : BitVec 16 := 4789

/-- The tunnel type that the parser records. -/
def TUNNEL_TYPE_VXLAN : BitVec 8 := 2

/-- The `ethernet_t` header. -/
structure Ethernet where
  dstAddr : BitVec 48
  srcAddr : BitVec 48
  etherType : BitVec 16
  deriving DecidableEq, Repr

/-- The `vlan_t` header. -/
structure Vlan where
  pcpCfiVid : BitVec 16
  etherType : BitVec 16
  deriving DecidableEq, Repr

/-- The `ipv4_t` header. -/
structure Ipv4 where
  versionIhl : BitVec 8
  dscpEcn : BitVec 8
  totalLen : BitVec 16
  identification : BitVec 16
  flagsFragOffset : BitVec 16
  ttl : BitVec 8
  protocol : BitVec 8
  headerChecksum : BitVec 16
  srcAddr : BitVec 32
  dstAddr : BitVec 32
  deriving DecidableEq, Repr

/-- The `udp_t` header. -/
structure Udp where
  srcPort : BitVec 16
  dstPort : BitVec 16
  hdrLength : BitVec 16
  checksum : BitVec 16
  deriving DecidableEq, Repr

/-- The `tcp_t` header. -/
structure Tcp where
  srcPort : BitVec 16
  dstPort : BitVec 16
  seqNo : BitVec 32
  ackNo : BitVec 32
  dataOffsetRes : BitVec 8
  flags : BitVec 8
  window : BitVec 16
  checksum : BitVec 16
  urgentPtr : BitVec 16
  deriving DecidableEq, Repr

/-- The `icmp_t` header. -/
structure Icmp where
  type : BitVec 8
  code : BitVec 8
  checksum : BitVec 16
  deriving DecidableEq, Repr

/-- The `arp_t` header. -/
structure Arp where
  hwType : BitVec 16
  protoType : BitVec 16
  hwAddrLen : BitVec 8
  protoAddrLen : BitVec 8
  opcode : BitVec 16
  senderHwAddr : BitVec 48
  senderProtoAddr : BitVec 32
  targetHwAddr : BitVec 48
  targetProtoAddr : BitVec 32
  deriving DecidableEq, Repr

/-- The `vxlan_t` header. -/
structure Vxlan where
  flags : BitVec 8
  reserved : BitVec 24
  vni : BitVec 24
  reserved2 : BitVec 8
  deriving DecidableEq, Repr

/-- The layout of an Ethernet header. -/
def Ethernet.codec : Codec Ethernet :=
  ((Codec.bitVec 48).prod ((Codec.bitVec 48).prod (Codec.bitVec 16))).map
    { toFun := fun (dstAddr, srcAddr, etherType) => ⟨dstAddr, srcAddr, etherType⟩
      invFun := fun header => (header.dstAddr, header.srcAddr, header.etherType)
      left_inv := fun _ => rfl
      right_inv := fun _ => rfl }

/-- The layout of a VLAN tag. -/
def Vlan.codec : Codec Vlan :=
  ((Codec.bitVec 16).prod (Codec.bitVec 16)).map
    { toFun := fun (pcpCfiVid, etherType) => ⟨pcpCfiVid, etherType⟩
      invFun := fun header => (header.pcpCfiVid, header.etherType)
      left_inv := fun _ => rfl
      right_inv := fun _ => rfl }

/-- The layout of an IPv4 header. -/
def Ipv4.codec : Codec Ipv4 :=
  ((Codec.bitVec 8).prod <| (Codec.bitVec 8).prod <| (Codec.bitVec 16).prod <|
    (Codec.bitVec 16).prod <| (Codec.bitVec 16).prod <| (Codec.bitVec 8).prod <|
    (Codec.bitVec 8).prod <| (Codec.bitVec 16).prod <| (Codec.bitVec 32).prod (Codec.bitVec 32)).map
    { toFun := fun (versionIhl, dscpEcn, totalLen, identification, flagsFragOffset, ttl, protocol,
          headerChecksum, srcAddr, dstAddr) =>
        ⟨versionIhl, dscpEcn, totalLen, identification, flagsFragOffset, ttl, protocol,
          headerChecksum, srcAddr, dstAddr⟩
      invFun := fun header => (header.versionIhl, header.dscpEcn, header.totalLen,
        header.identification, header.flagsFragOffset, header.ttl, header.protocol,
        header.headerChecksum, header.srcAddr, header.dstAddr)
      left_inv := fun _ => rfl
      right_inv := fun _ => rfl }

/-- The layout of a UDP header. -/
def Udp.codec : Codec Udp :=
  ((Codec.bitVec 16).prod <| (Codec.bitVec 16).prod <| (Codec.bitVec 16).prod (Codec.bitVec 16)).map
    { toFun := fun (srcPort, dstPort, hdrLength, checksum) => ⟨srcPort, dstPort, hdrLength, checksum⟩
      invFun := fun header => (header.srcPort, header.dstPort, header.hdrLength, header.checksum)
      left_inv := fun _ => rfl
      right_inv := fun _ => rfl }

/-- The layout of a TCP header. -/
def Tcp.codec : Codec Tcp :=
  ((Codec.bitVec 16).prod <| (Codec.bitVec 16).prod <| (Codec.bitVec 32).prod <|
    (Codec.bitVec 32).prod <| (Codec.bitVec 8).prod <| (Codec.bitVec 8).prod <|
    (Codec.bitVec 16).prod <| (Codec.bitVec 16).prod (Codec.bitVec 16)).map
    { toFun := fun (srcPort, dstPort, seqNo, ackNo, dataOffsetRes, flags, window, checksum, urgentPtr) =>
        ⟨srcPort, dstPort, seqNo, ackNo, dataOffsetRes, flags, window, checksum, urgentPtr⟩
      invFun := fun header => (header.srcPort, header.dstPort, header.seqNo, header.ackNo,
        header.dataOffsetRes, header.flags, header.window, header.checksum, header.urgentPtr)
      left_inv := fun _ => rfl
      right_inv := fun _ => rfl }

/-- The layout of an ICMP header. -/
def Icmp.codec : Codec Icmp :=
  ((Codec.bitVec 8).prod ((Codec.bitVec 8).prod (Codec.bitVec 16))).map
    { toFun := fun (type, code, checksum) => ⟨type, code, checksum⟩
      invFun := fun header => (header.type, header.code, header.checksum)
      left_inv := fun _ => rfl
      right_inv := fun _ => rfl }

/-- The layout of an ARP header. -/
def Arp.codec : Codec Arp :=
  ((Codec.bitVec 16).prod <| (Codec.bitVec 16).prod <| (Codec.bitVec 8).prod <|
    (Codec.bitVec 8).prod <| (Codec.bitVec 16).prod <| (Codec.bitVec 48).prod <|
    (Codec.bitVec 32).prod <| (Codec.bitVec 48).prod (Codec.bitVec 32)).map
    { toFun := fun (hwType, protoType, hwAddrLen, protoAddrLen, opcode, senderHwAddr,
          senderProtoAddr, targetHwAddr, targetProtoAddr) =>
        ⟨hwType, protoType, hwAddrLen, protoAddrLen, opcode, senderHwAddr, senderProtoAddr,
          targetHwAddr, targetProtoAddr⟩
      invFun := fun header => (header.hwType, header.protoType, header.hwAddrLen,
        header.protoAddrLen, header.opcode, header.senderHwAddr, header.senderProtoAddr,
        header.targetHwAddr, header.targetProtoAddr)
      left_inv := fun _ => rfl
      right_inv := fun _ => rfl }

/-- The layout of a VXLAN header. -/
def Vxlan.codec : Codec Vxlan :=
  ((Codec.bitVec 8).prod <| (Codec.bitVec 24).prod <| (Codec.bitVec 24).prod (Codec.bitVec 8)).map
    { toFun := fun (flags, reserved, vni, reserved2) => ⟨flags, reserved, vni, reserved2⟩
      invFun := fun header => (header.flags, header.reserved, header.vni, header.reserved2)
      left_inv := fun _ => rfl
      right_inv := fun _ => rfl }

@[simp] theorem Ethernet.size_codec : Ethernet.codec.size = 112 :=
  rfl

@[simp] theorem Vlan.size_codec : Vlan.codec.size = 32 :=
  rfl

@[simp] theorem Ipv4.size_codec : Ipv4.codec.size = 160 :=
  rfl

@[simp] theorem Udp.size_codec : Udp.codec.size = 64 :=
  rfl

@[simp] theorem Tcp.size_codec : Tcp.codec.size = 160 :=
  rfl

@[simp] theorem Icmp.size_codec : Icmp.codec.size = 32 :=
  rfl

@[simp] theorem Arp.size_codec : Arp.codec.size = 224 :=
  rfl

@[simp] theorem Vxlan.size_codec : Vxlan.codec.size = 64 :=
  rfl

/-- One layer of the header stack. -/
structure Layer where
  ethernet : Header Ethernet := none
  vlan0 : Header Vlan := none
  vlan1 : Header Vlan := none
  arp : Header Arp := none
  ipv4 : Header Ipv4 := none
  udp : Header Udp := none
  tcp : Header Tcp := none
  icmp : Header Icmp := none
  deriving DecidableEq, Repr

/-- The headers of a packet; the fields of `headers_t` named `outer_…` are those of the outer layer. -/
structure Headers where
  outer : Layer := {}
  vxlan : Header Vxlan := none
  inner : Layer := {}
  deriving DecidableEq, Repr

/-- The local metadata that the program reads or writes. -/
structure LocalMetadata where
  exceptionPacket : BitVec 8
  controlPacket : BitVec 8
  nexthopId : BitVec 16
  rifModMapId : BitVec 16
  vlanId : BitVec 16
  isTunnel : BitVec 8
  hash : BitVec 16
  ipv4DstMatch : BitVec 32
  tunnelId : BitVec 24
  tunType : BitVec 8
  deriving DecidableEq, Repr

end NetworkingRecipe.LinuxNetworking
