import NetworkingRecipe.LinuxNetworking.Headers

/-!
# The packet parser and the deparser

The parser walks over the outer layer and, behind the UDP port of VXLAN, over the inner one.
The states of the two layers differ in the header they fill and in what follows a UDP header;
each is one definition, and the states of the program are its instances. A packet that ends
inside a header is rejected.
-/

namespace NetworkingRecipe.LinuxNetworking

open Bits P4

/-- The two layers of the header stack. -/
inductive Side where
  | outer
  | inner
  deriving DecidableEq, Repr

/-- Change one layer of the header stack. -/
def Headers.modify (headers : Headers) : Side → (Layer → Layer) → Headers
  | .outer, change => { headers with outer := change headers.outer }
  | .inner, change => { headers with inner := change headers.inner }

/-- What the parser carries: the rest of the packet, the headers filled so far and the metadata. -/
structure Cursor where
  packet : Bits
  headers : Headers
  metadata : LocalMetadata
  deriving DecidableEq, Repr

/-- A state of the parser: it ends in the accepting state or rejects the packet. -/
abbrev ParserState := Cursor → Option Cursor

namespace ParserState

/-- The accepting state. -/
def accept : ParserState :=
  some

/-- Extract the ARP header and mark a control packet. -/
def arp (side : Side) : ParserState := fun cursor => do
  let (header, packet) ← extract Arp.codec cursor.packet
  accept
    { packet
      headers := cursor.headers.modify side ({ · with arp := some header })
      metadata := { cursor.metadata with controlPacket := 1 } }

/-- Extract the ICMP header. -/
def icmp (side : Side) : ParserState := fun cursor => do
  let (header, packet) ← extract Icmp.codec cursor.packet
  accept { cursor with packet, headers := cursor.headers.modify side ({ · with icmp := some header }) }

/-- Extract the TCP header. -/
def tcp (side : Side) : ParserState := fun cursor => do
  let (header, packet) ← extract Tcp.codec cursor.packet
  accept { cursor with packet, headers := cursor.headers.modify side ({ · with tcp := some header }) }

/-- Extract the UDP header and go on to what its port selects. -/
def udp (side : Side) (select : BitVec 16 → ParserState) : ParserState := fun cursor => do
  let (header, packet) ← extract Udp.codec cursor.packet
  select header.dstPort
    { cursor with packet, headers := cursor.headers.modify side ({ · with udp := some header }) }

/-- The transition by the protocol of an IPv4 header. -/
def byProtocol (side : Side) (select : BitVec 16 → ParserState) (protocol : BitVec 8) : ParserState :=
  if protocol = IP_PROTOCOL_ICMP then icmp side
  else if protocol = IP_PROTOCOL_TCP then tcp side
  else if protocol = IP_PROTOCOL_UDP then udp side select
  else accept

/-- Extract the IPv4 header and go on by the protocol. -/
def ipv4 (side : Side) (select : BitVec 16 → ParserState) : ParserState := fun cursor => do
  let (header, packet) ← extract Ipv4.codec cursor.packet
  byProtocol side select header.protocol
    { cursor with packet, headers := cursor.headers.modify side ({ · with ipv4 := some header }) }

/-- The transition by an ether type behind which no further tag is read. -/
def byEtherType (side : Side) (select : BitVec 16 → ParserState) (etherType : BitVec 16) : ParserState :=
  if etherType = ETHERTYPE_ARP then arp side
  else if etherType = ETHERTYPE_IPV4 then ipv4 side select
  else accept

/-- Extract the second tag, record its number and go on by the ether type. -/
def vlan1 (side : Side) (select : BitVec 16 → ParserState) : ParserState := fun cursor => do
  let (header, packet) ← extract Vlan.codec cursor.packet
  byEtherType side select header.etherType
    { packet
      headers := cursor.headers.modify side ({ · with vlan1 := some header })
      metadata := { cursor.metadata with vlanId := header.pcpCfiVid } }

/-- Extract the first tag, record its number and go on by the ether type. -/
def vlan0 (side : Side) (select : BitVec 16 → ParserState) : ParserState := fun cursor => do
  let (header, packet) ← extract Vlan.codec cursor.packet
  let next : ParserState :=
    if header.etherType = ETHERTYPE_VLAN then vlan1 side select
    else byEtherType side select header.etherType
  next
    { packet
      headers := cursor.headers.modify side ({ · with vlan0 := some header })
      metadata := { cursor.metadata with vlanId := header.pcpCfiVid } }

/-- Extract the Ethernet header and go on by the ether type. -/
def ethernet (side : Side) (mark : LocalMetadata → LocalMetadata)
    (select : BitVec 16 → ParserState) : ParserState := fun cursor => do
  let (header, packet) ← extract Ethernet.codec cursor.packet
  let next : ParserState :=
    if header.etherType = ETHERTYPE_VLAN then vlan0 side select
    else byEtherType side select header.etherType
  next
    { packet
      headers := cursor.headers.modify side ({ · with ethernet := some header })
      metadata := mark cursor.metadata }

end ParserState

open ParserState

/-- The state `parse_udp` ends in accepts whatever the port is. -/
def selectInner (_dstPort : BitVec 16) : ParserState :=
  accept

/-- The state `parse_udp`. -/
def parseUdp : ParserState :=
  udp .inner selectInner

/-- The state `parse_tcp`. -/
def parseTcp : ParserState :=
  tcp .inner

/-- The state `parse_icmp`. -/
def parseIcmp : ParserState :=
  icmp .inner

/-- The state `parse_ipv4`. -/
def parseIpv4 : ParserState :=
  ipv4 .inner selectInner

/-- The state `parse_arp`. -/
def parseArp : ParserState :=
  arp .inner

/-- The state `parse_vlan_1`. -/
def parseVlan1 : ParserState :=
  vlan1 .inner selectInner

/-- The state `parse_vlan_0`. -/
def parseVlan0 : ParserState :=
  vlan0 .inner selectInner

/-- The state `parse_ethernet`. -/
def parseEthernet : ParserState :=
  ethernet .inner id selectInner

/-- The state `parse_vxlan`. -/
def parseVxlan : ParserState := fun cursor => do
  let (header, packet) ← extract Vxlan.codec cursor.packet
  parseEthernet
    { packet
      headers := { cursor.headers with vxlan := some header }
      metadata := { cursor.metadata with tunType := TUNNEL_TYPE_VXLAN } }

/-- Behind an outer UDP header the port of VXLAN opens the tunnel. -/
def selectOuter (dstPort : BitVec 16) : ParserState :=
  if dstPort = IP_PROTOCOLS_UDP_PORT_VXLAN then parseVxlan else accept

/-- The state `parse_outer_udp`. -/
def parseOuterUdp : ParserState :=
  udp .outer selectOuter

/-- The state `parse_outer_tcp`. -/
def parseOuterTcp : ParserState :=
  tcp .outer

/-- The state `parse_outer_icmp`. -/
def parseOuterIcmp : ParserState :=
  icmp .outer

/-- The state `parse_outer_ipv4`. -/
def parseOuterIpv4 : ParserState :=
  ipv4 .outer selectOuter

/-- The state `parse_outer_arp`. -/
def parseOuterArp : ParserState :=
  arp .outer

/-- The state `parse_outer_vlan_1`. -/
def parseOuterVlan1 : ParserState :=
  vlan1 .outer selectOuter

/-- The state `parse_outer_vlan_0`. -/
def parseOuterVlan0 : ParserState :=
  vlan0 .outer selectOuter

/-- The state `parse_outer_ethernet`; a packet is no control packet until an ARP header says so. -/
def parseOuterEthernet : ParserState :=
  ethernet .outer ({ · with controlPacket := 0 }) selectOuter

/-- The parser, from its start on a packet whose headers are all invalid. -/
def packetParser (metadata : LocalMetadata) (packet : Bits) : Option Cursor :=
  parseOuterEthernet { packet, headers := {}, metadata }

/-- The deparser: the valid headers in the program's order. -/
def packetDeparser (headers : Headers) : Bits :=
  headers.outer.ethernet.emit Ethernet.codec ++
  headers.outer.vlan0.emit Vlan.codec ++
  headers.outer.vlan1.emit Vlan.codec ++
  headers.outer.arp.emit Arp.codec ++
  headers.outer.ipv4.emit Ipv4.codec ++
  headers.outer.icmp.emit Icmp.codec ++
  headers.outer.udp.emit Udp.codec ++
  headers.outer.tcp.emit Tcp.codec ++
  headers.vxlan.emit Vxlan.codec ++
  headers.inner.ethernet.emit Ethernet.codec ++
  headers.inner.vlan0.emit Vlan.codec ++
  headers.inner.vlan1.emit Vlan.codec ++
  headers.inner.arp.emit Arp.codec ++
  headers.inner.ipv4.emit Ipv4.codec ++
  headers.inner.icmp.emit Icmp.codec ++
  headers.inner.tcp.emit Tcp.codec ++
  headers.inner.udp.emit Udp.codec

end NetworkingRecipe.LinuxNetworking
