import NetworkingRecipe.LinuxNetworking.Parser

/-!
# The main control

The tables of the Linux Networking program as partial maps from keys to actions, its actions
on the state of one packet, and the order in which the control applies them. The hash, the
internet checksum and the values that the language leaves open come from the target. The calls
that set the packet's destination are kept in their order.
-/

namespace NetworkingRecipe.LinuxNetworking

open Bits P4

/-- A port of the device. -/
abbrev PortId := BitVec 32

/-- What the program takes from its target. -/
structure Target where
  /-- The hash that gives the outer source port. -/
  srcPortHash : BitVec 48 → BitVec 48 → BitVec 16
  /-- The checksum of the data added to a checksum unit since it was cleared. -/
  internetChecksum : Bits → BitVec 16
  /-- The fields of headers that are read or made valid without having been set. -/
  unspecifiedEthernet : Ethernet
  unspecifiedIpv4 : Ipv4
  unspecifiedUdp : Udp
  unspecifiedVxlan : Vxlan

/-- An entry of `vxlan_encap_mod_table`. -/
inductive VxlanEncapModAction where
  | vxlanEncap (srcAddr dstAddr : BitVec 32) (dstPort : BitVec 16) (vni : BitVec 24)
  | noAction
  deriving DecidableEq, Repr

/-- An entry of `l2_fwd_tx_table`. -/
inductive L2FwdTxAction where
  | l2Fwd (port : PortId)
  | setTunnel (tunnelId : BitVec 24) (dstAddr : BitVec 32)
  deriving DecidableEq, Repr

/-- The action that `ipv4_table` runs; the program gives it no default of its own. -/
inductive Ipv4Action where
  | setNexthopId (nexthopId : BitVec 16)
  | drop
  | noAction
  deriving DecidableEq, Repr

/-- The parameters of `set_nexthop`. -/
structure Nexthop where
  routerInterfaceId : BitVec 16
  neighborId : BitVec 24
  egressPort : PortId
  deriving DecidableEq, Repr

/-- An entry of `handle_tx_control_pkts_table`. -/
inductive TxControlAction where
  | pushVlanFwd (port : PortId) (vlanTag : BitVec 16)
  | setControlDest (port : PortId)
  deriving DecidableEq, Repr

/-- The tables of the control. The prefix match of `ipv4_table` and the selection among the members of
a group, which looks at the outer headers, are one function. -/
structure Tables where
  vxlanEncapModTable : BitVec 24 → Option VxlanEncapModAction
  rifModTable : BitVec 16 → Option (BitVec 48)
  neighborModTable : BitVec 24 → Option (BitVec 48)
  ipv4TunnelTermTable : BitVec 8 → BitVec 32 → BitVec 32 → Option (BitVec 24)
  l2FwdRxTable : BitVec 48 → Option PortId
  l2FwdRxWithTunnelTable : BitVec 48 → Option PortId
  l2FwdTxTable : BitVec 48 → Option L2FwdTxAction
  nexthopTable : BitVec 16 → Option Nexthop
  ipv4Table : BitVec 32 → Header Ipv4 → Header Udp → Ipv4Action
  handleRxControlPktsTable : PortId → Option PortId
  handleTxControlVlanPktsTable : PortId → BitVec 16 → Option PortId
  handleTxControlPktsTable : PortId → Option TxControlAction

/-- What the control changes: the headers, the metadata, its own variables and the destination. -/
structure State where
  hdr : Headers
  localMetadata : LocalMetadata
  modActionRef : BitVec 16 := 0
  modDataPtr : BitVec 24 := 0xFFFF
  neighborModDataPtr : BitVec 24 := 0xFFFF
  destinations : List (Destination PortId) := []
  deriving DecidableEq, Repr

/-- The bit of `vendormeta_mod_action_ref` that asks for decapsulation. -/
def VXLAN_DECAP_OUTER_IPV4_BIT : BitVec 16 :=
  1 <<< 2

/-- The bit of `vendormeta_mod_action_ref` that asks for the neighbor's addresses. -/
def NEIGHBOR_BIT : BitVec 16 :=
  1 <<< 3

namespace State

/-- The `send_to_port` call. -/
def sendToPort (port : PortId) (s : State) : State :=
  { s with destinations := s.destinations ++ [.sendToPort port] }

/-- The `drop` action. -/
def drop (s : State) : State :=
  { s with destinations := s.destinations ++ [.dropPacket] }

/-- The `set_control_dest` action. -/
def setControlDest (port : PortId) (s : State) : State :=
  s.sendToPort port

/-- The `l2_fwd` action. -/
def l2Fwd (port : PortId) (s : State) : State :=
  s.sendToPort port

/-- The `set_tunnel` action. -/
def setTunnel (tunnelId : BitVec 24) (dstAddr : BitVec 32) (s : State) : State :=
  { s with
    modDataPtr := tunnelId
    localMetadata := { s.localMetadata with ipv4DstMatch := dstAddr, isTunnel := 1 } }

/-- The `set_nexthop_id` action. -/
def setNexthopId (nexthopId : BitVec 16) (s : State) : State :=
  { s with localMetadata := { s.localMetadata with nexthopId } }

/-- The `set_nexthop` action. -/
def setNexthop (nexthop : Nexthop) (s : State) : State :=
  { s with
    modActionRef := s.modActionRef ||| NEIGHBOR_BIT
    neighborModDataPtr := nexthop.neighborId
    localMetadata := { s.localMetadata with rifModMapId := nexthop.routerInterfaceId } }
  |>.sendToPort nexthop.egressPort

/-- The `decap_outer_ipv4` action. -/
def decapOuterIpv4 (tunnelId : BitVec 24) (s : State) : State :=
  { s with
    localMetadata := { s.localMetadata with tunnelId }
    modActionRef := s.modActionRef ||| VXLAN_DECAP_OUTER_IPV4_BIT
    modDataPtr := tunnelId }

/-- The `vxlan_decap_outer_ipv4` action. -/
def vxlanDecapOuterIpv4 (s : State) : State :=
  { s with
    hdr := { s.hdr with
      outer := { s.hdr.outer with ethernet := none, ipv4 := none, udp := none }
      vxlan := none } }

/-- The `set_src_mac` action. -/
def setSrcMac (srcMacAddr : BitVec 48) (s : State) : State :=
  { s with
    hdr := { s.hdr with
      outer := { s.hdr.outer with
        ethernet := s.hdr.outer.ethernet.assign ({ · with srcAddr := srcMacAddr }) } } }

/-- The `set_outer_mac` action. -/
def setOuterMac (dstMacAddr : BitVec 48) (s : State) : State :=
  { s with
    hdr := { s.hdr with
      outer := { s.hdr.outer with
        ethernet := s.hdr.outer.ethernet.assign ({ · with dstAddr := dstMacAddr }) } } }

/-- The `push_vlan_fwd` action. -/
def pushVlanFwd (target : Target) (port : PortId) (vlanTag : BitVec 16) (s : State) : State :=
  { s with
    hdr := { s.hdr with
      outer := { s.hdr.outer with
        vlan0 := some
          { pcpCfiVid := vlanTag
            etherType := (s.hdr.outer.ethernet.getD target.unspecifiedEthernet).etherType }
        ethernet := s.hdr.outer.ethernet.assign ({ · with etherType := ETHERTYPE_VLAN }) } } }
  |>.sendToPort port

/-- The `pop_vlan_fwd` action, for a header stack with a first tag. -/
def popVlanFwd (port : PortId) (s : State) : State :=
  { s with
    hdr := { s.hdr with
      outer := { s.hdr.outer with
        vlan0 := none
        ethernet := s.hdr.outer.ethernet.assign fun ethernet =>
          { ethernet with etherType := s.hdr.outer.vlan0.elim ethernet.etherType (·.etherType) } } } }
  |>.sendToPort port

end State

/-- `vxlan_encap` on a header that it makes valid inside: the fields of a valid outer header move in. -/
def moveIn {H : Type} (outer inner : Header H) : Header H :=
  outer.or inner

/-- `vxlan_encap` on a header that it does not make valid inside: the fields are assigned only where the
inner header was valid. -/
def assignIn {H : Type} (outer inner : Header H) : Header H :=
  match outer with
  | some fields => inner.assign fun _ => fields
  | none => inner

/-- The `add_ipv4_header` action with the length that `add_outer_ipv4_vxlan` sets before it. -/
def addIpv4Header (target : Target) (totalLen : BitVec 16) (srcAddr dstAddr : BitVec 32)
    (proto : BitVec 8) : Ipv4 :=
  let header : Ipv4 :=
    { versionIhl := 0x45
      dscpEcn := 0
      totalLen
      identification := 0
      flagsFragOffset := 0x4000
      ttl := 0x40
      protocol := proto
      headerChecksum := 0
      srcAddr
      dstAddr }
  { header with headerChecksum := target.internetChecksum (Ipv4.codec.encode header) }

/-- The `add_udp_header` action with the length that `add_outer_ipv4_vxlan` sets before it; the checksum
stays zero. -/
def addUdpHeader (hash hdrLength dstPort : BitVec 16) : Udp :=
  { srcPort := hash, dstPort, hdrLength, checksum := 0 }

/-- The `add_vxlan_header` action. -/
def addVxlanHeader (vni : BitVec 24) : Vxlan :=
  { flags := 0x08, reserved := 0, vni, reserved2 := 0 }

namespace State

/-- The `add_outer_ipv4_vxlan` action. -/
def addOuterIpv4Vxlan (target : Target) (srcAddr dstAddr : BitVec 32) (vxlanPort : BitVec 16)
    (vni : BitVec 24) (s : State) : State :=
  let totalLen := (s.hdr.inner.ipv4.getD target.unspecifiedIpv4).totalLen
  { s with
    hdr := { s.hdr with
      outer := { s.hdr.outer with
        ipv4 := some (addIpv4Header target (totalLen + 50) srcAddr dstAddr IP_PROTOCOL_UDP)
        udp := some (addUdpHeader s.localMetadata.hash (totalLen + 30) vxlanPort)
        ethernet := (s.hdr.outer.ethernet.setValid target.unspecifiedEthernet).assign
          ({ · with etherType := ETHERTYPE_IPV4 }) }
      vxlan := some (addVxlanHeader vni) } }

/-- The `vxlan_encap` action: the outer headers move into the inner layer and a new outer layer is
added. The tags and the ARP header are the ones that it does not make valid inside. -/
def vxlanEncap (target : Target) (srcAddr dstAddr : BitVec 32) (dstPort : BitVec 16) (vni : BitVec 24)
    (s : State) : State :=
  { s with
    hdr := { s.hdr with
      inner :=
        { ethernet := some (s.hdr.outer.ethernet.getD target.unspecifiedEthernet)
          vlan0 := assignIn s.hdr.outer.vlan0 s.hdr.inner.vlan0
          vlan1 := assignIn s.hdr.outer.vlan1 s.hdr.inner.vlan1
          arp := assignIn s.hdr.outer.arp s.hdr.inner.arp
          ipv4 := moveIn s.hdr.outer.ipv4 s.hdr.inner.ipv4
          icmp := moveIn s.hdr.outer.icmp s.hdr.inner.icmp
          udp := moveIn s.hdr.outer.udp s.hdr.inner.udp
          tcp := moveIn s.hdr.outer.tcp s.hdr.inner.tcp }
      outer := {} } }
  |>.addOuterIpv4Vxlan target srcAddr dstAddr dstPort vni

end State

section Apply

variable (target : Target) (tables : Tables)

/-- The destination MAC address of an Ethernet header. -/
def dstMac (header : Header Ethernet) : BitVec 48 :=
  (header.getD target.unspecifiedEthernet).dstAddr

/-- `ipv4_tunnel_term_table.apply()`. -/
def applyIpv4TunnelTermTable (s : State) : State :=
  let ipv4 := s.hdr.outer.ipv4.getD target.unspecifiedIpv4
  match tables.ipv4TunnelTermTable s.localMetadata.tunType ipv4.srcAddr ipv4.dstAddr with
  | some tunnelId => s.decapOuterIpv4 tunnelId
  | none => s.drop

/-- `l2_fwd_rx_with_tunnel_table.apply()`. -/
def applyL2FwdRxWithTunnelTable (s : State) : State :=
  match tables.l2FwdRxWithTunnelTable (dstMac target s.hdr.inner.ethernet) with
  | some port => s.l2Fwd port
  | none => s.drop

/-- `l2_fwd_rx_table.apply()`. -/
def applyL2FwdRxTable (s : State) : State :=
  match tables.l2FwdRxTable (dstMac target s.hdr.outer.ethernet) with
  | some port => s.l2Fwd port
  | none => s.drop

/-- `handle_rx_control_pkts_table.apply()`. -/
def applyHandleRxControlPktsTable (inputPort : PortId) (s : State) : State :=
  match tables.handleRxControlPktsTable inputPort with
  | some port => s.setControlDest port
  | none => s.drop

/-- `handle_tx_control_vlan_pkts_table.apply()`. -/
def applyHandleTxControlVlanPktsTable (inputPort : PortId) (s : State) : State :=
  match tables.handleTxControlVlanPktsTable inputPort s.localMetadata.vlanId with
  | some port => s.popVlanFwd port
  | none => s.drop

/-- `handle_tx_control_pkts_table.apply()`. -/
def applyHandleTxControlPktsTable (inputPort : PortId) (s : State) : State :=
  match tables.handleTxControlPktsTable inputPort with
  | some (.pushVlanFwd port vlanTag) => s.pushVlanFwd target port vlanTag
  | some (.setControlDest port) => s.setControlDest port
  | none => s.drop

/-- `ipv4_table.apply()`. -/
def applyIpv4Table (s : State) : State :=
  match tables.ipv4Table s.localMetadata.ipv4DstMatch s.hdr.outer.ipv4 s.hdr.outer.udp with
  | .setNexthopId nexthopId => s.setNexthopId nexthopId
  | .drop => s.drop
  | .noAction => s

/-- `vxlan_encap_mod_table.apply()`. -/
def applyVxlanEncapModTable (s : State) : State :=
  match tables.vxlanEncapModTable s.modDataPtr with
  | some (.vxlanEncap srcAddr dstAddr dstPort vni) => s.vxlanEncap target srcAddr dstAddr dstPort vni
  | some .noAction => s
  | none => s

/-- `nexthop_table.apply()`. -/
def applyNexthopTable (s : State) : State :=
  match tables.nexthopTable s.localMetadata.nexthopId with
  | some nexthop => s.setNexthop nexthop
  | none => s.drop

/-- The branch behind `set_tunnel`: the hash of the overlay addresses, the route, the encapsulation and
the next hop. -/
def enterTunnel (s : State) : State :=
  let ethernet := s.hdr.outer.ethernet.getD target.unspecifiedEthernet
  let hash := target.srcPortHash ethernet.srcAddr ethernet.dstAddr
  let s := { s with localMetadata := { s.localMetadata with hash } }
  applyNexthopTable tables (applyVxlanEncapModTable target tables (applyIpv4Table tables s))

/-- The switch on `l2_fwd_tx_table.apply()`. -/
def applyL2FwdTxTable (s : State) : State :=
  match tables.l2FwdTxTable (dstMac target s.hdr.outer.ethernet) with
  | some (.l2Fwd port) => s.l2Fwd port
  | some (.setTunnel tunnelId dstAddr) => enterTunnel target tables (s.setTunnel tunnelId dstAddr)
  | none => s.drop

/-- The branch for packets from the network. -/
def applyRx (inputPort : PortId) (s : State) : State :=
  if s.localMetadata.controlPacket = 1 then applyHandleRxControlPktsTable tables inputPort s
  else if s.hdr.outer.ipv4.isSome && s.hdr.inner.ethernet.isSome then
    applyL2FwdRxWithTunnelTable target tables (applyIpv4TunnelTermTable target tables s)
  else applyL2FwdRxTable target tables s

/-- The branch for packets from the host. -/
def applyTx (inputPort : PortId) (s : State) : State :=
  if s.localMetadata.controlPacket = 1 && s.hdr.outer.vlan0.isSome then
    applyHandleTxControlVlanPktsTable tables inputPort s
  else if s.localMetadata.controlPacket = 1 then applyHandleTxControlPktsTable target tables inputPort s
  else applyL2FwdTxTable target tables s

/-- The decapsulation that was asked for. -/
def applyDecap (s : State) : State :=
  if s.modActionRef &&& VXLAN_DECAP_OUTER_IPV4_BIT ≠ 0 then s.vxlanDecapOuterIpv4 else s

/-- `rif_mod_table.apply()`. -/
def applyRifModTable (s : State) : State :=
  match tables.rifModTable s.localMetadata.rifModMapId with
  | some srcMacAddr => s.setSrcMac srcMacAddr
  | none => s

/-- The neighbor's addresses that were asked for: the source only where the destination is known. -/
def applyNeighbor (s : State) : State :=
  if s.modActionRef &&& NEIGHBOR_BIT ≠ 0 then
    let s := { s with modDataPtr := s.neighborModDataPtr }
    match tables.neighborModTable s.modDataPtr with
    | some dstMacAddr => applyRifModTable tables (s.setOuterMac dstMacAddr)
    | none => s
  else s

/-- The control `linux_networking_control`. -/
def linuxNetworkingControl (direction : Direction) (inputPort : PortId) (s : State) : State :=
  let s := match direction with
    | .netToHost => applyRx target tables inputPort s
    | .hostToNet => applyTx target tables inputPort s
  applyNeighbor tables (applyDecap s)

/-- A packet that left the program. -/
structure Output where
  destinations : List (Destination PortId)
  packet : Bits
  deriving DecidableEq, Repr

/-- One pass of a packet: parser, control and deparser, with the rest of the packet behind its headers. -/
def process (metadata : LocalMetadata) (direction : Direction) (inputPort : PortId) (packet : Bits) :
    Option Output := do
  let cursor ← packetParser metadata packet
  let s := linuxNetworkingControl target tables direction inputPort
    { hdr := cursor.headers, localMetadata := cursor.metadata }
  return { destinations := s.destinations, packet := packetDeparser s.hdr ++ cursor.packet }

end Apply

end NetworkingRecipe.LinuxNetworking
