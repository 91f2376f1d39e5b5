import NetworkingRecipe.LinuxNetworking.Control
import NetworkingRecipe.LinuxNetworking.Frame
import NetworkingRecipe.Bits.OnesComplement

/-!
# Packets from the network

What the control does with a packet that comes from the network: a control packet and a plain
frame leave as they came, and a tunnel packet is opened exactly when its tunnel is terminated
here. The tags of an opened packet stay in front of what it carried.
-/

namespace NetworkingRecipe.LinuxNetworking

open Bits P4

/-- A stack with an ARP header. -/
def Headers.isControl (headers : Headers) : Bool :=
  headers.outer.arp.isSome || headers.inner.arp.isSome

namespace Headers.WellFormed

variable {headers : Headers} (hwf : headers.WellFormed)

include hwf

/-- The parser marks exactly the stacks with an ARP header. -/
theorem record_controlPacket (metadata : LocalMetadata) :
    (headers.record metadata).controlPacket = 1 ↔ headers.isControl := by
  have hinner := hwf.inner
  unfold Headers.record Headers.isControl Layer.record
  split_ifs at hinner ⊢ with hvxlan hinnerArp houterArp
  all_goals simp_all

/-- A tunnel header stands behind an outer UDP header. -/
theorem udp_of_vxlan (hvxlan : headers.vxlan.isSome) : headers.outer.udp.isSome := by
  have hport := congrArg Option.isSome (hwf.vxlan.mp hvxlan)
  simpa using hport

/-- A tunnel header stands behind an outer IPv4 header. -/
theorem ipv4_of_vxlan (hvxlan : headers.vxlan.isSome) : headers.outer.ipv4.isSome := by
  have hprotocol := congrArg Option.isSome (hwf.outer.udp.mp (hwf.udp_of_vxlan hvxlan))
  simpa using hprotocol

/-- What the control takes for a tunnel packet is a stack with a tunnel header. -/
theorem isTunnel_iff :
    (headers.outer.ipv4.isSome && headers.inner.ethernet.isSome) = headers.vxlan.isSome := by
  have hinner := hwf.inner
  split_ifs at hinner with hvxlan
  · simp [hwf.ipv4_of_vxlan hvxlan, hinner.ethernet, hvxlan]
  · simp [hinner, hvxlan]

/-- In front of a tunnel header stand no other headers than tags, IPv4 and UDP. -/
theorem outer_of_vxlan (hvxlan : headers.vxlan.isSome) :
    headers.outer.arp = none ∧ headers.outer.icmp = none ∧ headers.outer.tcp = none := by
  have hprotocol := hwf.outer.udp.mp (hwf.udp_of_vxlan hvxlan)
  have harp := hwf.outer.arp
  have hicmp := hwf.outer.icmp
  have htcp := hwf.outer.tcp
  rw [hwf.outer.ipv4.mp (hwf.ipv4_of_vxlan hvxlan)] at harp
  rw [hprotocol] at hicmp htcp
  exact ⟨by simpa using harp.not.mpr (by decide), by simpa using hicmp.not.mpr (by decide),
    by simpa using htcp.not.mpr (by decide)⟩

/-- The headers that a terminated tunnel leaves: the outer tags and the inner layer. -/
theorem packetDeparser_decap (hvxlan : headers.vxlan.isSome) :
    packetDeparser
        { outer := { headers.outer with ethernet := none, ipv4 := none, udp := none }
          inner := headers.inner } =
      headers.outer.vlan0.emit Vlan.codec ++ headers.outer.vlan1.emit Vlan.codec ++ headers.inner.emit := by
  obtain ⟨harp, hicmp, htcp⟩ := hwf.outer_of_vxlan hvxlan
  simp [packetDeparser, Layer.emit, hicmp, htcp, harp]

/-- A tunnel stack is longer than what a terminated tunnel leaves of it. -/
theorem length_packetDeparser_tunnel (hvxlan : headers.vxlan.isSome) :
    (packetDeparser headers).length =
      (headers.outer.vlan0.emit Vlan.codec ++ headers.outer.vlan1.emit Vlan.codec ++
        headers.inner.emit).length + 400 := by
  obtain ⟨ethernet, hethernet⟩ := Option.isSome_iff_exists.mp hwf.outer.ethernet
  obtain ⟨ipv4, hipv4⟩ := Option.isSome_iff_exists.mp (hwf.ipv4_of_vxlan hvxlan)
  obtain ⟨udp, hudp⟩ := Option.isSome_iff_exists.mp (hwf.udp_of_vxlan hvxlan)
  obtain ⟨vxlan, hvxlan'⟩ := Option.isSome_iff_exists.mp hvxlan
  rw [← hwf.packetDeparser_decap hvxlan]
  simp only [packetDeparser, hethernet, hipv4, hudp, hvxlan', Header.emit_some, Header.emit_none,
    List.length_append, List.length_nil, Codec.length_encode, Ethernet.size_codec, Ipv4.size_codec,
    Udp.size_codec, Vxlan.size_codec]
  omega

end Headers.WellFormed

/-- The parser records the tunnel type of a tunnel packet. -/
theorem Headers.record_tunType {headers : Headers} (metadata : LocalMetadata)
    (hvxlan : headers.vxlan.isSome) : (headers.record metadata).tunType = TUNNEL_TYPE_VXLAN := by
  simp [Headers.record, hvxlan, Layer.record]

/-- A packet for which nothing was asked keeps its headers. -/
theorem applyNeighbor_applyDecap_zero (tables : Tables) {s : State} (hzero : s.modActionRef = 0) :
    applyNeighbor tables (applyDecap s) = s := by
  have hdecap : applyDecap s = s := if_neg (by rw [hzero]; decide)
  rw [hdecap]
  exact if_neg (by rw [hzero]; decide)

/-- A packet for which decapsulation alone was asked loses its outer headers. -/
theorem applyNeighbor_applyDecap_decap (tables : Tables) {s : State}
    (hdecap : s.modActionRef = VXLAN_DECAP_OUTER_IPV4_BIT) :
    applyNeighbor tables (applyDecap s) = s.vxlanDecapOuterIpv4 := by
  have hopened : applyDecap s = s.vxlanDecapOuterIpv4 := if_pos (by rw [hdecap]; decide)
  have hkept : s.vxlanDecapOuterIpv4.modActionRef = VXLAN_DECAP_OUTER_IPV4_BIT := hdecap
  rw [hopened]
  exact if_neg (by rw [hkept]; decide)

section Tables

variable (target : Target) (tables : Tables)

/-- The destination that a forwarding table gives: the port of its entry, or none. -/
def forwarded (entry : Option PortId) : Destination PortId :=
  entry.elim .dropPacket .sendToPort

/-- The entry of the termination table for a stack. -/
def Headers.termination (headers : Headers) : Option (BitVec 24) :=
  headers.outer.ipv4.bind fun ipv4 =>
    tables.ipv4TunnelTermTable TUNNEL_TYPE_VXLAN ipv4.srcAddr ipv4.dstAddr

/-- The table for control packets sets the destination alone. -/
theorem applyHandleRxControlPktsTable_eq (inputPort : PortId) (s : State) :
    applyHandleRxControlPktsTable tables inputPort s =
      { s with destinations :=
          s.destinations ++ [forwarded (tables.handleRxControlPktsTable inputPort)] } := by
  unfold applyHandleRxControlPktsTable
  cases tables.handleRxControlPktsTable inputPort <;> rfl

/-- The table for plain frames sets the destination alone. -/
theorem applyL2FwdRxTable_eq (s : State) :
    applyL2FwdRxTable target tables s =
      { s with destinations :=
          s.destinations ++ [forwarded (tables.l2FwdRxTable (dstMac target s.hdr.outer.ethernet))] } := by
  unfold applyL2FwdRxTable
  cases tables.l2FwdRxTable (dstMac target s.hdr.outer.ethernet) <;> rfl

/-- The table for tunnel packets sets the destination alone. -/
theorem applyL2FwdRxWithTunnelTable_eq (s : State) :
    applyL2FwdRxWithTunnelTable target tables s =
      { s with destinations := s.destinations ++
          [forwarded (tables.l2FwdRxWithTunnelTable (dstMac target s.hdr.inner.ethernet))] } := by
  unfold applyL2FwdRxWithTunnelTable
  cases tables.l2FwdRxWithTunnelTable (dstMac target s.hdr.inner.ethernet) <;> rfl

/-- The termination table asks for decapsulation or drops. -/
theorem applyIpv4TunnelTermTable_eq {s : State} (htype : s.localMetadata.tunType = TUNNEL_TYPE_VXLAN)
    (hipv4 : s.hdr.outer.ipv4.isSome) :
    applyIpv4TunnelTermTable target tables s =
      (s.hdr.termination tables).elim s.drop fun tunnelId => s.decapOuterIpv4 tunnelId := by
  obtain ⟨ipv4, hipv4⟩ := Option.isSome_iff_exists.mp hipv4
  simp only [applyIpv4TunnelTermTable, Headers.termination, htype, hipv4, Option.getD_some,
    Option.bind_some]
  cases tables.ipv4TunnelTermTable TUNNEL_TYPE_VXLAN ipv4.srcAddr ipv4.dstAddr <;> rfl

end Tables

section Receive

variable (target : Target) (tables : Tables) (metadata : LocalMetadata)

/-- A packet with a well-formed stack passes the control with the stack that it was emitted from. -/
theorem process_eq (direction : Direction) (inputPort : PortId) {headers : Headers}
    (hwf : headers.WellFormed) (payload : Bits) :
    process target tables metadata direction inputPort (packetDeparser headers ++ payload) =
      let s := linuxNetworkingControl target tables direction inputPort
        { hdr := headers, localMetadata := headers.record metadata }
      some { destinations := s.destinations, packet := packetDeparser s.hdr ++ payload } := by
  rw [process, packetParser_packetDeparser metadata hwf]
  rfl

variable (inputPort : PortId) {headers : Headers} (hwf : headers.WellFormed) (payload : Bits)

include hwf

/-- A control packet leaves as it came. -/
theorem process_rx_control (hcontrol : headers.isControl) :
    process target tables metadata .netToHost inputPort (packetDeparser headers ++ payload) =
      some
        { destinations := [forwarded (tables.handleRxControlPktsTable inputPort)]
          packet := packetDeparser headers ++ payload } := by
  have hmark := (hwf.record_controlPacket metadata).mpr hcontrol
  rw [process_eq target tables metadata _ _ hwf]
  simp only [linuxNetworkingControl, applyRx, if_pos hmark, applyHandleRxControlPktsTable_eq]
  rw [applyNeighbor_applyDecap_zero tables rfl]
  rfl

/-- A frame outside any tunnel leaves as it came. -/
theorem process_rx_plain (hcontrol : ¬headers.isControl) (hvxlan : headers.vxlan = none) :
    process target tables metadata .netToHost inputPort (packetDeparser headers ++ payload) =
      some
        { destinations := [forwarded (tables.l2FwdRxTable (dstMac target headers.outer.ethernet))]
          packet := packetDeparser headers ++ payload } := by
  have hmark := (hwf.record_controlPacket metadata).not.mpr hcontrol
  have htunnel : ¬(headers.outer.ipv4.isSome && headers.inner.ethernet.isSome) := by
    simp [hwf.isTunnel_iff, hvxlan]
  rw [process_eq target tables metadata _ _ hwf]
  simp only [linuxNetworkingControl, applyRx, if_neg hmark, if_neg htunnel, applyL2FwdRxTable_eq]
  rw [applyNeighbor_applyDecap_zero tables rfl]
  rfl

/-- A tunnel packet passes the termination table and the forwarding table. -/
theorem process_rx_tunnel (hcontrol : ¬headers.isControl) (hvxlan : headers.vxlan.isSome) :
    process target tables metadata .netToHost inputPort (packetDeparser headers ++ payload) =
      let s : State := { hdr := headers, localMetadata := headers.record metadata }
      let s := applyNeighbor tables <| applyDecap <| applyL2FwdRxWithTunnelTable target tables <|
        (headers.termination tables).elim s.drop fun tunnelId => s.decapOuterIpv4 tunnelId
      some { destinations := s.destinations, packet := packetDeparser s.hdr ++ payload } := by
  have hmark := (hwf.record_controlPacket metadata).not.mpr hcontrol
  have htunnel : (headers.outer.ipv4.isSome && headers.inner.ethernet.isSome) = true := by
    rw [hwf.isTunnel_iff, hvxlan]
  rw [process_eq target tables metadata _ _ hwf]
  simp only [linuxNetworkingControl, applyRx, if_neg hmark, if_pos htunnel]
  rw [applyIpv4TunnelTermTable_eq target tables (Headers.record_tunType metadata hvxlan)
    (hwf.ipv4_of_vxlan hvxlan)]

/-- A tunnel packet whose tunnel does not end here is dropped and then forwarded as it came. -/
theorem process_rx_unterminated (hcontrol : ¬headers.isControl) (hvxlan : headers.vxlan.isSome)
    (hterm : headers.termination tables = none) :
    process target tables metadata .netToHost inputPort (packetDeparser headers ++ payload) =
      some
        { destinations :=
            [.dropPacket, forwarded (tables.l2FwdRxWithTunnelTable (dstMac target headers.inner.ethernet))]
          packet := packetDeparser headers ++ payload } := by
  rw [process_rx_tunnel target tables metadata inputPort hwf payload hcontrol hvxlan]
  simp only [hterm, Option.elim_none, applyL2FwdRxWithTunnelTable_eq]
  rw [applyNeighbor_applyDecap_zero tables rfl]
  rfl

/-- A tunnel packet whose tunnel ends here is opened: the outer tags and what it carried leave. -/
theorem process_rx_terminated (hcontrol : ¬headers.isControl) (hvxlan : headers.vxlan.isSome)
    {tunnelId : BitVec 24} (hterm : headers.termination tables = some tunnelId) :
    process target tables metadata .netToHost inputPort (packetDeparser headers ++ payload) =
      some
        { destinations :=
            [forwarded (tables.l2FwdRxWithTunnelTable (dstMac target headers.inner.ethernet))]
          packet := headers.outer.vlan0.emit Vlan.codec ++ headers.outer.vlan1.emit Vlan.codec ++
            headers.inner.emit ++ payload } := by
  rw [process_rx_tunnel target tables metadata inputPort hwf payload hcontrol hvxlan,
    ← hwf.packetDeparser_decap hvxlan]
  simp only [hterm, Option.elim_some, applyL2FwdRxWithTunnelTable_eq]
  rw [applyNeighbor_applyDecap_decap tables BitVec.zero_or]
  rfl

omit hwf

/-- A packet from the network is opened exactly when it is a tunnel packet whose tunnel ends here. An
opened packet is what the tunnel carried behind the outer tags; any other packet keeps its bits, and
one whose tunnel does not end here meets a drop before it is forwarded. -/
theorem rx_opens_iff_terminated {packet : Bits} {cursor : Cursor} {out : Output}
    (hparse : packetParser metadata packet = some cursor)
    (hout : process target tables metadata .netToHost inputPort packet = some out) :
    (out.packet ≠ packet ↔ ¬cursor.headers.isControl ∧ cursor.headers.vxlan.isSome ∧
        (cursor.headers.termination tables).isSome) ∧
      (out.packet ≠ packet → out.packet =
        cursor.headers.outer.vlan0.emit Vlan.codec ++ cursor.headers.outer.vlan1.emit Vlan.codec ++
          cursor.headers.inner.emit ++ cursor.packet) ∧
      (¬cursor.headers.isControl → cursor.headers.vxlan.isSome →
        cursor.headers.termination tables = none → out.destinations.head? = some .dropPacket) := by
  obtain ⟨payload, headers, final⟩ := cursor
  obtain ⟨hwf, rfl, -⟩ := wellFormed_of_packetParser hparse
  by_cases hcontrol : headers.isControl
  · rw [process_rx_control target tables metadata inputPort hwf payload hcontrol] at hout
    obtain rfl := Option.some.inj hout
    simp [hcontrol]
  obtain hvxlan | hvxlan : headers.vxlan = none ∨ headers.vxlan.isSome := by
    cases headers.vxlan <;> simp
  · rw [process_rx_plain target tables metadata inputPort hwf payload hcontrol hvxlan] at hout
    obtain rfl := Option.some.inj hout
    simp [hvxlan]
  obtain hterm | ⟨tunnelId, hterm⟩ := Option.eq_none_or_eq_some (headers.termination tables)
  · rw [process_rx_unterminated target tables metadata inputPort hwf payload hcontrol hvxlan hterm] at hout
    obtain rfl := Option.some.inj hout
    simp [hterm]
  · rw [process_rx_terminated target tables metadata inputPort hwf payload hcontrol hvxlan hterm] at hout
    obtain rfl := Option.some.inj hout
    have hlonger := hwf.length_packetDeparser_tunnel hvxlan
    have hne : headers.outer.vlan0.emit Vlan.codec ++ headers.outer.vlan1.emit Vlan.codec ++
        headers.inner.emit ++ payload ≠ packetDeparser headers ++ payload := by
      intro heq
      have hlength := congrArg List.length heq
      simp only [List.length_append] at hlength hlonger
      omega
    refine ⟨iff_of_true hne ⟨hcontrol, hvxlan, by simp [hterm]⟩, fun _ => rfl, ?_⟩
    intro _ _ hnone
    cases hterm.symm.trans hnone

end Receive

/-- A target whose checksum unit computes the internet checksum. -/
def checksumTarget : Target where
  srcPortHash srcAddr dstAddr := (srcAddr ^^^ dstAddr).setWidth 16
  internetChecksum := Bits.internetChecksum
  unspecifiedEthernet := { dstAddr := 0, srcAddr := 0, etherType := 0 }
  unspecifiedIpv4 :=
    { versionIhl := 0, dscpEcn := 0, totalLen := 0, identification := 0, flagsFragOffset := 0, ttl := 0
      protocol := 0, headerChecksum := 0, srcAddr := 0, dstAddr := 0 }
  unspecifiedUdp := { srcPort := 0, dstPort := 0, hdrLength := 0, checksum := 0 }
  unspecifiedVxlan := { flags := 0, reserved := 0, vni := 0, reserved2 := 0 }

/-- Tables without entries. -/
def emptyTables : Tables where
  vxlanEncapModTable _ := none
  rifModTable _ := none
  neighborModTable _ := none
  ipv4TunnelTermTable _ _ _ := none
  l2FwdRxTable _ := none
  l2FwdRxWithTunnelTable _ := none
  l2FwdTxTable _ := none
  nexthopTable _ := none
  ipv4Table _ _ _ := .noAction
  handleRxControlPktsTable _ := none
  handleTxControlVlanPktsTable _ _ := none
  handleTxControlPktsTable _ := none

/-- Metadata before any packet. -/
def clearMetadata : LocalMetadata where
  exceptionPacket := 0
  controlPacket := 0
  nexthopId := 0
  rifModMapId := 0
  vlanId := 0
  isTunnel := 0
  hash := 0
  ipv4DstMatch := 0
  tunnelId := 0
  tunType := 0

/-- An echo request from one host to another. -/
def echoRequest : Layer where
  ethernet := some { dstAddr := 0x020000000002, srcAddr := 0x020000000001, etherType := ETHERTYPE_IPV4 }
  ipv4 := some
    { versionIhl := 0x45, dscpEcn := 0, totalLen := 24, identification := 1, flagsFragOffset := 0
      ttl := 64, protocol := IP_PROTOCOL_ICMP, headerChecksum := 0, srcAddr := 0x0A000001
      dstAddr := 0x0A000002 }
  icmp := some { type := 8, code := 0, checksum := 0 }

/-- The request is well formed. -/
theorem echoRequest_wellFormed : echoRequest.WellFormed := by
  constructor <;> decide

/-- The request outside any tunnel is well formed. -/
theorem echoRequest_headers_wellFormed : Headers.WellFormed { outer := echoRequest } :=
  ⟨echoRequest_wellFormed, by decide, rfl⟩

/-- The request in a tunnel. -/
def tunneledRequest : Headers where
  outer :=
    { ethernet := some { dstAddr := 0x02000000000B, srcAddr := 0x02000000000A, etherType := ETHERTYPE_IPV4 }
      ipv4 := some
        { versionIhl := 0x45, dscpEcn := 0, totalLen := 74, identification := 0, flagsFragOffset := 0x4000
          ttl := 64, protocol := IP_PROTOCOL_UDP, headerChecksum := 0, srcAddr := 0x01010101
          dstAddr := 0x02020202 }
      udp := some { srcPort := 3, dstPort := IP_PROTOCOLS_UDP_PORT_VXLAN, hdrLength := 54, checksum := 0 } }
  vxlan := some { flags := 0x08, reserved := 0, vni := 7, reserved2 := 0 }
  inner := echoRequest

/-- The request in a tunnel is well formed. -/
theorem tunneledRequest_wellFormed : tunneledRequest.WellFormed := by
  refine ⟨?_, by decide, echoRequest_wellFormed⟩
  constructor <;> decide

/-- A tunnel that ends here. -/
def terminatingTables : Tables :=
  { emptyTables with ipv4TunnelTermTable := fun _ _ _ => some 7 }

/-- The request comes out of a tunnel that ends here. -/
theorem rx_opens_tunneledRequest :
    ∃ out, process checksumTarget terminatingTables clearMetadata .netToHost 1
        (packetDeparser tunneledRequest ++ []) = some out ∧
      (out.packet ≠ packetDeparser tunneledRequest ++ [] ↔ ¬tunneledRequest.isControl ∧
        tunneledRequest.vxlan.isSome ∧ (tunneledRequest.termination terminatingTables).isSome) ∧
      (out.packet ≠ packetDeparser tunneledRequest ++ [] → out.packet =
        tunneledRequest.outer.vlan0.emit Vlan.codec ++ tunneledRequest.outer.vlan1.emit Vlan.codec ++
          tunneledRequest.inner.emit ++ []) ∧
      (¬tunneledRequest.isControl → tunneledRequest.vxlan.isSome →
        tunneledRequest.termination terminatingTables = none →
          out.destinations.head? = some .dropPacket) := by
  have hterm : tunneledRequest.termination terminatingTables = some 7 := rfl
  have hout := process_rx_terminated checksumTarget terminatingTables clearMetadata 1
    tunneledRequest_wellFormed [] (by decide) (by decide) hterm
  exact ⟨_, hout, rx_opens_iff_terminated checksumTarget terminatingTables clearMetadata 1
    (packetParser_packetDeparser clearMetadata tunneledRequest_wellFormed []) hout⟩

end NetworkingRecipe.LinuxNetworking
