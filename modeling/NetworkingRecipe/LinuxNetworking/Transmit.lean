import NetworkingRecipe.LinuxNetworking.Receive
import NetworkingRecipe.Bits.OnesComplement

/-!
# Frames into a tunnel

What the control does with a frame from the host whose destination lies behind a tunnel: the
route gives the next hop, and the encapsulation entry, if there is one, a new outer stack. The
frame leaves through the next hop's port in either case.
-/

namespace NetworkingRecipe.LinuxNetworking

open Bits P4

/-- The tables send a stack into a tunnel: the entries that the control meets on the way. -/
structure TunnelRoute (tables : Tables) (headers : Headers) where
  ethernet : Ethernet
  tunnelId : BitVec 24
  dstAddr : BitVec 32
  nexthopId : BitVec 16
  nexthop : Nexthop
  hethernet : headers.outer.ethernet = some ethernet
  hforward : tables.l2FwdTxTable ethernet.dstAddr = some (.setTunnel tunnelId dstAddr)
  hroute : tables.ipv4Table dstAddr headers.outer.ipv4 headers.outer.udp = .setNexthopId nexthopId
  hnexthop : tables.nexthopTable nexthopId = some nexthop

/-- A packet in a tunnel. -/
def encapsulated (ethernet : Ethernet) (ipv4 : Ipv4) (udp : Udp) (vxlan : Vxlan) (frame : Bits) : Bits :=
  Ethernet.codec.encode ethernet ++ (Ipv4.codec.encode ipv4 ++ (Udp.codec.encode udp ++
    (Vxlan.codec.encode vxlan ++ frame)))

/-- Nothing is assigned from an invalid header. -/
@[simp] theorem assignIn_none {H : Type} (inner : Header H) : assignIn none inner = inner :=
  rfl

/-- What `vxlan_encap` carries of a stack. -/
def Headers.carried (headers : Headers) : Layer :=
  { ethernet := headers.outer.ethernet
    vlan0 := assignIn headers.outer.vlan0 headers.inner.vlan0
    vlan1 := assignIn headers.outer.vlan1 headers.inner.vlan1
    arp := assignIn headers.outer.arp headers.inner.arp
    ipv4 := moveIn headers.outer.ipv4 headers.inner.ipv4
    icmp := moveIn headers.outer.icmp headers.inner.icmp
    udp := moveIn headers.outer.udp headers.inner.udp
    tcp := moveIn headers.outer.tcp headers.inner.tcp }

/-- The addresses that the neighbor's tables give an outer Ethernet header. -/
def Tables.neighborAddresses (tables : Tables) (neighborId : BitVec 24) (routerInterfaceId : BitVec 16)
    (ethernet : Ethernet) : Ethernet :=
  match tables.neighborModTable neighborId with
  | some dstAddr =>
    match tables.rifModTable routerInterfaceId with
    | some srcAddr => { ethernet with dstAddr, srcAddr }
    | none => { ethernet with dstAddr }
  | none => ethernet

/-- The neighbor's addresses leave the ether type alone. -/
@[simp] theorem Tables.etherType_neighborAddresses (tables : Tables) (neighborId : BitVec 24)
    (routerInterfaceId : BitVec 16) (ethernet : Ethernet) :
    (tables.neighborAddresses neighborId routerInterfaceId ethernet).etherType = ethernet.etherType := by
  unfold Tables.neighborAddresses
  split
  · split <;> rfl
  · rfl

section Transmit

variable (target : Target) (tables : Tables) (metadata : LocalMetadata) (inputPort : PortId)

/-- The neighbor's step, where it was asked for. -/
theorem applyNeighbor_eq {s : State} (hneighbor : s.modActionRef &&& NEIGHBOR_BIT ≠ 0) :
    applyNeighbor tables s =
      { s with
        modDataPtr := s.neighborModDataPtr
        hdr := { s.hdr with
          outer := { s.hdr.outer with
            ethernet := s.hdr.outer.ethernet.map
              (tables.neighborAddresses s.neighborModDataPtr s.localMetadata.rifModMapId) } } } := by
  simp only [applyNeighbor, if_pos hneighbor, applyRifModTable]
  cases hdst : tables.neighborModTable s.neighborModDataPtr with
  | none =>
    have hid : tables.neighborAddresses s.neighborModDataPtr s.localMetadata.rifModMapId = id := by
      funext ethernet
      simp [Tables.neighborAddresses, hdst]
    simp [hid]
  | some dstAddr =>
    cases hsrc : tables.rifModTable s.localMetadata.rifModMapId with
    | none =>
      have hset : tables.neighborAddresses s.neighborModDataPtr s.localMetadata.rifModMapId =
          ({ · with dstAddr }) := by
        funext ethernet
        simp [Tables.neighborAddresses, hdst, hsrc]
      simp [hset, State.setOuterMac, Header.assign, hsrc]
    | some srcAddr =>
      have hset : tables.neighborAddresses s.neighborModDataPtr s.localMetadata.rifModMapId =
          ({ · with dstAddr, srcAddr }) := by
        funext ethernet
        simp [Tables.neighborAddresses, hdst, hsrc]
      simp [hset, State.setOuterMac, State.setSrcMac, Header.assign, hsrc, Function.comp_def]

/-- A packet for which the next hop alone was asked takes the neighbor's addresses. -/
theorem applyNeighbor_applyDecap_nexthop {s : State} (href : s.modActionRef = NEIGHBOR_BIT) :
    applyNeighbor tables (applyDecap s) =
      { s with
        modDataPtr := s.neighborModDataPtr
        hdr := { s.hdr with
          outer := { s.hdr.outer with
            ethernet := s.hdr.outer.ethernet.map
              (tables.neighborAddresses s.neighborModDataPtr s.localMetadata.rifModMapId) } } } := by
  have hdecap : applyDecap s = s := if_neg (by rw [href]; decide)
  rw [hdecap]
  exact applyNeighbor_eq tables (by rw [href]; decide)

variable {tables} {headers : Headers} (hwf : headers.WellFormed) (hcontrol : ¬headers.isControl)
  (route : TunnelRoute tables headers) (payload : Bits)

include hwf hcontrol

/-- A frame with a tunnel route passes the route, the encapsulation and the next hop. -/
theorem process_tx_tunnel :
    process target tables metadata .hostToNet inputPort (packetDeparser headers ++ payload) =
      let hash := target.srcPortHash route.ethernet.srcAddr route.ethernet.dstAddr
      let localMetadata := { headers.record metadata with
        ipv4DstMatch := route.dstAddr, isTunnel := 1, hash, nexthopId := route.nexthopId }
      let s := applyVxlanEncapModTable target tables
        { hdr := headers, localMetadata, modDataPtr := route.tunnelId }
      let s := applyNeighbor tables (applyDecap (applyNexthopTable tables s))
      some { destinations := s.destinations, packet := packetDeparser s.hdr ++ payload } := by
  have hmark := (hwf.record_controlPacket metadata).not.mpr hcontrol
  rw [process_eq target tables metadata _ _ hwf]
  simp only [linuxNetworkingControl, applyTx, hmark, decide_false, Bool.false_and, Bool.false_eq_true,
    if_false, applyL2FwdTxTable, dstMac, route.hethernet, Option.getD_some, route.hforward, enterTunnel,
    State.setTunnel, applyIpv4Table, route.hroute, State.setNexthopId]

/-- A frame with a tunnel route but without an encapsulation entry leaves the tunnel's port as it is,
but for its addresses. -/
theorem process_tx_unencapsulated
    (hencap : tables.vxlanEncapModTable route.tunnelId = none ∨
      tables.vxlanEncapModTable route.tunnelId = some .noAction) :
    process target tables metadata .hostToNet inputPort (packetDeparser headers ++ payload) =
      some
        { destinations := [.sendToPort route.nexthop.egressPort]
          packet := packetDeparser
            { headers with
              outer := { headers.outer with
                ethernet := some (tables.neighborAddresses route.nexthop.neighborId
                  route.nexthop.routerInterfaceId route.ethernet) } } ++ payload } := by
  rw [process_tx_tunnel target metadata inputPort hwf hcontrol route]
  have hkept : ∀ s : State, s.modDataPtr = route.tunnelId → applyVxlanEncapModTable target tables s = s := by
    intro s hs
    obtain h | h := hencap <;> simp [applyVxlanEncapModTable, hs, h]
  simp only [hkept, applyNexthopTable, route.hnexthop, State.setNexthop]
  rw [applyNeighbor_applyDecap_nexthop tables BitVec.zero_or]
  simp [State.sendToPort, route.hethernet]

/-- A frame with a tunnel route and an encapsulation entry leaves inside a new outer stack. -/
theorem process_tx_encapsulated {srcAddr dstAddr : BitVec 32} {dstPort : BitVec 16} {vni : BitVec 24}
    (hencap : tables.vxlanEncapModTable route.tunnelId = some (.vxlanEncap srcAddr dstAddr dstPort vni)) :
    process target tables metadata .hostToNet inputPort (packetDeparser headers ++ payload) =
      let totalLen := (headers.carried.ipv4.getD target.unspecifiedIpv4).totalLen
      some
        { destinations := [.sendToPort route.nexthop.egressPort]
          packet := encapsulated
            (tables.neighborAddresses route.nexthop.neighborId route.nexthop.routerInterfaceId
              { target.unspecifiedEthernet with etherType := ETHERTYPE_IPV4 })
            (addIpv4Header target (totalLen + 50) srcAddr dstAddr IP_PROTOCOL_UDP)
            (addUdpHeader (target.srcPortHash route.ethernet.srcAddr route.ethernet.dstAddr)
              (totalLen + 30) dstPort)
            (addVxlanHeader vni) (headers.carried.emit ++ payload) } := by
  rw [process_tx_tunnel target metadata inputPort hwf hcontrol route]
  simp only [applyVxlanEncapModTable, hencap, applyNexthopTable, State.vxlanEncap,
    State.addOuterIpv4Vxlan, route.hnexthop, State.setNexthop]
  rw [applyNeighbor_applyDecap_nexthop tables BitVec.zero_or]
  simp [State.sendToPort, encapsulated, packetDeparser, Layer.emit, Headers.carried, route.hethernet]

end Transmit

section OuterHeaders

variable (sender : Target) {sending : Tables} (metadata : LocalMetadata) (inputPort : PortId)

/-- An IPv4 header, split at its checksum. -/
theorem encode_ipv4 (header : Ipv4) :
    ∃ before after : Bits, before.length = 16 * 5 ∧ after.length = 16 * 4 ∧
      ∀ checksum : BitVec 16, Ipv4.codec.encode { header with headerChecksum := checksum } =
        before ++ (ofNat 16 checksum.toNat ++ after) := by
  refine ⟨ofNat 8 header.versionIhl.toNat ++ (ofNat 8 header.dscpEcn.toNat ++
      (ofNat 16 header.totalLen.toNat ++ (ofNat 16 header.identification.toNat ++
        (ofNat 16 header.flagsFragOffset.toNat ++ (ofNat 8 header.ttl.toNat ++
          ofNat 8 header.protocol.toNat))))),
    ofNat 32 header.srcAddr.toNat ++ ofNat 32 header.dstAddr.toNat, by simp, by simp, ?_⟩
  intro checksum
  simp only [List.append_assoc]
  rfl

/-- The header that `add_ipv4_header` fills passes the checksum test. -/
theorem internetChecksum_addIpv4Header
    (hchecksum : ∀ data, sender.internetChecksum data = internetChecksum data) (totalLen : BitVec 16)
    (srcAddr dstAddr : BitVec 32) (proto : BitVec 8) :
    internetChecksum (Ipv4.codec.encode (addIpv4Header sender totalLen srcAddr dstAddr proto)) = 0 := by
  obtain ⟨before, after, hbefore, hafter, hencode⟩ :=
    encode_ipv4 (addIpv4Header sender totalLen srcAddr dstAddr proto)
  have hfilled := hencode (addIpv4Header sender totalLen srcAddr dstAddr proto).headerChecksum
  have hfield : (addIpv4Header sender totalLen srcAddr dstAddr proto).headerChecksum =
      internetChecksum (before ++ (ofNat 16 0 ++ after)) := by
    rw [← hchecksum]
    exact congrArg sender.internetChecksum (hencode 0)
  calc internetChecksum (Ipv4.codec.encode (addIpv4Header sender totalLen srcAddr dstAddr proto))
      = internetChecksum (before ++ (ofNat 16
          (internetChecksum (before ++ (ofNat 16 0 ++ after))).toNat ++ after)) := by
        rw [← hfield, ← hfilled]
    _ = 0 := internetChecksum_verifies hbefore hafter

/-- A length field that counts `extra` more octets than another is right exactly when the other one is
and the sum fits the field. -/
theorem length_field_iff {inner : BitVec 16} {extra length : ℕ} (hextra : extra < 2 ^ 16) :
    8 * (inner + BitVec.ofNat 16 extra).toNat = 8 * extra + length ↔
      8 * inner.toNat = length ∧ inner.toNat + extra < 2 ^ 16 := by
  have hinner := inner.isLt
  rw [BitVec.toNat_add, BitVec.toNat_ofNat, Nat.mod_eq_of_lt hextra]
  omega

/-- A frame leaves in a tunnel with the entry's addresses, port and network number, an outer header that
passes the checksum test, and outer lengths that are right exactly when the frame's own length is right
and the larger number fits its field. -/
theorem outer_headers_right {packet : Bits} {cursor : Cursor}
    (hparse : packetParser metadata packet = some cursor) (hcontrol : ¬cursor.headers.isControl)
    (route : TunnelRoute sending cursor.headers) {srcAddr dstAddr : BitVec 32} {dstPort : BitVec 16}
    {vni : BitVec 24}
    (hencap : sending.vxlanEncapModTable route.tunnelId = some (.vxlanEncap srcAddr dstAddr dstPort vni))
    {inner : Ipv4} (hipv4 : cursor.headers.outer.ipv4 = some inner) (hvxlan : cursor.headers.vxlan = none)
    (hchecksum : ∀ data, sender.internetChecksum data = internetChecksum data) :
    ∃ ethernet ipv4 udp vxlan behind,
      process sender sending metadata .hostToNet inputPort packet =
        some
          { destinations := [.sendToPort route.nexthop.egressPort]
            packet := encapsulated ethernet ipv4 udp vxlan
              (Ethernet.codec.encode route.ethernet ++ (Ipv4.codec.encode inner ++ behind)) } ∧
      ipv4.srcAddr = srcAddr ∧ ipv4.dstAddr = dstAddr ∧ udp.dstPort = dstPort ∧ vxlan.vni = vni ∧
      internetChecksum (Ipv4.codec.encode ipv4) = 0 ∧
      (8 * ipv4.totalLen.toNat = (Ipv4.codec.encode ipv4 ++ (Udp.codec.encode udp ++
          (Vxlan.codec.encode vxlan ++ (Ethernet.codec.encode route.ethernet ++
            (Ipv4.codec.encode inner ++ behind))))).length ↔
        8 * inner.totalLen.toNat = (Ipv4.codec.encode inner ++ behind).length ∧
          inner.totalLen.toNat + 50 < 2 ^ 16) ∧
      (8 * udp.hdrLength.toNat = (Udp.codec.encode udp ++ (Vxlan.codec.encode vxlan ++
          (Ethernet.codec.encode route.ethernet ++ (Ipv4.codec.encode inner ++ behind)))).length ↔
        8 * inner.totalLen.toNat = (Ipv4.codec.encode inner ++ behind).length ∧
          inner.totalLen.toNat + 30 < 2 ^ 16) := by
  obtain ⟨payload, headers, final⟩ := cursor
  obtain ⟨hwf, rfl, -⟩ := wellFormed_of_packetParser hparse
  simp only at hcontrol route hipv4 hvxlan ⊢
  have hinner : headers.inner = {} := by simpa [hvxlan] using hwf.inner
  have harp : headers.outer.arp = none := by
    simp only [Headers.isControl, Bool.or_eq_true, not_or] at hcontrol
    simpa using hcontrol.1
  have hcarried : headers.carried =
      { headers.outer with vlan0 := none, vlan1 := none } := by
    cases hvlan0 : headers.outer.vlan0 <;> cases hvlan1 : headers.outer.vlan1 <;>
      simp [Headers.carried, assignIn, moveIn, hinner, hvlan0, hvlan1, harp]
  set behind := headers.outer.icmp.emit Icmp.codec ++ (headers.outer.tcp.emit Tcp.codec ++
    (headers.outer.udp.emit Udp.codec ++ payload)) with hbehind
  have hframe : headers.carried.emit ++ payload =
      Ethernet.codec.encode route.ethernet ++ (Ipv4.codec.encode inner ++ behind) := by
    simp [hcarried, Layer.emit, route.hethernet, harp, hipv4, hbehind]
  have htotal : (headers.carried.ipv4.getD sender.unspecifiedIpv4).totalLen = inner.totalLen := by
    simp [hcarried, hipv4]
  refine ⟨sending.neighborAddresses route.nexthop.neighborId route.nexthop.routerInterfaceId
      { sender.unspecifiedEthernet with etherType := ETHERTYPE_IPV4 },
    addIpv4Header sender (inner.totalLen + 50) srcAddr dstAddr IP_PROTOCOL_UDP,
    addUdpHeader (sender.srcPortHash route.ethernet.srcAddr route.ethernet.dstAddr)
      (inner.totalLen + 30) dstPort, addVxlanHeader vni, behind, ?_, rfl, rfl, rfl, rfl,
    internetChecksum_addIpv4Header sender hchecksum (inner.totalLen + 50) srcAddr dstAddr IP_PROTOCOL_UDP,
    ?_, ?_⟩
  · rw [process_tx_encapsulated sender metadata inputPort hwf hcontrol route payload hencap, htotal, hframe]
  · rw [← length_field_iff (by decide)]
    simp only [List.length_append, Codec.length_encode, Ethernet.size_codec, Ipv4.size_codec,
      Udp.size_codec, Vxlan.size_codec]
    exact Eq.congr_right (by omega)
  · rw [← length_field_iff (by decide)]
    simp only [List.length_append, Codec.length_encode, Ethernet.size_codec, Ipv4.size_codec,
      Udp.size_codec, Vxlan.size_codec]
    exact Eq.congr_right (by omega)

end OuterHeaders

/-- Tables of a host at both ends of one tunnel. -/
def tunnelTables : Tables :=
  { terminatingTables with
    l2FwdTxTable := fun _ => some (.setTunnel 7 0x02020202)
    ipv4Table := fun _ _ _ => .setNexthopId 4
    nexthopTable := fun _ => some { routerInterfaceId := 1, neighborId := 2, egressPort := 9 }
    vxlanEncapModTable := fun _ =>
      some (.vxlanEncap 0x01010101 0x02020202 IP_PROTOCOLS_UDP_PORT_VXLAN 7)
    l2FwdRxWithTunnelTable := fun _ => some 3 }

/-- The way of the request into the tunnel. -/
def echoRequestRoute : TunnelRoute tunnelTables { outer := echoRequest } where
  ethernet := { dstAddr := 0x020000000002, srcAddr := 0x020000000001, etherType := ETHERTYPE_IPV4 }
  tunnelId := 7
  dstAddr := 0x02020202
  nexthopId := 4
  nexthop := { routerInterfaceId := 1, neighborId := 2, egressPort := 9 }
  hethernet := rfl
  hforward := rfl
  hroute := rfl
  hnexthop := rfl

/-- The headers in front of the request are right, as its own length is. -/
theorem outer_headers_echoRequest :
    ∃ ethernet ipv4 udp vxlan behind,
      process checksumTarget tunnelTables clearMetadata .hostToNet 1
          (packetDeparser { outer := echoRequest } ++ []) =
        some
          { destinations := [.sendToPort 9]
            packet := encapsulated ethernet ipv4 udp vxlan (Ethernet.codec.encode echoRequestRoute.ethernet ++
              (Ipv4.codec.encode (echoRequest.ipv4.getD checksumTarget.unspecifiedIpv4) ++ behind)) } ∧
      ipv4.srcAddr = 0x01010101 ∧ ipv4.dstAddr = 0x02020202 := by
  obtain ⟨ethernet, ipv4, udp, vxlan, behind, hsent, hsrc, hdst, -⟩ :=
    outer_headers_right checksumTarget clearMetadata 1
      (packetParser_packetDeparser clearMetadata echoRequest_headers_wellFormed []) (by decide)
      echoRequestRoute rfl rfl rfl fun _ => rfl
  exact ⟨ethernet, ipv4, udp, vxlan, behind, hsent, hsrc, hdst⟩

end NetworkingRecipe.LinuxNetworking
