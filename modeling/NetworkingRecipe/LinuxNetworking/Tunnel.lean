import NetworkingRecipe.LinuxNetworking.Transmit

/-!
# A tunnel between two hosts

One host sends a frame into a tunnel and another receives it. The encapsulation gives the
moved IPv4 and transport headers room inside but not the tags, and a tunnel packet has its own
inner headers overwritten; the frames that pass unchanged are exactly those with neither.
-/

namespace NetworkingRecipe.LinuxNetworking

open Bits P4

/-- The outer stack of an encapsulated packet, read back. -/
theorem read_encapsulated {ethernet : Ethernet} {ipv4 : Ipv4}
    (hetherType : ethernet.etherType = ETHERTYPE_IPV4) (hprotocol : ipv4.protocol = IP_PROTOCOL_UDP)
    (udp : Udp) (rest : Bits) :
    Layer.read
        (Ethernet.codec.encode ethernet ++ (Ipv4.codec.encode ipv4 ++ (Udp.codec.encode udp ++ rest))) =
      some ({ ethernet := some ethernet, ipv4 := some ipv4, udp := some udp }, rest) := by
  rw [Layer.read_eq_some_iff]
  constructor
  · constructor <;> simp [Layer.payloadType, hetherType, hprotocol] <;> decide
  · simp [Layer.emit]

/-- An encapsulated packet is parsed as its outer stack and, behind the tunnel's port, what it carries. -/
theorem headers_read_encapsulated {ethernet : Ethernet} {ipv4 : Ipv4}
    (hetherType : ethernet.etherType = ETHERTYPE_IPV4) (hprotocol : ipv4.protocol = IP_PROTOCOL_UDP)
    (udp : Udp) (vxlan : Vxlan) (frame : Bits) :
    Headers.read (encapsulated ethernet ipv4 udp vxlan frame) =
      let outer : Layer := { ethernet := some ethernet, ipv4 := some ipv4, udp := some udp }
      if udp.dstPort = IP_PROTOCOLS_UDP_PORT_VXLAN then
        (Layer.read frame).map fun (inner, rest) => ({ outer, vxlan := some vxlan, inner }, rest)
      else some ({ outer }, Vxlan.codec.encode vxlan ++ frame) := by
  rw [Headers.read, encapsulated, read_encapsulated hetherType hprotocol]
  have hvxlan : extract Vxlan.codec (Vxlan.codec.encode vxlan ++ frame) = some (vxlan, frame) :=
    extract_eq_some_iff.mpr rfl
  split_ifs with hport
  · simp [extractIf, hport, hvxlan, readInner, Option.map_eq_bind]
  · simp [extractIf, hport, readInner]

section Tunnel

variable (target : Target) (tables : Tables) (metadata : LocalMetadata) (inputPort : PortId)

/-- What the program lets through is a well-formed stack and a rest. -/
theorem exists_headers_of_process {direction : Direction} {packet : Bits} {out : Output}
    (hout : process target tables metadata direction inputPort packet = some out) :
    ∃ headers payload, headers.WellFormed ∧ packet = packetDeparser headers ++ payload := by
  obtain ⟨⟨payload, headers, final⟩, hparse, -⟩ := Option.bind_eq_some_iff.mp hout
  obtain ⟨hwf, hpacket, -⟩ := wellFormed_of_packetParser hparse
  exact ⟨headers, payload, hwf, hpacket.symm⟩

/-- The stack of an encapsulated packet. -/
def encapsulatedHeaders (ethernet : Ethernet) (ipv4 : Ipv4) (udp : Udp) (vxlan : Vxlan) (inner : Layer) :
    Headers :=
  { outer := { ethernet := some ethernet, ipv4 := some ipv4, udp := some udp }, vxlan := some vxlan, inner }

variable {ethernet : Ethernet} {ipv4 : Ipv4} {udp : Udp} (vxlan : Vxlan)
  (hetherType : ethernet.etherType = ETHERTYPE_IPV4) (hprotocol : ipv4.protocol = IP_PROTOCOL_UDP)

include hetherType hprotocol

/-- The other end hands out what an encapsulated packet carries. -/
theorem process_rx_delivers (hport : udp.dstPort = IP_PROTOCOLS_UDP_PORT_VXLAN) {inner : Layer}
    (hinner : inner.WellFormed) (harp : inner.arp = none) (payload : Bits) {tunnelId : BitVec 24}
    (hterm : tables.ipv4TunnelTermTable TUNNEL_TYPE_VXLAN ipv4.srcAddr ipv4.dstAddr = some tunnelId) :
    process target tables metadata .netToHost inputPort
        (encapsulated ethernet ipv4 udp vxlan (inner.emit ++ payload)) =
      some
        { destinations := [forwarded (tables.l2FwdRxWithTunnelTable (dstMac target inner.ethernet))]
          packet := inner.emit ++ payload } := by
  have hread : Headers.read (encapsulated ethernet ipv4 udp vxlan (inner.emit ++ payload)) =
      some (encapsulatedHeaders ethernet ipv4 udp vxlan inner, payload) := by
    rw [headers_read_encapsulated hetherType hprotocol, if_pos hport,
      Layer.read_eq_some_iff.mpr ⟨hinner, rfl⟩]
    rfl
  obtain ⟨hwf, hpacket⟩ := Headers.read_eq_some_iff.mp hread
  rw [hpacket, process_rx_terminated target tables metadata inputPort hwf payload
    (by simp [Headers.isControl, encapsulatedHeaders, harp]) rfl hterm]
  simp [encapsulatedHeaders]

/-- What the other end makes of an encapsulated packet: the packet itself, or what it carries. -/
theorem process_rx_encapsulated {frame : Bits} {out : Output}
    (hout : process target tables metadata .netToHost inputPort
      (encapsulated ethernet ipv4 udp vxlan frame) = some out) :
    out.packet = encapsulated ethernet ipv4 udp vxlan frame ∨
      udp.dstPort = IP_PROTOCOLS_UDP_PORT_VXLAN ∧ out.packet = frame := by
  obtain ⟨headers, payload, hwf, hpacket⟩ := exists_headers_of_process target tables metadata inputPort hout
  have hread := Headers.read_eq_some_iff.mpr ⟨hwf, hpacket⟩
  rw [hpacket] at hout ⊢
  by_cases hcontrol : headers.isControl
  · rw [process_rx_control target tables metadata inputPort hwf payload hcontrol] at hout
    obtain rfl := Option.some.inj hout
    exact Or.inl rfl
  obtain hvxlan | hvxlan : headers.vxlan = none ∨ headers.vxlan.isSome := by
    cases headers.vxlan <;> simp
  · rw [process_rx_plain target tables metadata inputPort hwf payload hcontrol hvxlan] at hout
    obtain rfl := Option.some.inj hout
    exact Or.inl rfl
  obtain hterm | ⟨tunnelId, hterm⟩ := Option.eq_none_or_eq_some (headers.termination tables)
  · rw [process_rx_unterminated target tables metadata inputPort hwf payload hcontrol hvxlan hterm] at hout
    obtain rfl := Option.some.inj hout
    exact Or.inl rfl
  · rw [process_rx_terminated target tables metadata inputPort hwf payload hcontrol hvxlan hterm] at hout
    obtain rfl := Option.some.inj hout
    rw [headers_read_encapsulated hetherType hprotocol] at hread
    split_ifs at hread with hport
    · obtain ⟨⟨inner, rest⟩, hinner, hheaders⟩ := Option.map_eq_some_iff.mp hread
      obtain ⟨rfl, rfl⟩ := Prod.mk.inj hheaders
      obtain ⟨-, rfl⟩ := Layer.read_eq_some_iff.mp hinner
      exact Or.inr ⟨hport, by simp⟩
    · obtain ⟨rfl, -⟩ := Prod.mk.inj (Option.some.inj hread)
      cases hvxlan

end Tunnel

/-- The fields that an encapsulation adds make it another packet than the one whose length it counts. -/
theorem encapsulated_ne {headers : Headers} (hwf : headers.WellFormed) {ethernet : Ethernet} {ipv4 : Ipv4}
    (hetherType : ethernet.etherType = ETHERTYPE_IPV4) (hprotocol : ipv4.protocol = IP_PROTOCOL_UDP)
    (hlength : ∀ other, headers.outer.ipv4 = some other → ipv4.totalLen = other.totalLen + 50)
    (udp : Udp) (vxlan : Vxlan) (frame payload : Bits) :
    encapsulated ethernet ipv4 udp vxlan frame ≠ packetDeparser headers ++ payload := by
  intro heq
  have hread := Layer.read_eq_some_iff.mpr ⟨hwf.outer, packetDeparser_append headers hwf.outer payload⟩
  rw [← heq, encapsulated, read_encapsulated hetherType hprotocol] at hread
  obtain ⟨houter, -⟩ := Prod.mk.inj (Option.some.inj hread)
  have hsame := hlength ipv4 (congrArg Layer.ipv4 houter).symm
  simp at hsame

/-- An untagged frame outside any tunnel is carried whole. -/
theorem carried_eq_outer {headers : Headers} (hwf : headers.WellFormed) (hcontrol : ¬headers.isControl)
    (hvlan0 : headers.outer.vlan0 = none) (hvxlan : headers.vxlan = none) :
    headers.carried = headers.outer := by
  have hinner := hwf.inner
  have hvlan1 := hwf.outer.vlan1
  obtain ⟨⟨ethernet, vlan0, vlan1, arp, ipv4, udp, tcp, icmp⟩, vxlan, inner⟩ := headers
  simp only at hvlan0 hvxlan hinner hvlan1
  subst hvlan0 hvxlan
  obtain rfl : inner = {} := hinner
  obtain rfl : vlan1 = none := by simpa using hvlan1
  obtain rfl : arp = none := by simpa [Headers.isControl] using hcontrol
  simp [Headers.carried, assignIn, moveIn]

/-- A frame that is carried in its whole length is untagged and outside any tunnel. -/
theorem untagged_of_length_carried {headers : Headers} (hwf : headers.WellFormed)
    (hcontrol : ¬headers.isControl)
    (hlength : headers.carried.emit.length = (packetDeparser headers).length) :
    headers.outer.vlan0 = none ∧ headers.vxlan = none := by
  have hinner := hwf.inner
  obtain ⟨ethernet, hethernet⟩ := Option.isSome_iff_exists.mp hwf.outer.ethernet
  obtain hvxlan | hvxlan : headers.vxlan = none ∨ headers.vxlan.isSome := by
    cases headers.vxlan <;> simp
  · refine ⟨?_, hvxlan⟩
    by_contra hvlan0
    obtain ⟨vlan, hvlan0⟩ := Option.ne_none_iff_exists'.mp hvlan0
    have hempty : headers.inner = {} := by simpa [hvxlan] using hinner
    have harp : headers.outer.arp = none := by simpa [Headers.isControl, hempty] using hcontrol
    have hcarried : headers.carried =
        { headers.outer with vlan0 := none, vlan1 := none } := by
      cases hvlan1 : headers.outer.vlan1 <;>
        simp [Headers.carried, assignIn, moveIn, hempty, hvlan0, hvlan1, harp]
    simp only [hcarried, Layer.emit, packetDeparser, List.length_append, hempty, hvxlan, hvlan0, harp,
      Header.emit_some, Header.emit_none, List.length_nil, Codec.length_encode, Vlan.size_codec] at hlength
    omega
  · obtain ⟨harp, hicmp, htcp⟩ := hwf.outer_of_vxlan hvxlan
    obtain ⟨ipv4, hipv4⟩ := Option.isSome_iff_exists.mp (hwf.ipv4_of_vxlan hvxlan)
    obtain ⟨udp, hudp⟩ := Option.isSome_iff_exists.mp (hwf.udp_of_vxlan hvxlan)
    obtain ⟨vxlan, hvxlan⟩ := Option.isSome_iff_exists.mp hvxlan
    have hwfInner : headers.inner.WellFormed := by simpa [hvxlan] using hinner
    obtain ⟨innerEthernet, hinnerEthernet⟩ := Option.isSome_iff_exists.mp hwfInner.ethernet
    have hassign : ∀ outer inner : Header Vlan,
        ((assignIn outer inner).emit Vlan.codec).length = (inner.emit Vlan.codec).length := by
      intro outer inner
      cases outer <;> cases inner <;> simp [assignIn]
    simp only [Headers.carried, Layer.emit, packetDeparser, List.length_append, hassign, hethernet, hipv4,
      hudp, hvxlan, harp, hicmp, htcp, hinnerEthernet, moveIn, assignIn_none, Option.some_or, Option.none_or,
      Header.emit_some, Header.emit_none, List.length_nil, Codec.length_encode, Ethernet.size_codec,
      Ipv4.size_codec, Udp.size_codec, Vxlan.size_codec] at hlength
    omega

section TwoHosts

variable (sender receiver : Target) {sending receiving : Tables} (sent received : LocalMetadata)
  (sendingPort receivingPort : PortId)

/-- An untagged frame outside any tunnel crosses a tunnel of the VXLAN port that ends at the other host. -/
theorem tunnel_delivers {headers : Headers} (hwf : headers.WellFormed) (hcontrol : ¬headers.isControl)
    (route : TunnelRoute sending headers) {srcAddr dstAddr : BitVec 32} {dstPort : BitVec 16}
    {vni : BitVec 24}
    (hencap : sending.vxlanEncapModTable route.tunnelId = some (.vxlanEncap srcAddr dstAddr dstPort vni))
    (hterm : (receiving.ipv4TunnelTermTable TUNNEL_TYPE_VXLAN srcAddr dstAddr).isSome)
    (hport : dstPort = IP_PROTOCOLS_UDP_PORT_VXLAN) (hvlan0 : headers.outer.vlan0 = none)
    (hvxlan : headers.vxlan = none) (payload : Bits) :
    ((process sender sending sent .hostToNet sendingPort (packetDeparser headers ++ payload)).bind
        fun underlay => process receiver receiving received .netToHost receivingPort underlay.packet) =
      some
        { destinations := [forwarded (receiving.l2FwdRxWithTunnelTable route.ethernet.dstAddr)]
          packet := packetDeparser headers ++ payload } := by
  obtain ⟨tunnelId, hterm⟩ := Option.isSome_iff_exists.mp hterm
  have hcarried := carried_eq_outer hwf hcontrol hvlan0 hvxlan
  have harp : headers.outer.arp = none := by
    simp only [Headers.isControl, Bool.or_eq_true, not_or] at hcontrol
    simpa using hcontrol.1
  have hinner : headers.inner = {} := by simpa [hvxlan] using hwf.inner
  have hpacket : headers.outer.emit ++ payload = packetDeparser headers ++ payload := by
    rw [packetDeparser_append headers hwf.outer, hvxlan, hinner]
    rfl
  have hmac : dstMac receiver headers.outer.ethernet = route.ethernet.dstAddr := by
    rw [route.hethernet]
    rfl
  rw [process_tx_encapsulated sender sent sendingPort hwf hcontrol route payload hencap, Option.bind_some,
    hcarried, process_rx_delivers receiver receiving received receivingPort _ (by simp) rfl hport hwf.outer
      harp payload hterm, hpacket, hmac]

/-- A frame crosses the tunnel between two hosts and comes out as it went in exactly when the tunnel uses
the port of VXLAN, the frame has no tag and it is not a tunnel packet itself. -/
theorem tunnel_transparent_iff {packet : Bits} {cursor : Cursor}
    (hparse : packetParser sent packet = some cursor) (hcontrol : ¬cursor.headers.isControl)
    (route : TunnelRoute sending cursor.headers) {srcAddr dstAddr : BitVec 32} {dstPort : BitVec 16}
    {vni : BitVec 24}
    (hencap : sending.vxlanEncapModTable route.tunnelId = some (.vxlanEncap srcAddr dstAddr dstPort vni))
    (hterm : (receiving.ipv4TunnelTermTable TUNNEL_TYPE_VXLAN srcAddr dstAddr).isSome) :
    ((process sender sending sent .hostToNet sendingPort packet).bind fun underlay =>
        process receiver receiving received .netToHost receivingPort underlay.packet) =
      some
        { destinations := [forwarded (receiving.l2FwdRxWithTunnelTable route.ethernet.dstAddr)]
          packet := packet } ↔
      dstPort = IP_PROTOCOLS_UDP_PORT_VXLAN ∧ cursor.headers.outer.vlan0 = none ∧
        cursor.headers.vxlan = none := by
  obtain ⟨payload, headers, final⟩ := cursor
  obtain ⟨hwf, rfl, -⟩ := wellFormed_of_packetParser hparse
  simp only at hcontrol route ⊢
  constructor
  · rw [process_tx_encapsulated sender sent sendingPort hwf hcontrol route payload hencap, Option.bind_some]
    intro hdelivered
    obtain hsame | ⟨hport, hcarried⟩ :=
      process_rx_encapsulated receiver receiving received receivingPort _ (by simp) rfl hdelivered
    · refine absurd hsame.symm (encapsulated_ne hwf (by simp) rfl ?_ _ _ _ _)
      intro other hother
      simp [Headers.carried, moveIn, hother, addIpv4Header]
    · have hlength := congrArg List.length hcarried
      simp only [List.length_append] at hlength
      exact ⟨hport, untagged_of_length_carried hwf hcontrol (by omega)⟩
  · rintro ⟨hport, hvlan0, hvxlan⟩
    exact tunnel_delivers sender receiver sent received sendingPort receivingPort hwf hcontrol route hencap
      hterm hport hvlan0 hvxlan payload

end TwoHosts

/-- The request crosses a tunnel, as it has no tag and no tunnel header. -/
theorem tunnel_transparent_echoRequest :
    ((process checksumTarget tunnelTables clearMetadata .hostToNet 1
        (packetDeparser { outer := echoRequest } ++ [])).bind fun underlay =>
      process checksumTarget tunnelTables clearMetadata .netToHost 2 underlay.packet) =
      some { destinations := [.sendToPort 3], packet := packetDeparser { outer := echoRequest } ++ [] } :=
  (tunnel_transparent_iff checksumTarget checksumTarget clearMetadata clearMetadata 1 2
    (packetParser_packetDeparser clearMetadata echoRequest_headers_wellFormed []) (by decide)
    echoRequestRoute rfl rfl).mpr ⟨rfl, rfl, rfl⟩

end NetworkingRecipe.LinuxNetworking
