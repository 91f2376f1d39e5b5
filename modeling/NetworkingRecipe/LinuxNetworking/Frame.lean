import NetworkingRecipe.LinuxNetworking.Parser

/-!
# Well-formed header stacks

A header stack is well formed when each header is there exactly when the one before it
announces it. The state machine of the parser is compared with a straight-line reader, which
looks for one header after the other, and the reader with the well-formed stacks: a packet is
accepted exactly when it is a well-formed stack and a rest, and emitting the stack gives the
packet back.
-/

namespace NetworkingRecipe.LinuxNetworking

open Bits P4

namespace Layer

/-- The type that the last of the Ethernet header and the tags announces. -/
def payloadType (layer : Layer) : Option (BitVec 16) :=
  ((layer.vlan1.map (·.etherType)).or (layer.vlan0.map (·.etherType))).or
    (layer.ethernet.map (·.etherType))

/-- Each header of the layer is there exactly when the one before it announces it. -/
structure WellFormed (layer : Layer) : Prop where
  ethernet : layer.ethernet.isSome
  vlan0 : layer.vlan0.isSome ↔ layer.ethernet.map (·.etherType) = some ETHERTYPE_VLAN
  vlan1 : layer.vlan1.isSome ↔ layer.vlan0.map (·.etherType) = some ETHERTYPE_VLAN
  arp : layer.arp.isSome ↔ layer.payloadType = some ETHERTYPE_ARP
  ipv4 : layer.ipv4.isSome ↔ layer.payloadType = some ETHERTYPE_IPV4
  icmp : layer.icmp.isSome ↔ layer.ipv4.map (·.protocol) = some IP_PROTOCOL_ICMP
  tcp : layer.tcp.isSome ↔ layer.ipv4.map (·.protocol) = some IP_PROTOCOL_TCP
  udp : layer.udp.isSome ↔ layer.ipv4.map (·.protocol) = some IP_PROTOCOL_UDP

/-- The bits of a layer, each header behind the one that announces it. -/
def emit (layer : Layer) : Bits :=
  layer.ethernet.emit Ethernet.codec ++ (layer.vlan0.emit Vlan.codec ++
    (layer.vlan1.emit Vlan.codec ++ (layer.arp.emit Arp.codec ++ (layer.ipv4.emit Ipv4.codec ++
      (layer.icmp.emit Icmp.codec ++ (layer.tcp.emit Tcp.codec ++ layer.udp.emit Udp.codec))))))

/-- What the parser records of a layer: the number of its last tag, and whether it carries ARP. -/
def record (layer : Layer) (metadata : LocalMetadata) : LocalMetadata :=
  { metadata with
    vlanId := (((layer.vlan1.or layer.vlan0).map (·.pcpCfiVid)).getD metadata.vlanId)
    controlPacket := if layer.arp.isSome then 1 else metadata.controlPacket }

/-- The headers behind an IPv4 header, read one after the other. -/
def readTransport (layer : Layer) (packet : Bits) : Option (Layer × Bits) := do
  let protocol := layer.ipv4.map (·.protocol)
  let (icmp, packet) ← extractIf (protocol = some IP_PROTOCOL_ICMP) Icmp.codec packet
  let (tcp, packet) ← extractIf (protocol = some IP_PROTOCOL_TCP) Tcp.codec packet
  let (udp, packet) ← extractIf (protocol = some IP_PROTOCOL_UDP) Udp.codec packet
  return ({ layer with icmp, tcp, udp }, packet)

/-- The headers behind the Ethernet header and the tags, read one after the other. -/
def readNetwork (layer : Layer) (packet : Bits) : Option (Layer × Bits) := do
  let type := layer.payloadType
  let (arp, packet) ← extractIf (type = some ETHERTYPE_ARP) Arp.codec packet
  let (ipv4, packet) ← extractIf (type = some ETHERTYPE_IPV4) Ipv4.codec packet
  { layer with arp, ipv4 }.readTransport packet

/-- A layer read one header after the other. -/
def read (packet : Bits) : Option (Layer × Bits) := do
  let (ethernet, packet) ← extract Ethernet.codec packet
  let (vlan0, packet) ← extractIf (ethernet.etherType = ETHERTYPE_VLAN) Vlan.codec packet
  let (vlan1, packet) ←
    extractIf (vlan0.map (·.etherType) = some ETHERTYPE_VLAN) Vlan.codec packet
  readNetwork { ethernet := some ethernet, vlan0, vlan1 } packet


/-- The transport headers are there as the protocol announces them. -/
theorem readTransport_eq_some_iff {layer final : Layer} {packet rest : Bits} :
    layer.readTransport packet = some (final, rest) ↔
      ∃ icmp tcp udp, final = { layer with icmp, tcp, udp } ∧
        (icmp.isSome ↔ layer.ipv4.map (·.protocol) = some IP_PROTOCOL_ICMP) ∧
        (tcp.isSome ↔ layer.ipv4.map (·.protocol) = some IP_PROTOCOL_TCP) ∧
        (udp.isSome ↔ layer.ipv4.map (·.protocol) = some IP_PROTOCOL_UDP) ∧
        packet = icmp.emit Icmp.codec ++ (tcp.emit Tcp.codec ++ (udp.emit Udp.codec ++ rest)) := by
  simp only [readTransport, Option.bind_eq_bind, Option.bind_eq_some_iff, Prod.exists,
    extractIf_eq_some_iff, Option.pure_def, Option.some.injEq, Prod.mk.injEq]
  constructor
  · rintro ⟨icmp, _, ⟨hicmp, rfl⟩, tcp, _, ⟨htcp, rfl⟩, udp, _, ⟨hudp, rfl⟩, rfl, rfl⟩
    exact ⟨icmp, tcp, udp, rfl, hicmp, htcp, hudp, rfl⟩
  · rintro ⟨icmp, tcp, udp, rfl, hicmp, htcp, hudp, rfl⟩
    exact ⟨icmp, _, ⟨hicmp, rfl⟩, tcp, _, ⟨htcp, rfl⟩, udp, _, ⟨hudp, rfl⟩, rfl, rfl⟩

/-- The reader accepts well-formed layers. -/
theorem read_eq_some_iff {layer : Layer} {packet rest : Bits} :
    read packet = some (layer, rest) ↔ layer.WellFormed ∧ packet = layer.emit ++ rest := by
  simp only [read, readNetwork, Option.bind_eq_bind, Option.bind_eq_some_iff, Prod.exists,
    extract_eq_some_iff, extractIf_eq_some_iff, readTransport_eq_some_iff]
  constructor
  · rintro ⟨ethernet, _, rfl, vlan0, _, ⟨hvlan0, rfl⟩, vlan1, _, ⟨hvlan1, rfl⟩, arp, _, ⟨harp, rfl⟩,
      ipv4, _, ⟨hipv4, rfl⟩, icmp, tcp, udp, rfl, hicmp, htcp, hudp, rfl⟩
    refine ⟨⟨rfl, ?_, hvlan1, harp, hipv4, hicmp, htcp, hudp⟩, ?_⟩
    · simpa using hvlan0
    · simp [emit]
  · rintro ⟨hwf, rfl⟩
    obtain ⟨ethernet, vlan0, vlan1, arp, ipv4, udp, tcp, icmp⟩ := layer
    obtain ⟨ethernet, rfl⟩ := Option.isSome_iff_exists.mp hwf.ethernet
    refine ⟨ethernet, _, ?_, vlan0, _, ⟨?_, rfl⟩, vlan1, _, ⟨hwf.vlan1, rfl⟩, arp, _, ⟨hwf.arp, rfl⟩,
      ipv4, _, ⟨hwf.ipv4, rfl⟩, icmp, tcp, udp, rfl, hwf.icmp, hwf.tcp, hwf.udp, rfl⟩
    · simp [emit]
    · simpa using hwf.vlan0

end Layer

/-- Two changes of one layer are one change. -/
@[simp] theorem Headers.modify_modify (headers : Headers) (side : Side) (first second : Layer → Layer) :
    (headers.modify side first).modify side second = headers.modify side (second ∘ first) := by
  cases side <;> rfl

/-- Go on behind a layer that was read: by the port if it ends in a UDP header. -/
def ParserState.follow (side : Side) (select : BitVec 16 → ParserState) (headers : Headers)
    (metadata : LocalMetadata) (layer : Layer) (packet : Bits) : Option Cursor :=
  (layer.udp.elim accept fun header => select header.dstPort)
    { packet, headers := headers.modify side fun _ => layer, metadata := layer.record metadata }

namespace ParserState

open Layer

variable (side : Side) (select : BitVec 16 → ParserState) (headers : Headers)
  (metadata : LocalMetadata)

/-- Going on by the protocol is reading the transport headers. -/
theorem byProtocol_eq_read (layer : Layer) (header : Ipv4) (packet : Bits)
    (hipv4 : layer.ipv4 = some header) (hicmp : layer.icmp = none) (htcp : layer.tcp = none)
    (hudp : layer.udp = none) :
    byProtocol side select header.protocol
        { packet, headers := headers.modify side fun _ => layer, metadata := layer.record metadata } =
      (layer.readTransport packet).bind fun (layer, packet) =>
        follow side select headers metadata layer packet := by
  obtain ⟨ethernet, vlan0, vlan1, arp, ipv4, udp, tcp, icmp⟩ := layer
  obtain ⟨rfl, rfl, rfl, rfl⟩ : icmp = none ∧ tcp = none ∧ udp = none ∧ ipv4 = some header :=
    ⟨hicmp, htcp, hudp, hipv4⟩
  have hicmpTcp : IP_PROTOCOL_ICMP ≠ IP_PROTOCOL_TCP := by decide
  have hicmpUdp : IP_PROTOCOL_ICMP ≠ IP_PROTOCOL_UDP := by decide
  have htcpUdp : IP_PROTOCOL_TCP ≠ IP_PROTOCOL_UDP := by decide
  unfold byProtocol
  split_ifs with hprotocolIcmp hprotocolTcp hprotocolUdp
  · simp [readTransport, ParserState.icmp, extractIf, follow, accept, record, hprotocolIcmp, hicmpTcp,
      hicmpUdp, Option.bind_map, Function.comp_def, Option.bind_assoc]
  · simp [readTransport, ParserState.tcp, extractIf, follow, accept, record, hprotocolTcp,
      hicmpTcp.symm, htcpUdp, Option.bind_map, Function.comp_def, Option.bind_assoc]
  · simp [readTransport, ParserState.udp, extractIf, follow, accept, record, hprotocolUdp,
      hicmpUdp.symm, htcpUdp.symm, Option.bind_map, Function.comp_def, Option.bind_assoc]
  · simp [readTransport, extractIf, follow, accept, hprotocolIcmp, hprotocolTcp, hprotocolUdp]

/-- Going on by the last ether type is reading the network headers. -/
theorem byEtherType_eq_read (ethernet : Header Ethernet) (vlan0 vlan1 : Header Vlan)
    (etherType : BitVec 16) (packet : Bits)
    (htype : Layer.payloadType { ethernet, vlan0, vlan1 } = some etherType) :
    byEtherType side select etherType
        { packet, headers := headers.modify side fun _ => { ethernet, vlan0, vlan1 }
          metadata := Layer.record { ethernet, vlan0, vlan1 } metadata } =
      (Layer.readNetwork { ethernet, vlan0, vlan1 } packet).bind fun (layer, packet) =>
        follow side select headers metadata layer packet := by
  have harpIpv4 : ETHERTYPE_ARP ≠ ETHERTYPE_IPV4 := by decide
  unfold byEtherType
  split_ifs with htypeArp htypeIpv4
  · simp [readNetwork, readTransport, arp, extractIf, follow, accept, record, htype, htypeArp, harpIpv4,
      Option.bind_map, Function.comp_def, Option.bind_assoc]
  · simp only [readNetwork, ipv4, extractIf, htype, htypeIpv4, harpIpv4.symm, Option.bind_map,
      Function.comp_def, Option.bind_assoc, Option.bind_eq_bind, Option.some.injEq, if_true, if_false,
      Option.bind_some, Headers.modify_modify]
    congr 1
    funext ⟨header, packet⟩
    exact byProtocol_eq_read side select headers metadata
      { ethernet, vlan0, vlan1, ipv4 := some header } header packet rfl rfl rfl rfl
  · simp [readNetwork, readTransport, extractIf, follow, accept, htype, htypeArp, htypeIpv4]

/-- A tagged frame is read tag by tag. -/
theorem vlan0_eq_read (ethernet : Ethernet) (packet : Bits) :
    vlan0 side select
        { packet, headers := headers.modify side fun _ => { ethernet := some ethernet }, metadata } =
      (extract Vlan.codec packet).bind fun (vlan0, packet) =>
        (extractIf (vlan0.etherType = ETHERTYPE_VLAN) Vlan.codec packet).bind fun (vlan1, packet) =>
          (readNetwork { ethernet := some ethernet, vlan0 := some vlan0, vlan1 } packet).bind
            fun (layer, packet) => follow side select headers metadata layer packet := by
  unfold vlan0
  simp only [Option.bind_eq_bind, Headers.modify_modify]
  congr 1
  funext ⟨first, packet⟩
  simp only [extractIf]
  split_ifs with hvlan
  · simp only [vlan1, Option.bind_eq_bind, Headers.modify_modify, Option.bind_map]
    congr 1
    funext ⟨second, packet⟩
    exact byEtherType_eq_read side select headers metadata (some ethernet) (some first) (some second)
      second.etherType packet rfl
  · exact byEtherType_eq_read side select headers metadata (some ethernet) (some first) none
      first.etherType packet rfl

/-- The states of one layer read what the straight-line reader reads. -/
theorem ethernet_eq_read (mark : LocalMetadata → LocalMetadata) (packet : Bits) :
    ethernet side mark select { packet, headers := headers.modify side fun _ => {}, metadata } =
      (Layer.read packet).bind fun (layer, packet) =>
        follow side select headers (mark metadata) layer packet := by
  unfold ethernet Layer.read
  simp only [Option.bind_eq_bind, Headers.modify_modify, Option.bind_assoc]
  congr 1
  funext ⟨header, packet⟩
  simp only [extractIf]
  split_ifs with hvlan
  · have htagged := vlan0_eq_read side select headers (mark metadata) header packet
    simpa [extractIf, Option.bind_map, Function.comp_def] using htagged
  · exact byEtherType_eq_read side select headers (mark metadata) (some header) none none
      header.etherType packet rfl

end ParserState

open ParserState

/-- Behind an inner layer nothing more is read. -/
theorem ParserState.follow_inner (headers : Headers) (metadata : LocalMetadata) (layer : Layer)
    (packet : Bits) :
    follow .inner selectInner headers metadata layer packet =
      some { packet, headers := { headers with inner := layer }, metadata := layer.record metadata } := by
  cases hudp : layer.udp <;> simp [follow, hudp, selectInner, accept, Headers.modify]

/-- Each header of the stack is there exactly when the one before it announces it. -/
structure Headers.WellFormed (headers : Headers) : Prop where
  outer : headers.outer.WellFormed
  vxlan : headers.vxlan.isSome ↔
    headers.outer.udp.map (·.dstPort) = some IP_PROTOCOLS_UDP_PORT_VXLAN
  inner : if headers.vxlan.isSome then headers.inner.WellFormed else headers.inner = {}

/-- What the parser records of a header stack. -/
def Headers.record (headers : Headers) (metadata : LocalMetadata) : LocalMetadata :=
  let outer := headers.outer.record { metadata with controlPacket := 0 }
  if headers.vxlan.isSome then headers.inner.record { outer with tunType := TUNNEL_TYPE_VXLAN }
  else outer

/-- The inner layer is read behind a tunnel header only. -/
def readInner (vxlan : Header Vxlan) (packet : Bits) : Option (Layer × Bits) :=
  if vxlan.isSome then Layer.read packet else some ({}, packet)

/-- A header stack read one header after the other. -/
def Headers.read (packet : Bits) : Option (Headers × Bits) := do
  let (outer, packet) ← Layer.read packet
  let (vxlan, packet) ←
    extractIf (outer.udp.map (·.dstPort) = some IP_PROTOCOLS_UDP_PORT_VXLAN) Vxlan.codec packet
  let (inner, packet) ← readInner vxlan packet
  return ({ outer, vxlan, inner }, packet)

/-- Behind the tunnel header the parser reads the inner layer. -/
theorem parseVxlan_eq_read (outer : Layer) (metadata : LocalMetadata) (packet : Bits) :
    parseVxlan { packet, headers := { outer }, metadata } =
      (extract Vxlan.codec packet).bind fun (vxlan, packet) =>
        (Layer.read packet).bind fun (inner, packet) =>
          some
            { packet
              headers := { outer, vxlan := some vxlan, inner }
              metadata := inner.record { metadata with tunType := TUNNEL_TYPE_VXLAN } } := by
  unfold parseVxlan parseEthernet
  congr 1
  funext ⟨vxlan, packet⟩
  have hread := ethernet_eq_read .inner selectInner { outer, vxlan := some vxlan }
    { metadata with tunType := TUNNEL_TYPE_VXLAN } id packet
  simpa only [Headers.modify, follow_inner, id_eq] using hread

/-- The state machine accepts what the straight-line reader accepts, with the same headers. -/
theorem packetParser_eq_read (metadata : LocalMetadata) (packet : Bits) :
    packetParser metadata packet = (Headers.read packet).map fun (headers, rest) =>
      { packet := rest, headers, metadata := headers.record metadata } := by
  have hstart : packetParser metadata packet = (Layer.read packet).bind fun (outer, packet) =>
      follow .outer selectOuter {} { metadata with controlPacket := 0 } outer packet :=
    ethernet_eq_read .outer selectOuter {} metadata ({ · with controlPacket := 0 }) packet
  rw [hstart, Headers.read]
  simp only [Option.bind_eq_bind, Option.map_bind]
  congr 1
  funext ⟨outer, packet⟩
  obtain hudp | ⟨udp, hudp⟩ : outer.udp = none ∨ ∃ udp, outer.udp = some udp := by
    cases outer.udp <;> simp
  · simp [follow, accept, hudp, extractIf, Headers.modify, Headers.record, readInner]
  · by_cases hport : udp.dstPort = IP_PROTOCOLS_UDP_PORT_VXLAN
    · simp [follow, hudp, selectOuter, hport, Headers.modify, parseVxlan_eq_read, extractIf,
        Headers.record, readInner, Option.bind_map, Option.map_bind]
    · simp [follow, hudp, selectOuter, hport, Headers.modify, accept, extractIf, Headers.record,
        readInner]

/-- No layer carries both UDP and TCP. -/
theorem Layer.WellFormed.udp_or_tcp {layer : Layer} (hwf : layer.WellFormed) :
    layer.udp = none ∨ layer.tcp = none := by
  by_contra hboth
  simp only [not_or, ← Option.isSome_iff_ne_none] at hboth
  have hprotocol := (hwf.udp.mp hboth.1).symm.trans (hwf.tcp.mp hboth.2)
  exact absurd hprotocol (by decide)

/-- The deparser writes the layers of a well-formed stack one behind the other. -/
theorem packetDeparser_append (headers : Headers) (hwf : headers.outer.WellFormed) (rest : Bits) :
    packetDeparser headers ++ rest =
      headers.outer.emit ++ (headers.vxlan.emit Vxlan.codec ++ (headers.inner.emit ++ rest)) := by
  obtain hudp | htcp := hwf.udp_or_tcp
  · simp [packetDeparser, Layer.emit, hudp]
  · simp [packetDeparser, Layer.emit, htcp]

/-- Behind a tunnel header stands a well-formed layer, and nothing without one. -/
theorem readInner_eq_some_iff {vxlan : Header Vxlan} {packet rest : Bits} {inner : Layer} :
    readInner vxlan packet = some (inner, rest) ↔
      (if vxlan.isSome then inner.WellFormed else inner = {}) ∧ packet = inner.emit ++ rest := by
  unfold readInner
  split_ifs with hvxlan
  · exact Layer.read_eq_some_iff
  · constructor
    · intro h
      obtain ⟨rfl, rfl⟩ := Prod.mk.inj (Option.some.inj h)
      exact ⟨rfl, rfl⟩
    · rintro ⟨rfl, rfl⟩
      rfl

/-- The straight-line reader accepts the well-formed stacks. -/
theorem Headers.read_eq_some_iff {headers : Headers} {packet rest : Bits} :
    Headers.read packet = some (headers, rest) ↔
      headers.WellFormed ∧ packet = packetDeparser headers ++ rest := by
  simp only [Headers.read, Option.bind_eq_bind, Option.bind_eq_some_iff, Prod.exists,
    Layer.read_eq_some_iff, extractIf_eq_some_iff, readInner_eq_some_iff]
  constructor
  · rintro ⟨outer, _, ⟨houter, rfl⟩, vxlan, _, ⟨hvxlan, rfl⟩, inner, tail, ⟨hinner, rfl⟩, hfinal⟩
    obtain ⟨rfl, rfl⟩ := Prod.mk.inj (Option.some.inj hfinal)
    exact ⟨⟨houter, hvxlan, hinner⟩, (packetDeparser_append { outer, vxlan, inner } houter tail).symm⟩
  · rintro ⟨hwf, hpacket⟩
    exact ⟨headers.outer, _, ⟨hwf.outer, hpacket.trans (packetDeparser_append headers hwf.outer rest)⟩,
      headers.vxlan, _, ⟨hwf.vxlan, rfl⟩, headers.inner, rest, ⟨hwf.inner, rfl⟩, rfl⟩

/-- A well-formed stack is parsed as it was emitted. -/
theorem packetParser_packetDeparser (metadata : LocalMetadata) {headers : Headers}
    (hwf : headers.WellFormed) (payload : Bits) :
    packetParser metadata (packetDeparser headers ++ payload) =
      some { packet := payload, headers, metadata := headers.record metadata } := by
  rw [packetParser_eq_read, Headers.read_eq_some_iff.mpr ⟨hwf, rfl⟩, Option.map_some]

/-- What is parsed is a well-formed stack and a rest, and emitting it gives the packet back. -/
theorem wellFormed_of_packetParser {metadata final : LocalMetadata} {packet payload : Bits}
    {headers : Headers}
    (hparse : packetParser metadata packet = some { packet := payload, headers, metadata := final }) :
    headers.WellFormed ∧ packetDeparser headers ++ payload = packet ∧ final = headers.record metadata := by
  rw [packetParser_eq_read, Option.map_eq_some_iff] at hparse
  obtain ⟨⟨_, _⟩, hread, hcursor⟩ := hparse
  obtain ⟨rfl, rfl, rfl⟩ := Cursor.mk.inj hcursor
  obtain ⟨hwf, hpacket⟩ := Headers.read_eq_some_iff.mp hread
  exact ⟨hwf, hpacket.symm, rfl⟩

/-- The parser accepts exactly the packets that are a well-formed stack and a rest. The stack is unique,
and emitting it in front of the rest gives the packet back. -/
theorem packetParser_iff (metadata : LocalMetadata) (packet : Bits) (cursor : Cursor) :
    packetParser metadata packet = some cursor ↔
      cursor.headers.WellFormed ∧ packet = packetDeparser cursor.headers ++ cursor.packet ∧
        cursor.metadata = cursor.headers.record metadata := by
  constructor
  · intro hparse
    obtain ⟨hwf, hpacket, hfinal⟩ := wellFormed_of_packetParser hparse
    exact ⟨hwf, hpacket.symm, hfinal⟩
  · rintro ⟨hwf, hpacket, hfinal⟩
    rw [hpacket, packetParser_packetDeparser metadata hwf, ← hfinal]

end NetworkingRecipe.LinuxNetworking
