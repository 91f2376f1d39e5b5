import NetworkingRecipe.P4.Packet

/-!
# The inline IPsec program

One pass of a packet through the pipeline of the IPsec recipe. The accelerator stands behind the
deparser: it takes the packets for which the pipeline has enabled it and gives them back to the
parser. A pass begins with no operation enabled. The calls that set the packet's destination are
kept in their order, and the longest prefix match of the routing table is one function.
-/

namespace NetworkingRecipe.InlineIpsec

open Bits P4

/-- A port of the device. -/
abbrev PortId := BitVec 32

/-- The ether type and the protocol that the parser selects on. -/
def ETHERNET_ETHERTYPE_IPV4 : BitVec 16 := 0x0800

@[inherit_doc ETHERNET_ETHERTYPE_IPV4] def IP_PROTOCOL_ESP : BitVec 8 := 0x32

/-! ### Headers -/

/-- The `ethernet_t` header. -/
structure Ethernet where
  dstAddr : BitVec 48
  srcAddr : BitVec 48
  etherType : BitVec 16
  deriving DecidableEq, Repr

/-- The `ipv4_t` header. -/
structure Ipv4 where
  version : BitVec 4
  ihl : BitVec 4
  dscp : BitVec 6
  ecn : BitVec 2
  totalLength : BitVec 16
  identification : BitVec 16
  flags : BitVec 3
  fragmentOffset : BitVec 13
  ttl : BitVec 8
  protocol : BitVec 8
  headerChecksum : BitVec 16
  srcAddr : BitVec 32
  dstAddr : BitVec 32
  deriving DecidableEq, Repr

/-- The `esp_t` header. -/
structure Esp where
  spi : BitVec 32
  seq : BitVec 32
  deriving DecidableEq, Repr

/-- The layout of an Ethernet header. -/
def Ethernet.codec : Codec Ethernet :=
  ((Codec.bitVec 48).prod ((Codec.bitVec 48).prod (Codec.bitVec 16))).map
    { toFun := fun (dstAddr, srcAddr, etherType) => ⟨dstAddr, srcAddr, etherType⟩
      invFun := fun header => (header.dstAddr, header.srcAddr, header.etherType)
      left_inv := fun _ => rfl
      right_inv := fun _ => rfl }

/-- The layout of an IPv4 header. -/
def Ipv4.codec : Codec Ipv4 :=
  ((Codec.bitVec 4).prod <| (Codec.bitVec 4).prod <| (Codec.bitVec 6).prod <|
    (Codec.bitVec 2).prod <| (Codec.bitVec 16).prod <| (Codec.bitVec 16).prod <|
    (Codec.bitVec 3).prod <| (Codec.bitVec 13).prod <| (Codec.bitVec 8).prod <|
    (Codec.bitVec 8).prod <| (Codec.bitVec 16).prod <| (Codec.bitVec 32).prod (Codec.bitVec 32)).map
    { toFun := fun (version, ihl, dscp, ecn, totalLength, identification, flags, fragmentOffset,
          ttl, protocol, headerChecksum, srcAddr, dstAddr) =>
        ⟨version, ihl, dscp, ecn, totalLength, identification, flags, fragmentOffset, ttl,
          protocol, headerChecksum, srcAddr, dstAddr⟩
      invFun := fun header => (header.version, header.ihl, header.dscp, header.ecn,
        header.totalLength, header.identification, header.flags, header.fragmentOffset, header.ttl,
        header.protocol, header.headerChecksum, header.srcAddr, header.dstAddr)
      left_inv := fun _ => rfl
      right_inv := fun _ => rfl }

/-- The layout of an ESP header. -/
def Esp.codec : Codec Esp :=
  ((Codec.bitVec 32).prod (Codec.bitVec 32)).map
    { toFun := fun (spi, seq) => ⟨spi, seq⟩
      invFun := fun header => (header.spi, header.seq)
      left_inv := fun _ => rfl
      right_inv := fun _ => rfl }

@[simp] theorem Ethernet.size_codec : Ethernet.codec.size = 112 :=
  rfl

/-- The `headers_t` struct. -/
structure Headers where
  ethernet : Header Ethernet := none
  ipv4 : Header Ipv4 := none
  esp : Header Esp := none
  deriving DecidableEq, Repr

/-- The accelerator's result for a packet that it gives back. -/
inductive IpsecStatus where
  | success
  | error
  deriving DecidableEq, Repr

/-! ### Parser and deparser -/

/-- The `parse_esp` state. -/
def parseEsp (hdrs : Headers) (packet : Bits) : Option (Headers × Bits) :=
  (extract Esp.codec packet).map fun (esp, rest) => ({ hdrs with esp := some esp }, rest)

/-- The `parse_ipv4` state. -/
def parseIpv4 (hdrs : Headers) (packet : Bits) : Option (Headers × Bits) :=
  (extract Ipv4.codec packet).bind fun (ipv4, rest) =>
    if ipv4.protocol = IP_PROTOCOL_ESP then parseEsp { hdrs with ipv4 := some ipv4 } rest
    else some ({ hdrs with ipv4 := some ipv4 }, rest)

/-- The `parse_ethernet` state. -/
def parseEthernet (hdrs : Headers) (packet : Bits) : Option (Headers × Bits) :=
  (extract Ethernet.codec packet).bind fun (ethernet, rest) =>
    if ethernet.etherType = ETHERNET_ETHERTYPE_IPV4 then
      parseIpv4 { hdrs with ethernet := some ethernet } rest
    else some ({ hdrs with ethernet := some ethernet }, rest)

/-- The parser `MainParserImpl`: a packet from the accelerator has no Ethernet header. -/
def mainParserImpl (fromIpsec : Option IpsecStatus) (packet : Bits) : Option (Headers × Bits) :=
  if fromIpsec.isSome then parseIpv4 {} packet else parseEthernet {} packet

/-- The deparser `MainDeparserImpl`. -/
def mainDeparserImpl (hdrs : Headers) : Bits :=
  hdrs.ethernet.emit Ethernet.codec ++ hdrs.ipv4.emit Ipv4.codec ++ hdrs.esp.emit Esp.codec

/-! ### Control -/

/-- An action of `inbound_table` and `outbound_table`. -/
inductive IpsecAction where
  | ipsecEnable (saIndex : BitVec 32)
  | ipsecBypass
  | drop
  deriving DecidableEq, Repr

/-- An action of `routing_table`. -/
inductive RoutingAction where
  | nextHopIdSet (nextHopId : BitVec 32)
  | drop
  deriving DecidableEq, Repr

/-- The parameters of `next_hop_set`. -/
structure NextHop where
  dstAddr : BitVec 48
  srcAddr : BitVec 48
  etherType : BitVec 16
  portId : BitVec 32
  deriving DecidableEq, Repr

/-- The Ethernet header that `next_hop_set` makes. -/
def NextHop.ethernet (nextHop : NextHop) : Ethernet :=
  { dstAddr := nextHop.dstAddr, srcAddr := nextHop.srcAddr, etherType := nextHop.etherType }

/-- An action of `next_hop_table`. -/
inductive NextHopAction where
  | nextHopSet (nextHop : NextHop)
  | drop
  deriving DecidableEq, Repr

/-- The tables of the control, with the default actions that are not constant. -/
structure Tables where
  inboundTable : BitVec 32 → BitVec 32 → BitVec 32 → Option IpsecAction
  outboundTable : BitVec 32 → BitVec 32 → Option IpsecAction
  outboundDefault : IpsecAction := .ipsecBypass
  routingTable : BitVec 32 → Option RoutingAction
  routingDefault : RoutingAction := .nextHopIdSet 0
  nextHopTable : BitVec 32 → Option NextHopAction
  nextHopDefault : NextHopAction := .drop

/-- What the pipeline has told the accelerator about the packet. -/
structure Ipsec where
  enabled : Bool := false
  saIndex : Option (BitVec 32) := none
  deriving DecidableEq, Repr

/-- What the control changes. -/
structure State where
  hdrs : Headers
  nextHopId : BitVec 32
  ipsec : Ipsec := {}
  destinations : List (Destination PortId) := []
  deriving DecidableEq, Repr

namespace State

/-- The `drop` action. -/
def drop (s : State) : State :=
  { s with destinations := s.destinations ++ [.dropPacket] }

/-- The `ipsec_enable` action. -/
def ipsecEnable (saIndex : BitVec 32) (s : State) : State :=
  { s with
    ipsec := { enabled := true, saIndex := some saIndex }
    hdrs := { s.hdrs with ethernet := none } }

/-- The `ipsec_bypass` action. -/
def ipsecBypass (s : State) : State :=
  { s with ipsec := { s.ipsec with enabled := false } }

/-- The `next_hop_id_set` action. -/
def nextHopIdSet (nextHopId : BitVec 32) (s : State) : State :=
  { s with nextHopId }

/-- The `next_hop_set` action. -/
def nextHopSet (nextHop : NextHop) (s : State) : State :=
  { s with
    hdrs := { s.hdrs with ethernet := some nextHop.ethernet }
    destinations := s.destinations ++ [.sendToPort nextHop.portId] }

/-- Run an action of the IPsec tables. -/
def runIpsec (action : IpsecAction) (s : State) : State :=
  match action with
  | .ipsecEnable saIndex => s.ipsecEnable saIndex
  | .ipsecBypass => s.ipsecBypass
  | .drop => s.drop

end State

section Apply

variable (tables : Tables)

/-- `inbound_table.apply()`. -/
def applyInboundTable (ipv4 : Ipv4) (esp : Esp) (s : State) : State :=
  s.runIpsec ((tables.inboundTable ipv4.srcAddr ipv4.dstAddr esp.spi).getD .drop)

/-- The action of `outbound_table` for an IPv4 header. -/
def Tables.outboundAction (ipv4 : Ipv4) : IpsecAction :=
  (tables.outboundTable ipv4.srcAddr ipv4.dstAddr).getD tables.outboundDefault

/-- `outbound_table.apply()`. -/
def applyOutboundTable (ipv4 : Ipv4) (s : State) : State :=
  s.runIpsec (tables.outboundAction ipv4)

/-- `routing_table.apply()`. -/
def applyRoutingTable (ipv4 : Ipv4) (s : State) : State :=
  match (tables.routingTable ipv4.dstAddr).getD tables.routingDefault with
  | .nextHopIdSet nextHopId => s.nextHopIdSet nextHopId
  | .drop => s.drop

/-- `next_hop_table.apply()`. -/
def applyNextHopTable (s : State) : State :=
  match (tables.nextHopTable s.nextHopId).getD tables.nextHopDefault with
  | .nextHopSet nextHop => s.nextHopSet nextHop
  | .drop => s.drop

/-- The control `MainControlImpl`. The parser leaves the IPv4 header of a packet from the accelerator
valid, so the keys below are always those of valid headers. -/
def mainControlImpl (direction : Direction) (fromIpsec : Option IpsecStatus) (s : State) : State :=
  match direction with
  | .netToHost =>
    match fromIpsec with
    | none =>
      match s.hdrs.ipv4 with
      | some ipv4 =>
        let s := s.hdrs.esp.elim s fun esp => applyInboundTable tables ipv4 esp s
        applyNextHopTable tables (applyRoutingTable tables ipv4 s)
      | none => s.drop
    | some status =>
      if status = .success then
        s.hdrs.ipv4.elim s fun ipv4 => applyNextHopTable tables (applyRoutingTable tables ipv4 s)
      else s.drop
  | .hostToNet =>
    match fromIpsec with
    | none =>
      match s.hdrs.ipv4 with
      | some ipv4 => applyOutboundTable tables ipv4 s
      | none => s.drop
    | some status =>
      if status = .success then
        s.hdrs.ipv4.elim s fun ipv4 => applyNextHopTable tables (applyRoutingTable tables ipv4 s)
      else s.drop

/-- What stands behind the deparser at the end of a pass. -/
structure Pass where
  packet : Bits
  ipsec : Ipsec := {}
  destinations : List (Destination PortId) := []
  deriving DecidableEq, Repr

/-- One pass through the pipeline. -/
def pass (direction : Direction) (fromIpsec : Option IpsecStatus) (nextHopId : BitVec 32)
    (packet : Bits) : Option Pass :=
  (mainParserImpl fromIpsec packet).map fun (hdrs, payload) =>
    let s := mainControlImpl tables direction fromIpsec { hdrs, nextHopId }
    { packet := mainDeparserImpl s.hdrs ++ payload
      ipsec := s.ipsec
      destinations := s.destinations }

end Apply

end NetworkingRecipe.InlineIpsec
