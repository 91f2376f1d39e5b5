import NetworkingRecipe.InlineIpsec.Program

/-!
# Journeys through the accelerator

A packet that a pass has handed to the accelerator comes back for another pass, and that pass
never enables it again. So a journey has at most two passes, and what leaves for a port can be
said in terms of the frame that arrived, the tables, the accelerator and the platform.

The program does not say what becomes of a packet for which a pass has both enabled the
accelerator and called for a destination. That is left to the platform. From the host no pass
does both, and nothing leaves that the accelerator has not processed. From the network every pass
that enables the accelerator also routes the packet.
-/

namespace NetworkingRecipe.InlineIpsec

open Bits P4

/-! ### IP packets -/

/-- The bits are an IPv4 header, the ESP header if that announces one, and a payload. -/
def IsIp (ip : Bits) (ipv4 : Ipv4) (esp : Header Esp) (payload : Bits) : Prop :=
  (esp.isSome ↔ ipv4.protocol = IP_PROTOCOL_ESP) ∧
    ip = Ipv4.codec.encode ipv4 ++ esp.emit Esp.codec ++ payload

/-- An IP packet has one header. -/
theorem IsIp.unique {ip : Bits} {first second : Ipv4} {esp other : Header Esp} {payload rest : Bits}
    (h : IsIp ip first esp payload) (h' : IsIp ip second other rest) :
    first = second ∧ esp.emit Esp.codec ++ payload = other.emit Esp.codec ++ rest := by
  apply Ipv4.codec.encode_append_inj
  rw [← List.append_assoc, ← List.append_assoc, ← h.2, h'.2]

/-- The parser reads exactly the IP packets. -/
theorem parseIpv4_eq_some_iff {ethernet : Header Ethernet} {ip payload : Bits} {hdrs : Headers} :
    parseIpv4 { ethernet } ip = some (hdrs, payload) ↔
      ∃ ipv4 esp, hdrs = { ethernet, ipv4 := some ipv4, esp } ∧ IsIp ip ipv4 esp payload := by
  have hextract : parseIpv4 { ethernet } ip = (extract Ipv4.codec ip).bind fun read =>
      (extractIf (read.1.protocol = IP_PROTOCOL_ESP) Esp.codec read.2).map fun next =>
        ({ ethernet, ipv4 := some read.1, esp := next.1 }, next.2) := by
    unfold parseIpv4 parseEsp extractIf
    congr 1
    funext read
    cases read
    dsimp only
    split_ifs
    · rw [Option.map_map]
      rfl
    · rfl
  rw [hextract]
  simp only [Option.bind_eq_some_iff, Option.map_eq_some_iff, Prod.exists, extract_eq_some_iff,
    extractIf_eq_some_iff, Prod.mk.injEq, IsIp]
  constructor
  · rintro ⟨ipv4, rest, rfl, esp, _, ⟨hesp, rfl⟩, rfl, rfl⟩
    exact ⟨ipv4, esp, rfl, hesp, by rw [List.append_assoc]⟩
  · rintro ⟨ipv4, esp, rfl, hesp, rfl⟩
    exact ⟨ipv4, _, List.append_assoc .., esp, payload, ⟨hesp, rfl⟩, rfl, rfl⟩

/-- A packet from the accelerator is read as an IP packet. -/
theorem mainParserImpl_returned {status : IpsecStatus} {ip payload : Bits} {hdrs : Headers} :
    mainParserImpl (some status) ip = some (hdrs, payload) ↔
      ∃ ipv4 esp, hdrs = { ipv4 := some ipv4, esp } ∧ IsIp ip ipv4 esp payload :=
  parseIpv4_eq_some_iff

/-- A packet that arrives is read as an Ethernet frame, and what the frame carries as an IP packet if the
frame says so. -/
theorem mainParserImpl_arrived {packet payload : Bits} {hdrs : Headers} :
    mainParserImpl none packet = some (hdrs, payload) ↔
      ∃ ethernet ip, packet = Ethernet.codec.encode ethernet ++ ip ∧
        if ethernet.etherType = ETHERNET_ETHERTYPE_IPV4 then
          ∃ ipv4 esp, hdrs = { ethernet := some ethernet, ipv4 := some ipv4, esp } ∧
            IsIp ip ipv4 esp payload
        else hdrs = { ethernet := some ethernet } ∧ payload = ip := by
  change parseEthernet {} packet = _ ↔ _
  simp only [parseEthernet, Option.bind_eq_some_iff, Prod.exists, extract_eq_some_iff]
  refine exists_congr fun ethernet => exists_congr fun ip => and_congr_right fun _ => ?_
  split_ifs
  · exact parseIpv4_eq_some_iff
  · simp [eq_comm]

/-- The frame of an IP packet. -/
theorem mainParserImpl_frame {ethernet : Ethernet} (htype : ethernet.etherType = ETHERNET_ETHERTYPE_IPV4)
    {ip payload : Bits} {ipv4 : Ipv4} {esp : Header Esp} (hip : IsIp ip ipv4 esp payload) :
    mainParserImpl none (Ethernet.codec.encode ethernet ++ ip) =
      some ({ ethernet := some ethernet, ipv4 := some ipv4, esp }, payload) := by
  rw [mainParserImpl_arrived]
  refine ⟨ethernet, ip, rfl, ?_⟩
  rw [if_pos htype]
  exact ⟨ipv4, esp, rfl, hip⟩

/-- An IP packet comes out behind the Ethernet header that it has. -/
theorem mainDeparserImpl_append {ethernet : Header Ethernet} {ip payload : Bits} {ipv4 : Ipv4}
    {esp : Header Esp} (hip : IsIp ip ipv4 esp payload) :
    mainDeparserImpl { ethernet, ipv4 := some ipv4, esp } ++ payload =
      ethernet.emit Ethernet.codec ++ ip := by
  rw [hip.2]
  simp [mainDeparserImpl]

/-! ### Routing -/

/-- The next hop's action for an address. Where the route drops, the next hop is the one that the
metadata had before. -/
def Tables.nextHop (tables : Tables) (nextHopId : BitVec 32) (dstAddr : BitVec 32) : NextHopAction :=
  let routed : BitVec 32 :=
    match (tables.routingTable dstAddr).getD tables.routingDefault with
    | .nextHopIdSet nextHopId => nextHopId
    | .drop => nextHopId
  (tables.nextHopTable routed).getD tables.nextHopDefault

/-- The Ethernet header behind the next hop's action. -/
def NextHopAction.ethernet (action : NextHopAction) (ethernet : Header Ethernet) : Header Ethernet :=
  match action with
  | .nextHopSet nextHop => some nextHop.ethernet
  | .drop => ethernet

/-- The next hop's call. -/
def NextHopAction.destination (action : NextHopAction) : Destination PortId :=
  match action with
  | .nextHopSet nextHop => .sendToPort nextHop.portId
  | .drop => .dropPacket

/-- The calls of routing: that of a route that drops, and that of the next hop. -/
def Tables.calls (tables : Tables) (nextHopId : BitVec 32) (dstAddr : BitVec 32) : List (Destination PortId) :=
  (match (tables.routingTable dstAddr).getD tables.routingDefault with
    | .nextHopIdSet _ => []
    | .drop => [.dropPacket]) ++ [(tables.nextHop nextHopId dstAddr).destination]

section Route

variable (tables : Tables) (ipv4 : Ipv4) (s : State)

/-- Routing leaves the headers to the next hop. -/
theorem hdrs_route : (applyNextHopTable tables (applyRoutingTable tables ipv4 s)).hdrs =
    { s.hdrs with
      ethernet := (tables.nextHop s.nextHopId ipv4.dstAddr).ethernet s.hdrs.ethernet } := by
  simp only [applyNextHopTable, applyRoutingTable, Tables.nextHop]
  cases (tables.routingTable ipv4.dstAddr).getD tables.routingDefault with
  | nextHopIdSet nextHopId =>
    simp only [State.nextHopIdSet]
    cases (tables.nextHopTable nextHopId).getD tables.nextHopDefault <;> rfl
  | drop =>
    simp only [State.drop]
    cases (tables.nextHopTable s.nextHopId).getD tables.nextHopDefault <;> rfl

/-- Routing tells the accelerator nothing. -/
theorem ipsec_route : (applyNextHopTable tables (applyRoutingTable tables ipv4 s)).ipsec = s.ipsec := by
  simp only [applyNextHopTable, applyRoutingTable]
  cases (tables.routingTable ipv4.dstAddr).getD tables.routingDefault with
  | nextHopIdSet nextHopId =>
    simp only [State.nextHopIdSet]
    cases (tables.nextHopTable nextHopId).getD tables.nextHopDefault <;> rfl
  | drop =>
    simp only [State.drop]
    cases (tables.nextHopTable s.nextHopId).getD tables.nextHopDefault <;> rfl

/-- Routing makes its calls. -/
theorem destinations_route : (applyNextHopTable tables (applyRoutingTable tables ipv4 s)).destinations =
    s.destinations ++ tables.calls s.nextHopId ipv4.dstAddr := by
  simp only [applyNextHopTable, applyRoutingTable, Tables.calls, Tables.nextHop]
  cases (tables.routingTable ipv4.dstAddr).getD tables.routingDefault with
  | nextHopIdSet nextHopId =>
    simp only [State.nextHopIdSet]
    cases (tables.nextHopTable nextHopId).getD tables.nextHopDefault <;> rfl
  | drop =>
    simp only [State.drop]
    cases (tables.nextHopTable s.nextHopId).getD tables.nextHopDefault <;>
      exact List.append_assoc s.destinations [_] [_]

/-- The next hop calls last. -/
theorem getLast?_calls (nextHopId : BitVec 32) (dstAddr : BitVec 32) (before : List (Destination PortId)) :
    (before ++ tables.calls nextHopId dstAddr).getLast? = some (tables.nextHop nextHopId dstAddr).destination := by
  rw [Tables.calls, ← List.append_assoc]
  exact List.getLast?_concat

end Route

/-! ### Passes -/

section Passes

variable (tables : Tables) (nextHopId : BitVec 32)

/-- What the inbound table does with an IP packet; one without an ESP header is not looked up. -/
def Tables.inboundAction (ipv4 : Ipv4) (esp : Header Esp) : IpsecAction :=
  esp.elim .ipsecBypass fun esp =>
    (tables.inboundTable ipv4.srcAddr ipv4.dstAddr esp.spi).getD .drop

/-- A frame that carries no IP packet is dropped. -/
theorem pass_other (direction : Direction) {ethernet : Ethernet}
    (htype : ethernet.etherType ≠ ETHERNET_ETHERTYPE_IPV4) (rest : Bits) :
    pass tables direction none nextHopId (Ethernet.codec.encode ethernet ++ rest) =
      some
        { packet := Ethernet.codec.encode ethernet ++ rest
          destinations := [.dropPacket] } := by
  have hparse : mainParserImpl none (Ethernet.codec.encode ethernet ++ rest) =
      some ({ ethernet := some ethernet }, rest) := by
    rw [mainParserImpl_arrived]
    exact ⟨ethernet, rest, rfl, by simp [htype]⟩
  rw [pass, hparse]
  cases direction <;> simp [mainControlImpl, State.drop, mainDeparserImpl]

/-- A packet that has a first pass is a frame, and carries an IP packet if it says so. -/
theorem exists_frame_of_pass {direction : Direction} {packet : Bits} {out : Pass}
    (hout : pass tables direction none nextHopId packet = some out) :
    ∃ ethernet ip, packet = Ethernet.codec.encode ethernet ++ ip ∧
      (ethernet.etherType = ETHERNET_ETHERTYPE_IPV4 → ∃ ipv4 esp payload, IsIp ip ipv4 esp payload) := by
  rw [pass, Option.map_eq_some_iff] at hout
  obtain ⟨⟨hdrs, payload⟩, hparse, -⟩ := hout
  rw [mainParserImpl_arrived] at hparse
  obtain ⟨ethernet, ip, rfl, hcarried⟩ := hparse
  refine ⟨ethernet, ip, rfl, fun htype => ?_⟩
  rw [if_pos htype] at hcarried
  obtain ⟨ipv4, esp, -, hip⟩ := hcarried
  exact ⟨ipv4, esp, payload, hip⟩

/-- An IP packet from the host gets what the outbound table has for it, and no port. -/
theorem pass_outbound {ethernet : Ethernet} (htype : ethernet.etherType = ETHERNET_ETHERTYPE_IPV4)
    {ip payload : Bits} {ipv4 : Ipv4} {esp : Header Esp} (hip : IsIp ip ipv4 esp payload) :
    pass tables .hostToNet none nextHopId (Ethernet.codec.encode ethernet ++ ip) =
      some
        (match tables.outboundAction ipv4 with
        | .ipsecEnable saIndex =>
          { packet := ip, ipsec := { enabled := true, saIndex := some saIndex } }
        | .ipsecBypass => { packet := Ethernet.codec.encode ethernet ++ ip }
        | .drop =>
          { packet := Ethernet.codec.encode ethernet ++ ip, destinations := [.dropPacket] }) := by
  rw [pass, mainParserImpl_frame htype hip]
  simp only [Option.map_some, mainControlImpl, applyOutboundTable]
  cases tables.outboundAction ipv4 with
  | ipsecEnable saIndex => simp [State.runIpsec, State.ipsecEnable, mainDeparserImpl_append hip]
  | ipsecBypass => simp [State.runIpsec, State.ipsecBypass, mainDeparserImpl_append hip]
  | drop => simp [State.runIpsec, State.drop, mainDeparserImpl_append hip]

/-- The inbound table does with a packet what it has for it. -/
theorem applyInboundTable_eq (ipv4 : Ipv4) (esp : Header Esp) (hdrs : Headers) :
    (esp.elim { hdrs, nextHopId } fun esp =>
      applyInboundTable tables ipv4 esp { hdrs, nextHopId }) =
      State.runIpsec (tables.inboundAction ipv4 esp) { hdrs, nextHopId } := by
  cases esp <;> rfl

/-- The header in front of an IP packet behind its first pass from the network. -/
def Tables.inboundEthernet (ethernet : Ethernet) (ipv4 : Ipv4) (esp : Header Esp) : Header Ethernet :=
  (tables.nextHop nextHopId ipv4.dstAddr).ethernet <|
    match tables.inboundAction ipv4 esp with
    | .ipsecEnable _ => none
    | .ipsecBypass => some ethernet
    | .drop => some ethernet

/-- An IP packet from the network is routed whatever the inbound table has for it. What protects it enables the
accelerator, and makes no call of its own. -/
theorem pass_inbound {ethernet : Ethernet} (htype : ethernet.etherType = ETHERNET_ETHERTYPE_IPV4)
    {ip payload : Bits} {ipv4 : Ipv4} {esp : Header Esp} (hip : IsIp ip ipv4 esp payload) :
    ∃ out, pass tables .netToHost none nextHopId (Ethernet.codec.encode ethernet ++ ip) = some out ∧
      out.packet = (tables.inboundEthernet nextHopId ethernet ipv4 esp).emit Ethernet.codec ++ ip ∧
      (∀ saIndex, tables.inboundAction ipv4 esp = .ipsecEnable saIndex →
        out.ipsec = { enabled := true, saIndex := some saIndex } ∧
          out.destinations = tables.calls nextHopId ipv4.dstAddr) ∧
      ((∀ saIndex, tables.inboundAction ipv4 esp ≠ .ipsecEnable saIndex) → out.ipsec.enabled = false) ∧
      out.destinations.getLast? = some (tables.nextHop nextHopId ipv4.dstAddr).destination := by
  refine ⟨_, by rw [pass, mainParserImpl_frame htype hip]; rfl, ?_⟩
  simp only [mainControlImpl, applyInboundTable_eq, hdrs_route, ipsec_route, destinations_route,
    Tables.inboundEthernet]
  cases tables.inboundAction ipv4 esp with
  | ipsecEnable saIndex =>
    simp [State.runIpsec, State.ipsecEnable, mainDeparserImpl_append hip, Tables.calls]
  | ipsecBypass => simp [State.runIpsec, State.ipsecBypass, mainDeparserImpl_append hip, Tables.calls]
  | drop =>
    have hlast := getLast?_calls tables nextHopId ipv4.dstAddr [.dropPacket]
    rw [List.singleton_append] at hlast
    simp [State.runIpsec, State.drop, mainDeparserImpl_append hip, hlast]

/-- A packet that the accelerator gives back is routed if its operation succeeded. -/
theorem pass_returned (direction : Direction) {ip payload : Bits} {ipv4 : Ipv4} {esp : Header Esp}
    (hip : IsIp ip ipv4 esp payload) :
    ∃ out, pass tables direction (some .success) nextHopId ip = some out ∧
      out.packet = ((tables.nextHop nextHopId ipv4.dstAddr).ethernet none).emit Ethernet.codec ++ ip ∧
      out.destinations.getLast? = some (tables.nextHop nextHopId ipv4.dstAddr).destination := by
  have hparse : mainParserImpl (some .success) ip = some ({ ipv4 := some ipv4, esp }, payload) := by
    rw [mainParserImpl_returned]
    exact ⟨ipv4, esp, rfl, hip⟩
  refine ⟨_, by rw [pass, hparse]; rfl, ?_⟩
  cases direction <;>
    simp [mainControlImpl, hdrs_route, destinations_route, mainDeparserImpl_append hip, Tables.calls]

/-- A packet whose operation failed is dropped. -/
theorem pass_failed (direction : Direction) {ip : Bits} {out : Pass}
    (hout : pass tables direction (some .error) nextHopId ip = some out) : out.destinations = [.dropPacket] := by
  rw [pass, Option.map_eq_some_iff] at hout
  obtain ⟨⟨hdrs, payload⟩, -, rfl⟩ := hout
  cases direction <;> simp [mainControlImpl, State.drop]

/-- A packet that the accelerator has given back does not go there again. -/
theorem pass_returned_enabled (direction : Direction) (status : IpsecStatus) {ip : Bits} {out : Pass}
    (hout : pass tables direction (some status) nextHopId ip = some out) : out.ipsec.enabled = false := by
  rw [pass, Option.map_eq_some_iff] at hout
  obtain ⟨⟨hdrs, payload⟩, hparse, rfl⟩ := hout
  rw [mainParserImpl_returned] at hparse
  obtain ⟨ipv4, esp, rfl, -⟩ := hparse
  cases direction <;> cases status <;> simp [mainControlImpl, ipsec_route, State.drop]

end Passes

/-! ### The platform -/

/-- What becomes of a packet behind a pass, by the calls for a destination that the pass has made. The last
call counts, and without one there is no port. If the accelerator is enabled, the platform decides whether a
call keeps the packet from it, and whether the packet also leaves for the port as it was handed over. -/
structure Platform where
  /-- A packet for which the accelerator is enabled is handed to it. -/
  accelerates : List (Destination PortId) → Prop
  /-- A packet leaves for a port, with the accelerator enabled or not. -/
  sends : (enabled : Bool) → List (Destination PortId) → PortId → Prop
  accelerates_nil : accelerates []
  sends_disabled : ∀ calls port, sends false calls port ↔ calls.getLast? = some (.sendToPort port)
  sends_enabled : ∀ calls port, sends true calls port → calls.getLast? = some (.sendToPort port)

/-- The platform on which an enabled accelerator takes every packet, whatever the calls. -/
def Platform.acceleratorFirst : Platform where
  accelerates _ := True
  sends enabled calls port := enabled = false ∧ calls.getLast? = some (.sendToPort port)
  accelerates_nil := trivial
  sends_disabled _ _ := and_iff_right rfl
  sends_enabled _ _ h := h.2

/-! ### Journeys -/

/-- What the accelerator may do with a packet under a security association: the status and the packet
that it gives back. -/
abbrev Accelerator := Option (BitVec 32) → Bits → IpsecStatus → Bits → Prop

section Journeys

variable (tables : Tables) (platform : Platform) (accelerator : Accelerator) (direction : Direction)

/-- The passes of a packet so far. -/
inductive Journey : Option IpsecStatus → Bits → List Pass → Prop
  | passed {fromIpsec nextHopId packet out} :
    pass tables direction fromIpsec nextHopId packet = some out → Journey fromIpsec packet [out]
  | accelerated {fromIpsec nextHopId packet out status returned later} :
    pass tables direction fromIpsec nextHopId packet = some out → out.ipsec.enabled = true →
    platform.accelerates out.destinations → accelerator out.ipsec.saIndex out.packet status returned →
    Journey (some status) returned later → Journey fromIpsec packet (out :: later)

/-- Behind a pass of the packet's journey it leaves, as the given bits, for a port. -/
def Sent (packet : Bits) (port : PortId) (leaving : Bits) : Prop :=
  ∃ passes, Journey tables platform accelerator direction none packet passes ∧
    ∃ out ∈ passes, platform.sends out.ipsec.enabled out.destinations port ∧ out.packet = leaving

variable {tables platform accelerator direction}

/-- A packet that the accelerator has given back has one pass left. -/
theorem Journey.returned {status : IpsecStatus} {packet : Bits} {passes : List Pass}
    (h : Journey tables platform accelerator direction (some status) packet passes) :
    ∃ nextHopId out, pass tables direction (some status) nextHopId packet = some out ∧
      passes = [out] := by
  cases h with
  | passed hout => exact ⟨_, _, hout, rfl⟩
  | accelerated hout henabled =>
    rw [pass_returned_enabled tables _ direction status hout] at henabled
    contradiction

/-- A journey has at most two passes. -/
theorem Journey.length_le {fromIpsec : Option IpsecStatus} {packet : Bits} {passes : List Pass}
    (h : Journey tables platform accelerator direction fromIpsec packet passes) : passes.length ≤ 2 := by
  cases h with
  | passed => simp
  | accelerated _ _ _ _ hlater =>
    obtain ⟨nextHopId, out, -, rfl⟩ := hlater.returned
    simp

/-- A packet leaves behind its first pass or behind the one that follows the accelerator. -/
theorem sent_iff {packet : Bits} {port : PortId} {leaving : Bits} :
    Sent tables platform accelerator direction packet port leaving ↔
      ∃ nextHopId first, pass tables direction none nextHopId packet = some first ∧
        (platform.sends first.ipsec.enabled first.destinations port ∧ first.packet = leaving ∨
          (first.ipsec.enabled = true ∧ platform.accelerates first.destinations) ∧ ∃ status returned,
            accelerator first.ipsec.saIndex first.packet status returned ∧
            ∃ nextHopId second, pass tables direction (some status) nextHopId returned = some second ∧
              second.destinations.getLast? = some (.sendToPort port) ∧ second.packet = leaving) := by
  constructor
  · rintro ⟨passes, hjourney, out, hmem, hsent⟩
    cases hjourney with
    | passed hout =>
      rw [List.mem_singleton] at hmem
      exact ⟨_, _, hout, Or.inl (hmem ▸ hsent)⟩
    | accelerated hfirst henabled haccelerates haccelerator hlater =>
      obtain ⟨nextHopId, second, hsecond, rfl⟩ := hlater.returned
      rw [List.mem_cons, List.mem_singleton] at hmem
      refine ⟨_, _, hfirst, ?_⟩
      cases hmem with
      | inl hout => exact Or.inl (hout ▸ hsent)
      | inr hout =>
        subst hout
        rw [pass_returned_enabled tables _ direction _ hsecond, platform.sends_disabled] at hsent
        exact Or.inr ⟨⟨henabled, haccelerates⟩, _, _, haccelerator, _, _, hsecond, hsent⟩
  · rintro ⟨nextHopId, first, hfirst, hsent | ⟨⟨henabled, haccelerates⟩, status, returned, haccelerator, hsecond⟩⟩
    · exact ⟨_, .passed hfirst, first, List.mem_singleton_self _, hsent⟩
    · obtain ⟨nextHopId, second, hsecond, hsent⟩ := hsecond
      rw [← platform.sends_disabled, ← pass_returned_enabled tables _ direction _ hsecond] at hsent
      exact ⟨_, .accelerated hfirst henabled haccelerates haccelerator (.passed hsecond), second, by simp, hsent⟩

end Journeys

/-! ### What leaves for a port -/

/-- An IP packet leaves for a port behind the Ethernet header of its next hop. -/
def Tables.Forwards (tables : Tables) (ip : Bits) (port : PortId) (leaving : Bits) : Prop :=
  ∃ ipv4 esp payload nextHopId nextHop, IsIp ip ipv4 esp payload ∧
    tables.nextHop nextHopId ipv4.dstAddr = .nextHopSet nextHop ∧ nextHop.portId = port ∧
    leaving = Ethernet.codec.encode nextHop.ethernet ++ ip

/-- A packet that a routed pass sends to a port leaves as its next hop forwards it. -/
theorem forwards_of_destination {tables : Tables} {ip payload : Bits} {ipv4 : Ipv4} {esp : Header Esp}
    (hip : IsIp ip ipv4 esp payload) {nextHopId : BitVec 32} {port : PortId} (ethernet : Header Ethernet)
    (hport : some (tables.nextHop nextHopId ipv4.dstAddr).destination = some (.sendToPort port)) :
    tables.Forwards ip port
      (((tables.nextHop nextHopId ipv4.dstAddr).ethernet ethernet).emit Ethernet.codec ++ ip) := by
  cases haction : tables.nextHop nextHopId ipv4.dstAddr with
  | nextHopSet nextHop =>
    rw [haction] at hport
    exact ⟨ipv4, esp, payload, nextHopId, nextHop, hip, haction,
      Destination.sendToPort.inj (Option.some.inj hport), rfl⟩
  | drop =>
    rw [haction] at hport
    cases hport

section Returned

variable {tables : Tables} {direction : Direction} {returned : Bits} {port : PortId} {leaving : Bits}

/-- The pass behind the accelerator sends what the next hop forwards, if the operation succeeded. -/
theorem returned_sent_iff {status : IpsecStatus} :
    (∃ nextHopId second, pass tables direction (some status) nextHopId returned = some second ∧
      second.destinations.getLast? = some (.sendToPort port) ∧ second.packet = leaving) ↔
      status = .success ∧ tables.Forwards returned port leaving := by
  constructor
  · rintro ⟨nextHopId, second, hsecond, hport, rfl⟩
    cases status with
    | error =>
      rw [pass_failed tables nextHopId direction hsecond] at hport
      cases hport
    | success =>
      refine ⟨rfl, ?_⟩
      have hparse := hsecond
      rw [pass, Option.map_eq_some_iff] at hparse
      obtain ⟨⟨hdrs, payload⟩, hparse, -⟩ := hparse
      rw [mainParserImpl_returned] at hparse
      obtain ⟨ipv4, esp, -, hip⟩ := hparse
      obtain ⟨out, hout, hpacket, hdestinations⟩ := pass_returned tables nextHopId direction hip
      rw [hsecond, Option.some.injEq] at hout
      subst hout
      rw [hpacket]
      exact forwards_of_destination hip none (hdestinations.symm.trans hport)
  · rintro ⟨rfl, ipv4, esp, payload, nextHopId, nextHop, hip, haction, rfl, rfl⟩
    obtain ⟨out, hout, hpacket, hdestinations⟩ := pass_returned tables nextHopId direction hip
    refine ⟨nextHopId, out, hout, hdestinations.trans ?_, ?_⟩
    · rw [haction]
      rfl
    · rw [hpacket, haction]
      rfl

end Returned

section Leaving

variable (tables : Tables) (platform : Platform) (accelerator : Accelerator)
  (packet : Bits) (port : PortId) (leaving : Bits)

/-- What stands behind the pass of a protected IP packet: the packet with its next hop's Ethernet header in
front, or the packet alone if the next hop drops it, and the calls of routing. -/
def Tables.Hands (ip : Bits) (ipv4 : Ipv4) (handed : Bits) (calls : List (Destination PortId)) : Prop :=
  ∃ nextHopId, handed = ((tables.nextHop nextHopId ipv4.dstAddr).ethernet none).emit Ethernet.codec ++ ip ∧
    calls = tables.calls nextHopId ipv4.dstAddr

end Leaving

/-! ### Opening what a peer has sealed -/

section Opening

variable {tables : Tables} {platform : Platform} {accelerator : Accelerator} {ethernet : Ethernet}
  {ip payload : Bits} {ipv4 : Ipv4} {esp : Header Esp} {saIndex : BitVec 32}

end Opening

/-! ### A sealed packet -/

/-- An IP header of the ESP protocol. -/
def espHeader : Ipv4 where
  version := 4
  ihl := 5
  dscp := 0
  ecn := 0
  totalLength := 28
  identification := 0
  flags := 2
  fragmentOffset := 0
  ttl := 64
  protocol := IP_PROTOCOL_ESP
  headerChecksum := 0
  srcAddr := 0x01010101
  dstAddr := 0x02020202

/-- A sealed packet. -/
def espPacket : Bits :=
  Ipv4.codec.encode espHeader ++ Esp.codec.encode { spi := 9, seq := 1 }

/-- The header of the packet inside it. -/
def plainHeader : Ipv4 :=
  { espHeader with protocol := 6, totalLength := 20, dstAddr := 0x0A000001 }

/-- The next hop of the inner address. -/
def plainNextHop : NextHop where
  dstAddr := 1
  srcAddr := 2
  etherType := ETHERNET_ETHERTYPE_IPV4
  portId := 3

/-- Tables that open packets of the association, drop their outer address and know a next hop for the inner
one. -/
def openingTables : Tables where
  inboundTable _ _ _ := some (.ipsecEnable 5)
  outboundTable _ _ := none
  routingTable dstAddr := some (.nextHopIdSet (if dstAddr = plainHeader.dstAddr then 1 else 2))
  nextHopTable nextHopId := if nextHopId = 1 then some (.nextHopSet plainNextHop) else none

/-- An accelerator that opens this packet alone. -/
def openingAccelerator : Accelerator := fun saIndex handed status opened =>
  saIndex = some 5 ∧ handed = espPacket ∧ status = .success ∧ opened = Ipv4.codec.encode plainHeader

/-- The sealed packet is an IP packet. -/
theorem isIp_espPacket : IsIp espPacket espHeader (some { spi := 9, seq := 1 }) [] :=
  ⟨by simp [espHeader], by simp [espPacket]⟩

/-- The packet inside it is one. -/
theorem isIp_plainHeader : IsIp (Ipv4.codec.encode plainHeader) plainHeader none [] :=
  ⟨by simp [plainHeader, IP_PROTOCOL_ESP], by simp⟩

/-- The packet inside it has a next hop. -/
theorem forwards_plainHeader : openingTables.Forwards (Ipv4.codec.encode plainHeader) 3
    (Ethernet.codec.encode plainNextHop.ethernet ++ Ipv4.codec.encode plainHeader) :=
  ⟨plainHeader, none, [], 0, plainNextHop, isIp_plainHeader, rfl, rfl, rfl⟩

end NetworkingRecipe.InlineIpsec
