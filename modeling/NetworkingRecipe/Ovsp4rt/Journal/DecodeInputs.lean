import NetworkingRecipe.Ovsp4rt.Journal.EncodeInputs

/-!
# Reading journal records back

The part of an input that a record is meant to keep: everything except the address of an
unknown family and the arm of a union that the flags do not select. One decoding function
recovers it from the `params` of every record but that of a tunnel, whose structure is
elsewhere in the record.
-/

namespace NetworkingRecipe.Ovsp4rt

/-! ### What is recorded -/

/-- An address from its four words. -/
def IpAddr.ofWords (a b c d : UInt32) : IpAddr := ⟨#v[a, b, c, d]⟩

/-- An IPv4 address. -/
def IpAddr.ofV4 (sAddr : UInt32) : IpAddr := .ofWords sAddr 0 0 0

/-- The families whose addresses are recorded. -/
def P4Ipaddr.Known (info : P4Ipaddr) : Prop :=
  info.family = afInet ∨ info.family = afInet6

instance (info : P4Ipaddr) : Decidable info.Known :=
  inferInstanceAs (Decidable (_ ∨ _))

/-- An address without what its family does not use. -/
def P4Ipaddr.recorded (info : P4Ipaddr) : P4Ipaddr :=
  { info with
    ip :=
      if info.family = afInet then .ofV4 info.ip.sAddr
      else if info.family = afInet6 then info.ip
      else {} }

/-- A tunnel with the recorded parts of its addresses. -/
def TunnelInfo.recorded (info : TunnelInfo) : TunnelInfo :=
  { info with localIp := info.localIp.recorded, remoteIp := info.remoteIp.recorded }

/-- A learning record without the arm of its union that the flags do not select. -/
def MacLearningInfo.recorded (info : MacLearningInfo) : MacLearningInfo :=
  { info with
    tnlInfo :=
      if info.isTunnel then info.tnlInfo.recorded
      else if info.isVlan then { ifindex := info.vlnInfo.vlanId }
      else {} }

/-- A flow with the recorded parts of its addresses. -/
def IpMacMapInfo.recorded (info : IpMacMapInfo) : IpMacMapInfo :=
  { info with srcIpAddr := info.srcIpAddr.recorded, dstIpAddr := info.dstIpAddr.recorded }

/-- The recorded part of an input. -/
def JournalInput.recorded : JournalInput → JournalInput
  | macLearningInfo info => macLearningInfo info.recorded
  | ipMacMapInfo info => ipMacMapInfo info.recorded
  | tunnelInfo info => tunnelInfo info.recorded
  | srcPortInfo info => srcPortInfo info
  | vlanId id => vlanId id

namespace Journal

/-! ### Decoding -/

/-- Read back the half words of an address. -/
def decodeHalves : List ℕ → IpAddr
  | [a, b, c, d, e, f, g, h] =>
    .ofWords (.ofNat (a + 2 ^ 16 * b)) (.ofNat (c + 2 ^ 16 * d)) (.ofNat (e + 2 ^ 16 * f))
      (.ofNat (g + 2 ^ 16 * h))
  | _ => {}

/-- Read back an address. -/
def decodeIpAddr (json : Json) : P4Ipaddr where
  family := .ofNat (json.get "family").toNat
  prefixLen := .ofNat (json.get "prefix_len").toNat
  ip :=
    if UInt8.ofNat (json.get "family").toNat = afInet then
      .ofV4 (.ofNat ((json.get "ipv4_addr").items.headD .null).toNat)
    else if UInt8.ofNat (json.get "family").toNat = afInet6 then
      decodeHalves ((json.get "ipv6_addr").items.map Json.toNat)
    else {}

/-- Read back a MAC address. -/
def decodeMacAddr (json : Json) : MacAddr :=
  Vector.ofFn fun i => .ofNat (json.items.getD i .null).toNat

/-- Read back a flow. -/
def decodeIpMacMapInfo (json : Json) : IpMacMapInfo where
  srcMacAddr := decodeMacAddr (json.get "src_mac_addr")
  dstMacAddr := decodeMacAddr (json.get "dst_mac_addr")
  srcIpAddr := decodeIpAddr (json.get "src_ip_addr")
  dstIpAddr := decodeIpAddr (json.get "dst_ip_addr")

/-- The VLAN mode of a number. -/
def decodeVlanMode : ℕ → P4VlanMode
  | 0 => .access
  | 1 => .trunk
  | 2 => .nativeTagged
  | 3 => .nativeUntagged
  | 4 => .dot1qTunnel
  | _ => .unsupported

/-- Read back the VLAN settings of a port. -/
def decodePortVlanInfo (json : Json) : PortVlanInfo where
  portVlanMode := decodeVlanMode (json.get "port_vlan_mode").toNat
  portVlan := .ofInt (json.get "port_vlan").toInt

/-- Read back a source port. -/
def decodeSrcPortInfo (json : Json) : SrcPortInfo where
  bridgeId := .ofNat (json.get "bridge_id").toNat
  vlanId := .ofNat (json.get "vlan_id").toNat
  srcPort := .ofNat (json.get "src_port").toNat

/-- Read back a tunnel. -/
def decodeTunnelInfo (json : Json) : TunnelInfo where
  ifindex := .ofNat (json.get "ifindex").toNat
  portId := .ofNat (json.get "port_id").toNat
  srcPort := .ofNat (json.get "src_port").toNat
  localIp := decodeIpAddr (json.get "local_ip")
  remoteIp := decodeIpAddr (json.get "remote_ip")
  dstPort := .ofNat (json.get "dst_port").toNat
  vni := .ofNat (json.get "vni").toNat
  vlanInfo := decodePortVlanInfo (json.get "vlan_info")
  bridgeId := .ofNat (json.get "bridge_id").toNat
  tunnelType := .ofNat (json.get "tunnel_type").toNat

/-- Read back a learning record. -/
def decodeMacLearningInfo (json : Json) : MacLearningInfo where
  isTunnel := (json.get "is_tunnel").toBool
  isVlan := (json.get "is_vlan").toBool
  macAddr := decodeMacAddr (json.get "mac_addr")
  bridgeId := .ofNat (json.get "bridge_id").toNat
  srcPort := .ofNat (json.get "src_port").toNat
  rxSrcPort := .ofNat (json.get "rx_src_port").toNat
  vlanInfo := decodePortVlanInfo (json.get "vlan_info")
  tnlInfo :=
    if (json.get "is_tunnel").toBool then decodeTunnelInfo (json.get "tnl_info")
    else if (json.get "is_vlan").toBool then { ifindex := .ofNat ((json.get "vln_info").get "vlan_id").toNat }
    else {}

/-! ### Round trips of the structures -/

/-- The half words of an address give it back. -/
theorem decodeHalves_u6Addr16 (ip : IpAddr) : decodeHalves (ip.u6Addr16.map UInt16.toNat) = ip := by
  have hword (word : UInt32) :
      UInt32.ofNat (word.toUInt16.toNat + 2 ^ 16 * (word >>> 16).toUInt16.toNat) = word := by
    apply UInt32.toNat_inj.mp
    have hlt := word.toNat_lt
    simp only [UInt32.toNat_ofNat', UInt32.toNat_toUInt16, UInt32.toNat_shiftRight, UInt32.reduceToNat,
      Nat.shiftRight_eq_div_pow, Nat.reduceMod]
    omega
  obtain ⟨⟨⟨words⟩, hsize⟩⟩ := ip
  obtain ⟨a, b, c, d, rfl⟩ := List.length_eq_four.mp hsize
  simp only [IpAddr.u6Addr16, Vector.toList_mk, List.flatMap_cons, List.flatMap_nil, List.append_nil,
    List.cons_append, List.nil_append, List.map_cons, List.map_nil, decodeHalves, hword]
  rfl

/-- A recorded address is read back. -/
theorem decode_ipAddrToJson (info : P4Ipaddr) : decodeIpAddr (ipAddrToJson .null info) = info.recorded := by
  have hhalves : (info.ip.u6Addr16.map fun half => Json.ofNat half.toNat).map Json.toNat =
      info.ip.u6Addr16.map UInt16.toNat := by
    rw [List.map_map]
    exact List.map_congr_left fun half _ => Json.toNat_ofNat half.toNat
  rw [ipAddrToJson, P4Ipaddr.recorded]
  by_cases hv4 : info.family = afInet
  · simp [decodeIpAddr, hv4]
  · by_cases hv6 : info.family = afInet6
    · have hne : ¬ afInet6 = afInet := by decide
      simp only [decodeIpAddr, hv6, hne, if_true, if_false, Json.get_set, Json.toNat_ofNat, Json.items_array,
        hhalves, decodeHalves_u6Addr16, UInt8.ofNat_toNat, String.reduceEq]
    · simp [decodeIpAddr, hv4, hv6]

/-- A recorded MAC address is read back. -/
theorem decode_macAddrToJson (macAddr : MacAddr) : decodeMacAddr (macAddrToJson macAddr) = macAddr := by
  ext i hi
  simp [decodeMacAddr, macAddrToJson, List.getD_eq_getElem?_getD]

/-- A recorded flow is read back. -/
theorem decode_ipMacMapInfoToJson (info : IpMacMapInfo) :
    decodeIpMacMapInfo (ipMacMapInfoToJson .null info) = info.recorded := by
  simp [decodeIpMacMapInfo, ipMacMapInfoToJson, decode_macAddrToJson, decode_ipAddrToJson,
    IpMacMapInfo.recorded]

/-- A VLAN mode is read back from its number. -/
theorem decodeVlanMode_vlanModeNumber (mode : P4VlanMode) : decodeVlanMode (vlanModeNumber mode) = mode := by
  cases mode <;> rfl

/-- Recorded VLAN settings are read back. -/
theorem decode_portVlanInfoToJson (info : PortVlanInfo) :
    decodePortVlanInfo (portVlanInfoToJson .null info) = info := by
  simp [decodePortVlanInfo, portVlanInfoToJson, decodeVlanMode_vlanModeNumber]

/-- A recorded source port is read back. -/
theorem decode_srcPortInfoToJson (info : SrcPortInfo) :
    decodeSrcPortInfo (srcPortInfoToJson .null info) = info := by
  simp [decodeSrcPortInfo, srcPortInfoToJson]

/-- A recorded tunnel is read back. -/
theorem decode_tunnelInfoToJson (info : TunnelInfo) :
    decodeTunnelInfo (tunnelInfoToJson .null info) = info.recorded := by
  simp [decodeTunnelInfo, tunnelInfoToJson, decode_ipAddrToJson, decode_portVlanInfoToJson,
    TunnelInfo.recorded]

/-- A recorded learning record is read back. -/
theorem decode_macLearningInfoToJson (info : MacLearningInfo) :
    decodeMacLearningInfo (macLearningInfoToJson .null info) = info.recorded := by
  rw [macLearningInfoToJson, MacLearningInfo.recorded]
  cases htunnel : info.isTunnel with
  | true =>
    simp [decodeMacLearningInfo, decode_macAddrToJson, decode_portVlanInfoToJson, decode_tunnelInfoToJson]
  | false =>
    cases hvlan : info.isVlan with
    | true =>
      simp [decodeMacLearningInfo, decode_macAddrToJson, decode_portVlanInfoToJson, vlanInfoToJson]
    | false =>
      simp [decodeMacLearningInfo, decode_macAddrToJson, decode_portVlanInfoToJson]

end Journal

/-! ### Round trips of the records -/

/-- The record encoders. -/
inductive RecordEncoder where
  | macLearningInfo | ipMacMapInfo | tunnelInfo | srcPortInfo | vlanId
  deriving DecidableEq, Repr

/-- The names of the API functions that use an encoder. -/
def RecordEncoder.funcNames : RecordEncoder → List String
  | macLearningInfo => ["ovsp4rt_config_fdb_entry"]
  | ipMacMapInfo => ["ovsp4rt_config_ip_mac_map_entry"]
  | tunnelInfo => ["ovsp4rt_config_tunnel_entry", "ovsp4rt_config_rx_tunnel_src_entry"]
  | srcPortInfo => ["ovsp4rt_config_src_port_entry", "ovsp4rt_config_tunnel_src_port_entry"]
  | vlanId => ["ovsp4rt_config_vlan_entry"]

/-- The encoder of an input. -/
def JournalInput.encoder : JournalInput → RecordEncoder
  | macLearningInfo _ => .macLearningInfo
  | ipMacMapInfo _ => .ipMacMapInfo
  | tunnelInfo _ => .tunnelInfo
  | srcPortInfo _ => .srcPortInfo
  | vlanId _ => .vlanId

/-- The `params` object of a record. -/
def JournalInput.params (input : JournalInput) (funcName : String) (insertEntry : Bool) : Json :=
  (input.record funcName insertEntry).get "params"

namespace Journal

/-- Read back an input and `insert_entry` from the name of the function and the `params` object; a tunnel
is looked for under its own name. -/
def decodeParams (funcName : String) (params : Json) : JournalInput × Bool :=
  (if funcName = "ovsp4rt_config_fdb_entry" then
      .macLearningInfo (decodeMacLearningInfo (params.get "learn_info"))
    else if funcName = "ovsp4rt_config_ip_mac_map_entry" then
      .ipMacMapInfo (decodeIpMacMapInfo (params.get "ip_mac_map_info"))
    else if funcName ∈ RecordEncoder.srcPortInfo.funcNames then
      .srcPortInfo (decodeSrcPortInfo (params.get "port_info"))
    else if funcName = "ovsp4rt_config_vlan_entry" then
      .vlanId (.ofNat (params.get "vlan_id").toNat)
    else .tunnelInfo (decodeTunnelInfo (params.get "tunnel_info")),
   (params.get "insert_entry").toBool)

/-- A decoding function recovers the recorded part of an input, and `insert_entry`, from the `params` of
every record that the given encoders write. -/
def Recovers (decode : String → Json → JournalInput × Bool) (encoders : RecordEncoder → Prop) : Prop :=
  ∀ input : JournalInput, encoders input.encoder →
    ∀ funcName ∈ input.encoder.funcNames, ∀ insertEntry : Bool,
      decode funcName (input.params funcName insertEntry) = (input.recorded, insertEntry)

/-- The decoding function recovers every input but a tunnel. -/
theorem decodeParams_recovers : Recovers decodeParams fun encoder => encoder ≠ .tunnelInfo := by
  intro input hencoder funcName hname insertEntry
  cases input with
  | macLearningInfo info =>
    obtain rfl : funcName = _ := List.mem_singleton.mp hname
    simp [decodeParams, JournalInput.params, JournalInput.record, encodeMacLearningInfo, encodeStruct,
      decode_macLearningInfoToJson, JournalInput.recorded]
  | ipMacMapInfo info =>
    obtain rfl : funcName = _ := List.mem_singleton.mp hname
    simp [decodeParams, JournalInput.params, JournalInput.record, encodeIpMacMapInfo, encodeStruct,
      decode_ipMacMapInfoToJson, JournalInput.recorded]
  | tunnelInfo info => exact absurd rfl hencoder
  | srcPortInfo info =>
    have hmem : funcName ∈ RecordEncoder.srcPortInfo.funcNames := hname
    have hfdb : funcName ≠ "ovsp4rt_config_fdb_entry" := by
      rintro rfl
      exact absurd hmem (by decide)
    have hmap : funcName ≠ "ovsp4rt_config_ip_mac_map_entry" := by
      rintro rfl
      exact absurd hmem (by decide)
    rw [decodeParams, if_neg hfdb, if_neg hmap, if_pos hmem]
    simp [JournalInput.params, JournalInput.record, encodeSrcPortInfo, encodeStruct,
      decode_srcPortInfoToJson, JournalInput.recorded]
  | vlanId id =>
    obtain rfl : funcName = _ := List.mem_singleton.mp hname
    simp [decodeParams, JournalInput.params, JournalInput.record, encodeVlanId, RecordEncoder.funcNames,
      JournalInput.recorded]

/-- The `params` object of a tunnel's record does not depend on the tunnel. -/
theorem params_tunnelInfo (info info' : TunnelInfo) (funcName : String) (insertEntry : Bool) :
    (JournalInput.tunnelInfo info).params funcName insertEntry =
      (JournalInput.tunnelInfo info').params funcName insertEntry := by
  simp [JournalInput.params, JournalInput.record, encodeTunnelInfo]

/-- A tunnel that differs from the empty one in its VNI. -/
def vniTunnel : TunnelInfo := { vni := 7 }

/-- No function recovers tunnels. -/
theorem not_recovers_tunnelInfo (decode : String → Json → JournalInput × Bool)
    {encoders : RecordEncoder → Prop} (hencoders : encoders .tunnelInfo) : ¬ Recovers decode encoders := by
  intro hrecovers
  have hempty := hrecovers (.tunnelInfo {}) hencoders _ List.mem_cons_self true
  have hvni := hrecovers (.tunnelInfo vniTunnel) hencoders _ List.mem_cons_self true
  rw [params_tunnelInfo vniTunnel {}] at hvni
  have hsame := congrArg Prod.fst (hempty.symm.trans hvni)
  exact absurd hsame (by decide)

/-- One function recovers the inputs of given encoders from their `params` objects exactly if the tunnel
encoder is not among them. -/
theorem exists_recovers_iff (encoders : RecordEncoder → Prop) :
    (∃ decode, Recovers decode encoders) ↔ ¬ encoders .tunnelInfo := by
  refine ⟨fun ⟨decode, hrecovers⟩ htunnel => not_recovers_tunnelInfo decode htunnel hrecovers,
    fun htunnel => ⟨decodeParams, fun input hencoder => decodeParams_recovers input fun h => ?_⟩⟩
  exact htunnel (h ▸ hencoder)

/-- The records of two tunnels of different VNIs have the same `params`, so that no function recovers the
inputs of all encoders. -/
theorem tunnel_params_collide :
    (JournalInput.tunnelInfo {}).params "ovsp4rt_config_tunnel_entry" true =
        (JournalInput.tunnelInfo vniTunnel).params "ovsp4rt_config_tunnel_entry" true ∧
      (JournalInput.tunnelInfo {}).recorded ≠ (JournalInput.tunnelInfo vniTunnel).recorded ∧
      ¬ ∃ decode, Recovers decode fun _ => True :=
  ⟨params_tunnelInfo _ _ _ _, by decide, fun ⟨decode, h⟩ => not_recovers_tunnelInfo decode trivial h⟩

end Journal

end NetworkingRecipe.Ovsp4rt
