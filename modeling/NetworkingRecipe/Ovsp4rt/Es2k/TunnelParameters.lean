import NetworkingRecipe.Numeral.Positional
import NetworkingRecipe.Ovsp4rt.NumericFields

/-!
# Tunnel parameters in the ES2K entries

What the entries of a supported tunnel carry, in terms of the tunnel and not of its storage: the
addresses as the bytes of the network, the ports and the VNI as big-endian numbers.

The caller stores addresses and the destination port in network byte order on a little-endian host. A
word of an address is therefore written from its low byte up, and the number of a port has its two
bytes exchanged.
-/

namespace NetworkingRecipe.Ovsp4rt.Es2k

open P4Runtime

/-! ### Big-endian byte strings -/

/-- The low `count` bytes of a number, most significant first. -/
def bigEndian : (count number : ℕ) → Bytes
  | 0, _ => []
  | count + 1, number => UInt8.ofNat (number / 256 ^ count) :: bigEndian count number

/-- A big-endian byte string has as many bytes as are asked for. -/
theorem length_bigEndian (count number : ℕ) : (bigEndian count number).length = count := by
  induction count with
  | zero => rfl
  | succ count ih => rw [bigEndian, List.length_cons, ih]

/-- The number of a byte string is its positional value in base 256. -/
theorem byteNumber_eq_value (bytes : Bytes) : byteNumber bytes = Numeral.value 256 UInt8.toNat bytes :=
  rfl

/-- A big-endian byte string is the number modulo the power of its length. -/
theorem byteNumber_bigEndian (count number : ℕ) :
    byteNumber (bigEndian count number) = number % 256 ^ count := by
  rw [byteNumber_eq_value]
  induction count with
  | zero => rw [bigEndian, Numeral.value_nil, pow_zero, Nat.mod_one]
  | succ count ih =>
    have hbyte : (UInt8.ofNat (number / 256 ^ count)).toNat = number / 256 ^ count % 256 := UInt8.toNat_ofNat'
    rw [bigEndian, Numeral.value_cons, length_bigEndian, ih, hbyte, Nat.pow_succ, Nat.mod_mul, Nat.mul_comm,
      Nat.add_comm]

/-- Bytes that are as many and spell the number are its big-endian byte string. -/
theorem eq_bigEndian {bytes : Bytes} {count number : ℕ} (hlength : bytes.length = count)
    (hnumber : byteNumber bytes = number % 256 ^ count) : bytes = bigEndian count number := by
  refine Numeral.value_injective (fun a b => UInt8.toNat_inj.mp)
    (hlength.trans (length_bigEndian count number).symm) (fun d _ => d.toNat_lt) (fun d _ => d.toNat_lt) ?_
  rw [← byteNumber_eq_value, ← byteNumber_eq_value, hnumber, byteNumber_bigEndian]

/-! ### The tunnel as it is meant -/

/-- The bytes of an address in network order: the storage from its first byte on. -/
def networkAddress (version : IpVersion) (ip : IpAddr) : Bytes :=
  match version with
  | .v4 => ip.u6Addr8.take 4
  | .v6 => ip.u6Addr8

/-- The number of a port that is stored in network order. -/
def networkPort (port : UInt16) : ℕ :=
  port.toNat % 256 * 256 + port.toNat / 256

/-- The bytes of a word are written in memory order. -/
theorem canonicalizeIp_eq_wordBytes (word : UInt32) : canonicalizeIp word = IpAddr.wordBytes word := by
  have hmask (byte : UInt32) : (byte &&& 0xff).toUInt8 = byte.toUInt8 := by
    apply UInt8.toNat_inj.mp
    simp only [UInt32.toNat_toUInt8, UInt32.toNat_and, UInt32.reduceToNat, nat_and_255]
    omega
  rw [canonicalizeIp, encodeByteValue, IpAddr.wordBytes]
  simp only [List.map_cons, List.map_nil, hmask]

/-- An IPv4 address is written in network order. -/
theorem encodeV4Addr_eq_networkAddress (ip : IpAddr) : encodeV4Addr ip = networkAddress .v4 ip := by
  obtain ⟨⟨⟨words⟩, hsize⟩⟩ := ip
  obtain - | ⟨word, rest⟩ := words
  · cases hsize
  · exact canonicalizeIp_eq_wordBytes word

/-- An IPv6 address is written in network order. -/
theorem canonicalizeIpv6_eq_networkAddress (ip : IpAddr) : canonicalizeIpv6 ip = networkAddress .v6 ip := by
  rw [canonicalizeIpv6, encodeByteValue, List.map_map, networkAddress]
  exact List.map_id'' (fun byte => UInt8.toUInt8_toUInt32 byte) ip.u6Addr8

/-- The words of an IPv6 address, written one by one, are the address. -/
theorem flatten_canonicalizeIp (ip : IpAddr) :
    (ip.u6Addr32.toList.map canonicalizeIp).flatten = networkAddress .v6 ip := by
  rw [networkAddress, IpAddr.u6Addr8, List.flatMap, funext canonicalizeIp_eq_wordBytes]

/-- Exchanging the bytes of a stored port gives its number. -/
theorem toNat_htons (port : UInt16) : (htons port).toNat = networkPort port := by
  have hport : port.toNat < 2 ^ 16 := port.toNat_lt
  have hhigh : port.toNat <<< 8 % 65536 = (port.toNat % 256) <<< 8 := by
    rw [Nat.shiftLeft_eq, Nat.shiftLeft_eq]
    omega
  have hlow : port.toNat / 256 < 2 ^ 8 := by omega
  simp only [htons, UInt16.toNat_or, UInt16.toNat_shiftLeft, UInt16.toNat_shiftRight, UInt16.reduceToNat,
    Nat.reduceMod, Nat.shiftRight_eq_div_pow, Nat.reducePow]
  rw [hhigh, ← Nat.shiftLeft_add_eq_or_of_lt hlow, Nat.shiftLeft_eq, networkPort]

/-- A 16-bit number is written big-endian. -/
theorem encodeUint16_eq_bigEndian (number : UInt16) : encodeUint16 number = bigEndian 2 number.toNat := by
  refine eq_bigEndian rfl ?_
  rw [encodeUint16, byteNumber_bytes, UInt16.toNat_toUInt32]
  rfl

/-- The destination port is written as its number. -/
theorem encodeUint16_htons (port : UInt16) : encodeUint16 (htons port) = bigEndian 2 (networkPort port) := by
  rw [encodeUint16_eq_bigEndian, toNat_htons]

/-- The source port is written as twice the number of the destination port. -/
theorem encodeUint16_htons_mul_two (port : UInt16) :
    encodeUint16 (htons port * 2) = bigEndian 2 (2 * networkPort port % 2 ^ 16) := by
  rw [encodeUint16_eq_bigEndian, UInt16.toNat_mul, toNat_htons, mul_comm]
  rfl

/-- A VNI is written big-endian in three bytes. -/
theorem encodeVniValue_eq_bigEndian (vni : UInt32) :
    encodeVniValue vni = bigEndian 3 (vni.toNat % 2 ^ 24) := by
  refine eq_bigEndian rfl ?_
  rw [byteNumber_encodeVniValue]
  exact (Nat.mod_mod _ _).symm

/-- The port of a receive tunnel is written with its low 16 bits. -/
theorem sourcePort_eq_bigEndian (port : UInt32) :
    encodeByteValue [(port >>> 8) &&& 0xff, port &&& 0xff] = bigEndian 2 (port.toNat % 2 ^ 16) := by
  refine eq_bigEndian rfl ?_
  rw [byteNumber_bytes]
  exact (Nat.mod_mod _ _).symm

/-! ### The entries -/

/-- The arguments of a named action, by the names of its parameters. -/
def namedParams (p4info : P4Info) (aName : String) (arguments : List (String × Bytes)) : List ActionParam :=
  arguments.map fun argument => actionParam p4info aName argument.1 argument.2

/-- Exact matches of a named table, by the names of its match fields. -/
def namedMatches (p4info : P4Info) (tName : String) (keys : List (String × Bytes)) : List FieldMatch :=
  keys.map fun key => ⟨(getMatchFieldId p4info tName key.1).toUInt32, .exact key.2⟩

/-- The action of an encapsulation table. -/
def encapAction : TunnelKind → IpVersion → Bool → String
  | .vxlan, .v4, false => "linux_networking_control.vxlan_encap"
  | .vxlan, .v4, true => "linux_networking_control.vxlan_encap_vlan_pop"
  | .vxlan, .v6, false => "linux_networking_control.vxlan_encap_v6"
  | .vxlan, .v6, true => "linux_networking_control.vxlan_encap_v6_vlan_pop"
  | .geneve, .v4, false => "linux_networking_control.geneve_encap"
  | .geneve, .v4, true => "linux_networking_control.geneve_encap_vlan_pop"
  | .geneve, .v6, false => "linux_networking_control.geneve_encap_v6"
  | .geneve, .v6, true => "linux_networking_control.geneve_encap_v6_vlan_pop"

/-- The name of the source-address key of the termination and receive tables. -/
def sourceKey : IpVersion → String
  | .v4 => "ipv4_src"
  | .v6 => "ipv6_src"

/-- The VNI of a tunnel as the tables hold it. -/
def vniBytes (tunnelInfo : TunnelInfo) : Bytes :=
  bigEndian 3 (tunnelInfo.vni.toNat % 2 ^ 24)

/-- An encapsulation entry carries the tunnel: its VNI as the key, and as arguments its addresses, the
ports that follow from its destination port, and its VNI. -/
structure CarriesEncap (p4info : P4Info) (tunnelInfo : TunnelInfo) (entry : TableEntry) : Prop where
  table : entry.tableId = (getTableId p4info (encapTable tunnelInfo).name).toUInt32
  keys : entry.matchList = namedMatches p4info (encapTable tunnelInfo).name
    [("vmeta.common.mod_blob_ptr", vniBytes tunnelInfo)]
  action : ∃ aName, aName = encapAction (tunnelKind tunnelInfo) (ipVersion tunnelInfo)
      (tunnelInfo.vlanInfo.portVlanMode = .nativeUntagged) ∧
    entry.action = some (actionCall p4info aName (namedParams p4info aName
      [("src_addr", networkAddress (ipVersion tunnelInfo) tunnelInfo.localIp.ip),
       ("dst_addr", networkAddress (ipVersion tunnelInfo) tunnelInfo.remoteIp.ip),
       ("src_port", bigEndian 2 (2 * networkPort tunnelInfo.dstPort % 2 ^ 16)),
       ("dst_port", bigEndian 2 (networkPort tunnelInfo.dstPort)),
       ("vni", vniBytes tunnelInfo)]))

/-- A termination entry carries the tunnel: its remote address, its bridge, and its VNI as the key. -/
structure CarriesTerm (p4info : P4Info) (tunnelInfo : TunnelInfo) (entry : TableEntry) : Prop where
  table : entry.tableId = (getTableId p4info (termTable tunnelInfo).name).toUInt32
  keys : entry.matchList.Perm (namedMatches p4info (termTable tunnelInfo).name
    [(sourceKey (ipVersion tunnelInfo), networkAddress (ipVersion tunnelInfo) tunnelInfo.remoteIp.ip),
     ("user_meta.pmeta.bridge_id", bigEndian 1 tunnelInfo.bridgeId.toNat),
     ("vni", vniBytes tunnelInfo)])

/-- A receive entry carries the tunnel: its remote address and its VNI as the key, and on insertion its
source port as the argument. -/
structure CarriesRx (p4info : P4Info) (tunnelInfo : TunnelInfo) (insertEntry : Bool) (entry : TableEntry) :
    Prop where
  table : entry.tableId = (getTableId p4info (rxTable tunnelInfo).name).toUInt32
  keys : entry.matchList.Perm (namedMatches p4info (rxTable tunnelInfo).name
    [(sourceKey (ipVersion tunnelInfo), networkAddress (ipVersion tunnelInfo) tunnelInfo.remoteIp.ip),
     ("vni", vniBytes tunnelInfo)])
  action : insertEntry = true →
    entry.action = some (actionCall p4info rxTunnelSourcePortTableActionSetSrcPort
      (namedParams p4info rxTunnelSourcePortTableActionSetSrcPort
        [("source_port", bigEndian 2 (tunnelInfo.srcPort.toNat % 2 ^ 16))]))

/-- An entry that sets an IPv6 tunnel carries the remote address in four parts. -/
def CarriesRemoteV6 (p4info : P4Info) (learnInfo : MacLearningInfo) (entry : TableEntry) : Prop :=
  ∃ parts : List Bytes, parts.length = 4 ∧
    parts.flatten = networkAddress .v6 learnInfo.tnlInfo.remoteIp.ip ∧
    entry.action = some (actionCall p4info l2ToTunnelV6ActionSetTunnelV6
      (namedParams p4info l2ToTunnelV6ActionSetTunnelV6
        (["ipv6_1", "ipv6_2", "ipv6_3", "ipv6_4"].zip parts)))

/-- The common body of the encapsulation encoders, with the values as they are meant. -/
theorem encodeEncapEntry_eq (p4info : P4Info) (tunnelInfo : TunnelInfo) (table aName : String)
    {address : IpAddr → Bytes} {version : IpVersion} (haddress : ∀ ip, address ip = networkAddress version ip) :
    encodeEncapEntry ⟨table, aName, address⟩ {} tunnelInfo p4info true =
      { tableId := (getTableId p4info table).toUInt32
        matchList := namedMatches p4info table [("vmeta.common.mod_blob_ptr", vniBytes tunnelInfo)]
        action := some (actionCall p4info aName (namedParams p4info aName
          [("src_addr", networkAddress version tunnelInfo.localIp.ip),
           ("dst_addr", networkAddress version tunnelInfo.remoteIp.ip),
           ("src_port", bigEndian 2 (2 * networkPort tunnelInfo.dstPort % 2 ^ 16)),
           ("dst_port", bigEndian 2 (networkPort tunnelInfo.dstPort)),
           ("vni", vniBytes tunnelInfo)])) } := by
  simp only [vniBytes, ← haddress, ← encodeUint16_htons, ← encodeUint16_htons_mul_two,
    ← encodeVniValue_eq_bigEndian]
  rfl

/-- Every encapsulation encoder carries the tunnel. -/
theorem encapEncoder_eq (p4info : P4Info) (tunnelInfo : TunnelInfo) (kind : TunnelKind)
    (version : IpVersion) (vlanPop : Bool) :
    (TunnelTable.encap kind version vlanPop).encoder {} tunnelInfo p4info true =
      { tableId := (getTableId p4info (TunnelTable.encap kind version vlanPop).name).toUInt32
        matchList := namedMatches p4info (TunnelTable.encap kind version vlanPop).name
          [("vmeta.common.mod_blob_ptr", vniBytes tunnelInfo)]
        action := some (actionCall p4info (encapAction kind version vlanPop)
          (namedParams p4info (encapAction kind version vlanPop)
            [("src_addr", networkAddress version tunnelInfo.localIp.ip),
             ("dst_addr", networkAddress version tunnelInfo.remoteIp.ip),
             ("src_port", bigEndian 2 (2 * networkPort tunnelInfo.dstPort % 2 ^ 16)),
             ("dst_port", bigEndian 2 (networkPort tunnelInfo.dstPort)),
             ("vni", vniBytes tunnelInfo)])) } := by
  cases version with
  | v4 =>
    cases kind <;> cases vlanPop <;>
      exact encodeEncapEntry_eq p4info tunnelInfo _ _ encodeV4Addr_eq_networkAddress
  | v6 =>
    cases kind <;> cases vlanPop <;>
      exact encodeEncapEntry_eq p4info tunnelInfo _ _ canonicalizeIpv6_eq_networkAddress

/-- The inserted encapsulation entry of a supported tunnel carries it. -/
theorem carriesEncap_prepare {tunnelInfo : TunnelInfo} (hsupported : SupportedTunnel tunnelInfo)
    (p4info : P4Info) : CarriesEncap p4info tunnelInfo (prepareEncapTableEntry {} tunnelInfo p4info true) := by
  rw [prepareEncapTableEntry_eq hsupported, encapTable, encapEncoder_eq]
  exact ⟨rfl, rfl, _, rfl, rfl⟩

/-- A bridge is written as its number. -/
theorem encodeByteValue_bridge (bridgeId : UInt8) :
    encodeByteValue [bridgeId.toUInt32] = bigEndian 1 bridgeId.toNat := by
  refine eq_bigEndian rfl ?_
  rw [byteNumber_byte]
  rfl

/-- The termination entry of a supported tunnel carries it. -/
theorem carriesTerm_prepare {tunnelInfo : TunnelInfo} (hsupported : SupportedTunnel tunnelInfo)
    (p4info : P4Info) (insertEntry : Bool) :
    CarriesTerm p4info tunnelInfo (prepareTunnelTermTableEntry {} tunnelInfo p4info insertEntry) := by
  rw [prepareTunnelTermTableEntry_eq hsupported]
  refine ⟨?_, ?_⟩
  · rw [termTable]
    cases ipVersion tunnelInfo <;> cases insertEntry <;> rfl
  · rw [termTable, vniBytes, ← encodeVniValue_eq_bigEndian, ← encodeByteValue_bridge]
    cases ipVersion tunnelInfo with
    | v4 =>
      rw [← encodeV4Addr_eq_networkAddress]
      cases insertEntry <;> exact List.Perm.refl _
    | v6 =>
      rw [← canonicalizeIpv6_eq_networkAddress]
      cases insertEntry <;> exact List.Perm.swap _ _ _

/-- The receive entry of a supported tunnel carries it. -/
theorem carriesRx_prepare {tunnelInfo : TunnelInfo} (hsupported : SupportedTunnel tunnelInfo)
    (p4info : P4Info) (insertEntry : Bool) :
    CarriesRx p4info tunnelInfo insertEntry
      (prepareRxTunnelSrcPortTableEntry {} tunnelInfo p4info insertEntry) := by
  rw [prepareRxTunnelSrcPortTableEntry_eq hsupported]
  refine ⟨?_, ?_, ?_⟩
  · rw [rxTable]
    cases ipVersion tunnelInfo <;> cases insertEntry <;> rfl
  · rw [rxTable, vniBytes, ← encodeVniValue_eq_bigEndian]
    cases ipVersion tunnelInfo with
    | v4 =>
      rw [← encodeV4Addr_eq_networkAddress]
      cases insertEntry <;> exact List.Perm.swap _ _ _
    | v6 =>
      rw [← canonicalizeIpv6_eq_networkAddress]
      cases insertEntry <;> exact List.Perm.swap _ _ _
  · rintro rfl
    rw [rxTable, ← sourcePort_eq_bigEndian]
    cases ipVersion tunnelInfo <;> rfl

/-- The inserted entry of an IPv6 tunnel carries the remote address. -/
theorem carriesRemoteV6_encode (p4info : P4Info) (learnInfo : MacLearningInfo) :
    CarriesRemoteV6 p4info learnInfo (encodeL2ToTunnelV6 {} learnInfo p4info true) := by
  refine ⟨learnInfo.tnlInfo.remoteIp.ip.u6Addr32.toList.map canonicalizeIp, ?_,
    flatten_canonicalizeIp _, ?_⟩
  · rw [List.length_map, Vector.length_toList]
  · have hparams (aName : String) (names : List String) (words : List UInt32) :
        List.zipWith (fun paramName word => actionParam p4info aName paramName (canonicalizeIp word))
          names words = namedParams p4info aName (names.zip (words.map canonicalizeIp)) := by
      rw [namedParams, List.zip_map_right, List.map_map, List.zip_eq_zipWith, List.map_zipWith]
      rfl
    exact congrArg (fun params => some (actionCall p4info l2ToTunnelV6ActionSetTunnelV6 params))
      (hparams _ _ _)

/-- What the entries of a supported tunnel carry, for every P4Info, VLAN mode, address, port, and VNI: the
encapsulation entry its addresses in network order, its destination port, twice that port modulo 2^16 as
the source port, and its VNI modulo 2^24; the termination and receive entries its remote address and VNI as
the key, and its source port modulo 2^16; and the entry of an IPv6 tunnel the remote address in order. -/
theorem tunnel_parameters_carried (p4info : P4Info) {tunnelInfo : TunnelInfo}
    (hsupported : SupportedTunnel tunnelInfo) :
    CarriesEncap p4info tunnelInfo (prepareEncapTableEntry {} tunnelInfo p4info true) ∧
      (∀ insertEntry, CarriesTerm p4info tunnelInfo
        (prepareTunnelTermTableEntry {} tunnelInfo p4info insertEntry)) ∧
      (∀ insertEntry, CarriesRx p4info tunnelInfo insertEntry
        (prepareRxTunnelSrcPortTableEntry {} tunnelInfo p4info insertEntry)) ∧
      ∀ learnInfo : MacLearningInfo, learnInfo.tnlInfo = tunnelInfo →
        CarriesRemoteV6 p4info learnInfo (encodeL2ToTunnelV6 {} learnInfo p4info true) :=
  ⟨carriesEncap_prepare hsupported p4info, carriesTerm_prepare hsupported p4info,
    carriesRx_prepare hsupported p4info, fun learnInfo _ => carriesRemoteV6_encode p4info learnInfo⟩

/-- A GENEVE tunnel from 2001:db8::1 to 2001:db8::2, port 6081, with a VNI of 25 bits. -/
def geneveV6Tunnel : TunnelInfo :=
  { localIp := ⟨afInet6, 64, ⟨#v[0xb80d0120, 0, 0, 0x01000000]⟩⟩
    remoteIp := ⟨afInet6, 64, ⟨#v[0xb80d0120, 0, 0, 0x02000000]⟩⟩
    dstPort := 0xc117, vni := 0x1234567, srcPort := 0x2abcd, vlanInfo := ⟨.nativeUntagged, 1⟩
    bridgeId := 1, tunnelType := ovsTunnelGeneve }

example : networkAddress .v6 geneveV6Tunnel.remoteIp.ip =
    [0x20, 0x01, 0x0d, 0xb8, 0, 0, 0, 0, 0, 0, 0, 0, 0, 0, 0, 2] := by decide

/-- The entries of the sample tunnel carry it. -/
theorem tunnel_parameters_carried_geneveV6 :
    networkPort geneveV6Tunnel.dstPort = 6081 ∧ vniBytes geneveV6Tunnel = [0x23, 0x45, 0x67] ∧
      CarriesEncap es2kP4Info geneveV6Tunnel (prepareEncapTableEntry {} geneveV6Tunnel es2kP4Info true) ∧
      CarriesRx es2kP4Info geneveV6Tunnel true
        (prepareRxTunnelSrcPortTableEntry {} geneveV6Tunnel es2kP4Info true) := by
  have hcarried := @tunnel_parameters_carried es2kP4Info geneveV6Tunnel ⟨Or.inr rfl, Or.inr rfl⟩
  exact ⟨by decide, by decide, hcarried.1, hcarried.2.2.1 true⟩

end NetworkingRecipe.Ovsp4rt.Es2k
