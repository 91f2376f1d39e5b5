import NetworkingRecipe.LinuxNetworking.Tunnel
import NetworkingRecipe.Ovsp4rt.Dpdk.Meaning
import NetworkingRecipe.Ovsp4rt.Dpdk.Updates
import NetworkingRecipe.Ovsp4rt.NumericFields

/-!
# From the control plane to the frame

The tables of a data plane that executes what its P4Runtime server stores, and the calls of
the DPDK client that fill them. A call that succeeded leaves its entries in the store until
one of their keys is deleted, whatever other calls do meanwhile; so what two calls have
established on one host and two on another decides what happens to a frame between them.
-/

namespace NetworkingRecipe.LinuxNetworking

open Bits P4 P4Runtime Ovsp4rt Interaction

/-! ### Tables that reflect a store -/

/-- An action of `l2_fwd_tx_table`. -/
def readL2FwdTx : String × List ℕ → Option L2FwdTxAction
  | (name, [port]) =>
    if name = Dpdk.l2FwdTxTableActionL2Fwd then some (.l2Fwd (BitVec.ofNat 32 port)) else none
  | (name, [tunnelId, dstAddr]) =>
    if name = Dpdk.l2FwdTxTableActionSetTunnel then
      some (.setTunnel (BitVec.ofNat 24 tunnelId) (BitVec.ofNat 32 dstAddr))
    else none
  | _ => none

/-- An action of `l2_fwd_rx_with_tunnel_table`. -/
def readL2Fwd : String × List ℕ → Option PortId
  | (name, [port]) =>
    if name = Dpdk.l2FwdTxTableActionL2Fwd then some (BitVec.ofNat 32 port) else none
  | _ => none

/-- An action of `vxlan_encap_mod_table`. -/
def readVxlanEncapMod : String × List ℕ → Option VxlanEncapModAction
  | (name, [srcAddr, dstAddr, dstPort, vni]) =>
    if name = Dpdk.actionVxlanEncap then
      some (.vxlanEncap (BitVec.ofNat 32 srcAddr) (BitVec.ofNat 32 dstAddr) (BitVec.ofNat 16 dstPort)
        (BitVec.ofNat 24 vni))
    else none
  | (name, []) => if name = "NoAction" then some .noAction else none
  | _ => none

/-- An action of `ipv4_tunnel_term_table`. -/
def readDecapOuterIpv4 : String × List ℕ → Option (BitVec 24)
  | (name, [tunnelId]) =>
    if name = Dpdk.actionDecapOuterIpv4 then some (BitVec.ofNat 24 tunnelId) else none
  | _ => none

/-- The tables that the DPDK client fills execute the entries of a store. -/
structure Reflects (s : P4Runtime.Tables) (tables : Tables) : Prop where
  l2FwdTx : ∀ dstAddr action, tables.l2FwdTxTable dstAddr = some action ↔
    Dpdk.dpdkP4Info.Serves readL2FwdTx s Dpdk.l2FwdTxTable [dstAddr.toNat] action
  l2FwdRxWithTunnel : ∀ dstAddr port, tables.l2FwdRxWithTunnelTable dstAddr = some port ↔
    Dpdk.dpdkP4Info.Serves readL2Fwd s Dpdk.l2FwdRxWithTunnelTable [dstAddr.toNat] port
  vxlanEncapMod : ∀ modDataPtr action, tables.vxlanEncapModTable modDataPtr = some action ↔
    Dpdk.dpdkP4Info.Serves readVxlanEncapMod s Dpdk.vxlanEncapModTable [modDataPtr.toNat] action
  ipv4TunnelTerm : ∀ tunType srcAddr dstAddr tunnelId,
    tables.ipv4TunnelTermTable tunType srcAddr dstAddr = some tunnelId ↔
      Dpdk.dpdkP4Info.Serves readDecapOuterIpv4 s Dpdk.ipv4TunnelTermTable
        [tunType.toNat, srcAddr.toNat, dstAddr.toNat] tunnelId

/-- Tables that execute a list of entries, where the client's tables are concerned. -/
def executing (entries : List (TableKey × Option Action)) (base : Tables) : Tables :=
  { base with
    l2FwdTxTable := fun dstAddr =>
      Dpdk.dpdkP4Info.lookup readL2FwdTx entries Dpdk.l2FwdTxTable [dstAddr.toNat]
    l2FwdRxWithTunnelTable := fun dstAddr =>
      Dpdk.dpdkP4Info.lookup readL2Fwd entries Dpdk.l2FwdRxWithTunnelTable [dstAddr.toNat]
    vxlanEncapModTable := fun modDataPtr =>
      Dpdk.dpdkP4Info.lookup readVxlanEncapMod entries Dpdk.vxlanEncapModTable [modDataPtr.toNat]
    ipv4TunnelTermTable := fun tunType srcAddr dstAddr =>
      Dpdk.dpdkP4Info.lookup readDecapOuterIpv4 entries Dpdk.ipv4TunnelTermTable
        [tunType.toNat, srcAddr.toNat, dstAddr.toNat] }

/-- Entries whose keys are different numbers are reflected by the tables that execute them. -/
theorem reflects_executing {entries : List (TableKey × Option Action)}
    (hkeys : (entries.map Prod.fst).Nodup)
    (hnumbers : (entries.map fun entry => Dpdk.dpdkP4Info.readKey entry.1).Nodup) (base : Tables) :
    Reflects (Store.insertAll (fun _ => none) entries) (executing entries base) where
  l2FwdTx _ _ := Dpdk.lookup_eq_some_iff _ _ hkeys hnumbers _ _ _
  l2FwdRxWithTunnel _ _ := Dpdk.lookup_eq_some_iff _ _ hkeys hnumbers _ _ _
  vxlanEncapMod _ _ := Dpdk.lookup_eq_some_iff _ _ hkeys hnumbers _ _ _
  ipv4TunnelTerm _ _ _ _ := Dpdk.lookup_eq_some_iff _ _ hkeys hnumbers _ _ _

/-! ### Calls that were made -/

/-- The store after calls of the client, made one after another. -/
def served (calls : List (TableProgram Status)) (s : P4Runtime.Tables) : P4Runtime.Tables :=
  calls.foldl (fun s call => (call.run tableServer s).2) s

/-- A request that deletes an entry of an update. -/
def Deletes (update : OrderedUpdate) (r : TableRequest) : Prop :=
  ∃ entry, r = .write .delete entry ∧ entry.key ∈ update.keys

/-- Among the calls that were made, `call` succeeded, and no later one can delete an entry of the
update. -/
def Established (calls : List (TableProgram Status)) (s : P4Runtime.Tables) (call : TableProgram Status)
    (update : OrderedUpdate) : Prop :=
  ∃ before after, calls = before ++ call :: after ∧
    (call.run tableServer (served before s)).1 = okStatus ∧
    ∀ later ∈ after, later.Sends fun r => ¬Deletes update r

/-- A present entry stays until a request deletes it. -/
theorem tableServer_keeps {r : TableRequest} {s : P4Runtime.Tables} {entry : TableEntry}
    (hentry : s entry.key = some entry.action)
    (hkeep : ∀ deleted, r = .write .delete deleted → deleted.key ≠ entry.key) :
    (tableServer r s).2 entry.key = some entry.action := by
  cases r with
  | read other => rw [tableServer_read]; exact hentry
  | write type other =>
    cases type with
    | insert =>
      rw [tableServer_insert, Store.insert_apply]
      split_ifs with hkey
      · rw [← hkey, hentry]
        rfl
      · exact hentry
    | delete =>
      rw [tableServer_delete, Store.erase_of_ne _ (hkeep other rfl).symm]
      exact hentry

/-- What a call installed stays installed while its entries are not deleted. -/
theorem installed_of_sends {update : OrderedUpdate} {call : TableProgram Status} {s : P4Runtime.Tables}
    (hinstalled : update.Installed s) (hcall : call.Sends fun r => ¬Deletes update r) :
    update.Installed (call.run tableServer s).2 := by
  refine Program.Sends.run_invariant update.Installed (hcall.mono fun r hr s hs => ?_) hinstalled
  intro entry hmem
  apply tableServer_keeps (hs entry hmem)
  intro deleted hdelete hkey
  exact hr ⟨deleted, hdelete, hkey ▸ List.mem_map_of_mem hmem⟩

/-- An update that a call has established is installed. -/
theorem Established.installed {calls : List (TableProgram Status)} {s : P4Runtime.Tables}
    {call : TableProgram Status} {update : OrderedUpdate} (h : Established calls s call update)
    (hcall : call = update.program true) : update.Installed (served calls s) := by
  obtain ⟨before, after, rfl, hok, hafter⟩ := h
  rw [hcall] at hok
  rw [served, List.foldl_append, List.foldl_cons, ← served, ← served, hcall]
  have hinstalled := OrderedUpdate.installed_of_run hok
  generalize ((update.program true).run tableServer (served before s)).2 = start at hinstalled
  induction after generalizing start with
  | nil => exact hinstalled
  | cons later rest ih =>
    rw [List.forall_mem_cons] at hafter
    rw [served, List.foldl_cons, ← served]
    exact ih hafter.2 _ (installed_of_sends hinstalled hafter.1)

/-! ### The client's calls -/

/-- The update of `ConfigTunnelEntry`. -/
def tunnelUpdate (tunnelInfo : TunnelInfo) : OrderedUpdate :=
  Dpdk.tunnelUpdate Dpdk.dpdkP4Info_resolves tunnelInfo

/-- The update of `ConfigFdbEntry` for an address behind a tunnel. -/
def fdbTunnelUpdate (learnInfo : MacLearningInfo) : OrderedUpdate :=
  .single (Dpdk.encodeFdbTableEntryforV4VxlanTunnel {} learnInfo Dpdk.dpdkP4Info) rfl

/-- The update of `ConfigFdbEntry` for an address behind a port. -/
def fdbVlanUpdate (learnInfo : MacLearningInfo) : OrderedUpdate :=
  Dpdk.fdbVlanUpdate Dpdk.dpdkP4Info_resolves learnInfo

/-- An address that was learned behind a tunnel is configured by its update. -/
theorem configFdbEntry_tunnel {learnInfo : MacLearningInfo} (htunnel : learnInfo.isTunnel = true) :
    Dpdk.configFdbEntry learnInfo Dpdk.dpdkP4Info true = (fdbTunnelUpdate learnInfo).program true := by
  change _ = writeInOrder (updateType true) [_]
  rw [writeInOrder_singleton, Dpdk.configFdbEntry, htunnel]
  rfl

/-- The number that an IPv4 address has in the entries. -/
def address (ipaddr : P4Ipaddr) : BitVec 32 :=
  BitVec.ofNat 32 (byteNumber (canonicalizeIp ipaddr.ip.sAddr))

/-- The number that a MAC address has in the entries. -/
def macNumber (mac : MacAddr) : BitVec 48 :=
  BitVec.ofNat 48 (byteNumber (canonicalizeMac mac))

/-- An address is the number that its bytes spell. -/
theorem toNat_address (ipaddr : P4Ipaddr) :
    (address ipaddr).toNat = byteNumber (canonicalizeIp ipaddr.ip.sAddr) := by
  rw [address, BitVec.toNat_ofNat, Nat.mod_eq_of_lt (fitsWidth_canonicalizeIp _)]

/-- A MAC address is the number that its bytes spell. -/
theorem toNat_macNumber (mac : MacAddr) : (macNumber mac).toNat = byteNumber (canonicalizeMac mac) := by
  rw [macNumber, BitVec.toNat_ofNat, Nat.mod_eq_of_lt (fitsWidth_canonicalizeMac _)]

section Entries

variable {s : P4Runtime.Tables} {tables : Tables} (hreflects : Reflects s tables)

include hreflects

/-- A configured tunnel has its encapsulation entry, under the low three bytes of its number. -/
theorem encap_of_installed {tunnelInfo : TunnelInfo} (hinstalled : (tunnelUpdate tunnelInfo).Installed s)
    {modDataPtr : BitVec 24} (hptr : modDataPtr.toNat = tunnelInfo.vni.toNat % 2 ^ 24) :
    tables.vxlanEncapModTable modDataPtr = some
      (.vxlanEncap (address tunnelInfo.localIp) (address tunnelInfo.remoteIp)
        (BitVec.ofNat 16 (byteNumber (encodeUint16 (htons tunnelInfo.dstPort)))) modDataPtr) := by
  rw [hreflects.vxlanEncapMod, hptr, ← byteNumber_encodeVniValue]
  have hsame : BitVec.ofNat 24 (byteNumber (encodeVniValue tunnelInfo.vni)) = modDataPtr := by
    rw [byteNumber_encodeVniValue, ← hptr, BitVec.ofNat_toNat, BitVec.setWidth_eq]
  refine (Dpdk.EncoderCall.vxlanEncap tunnelInfo).serves (hinstalled _ List.mem_cons_self) ?_
  rw [← hsame]
  rfl

/-- A configured tunnel is terminated for packets from its other end. -/
theorem term_of_installed {tunnelInfo : TunnelInfo} (hinstalled : (tunnelUpdate tunnelInfo).Installed s) :
    (tables.ipv4TunnelTermTable TUNNEL_TYPE_VXLAN (address tunnelInfo.remoteIp)
      (address tunnelInfo.localIp)).isSome := by
  apply Option.isSome_of_eq_some
  rw [hreflects.ipv4TunnelTerm, toNat_address, toNat_address]
  exact (Dpdk.EncoderCall.tunnelTerm tunnelInfo).serves
    (hinstalled _ (List.mem_cons_of_mem _ List.mem_cons_self)) rfl

/-- An address learned behind a tunnel leads to the tunnel of the low byte of its number. -/
theorem setTunnel_of_installed {learnInfo : MacLearningInfo}
    (hinstalled : (fdbTunnelUpdate learnInfo).Installed s) :
    tables.l2FwdTxTable (macNumber learnInfo.macAddr) = some
      (.setTunnel (BitVec.ofNat 24 (learnInfo.tnlInfo.vni.toNat % 256))
        (address learnInfo.tnlInfo.remoteIp)) := by
  rw [hreflects.l2FwdTx, toNat_macNumber, ← byteNumber_byte]
  exact (Dpdk.EncoderCall.fdbV4VxlanTunnel learnInfo).serves (hinstalled _ List.mem_cons_self) rfl

/-- An address learned behind a port is forwarded to the low byte of the port's number. -/
theorem forward_of_installed {learnInfo : MacLearningInfo}
    (hinstalled : (fdbVlanUpdate learnInfo).Installed s) :
    tables.l2FwdRxWithTunnelTable (macNumber learnInfo.macAddr) = some
      (BitVec.ofNat 32 ((learnInfo.vlnInfo.vlanId - 1).toNat % 256)) := by
  rw [hreflects.l2FwdRxWithTunnel, toNat_macNumber, ← byteNumber_byte]
  exact (Dpdk.EncoderCall.fdbRxVlan learnInfo).serves
    (hinstalled _ (List.mem_cons_of_mem _ List.mem_cons_self)) rfl

end Entries

/-! ### Frames to learned addresses -/

/-- What the client does not configure: the route and the next hop of an underlay address. -/
structure Underlay (tables : Tables) (headers : Headers) (remoteIp : P4Ipaddr) where
  nexthopId : BitVec 16
  nexthop : Nexthop
  hroute : tables.ipv4Table (address remoteIp) headers.outer.ipv4 headers.outer.udp =
    .setNexthopId nexthopId
  hnexthop : tables.nexthopTable nexthopId = some nexthop

/-- A frame to an address learned behind a tunnel has a route into the tunnel of the number's low byte. -/
def learnedRoute {s : P4Runtime.Tables} {tables : Tables} (hreflects : Reflects s tables)
    {learnInfo : MacLearningInfo} (hinstalled : (fdbTunnelUpdate learnInfo).Installed s)
    {headers : Headers} {ethernet : Ethernet} (hethernet : headers.outer.ethernet = some ethernet)
    (hdst : ethernet.dstAddr = macNumber learnInfo.macAddr)
    (underlay : Underlay tables headers learnInfo.tnlInfo.remoteIp) : TunnelRoute tables headers where
  ethernet := ethernet
  tunnelId := BitVec.ofNat 24 (learnInfo.tnlInfo.vni.toNat % 256)
  dstAddr := address learnInfo.tnlInfo.remoteIp
  nexthopId := underlay.nexthopId
  nexthop := underlay.nexthop
  hethernet := hethernet
  hforward := by rw [hdst, setTunnel_of_installed hreflects hinstalled]
  hroute := underlay.hroute
  hnexthop := underlay.hnexthop

/-- The low byte of a number as a tunnel identifier. -/
theorem toNat_lowByte (vni : UInt32) : (BitVec.ofNat 24 (vni.toNat % 256)).toNat = vni.toNat % 256 := by
  rw [BitVec.toNat_ofNat, Nat.mod_eq_of_lt]
  omega

/-- A tunnel's port as its entry has it. -/
theorem byteNumber_encodeUint16 (value : UInt16) : byteNumber (encodeUint16 value) = value.toNat := by
  have hvalue := value.toNat_lt
  rw [encodeUint16, byteNumber_bytes, UInt16.toNat_toUInt32, Nat.mod_eq_of_lt hvalue]

section Frames

variable {s : P4Runtime.Tables} {calls : List (TableProgram Status)} {tables : Tables}
  (hreflects : Reflects (served calls s) tables) {learnInfo : MacLearningInfo}
  (hlearned : Established calls s (Dpdk.configFdbEntry learnInfo Dpdk.dpdkP4Info true)
    (fdbTunnelUpdate learnInfo))
  (htunnel : learnInfo.isTunnel = true) (target : Target) (metadata : LocalMetadata)
  (inputPort : PortId) {packet : Bits} {cursor : Cursor}
  (hparse : packetParser metadata packet = some cursor) (hcontrol : ¬cursor.headers.isControl)
  {ethernet : Ethernet} (hethernet : cursor.headers.outer.ethernet = some ethernet)
  (hdst : ethernet.dstAddr = macNumber learnInfo.macAddr)
  (underlay : Underlay tables cursor.headers learnInfo.tnlInfo.remoteIp)

include hreflects hlearned htunnel hparse hcontrol hethernet hdst

/-- Wherever its address was learned, a frame to an address behind a tunnel leaves through the next hop.
It leaves in the tunnel whose number is the low byte of the learned one if that tunnel is configured, with
that tunnel's ends, and outside any tunnel if the store has no encapsulation entry of that number. -/
theorem learned_frame_takes_low_byte :
    (∀ tunnelInfo, Established calls s (Dpdk.configTunnelEntry tunnelInfo Dpdk.dpdkP4Info true)
        (tunnelUpdate tunnelInfo) →
      tunnelInfo.vni.toNat % 2 ^ 24 = learnInfo.tnlInfo.vni.toNat % 256 →
      ∃ outerEthernet ipv4 udp vxlan frame,
        process target tables metadata .hostToNet inputPort packet =
          some
            { destinations := [.sendToPort underlay.nexthop.egressPort]
              packet := encapsulated outerEthernet ipv4 udp vxlan frame } ∧
        vxlan.vni.toNat = learnInfo.tnlInfo.vni.toNat % 256 ∧
        ipv4.srcAddr = address tunnelInfo.localIp ∧ ipv4.dstAddr = address tunnelInfo.remoteIp) ∧
    ((∀ action, ¬Dpdk.dpdkP4Info.Serves readVxlanEncapMod (served calls s) Dpdk.vxlanEncapModTable
        [learnInfo.tnlInfo.vni.toNat % 256] action) →
      ∃ outerEthernet, process target tables metadata .hostToNet inputPort packet =
        some
          { destinations := [.sendToPort underlay.nexthop.egressPort]
            packet := packetDeparser
              { cursor.headers with
                outer := { cursor.headers.outer with ethernet := some outerEthernet } } ++
                  cursor.packet }) := by
  obtain ⟨payload, headers, final⟩ := cursor
  obtain ⟨hwf, rfl, -⟩ := wellFormed_of_packetParser hparse
  have hinstalled := hlearned.installed (configFdbEntry_tunnel htunnel)
  let route := learnedRoute hreflects hinstalled hethernet hdst underlay
  constructor
  · intro tunnelInfo hconfigured hnumber
    have hencap := encap_of_installed hreflects
      (hconfigured.installed (Dpdk.configTunnelEntry_eq Dpdk.dpdkP4Info_resolves tunnelInfo true))
      ((toNat_lowByte learnInfo.tnlInfo.vni).trans hnumber.symm)
    exact ⟨_, _, _, _, _,
      process_tx_encapsulated target metadata inputPort hwf hcontrol route payload hencap,
      toNat_lowByte _, rfl, rfl⟩
  · intro hnone
    refine ⟨_, process_tx_unencapsulated target metadata inputPort hwf hcontrol route payload (Or.inl ?_)⟩
    rw [Option.eq_none_iff_forall_ne_some]
    intro action haction
    rw [hreflects.vxlanEncapMod] at haction
    refine hnone action ?_
    rwa [← toNat_lowByte learnInfo.tnlInfo.vni]

end Frames

/-! ### Frames between two hosts -/

section TwoHosts

variable {sA sB : P4Runtime.Tables} {callsA callsB : List (TableProgram Status)}
  {tablesA tablesB : Tables} {tunnelA tunnelB : TunnelInfo} {learnA learnB : MacLearningInfo}

/-- One host has configured a tunnel to another and learned an address behind it, the other has configured
the same tunnel from its end and learned the address behind one of its ports. Whatever calls were made
before, between and after, as long as they delete none of these entries, a frame to the address crosses
the tunnel and leaves the other host unchanged, if the tunnel's number fits a byte, its port is that of
VXLAN, and the frame is untagged and not in a tunnel itself; it leaves through the port that the low byte
of the learned number names. -/
theorem learned_frame_delivered
    (htunnelA : Established callsA sA (Dpdk.configTunnelEntry tunnelA Dpdk.dpdkP4Info true)
      (tunnelUpdate tunnelA))
    (hlearnA : Established callsA sA (Dpdk.configFdbEntry learnA Dpdk.dpdkP4Info true)
      (fdbTunnelUpdate learnA))
    (htunnelB : Established callsB sB (Dpdk.configTunnelEntry tunnelB Dpdk.dpdkP4Info true)
      (tunnelUpdate tunnelB))
    (hlearnB : Established callsB sB (Dpdk.configFdbEntry learnB Dpdk.dpdkP4Info true)
      (fdbVlanUpdate learnB))
    (hbehindTunnel : learnA.isTunnel = true)
    (hbehindPort : learnB.isTunnel = false ∧ learnB.isVlan = true)
    (hmac : learnB.macAddr = learnA.macAddr)
    (hends : tunnelB.localIp = tunnelA.remoteIp ∧ tunnelB.remoteIp = tunnelA.localIp)
    (hvni : learnA.tnlInfo.vni = tunnelA.vni) (hbyte : tunnelA.vni.toNat < 256)
    (hport : htons tunnelA.dstPort = 4789)
    (hreflectsA : Reflects (served callsA sA) tablesA) (hreflectsB : Reflects (served callsB sB) tablesB)
    (targetA targetB : Target) (metadataA metadataB : LocalMetadata) (portA portB : PortId)
    {packet : Bits} {cursor : Cursor} (hparse : packetParser metadataA packet = some cursor)
    (hcontrol : ¬cursor.headers.isControl) {ethernet : Ethernet}
    (hethernet : cursor.headers.outer.ethernet = some ethernet)
    (hdst : ethernet.dstAddr = macNumber learnA.macAddr) (hvlan0 : cursor.headers.outer.vlan0 = none)
    (hvxlan : cursor.headers.vxlan = none)
    (underlay : Underlay tablesA cursor.headers learnA.tnlInfo.remoteIp) :
    ((process targetA tablesA metadataA .hostToNet portA packet).bind fun sent =>
        process targetB tablesB metadataB .netToHost portB sent.packet) =
      some
        { destinations := [.sendToPort (BitVec.ofNat 32 ((learnB.vlnInfo.vlanId - 1).toNat % 256))]
          packet := packet } := by
  obtain ⟨payload, headers, final⟩ := cursor
  obtain ⟨hwf, rfl, -⟩ := wellFormed_of_packetParser hparse
  have hinstalledA := htunnelA.installed (Dpdk.configTunnelEntry_eq Dpdk.dpdkP4Info_resolves tunnelA true)
  have hinstalledB := htunnelB.installed (Dpdk.configTunnelEntry_eq Dpdk.dpdkP4Info_resolves tunnelB true)
  have hlearnedA := hlearnA.installed (configFdbEntry_tunnel hbehindTunnel)
  have hlearnedB := hlearnB.installed
    (Dpdk.configFdbEntry_eq Dpdk.dpdkP4Info_resolves hbehindPort.1 hbehindPort.2 true)
  let route := learnedRoute hreflectsA hlearnedA hethernet hdst underlay
  have hnumber : route.tunnelId.toNat = tunnelA.vni.toNat % 2 ^ 24 := by
    have hlow : route.tunnelId.toNat = learnA.tnlInfo.vni.toNat % 256 := toNat_lowByte _
    rw [hvni] at hlow
    omega
  have hencap := encap_of_installed hreflectsA hinstalledA hnumber
  have hterm := term_of_installed hreflectsB hinstalledB
  rw [hends.1, hends.2] at hterm
  have hforward := forward_of_installed hreflectsB hlearnedB
  rw [hmac, ← hdst] at hforward
  rw [tunnel_delivers targetA targetB metadataA metadataB portA portB hwf hcontrol route hencap hterm
    (by rw [byteNumber_encodeUint16, hport]; rfl) hvlan0 hvxlan payload]
  change some (Output.mk [forwarded (tablesB.l2FwdRxWithTunnelTable ethernet.dstAddr)] _) = _
  rw [hforward]
  rfl

end TwoHosts

/-! ### A tunnel between two hosts -/

/-- The tunnel of the first host. -/
def firstTunnel : TunnelInfo where
  localIp := { ip := { u6Addr32 := #v[0x01010101, 0, 0, 0] } }
  remoteIp := { ip := { u6Addr32 := #v[0x02020202, 0, 0, 0] } }
  dstPort := 0xB512
  vni := 7

/-- The same tunnel from the second host. -/
def secondTunnel : TunnelInfo :=
  { firstTunnel with localIp := firstTunnel.remoteIp, remoteIp := firstTunnel.localIp }

/-- The address of the echo request's destination, behind the tunnel. -/
def behindTunnel : MacLearningInfo where
  isTunnel := true
  macAddr := #v[2, 0, 0, 0, 0, 2]
  tnlInfo := firstTunnel

/-- The same address, behind the third port of the second host. -/
def behindPort : MacLearningInfo where
  isVlan := true
  macAddr := #v[2, 0, 0, 0, 0, 2]
  tnlInfo := { ifindex := 4 }

/-- Listed entries of encoder calls. -/
def listed (calls : List Dpdk.EncoderCall) : List (TableKey × Option Action) :=
  calls.map fun call => ((call.entry Dpdk.dpdkP4Info true).key, (call.entry Dpdk.dpdkP4Info true).action)

/-- The calls of the first host. -/
def firstCalls : List (TableProgram Status) :=
  [Dpdk.configTunnelEntry firstTunnel Dpdk.dpdkP4Info true,
    Dpdk.configFdbEntry behindTunnel Dpdk.dpdkP4Info true]

/-- The calls of the second host. -/
def secondCalls : List (TableProgram Status) :=
  [Dpdk.configTunnelEntry secondTunnel Dpdk.dpdkP4Info true,
    Dpdk.configFdbEntry behindPort Dpdk.dpdkP4Info true]

/-- The entries of the first host. -/
def firstEntries : List (TableKey × Option Action) :=
  listed [.vxlanEncap firstTunnel, .tunnelTerm firstTunnel, .fdbV4VxlanTunnel behindTunnel]

/-- The entries of the second host. -/
def secondEntries : List (TableKey × Option Action) :=
  listed [.vxlanEncap secondTunnel, .tunnelTerm secondTunnel, .fdbTxVlan behindPort, .fdbRxVlan behindPort]

/-- The store of the first host. -/
theorem served_firstCalls :
    served firstCalls (fun _ => none) = Store.insertAll (fun _ => none) firstEntries :=
  rfl

/-- The store of the second host. -/
theorem served_secondCalls :
    served secondCalls (fun _ => none) = Store.insertAll (fun _ => none) secondEntries :=
  rfl

/-- The tables of the first host. -/
def firstTables : Tables :=
  executing firstEntries tunnelTables

/-- The tables of the second host. -/
def secondTables : Tables :=
  executing secondEntries tunnelTables

/-- The first host executes its store. -/
theorem firstTables_reflects : Reflects (served firstCalls fun _ => none) firstTables := by
  rw [served_firstCalls]
  exact reflects_executing (by decide +kernel) (by decide +kernel) tunnelTables

/-- The second host executes its store. -/
theorem secondTables_reflects : Reflects (served secondCalls fun _ => none) secondTables := by
  rw [served_secondCalls]
  exact reflects_executing (by decide +kernel) (by decide +kernel) tunnelTables

/-- An insertion deletes nothing. -/
theorem not_deletes_insert (update : OrderedUpdate) (entry : TableEntry) :
    ¬Deletes update (.write .insert entry) := by
  rintro ⟨deleted, h, -⟩
  cases h

/-- The first host has configured its tunnel. -/
theorem firstTunnel_established :
    Established firstCalls (fun _ => none) (Dpdk.configTunnelEntry firstTunnel Dpdk.dpdkP4Info true)
      (tunnelUpdate firstTunnel) := by
  refine ⟨[], [_], rfl, rfl, ?_⟩
  rw [List.forall_mem_singleton]
  exact ⟨not_deletes_insert _ _, fun _ => trivial⟩

/-- The first host has learned the address. -/
theorem behindTunnel_established :
    Established firstCalls (fun _ => none) (Dpdk.configFdbEntry behindTunnel Dpdk.dpdkP4Info true)
      (fdbTunnelUpdate behindTunnel) :=
  ⟨[_], [], rfl, rfl, List.forall_mem_nil _⟩

/-- The second host has configured its tunnel. -/
theorem secondTunnel_established :
    Established secondCalls (fun _ => none) (Dpdk.configTunnelEntry secondTunnel Dpdk.dpdkP4Info true)
      (tunnelUpdate secondTunnel) := by
  refine ⟨[], [_], rfl, rfl, ?_⟩
  rw [List.forall_mem_singleton]
  refine ⟨not_deletes_insert _ _, fun reply => ?_⟩
  cases reply with
  | error status => trivial
  | ok result => exact ⟨not_deletes_insert _ _, fun _ => trivial⟩

/-- The second host has learned the address. -/
theorem behindPort_established :
    Established secondCalls (fun _ => none) (Dpdk.configFdbEntry behindPort Dpdk.dpdkP4Info true)
      (fdbVlanUpdate behindPort) :=
  ⟨[_], [], rfl, rfl, List.forall_mem_nil _⟩

/-- The underlay of the echo request. -/
def echoRequestUnderlay : Underlay firstTables { outer := echoRequest } behindTunnel.tnlInfo.remoteIp where
  nexthopId := 4
  nexthop := { routerInterfaceId := 1, neighborId := 2, egressPort := 9 }
  hroute := rfl
  hnexthop := rfl

/-- The echo request leaves the first host in the tunnel that the host has configured. -/
theorem echoRequest_takes_low_byte :
    ∃ outerEthernet ipv4 udp vxlan frame,
      process checksumTarget firstTables clearMetadata .hostToNet 1
          (packetDeparser { outer := echoRequest } ++ []) =
        some
          { destinations := [.sendToPort 9]
            packet := encapsulated outerEthernet ipv4 udp vxlan frame } ∧
      vxlan.vni.toNat = 7 ∧ ipv4.srcAddr = address firstTunnel.localIp ∧
      ipv4.dstAddr = address firstTunnel.remoteIp :=
  (learned_frame_takes_low_byte firstTables_reflects behindTunnel_established rfl checksumTarget
    clearMetadata 1 (packetParser_packetDeparser clearMetadata echoRequest_headers_wellFormed [])
    (by decide) rfl (by decide) echoRequestUnderlay).1 firstTunnel firstTunnel_established rfl

/-- The echo request reaches the third port of the second host. -/
theorem echoRequest_delivered :
    ((process checksumTarget firstTables clearMetadata .hostToNet 1
        (packetDeparser { outer := echoRequest } ++ [])).bind fun sent =>
      process checksumTarget secondTables clearMetadata .netToHost 2 sent.packet) =
      some { destinations := [.sendToPort 3], packet := packetDeparser { outer := echoRequest } ++ [] } :=
  learned_frame_delivered firstTunnel_established behindTunnel_established secondTunnel_established
    behindPort_established rfl ⟨rfl, rfl⟩ rfl ⟨rfl, rfl⟩ rfl (by decide) rfl firstTables_reflects
    secondTables_reflects checksumTarget checksumTarget clearMetadata clearMetadata 1 2
    (packetParser_packetDeparser clearMetadata echoRequest_headers_wellFormed []) (by decide) rfl
    (by decide) rfl rfl echoRequestUnderlay

end NetworkingRecipe.LinuxNetworking
