import NetworkingRecipe.Ovsp4rt.Es2k.ConfigTunnelEntry
import NetworkingRecipe.Ovsp4rt.Es2k.FdbKeys

/-!
# The keys of a tunnel

Sixteen tables describe tunnels: eight for encapsulation, four for decapsulation, two for
termination, and two for receive tunnels. The tunnel type, the address family, and the VLAN
mode of a supported tunnel select one encoder of each kind, and its key does not depend on
whether the entry is being inserted.

Every key carries the low 24 bits of the VNI in a match of three bytes, and no other match
of a key is three bytes long.
-/

namespace NetworkingRecipe.Ovsp4rt.Es2k

open P4Runtime

/-- The supported tunnel types. -/
inductive TunnelKind where
  | vxlan | geneve
  deriving DecidableEq, Repr

/-- The supported address families. -/
inductive IpVersion where
  | v4 | v6
  deriving DecidableEq, Repr

/-- The tables that describe tunnels. -/
inductive TunnelTable where
  | encap (kind : TunnelKind) (version : IpVersion) (vlanPop : Bool)
  | decap (kind : TunnelKind) (vlanPush : Bool)
  | term (version : IpVersion)
  | rx (version : IpVersion)
  deriving DecidableEq, Repr

namespace TunnelTable

/-- The P4 name of a table. -/
def name : TunnelTable → String
  | encap .vxlan .v4 false => "linux_networking_control.vxlan_encap_mod_table"
  | encap .vxlan .v4 true => "linux_networking_control.vxlan_encap_vlan_pop_mod_table"
  | encap .vxlan .v6 false => "linux_networking_control.vxlan_encap_v6_mod_table"
  | encap .vxlan .v6 true => "linux_networking_control.vxlan_encap_v6_vlan_pop_mod_table"
  | encap .geneve .v4 false => "linux_networking_control.geneve_encap_mod_table"
  | encap .geneve .v4 true => "linux_networking_control.geneve_encap_vlan_pop_mod_table"
  | encap .geneve .v6 false => "linux_networking_control.geneve_encap_v6_mod_table"
  | encap .geneve .v6 true => "linux_networking_control.geneve_encap_v6_vlan_pop_mod_table"
  | decap .vxlan false => "linux_networking_control.vxlan_decap_mod_table"
  | decap .vxlan true => "linux_networking_control.vxlan_decap_and_push_vlan_mod_table"
  | decap .geneve false => "linux_networking_control.geneve_decap_mod_table"
  | decap .geneve true => "linux_networking_control.geneve_decap_and_push_vlan_mod_table"
  | term .v4 => ipv4TunnelTermTable
  | term .v6 => ipv6TunnelTermTable
  | rx .v4 => "linux_networking_control.rx_ipv4_tunnel_source_port"
  | rx .v6 => "linux_networking_control.rx_ipv6_tunnel_source_port"

/-- The encoder of a table. -/
def encoder : TunnelTable → TunnelEncoder
  | encap .vxlan .v4 false => encodeVxlanEncapTableEntry
  | encap .vxlan .v4 true => encodeVxlanEncapAndVlanPopTableEntry
  | encap .vxlan .v6 false => encodeV6VxlanEncapTableEntry
  | encap .vxlan .v6 true => encodeV6VxlanEncapAndVlanPopTableEntry
  | encap .geneve .v4 false => encodeGeneveEncapTableEntry
  | encap .geneve .v4 true => encodeGeneveEncapAndVlanPopTableEntry
  | encap .geneve .v6 false => encodeV6GeneveEncapTableEntry
  | encap .geneve .v6 true => encodeV6GeneveEncapAndVlanPopTableEntry
  | decap .vxlan false => encodeVxlanDecapModTableEntry
  | decap .vxlan true => encodeVxlanDecapModAndVlanPushTableEntry
  | decap .geneve false => encodeGeneveDecapModTableEntry
  | decap .geneve true => encodeGeneveDecapModAndVlanPushTableEntry
  | term .v4 => encodeTunnelTermTableEntry
  | term .v6 => encodeV6TunnelTermTableEntry
  | rx .v4 => encodeRxTunnelTableEntry
  | rx .v6 => encodeV6RxTunnelTableEntry

/-- All tables that describe tunnels. -/
def all : List TunnelTable :=
  [encap .vxlan .v4 false, encap .vxlan .v4 true, encap .vxlan .v6 false, encap .vxlan .v6 true,
   encap .geneve .v4 false, encap .geneve .v4 true, encap .geneve .v6 false, encap .geneve .v6 true,
   decap .vxlan false, decap .vxlan true, decap .geneve false, decap .geneve true,
   term .v4, term .v6, rx .v4, rx .v6]

/-- The list of tables is complete. -/
theorem mem_all (table : TunnelTable) : table ∈ all := by
  rcases table with ⟨_ | _, _ | _, _ | _⟩ | ⟨_ | _, _ | _⟩ | ⟨_ | _⟩ | ⟨_ | _⟩ <;> decide

/-- Different tables have different names. -/
theorem name_injective : Function.Injective name := by
  have hnodup : (all.map name).Nodup := by decide
  exact fun table table' h => List.inj_on_of_nodup_map hnodup (mem_all table) (mem_all table') h

end TunnelTable

/-- The names of the tables that describe tunnels. -/
def tunnelTableNames : List String := TunnelTable.all.map TunnelTable.name

/-- The key of a tunnel in a table. -/
def tunnelKey (p4info : P4Info) (table : TunnelTable) (tunnelInfo : TunnelInfo) : TableKey :=
  (table.encoder {} tunnelInfo p4info false).key

/-! ### Keys of the encoders -/

/-- The key of an entry does not depend on whether it is being inserted. -/
theorem encoder_key (p4info : P4Info) (table : TunnelTable) (tunnelInfo : TunnelInfo) (insertEntry : Bool) :
    (table.encoder {} tunnelInfo p4info insertEntry).key = tunnelKey p4info table tunnelInfo := by
  rcases table with ⟨_ | _, _ | _, _ | _⟩ | ⟨_ | _, _ | _⟩ | ⟨_ | _⟩ | ⟨_ | _⟩ <;>
    cases insertEntry <;> rfl

/-- An entry that is being deleted has no action. -/
theorem encoder_delete_action (p4info : P4Info) (table : TunnelTable) (tunnelInfo : TunnelInfo) :
    (table.encoder {} tunnelInfo p4info false).action = none := by
  rcases table with ⟨_ | _, _ | _, _ | _⟩ | ⟨_ | _, _ | _⟩ | ⟨_ | _⟩ | ⟨_ | _⟩ <;> rfl

/-- The table of a key is the identifier of its name. -/
theorem tunnelKey_tableId (p4info : P4Info) (table : TunnelTable) (tunnelInfo : TunnelInfo) :
    (tunnelKey p4info table tunnelInfo).tableId = (getTableId p4info table.name).toUInt32 := by
  rcases table with ⟨_ | _, _ | _, _ | _⟩ | ⟨_ | _, _ | _⟩ | ⟨_ | _⟩ | ⟨_ | _⟩ <;> rfl

/-- The values that a tunnel is matched on, in the order of the key. -/
def matchValues (tunnelInfo : TunnelInfo) : TunnelTable → List Bytes
  | .encap .. => [encodeVniValue tunnelInfo.vni]
  | .decap .. => [encodeVniValue tunnelInfo.vni]
  | .term .v4 => [canonicalizeIp tunnelInfo.remoteIp.ip.sAddr,
      encodeByteValue [tunnelInfo.bridgeId.toUInt32], encodeVniValue tunnelInfo.vni]
  | .term .v6 => [encodeByteValue [tunnelInfo.bridgeId.toUInt32],
      canonicalizeIpv6 tunnelInfo.remoteIp.ip, encodeVniValue tunnelInfo.vni]
  | .rx .v4 => [encodeVniValue tunnelInfo.vni, canonicalizeIp tunnelInfo.remoteIp.ip.sAddr]
  | .rx .v6 => [encodeVniValue tunnelInfo.vni, canonicalizeIpv6 tunnelInfo.remoteIp.ip]

/-- The key of a tunnel matches exactly its values. -/
theorem tunnelKey_values (p4info : P4Info) (table : TunnelTable) (tunnelInfo : TunnelInfo) :
    (tunnelKey p4info table tunnelInfo).matchList.map FieldMatch.fieldMatchType =
      (matchValues tunnelInfo table).map FieldMatchType.exact := by
  rcases table with ⟨_ | _, _ | _, _ | _⟩ | ⟨_ | _, _ | _⟩ | ⟨_ | _⟩ | ⟨_ | _⟩ <;> rfl

/-- Keys of different tables are different. -/
theorem tunnelKey_ne {p4info : P4Info} (hp : ResolvesTables p4info tunnelTableNames)
    {table table' : TunnelTable} (hne : table ≠ table') (tunnelInfo tunnelInfo' : TunnelInfo) :
    tunnelKey p4info table tunnelInfo ≠ tunnelKey p4info table' tunnelInfo' := by
  intro h
  have hid := congrArg TableKey.tableId h
  rw [tunnelKey_tableId, tunnelKey_tableId] at hid
  exact hne (TunnelTable.name_injective (hp.name_eq (List.mem_map_of_mem table.mem_all)
    (List.mem_map_of_mem table'.mem_all) hid))

/-! ### Supported tunnels -/

/-- A tunnel of a known type whose endpoints belong to one known family. -/
structure SupportedTunnel (tunnelInfo : TunnelInfo) : Prop where
  tunnelType : tunnelInfo.tunnelType = ovsTunnelVxlan ∨ tunnelInfo.tunnelType = ovsTunnelGeneve
  families : tunnelInfo.bothFamilies afInet = true ∨ tunnelInfo.bothFamilies afInet6 = true

/-- The type of a supported tunnel. -/
def tunnelKind (tunnelInfo : TunnelInfo) : TunnelKind :=
  if tunnelInfo.tunnelType = ovsTunnelVxlan then .vxlan else .geneve

/-- The family of a supported tunnel. -/
def ipVersion (tunnelInfo : TunnelInfo) : IpVersion :=
  if tunnelInfo.bothFamilies afInet then .v4 else .v6

/-- The encapsulation table of a supported tunnel. -/
def encapTable (tunnelInfo : TunnelInfo) : TunnelTable :=
  .encap (tunnelKind tunnelInfo) (ipVersion tunnelInfo)
    (tunnelInfo.vlanInfo.portVlanMode = .nativeUntagged)

/-- The decapsulation table of a supported tunnel. -/
def decapTable (tunnelInfo : TunnelInfo) : TunnelTable :=
  .decap (tunnelKind tunnelInfo) (tunnelInfo.vlanInfo.portVlanMode ≠ .nativeTagged)

/-- The termination table of a supported tunnel. -/
def termTable (tunnelInfo : TunnelInfo) : TunnelTable := .term (ipVersion tunnelInfo)

/-- The receive table of a supported tunnel. -/
def rxTable (tunnelInfo : TunnelInfo) : TunnelTable := .rx (ipVersion tunnelInfo)

section Prepared

variable {tunnelInfo : TunnelInfo} (hsupported : SupportedTunnel tunnelInfo) (p4info : P4Info)
  (insertEntry : Bool) (entry : TableEntry)

include hsupported

/-- The choice by tunnel type takes the encoder of the tunnel's type. -/
theorem prepareByTunnelType_eq (encoders : TunnelKind → TunnelEncoder) :
    prepareByTunnelType (encoders .vxlan) (encoders .geneve) entry tunnelInfo p4info insertEntry =
      encoders (tunnelKind tunnelInfo) entry tunnelInfo p4info insertEntry := by
  rw [prepareByTunnelType, tunnelKind]
  rcases hsupported.tunnelType with htype | htype
  · rw [if_pos htype, if_pos htype]
  · have hne : ¬ tunnelInfo.tunnelType = ovsTunnelVxlan := by rw [htype]; decide
    rw [if_neg hne, if_neg hne, if_pos htype]

/-- The choice by family takes the encoder of the tunnel's family. -/
theorem prepareByFamily_eq (encoders : IpVersion → TunnelEncoder) :
    prepareByFamily (encoders .v4) (encoders .v6) entry tunnelInfo p4info insertEntry =
      encoders (ipVersion tunnelInfo) entry tunnelInfo p4info insertEntry := by
  rw [prepareByFamily, ipVersion]
  by_cases hv4 : tunnelInfo.bothFamilies afInet = true
  · rw [if_pos hv4, if_pos hv4]
  · rw [if_neg hv4, if_neg hv4, if_pos (hsupported.families.resolve_left hv4)]

/-- The encapsulation entry comes from the encoder of the encapsulation table. -/
theorem prepareEncapTableEntry_eq :
    prepareEncapTableEntry entry tunnelInfo p4info insertEntry =
      (encapTable tunnelInfo).encoder entry tunnelInfo p4info insertEntry := by
  have hfamily := prepareByFamily_eq hsupported p4info insertEntry entry fun version =>
    prepareByVlanMode .nativeUntagged
      (prepareByTunnelType (TunnelTable.encap .vxlan version true).encoder
        (TunnelTable.encap .geneve version true).encoder)
      (prepareByTunnelType (TunnelTable.encap .vxlan version false).encoder
        (TunnelTable.encap .geneve version false).encoder)
  refine hfamily.trans ?_
  rw [prepareByVlanMode, encapTable]
  by_cases hmode : tunnelInfo.vlanInfo.portVlanMode = .nativeUntagged
  · rw [if_pos hmode, decide_eq_true hmode]
    exact prepareByTunnelType_eq hsupported p4info insertEntry entry fun kind =>
      (TunnelTable.encap kind (ipVersion tunnelInfo) true).encoder
  · rw [if_neg hmode, decide_eq_false hmode]
    exact prepareByTunnelType_eq hsupported p4info insertEntry entry fun kind =>
      (TunnelTable.encap kind (ipVersion tunnelInfo) false).encoder

/-- The decapsulation entry comes from the encoder of the decapsulation table. -/
theorem prepareDecapTableEntry_eq :
    prepareDecapTableEntry entry tunnelInfo p4info insertEntry =
      (decapTable tunnelInfo).encoder entry tunnelInfo p4info insertEntry := by
  rw [prepareDecapTableEntry, prepareByVlanMode, decapTable]
  by_cases hmode : tunnelInfo.vlanInfo.portVlanMode = .nativeTagged
  · rw [if_pos hmode, decide_eq_false (not_not.mpr hmode)]
    exact prepareByTunnelType_eq hsupported p4info insertEntry entry fun kind =>
      (TunnelTable.decap kind false).encoder
  · rw [if_neg hmode, decide_eq_true hmode]
    exact prepareByTunnelType_eq hsupported p4info insertEntry entry fun kind =>
      (TunnelTable.decap kind true).encoder

/-- The termination entry comes from the encoder of the termination table. -/
theorem prepareTunnelTermTableEntry_eq :
    prepareTunnelTermTableEntry entry tunnelInfo p4info insertEntry =
      (termTable tunnelInfo).encoder entry tunnelInfo p4info insertEntry :=
  prepareByFamily_eq hsupported p4info insertEntry entry fun version => (TunnelTable.term version).encoder

/-- The receive entry comes from the encoder of the receive table. -/
theorem prepareRxTunnelSrcPortTableEntry_eq :
    prepareRxTunnelSrcPortTableEntry entry tunnelInfo p4info insertEntry =
      (rxTable tunnelInfo).encoder entry tunnelInfo p4info insertEntry :=
  prepareByFamily_eq hsupported p4info insertEntry entry fun version => (TunnelTable.rx version).encoder

end Prepared

end NetworkingRecipe.Ovsp4rt.Es2k
