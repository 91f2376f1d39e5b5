import NetworkingRecipe.Ovsp4rt.Es2k.TunnelKeys
import NetworkingRecipe.Ovsp4rt.Es2k.ConfigPortEntries
import NetworkingRecipe.P4Runtime.OrderedWrites

/-!
# The ES2K updates as ordered writes

The tunnel, VLAN, and source-port updates write the same keys in the same order whether
they insert or delete, and stop at the first write that fails. The source-port update of a
VSI is such an update once its port is looked up, and the lookup does not depend on what
the update writes.
-/

namespace NetworkingRecipe.Ovsp4rt.Es2k

open P4Runtime Interaction

/-- The tables of the ES2K target. -/
def es2kTableNames : List String :=
  tunnelTableNames ++ [vlanPushModTable, vlanPopModTable, sourcePortToBridgeMapTable,
    "linux_networking_control.vm_src_ip4_mac_map_table",
    "linux_networking_control.vm_dst_ip4_mac_map_table", txAccVsiTable] ++ fdbTableNames

/-- The forwarding-database tables are ES2K tables. -/
theorem fdbTableNames_sublist : fdbTableNames.Sublist es2kTableNames :=
  List.sublist_append_right _ _

/-- The names of the VLAN tables. -/
def vlanTableNames : List String := [vlanPushModTable, vlanPopModTable]

/-- The tunnel tables are ES2K tables. -/
theorem tunnelTableNames_sublist : tunnelTableNames.Sublist es2kTableNames := by
  rw [es2kTableNames, List.append_assoc]
  exact List.sublist_append_left _ _

/-- The VLAN tables are ES2K tables. -/
theorem vlanTableNames_sublist : vlanTableNames.Sublist es2kTableNames := by
  rw [es2kTableNames, List.append_assoc]
  exact (List.sublist_append_left vlanTableNames _).trans (List.sublist_append_right _ _)

/-! ### Tunnels -/

/-- The entries of a tunnel, in the order in which they are written. -/
def tunnelEntries (p4info : P4Info) (tunnelInfo : TunnelInfo) (insertEntry : Bool) : List TableEntry :=
  [prepareEncapTableEntry {} tunnelInfo p4info insertEntry,
   prepareDecapTableEntry {} tunnelInfo p4info insertEntry,
   prepareTunnelTermTableEntry {} tunnelInfo p4info insertEntry]

/-- A tunnel is configured by writing its entries in order. -/
theorem configTunnelEntry_eq_writeInOrder (p4info : P4Info) (tunnelInfo : TunnelInfo) (insertEntry : Bool) :
    configTunnelEntry tunnelInfo p4info insertEntry =
      writeInOrder (updateType insertEntry) (tunnelEntries p4info tunnelInfo insertEntry) := by
  rw [tunnelEntries, writeInOrder, writeInOrder, writeInOrder_singleton]
  rfl

/-- The keys of a supported tunnel's entries. -/
theorem tunnelEntries_key (p4info : P4Info) {tunnelInfo : TunnelInfo}
    (hsupported : SupportedTunnel tunnelInfo) (insertEntry : Bool) :
    (tunnelEntries p4info tunnelInfo insertEntry).map TableEntry.key =
      [encapTable tunnelInfo, decapTable tunnelInfo, termTable tunnelInfo].map
        fun table => tunnelKey p4info table tunnelInfo := by
  simp only [tunnelEntries, List.map_cons, List.map_nil, encoder_key,
    prepareEncapTableEntry_eq hsupported, prepareDecapTableEntry_eq hsupported,
    prepareTunnelTermTableEntry_eq hsupported]

/-- The update of a supported tunnel. -/
def tunnelUpdate {p4info : P4Info} (hp : ResolvesTables p4info tunnelTableNames)
    {tunnelInfo : TunnelInfo} (hsupported : SupportedTunnel tunnelInfo) : OrderedUpdate where
  entries := tunnelEntries p4info tunnelInfo
  key_eq := by rw [tunnelEntries_key p4info hsupported, tunnelEntries_key p4info hsupported]
  nodup := by
    have hne (table table' : TunnelTable) (hne : table ≠ table') :
        tunnelKey p4info table tunnelInfo ≠ tunnelKey p4info table' tunnelInfo :=
      tunnelKey_ne hp hne tunnelInfo tunnelInfo
    rw [tunnelEntries_key p4info hsupported]
    simp only [List.map_cons, List.map_nil, List.nodup_cons, List.mem_cons, List.not_mem_nil, or_false,
      not_or, not_false_iff, List.nodup_nil, and_true]
    exact ⟨⟨hne _ _ (by rintro ⟨⟩), hne _ _ (by rintro ⟨⟩)⟩, hne _ _ (by rintro ⟨⟩)⟩

/-- A supported tunnel is configured by its update. -/
theorem configTunnelEntry_eq {p4info : P4Info} (hp : ResolvesTables p4info tunnelTableNames)
    {tunnelInfo : TunnelInfo} (hsupported : SupportedTunnel tunnelInfo) (insertEntry : Bool) :
    configTunnelEntry tunnelInfo p4info insertEntry = (tunnelUpdate hp hsupported).program insertEntry :=
  configTunnelEntry_eq_writeInOrder p4info tunnelInfo insertEntry

/-! ### VLANs -/

/-- The entries of a VLAN, in the order in which they are written. -/
def vlanEntries (p4info : P4Info) (vlanId : UInt16) (insertEntry : Bool) : List TableEntry :=
  [encodeVlanPushTableEntry {} vlanId p4info insertEntry,
   encodeVlanPopTableEntry {} vlanId p4info insertEntry]

/-- The key of a VLAN in the push table. -/
def vlanPushKey (p4info : P4Info) (vlanId : UInt16) : TableKey :=
  (encodeVlanPushTableEntry {} vlanId p4info false).key

/-- The key of a VLAN in the pop table. -/
def vlanPopKey (p4info : P4Info) (vlanId : UInt16) : TableKey :=
  (encodeVlanPopTableEntry {} vlanId p4info false).key

/-- The keys of a VLAN's entries. -/
theorem vlanEntries_key (p4info : P4Info) (vlanId : UInt16) (insertEntry : Bool) :
    (vlanEntries p4info vlanId insertEntry).map TableEntry.key =
      [vlanPushKey p4info vlanId, vlanPopKey p4info vlanId] := by
  cases insertEntry <;> rfl

/-- The push key of a VLAN is never the pop key of a VLAN. -/
theorem vlanPushKey_ne_vlanPopKey {p4info : P4Info} (hp : ResolvesTables p4info vlanTableNames)
    (vlanId vlanId' : UInt16) : vlanPushKey p4info vlanId ≠ vlanPopKey p4info vlanId' := by
  intro h
  have hname := hp.name_eq List.mem_cons_self (List.mem_cons_of_mem _ List.mem_cons_self)
    (congrArg TableKey.tableId h)
  exact absurd hname (by decide)

/-- The update of a VLAN. -/
def vlanUpdate {p4info : P4Info} (hp : ResolvesTables p4info vlanTableNames) (vlanId : UInt16) :
    OrderedUpdate where
  entries := vlanEntries p4info vlanId
  key_eq := by rw [vlanEntries_key, vlanEntries_key]
  nodup := by
    rw [vlanEntries_key]
    simpa using vlanPushKey_ne_vlanPopKey hp vlanId vlanId

/-- A VLAN is configured by its update. -/
theorem configVlanEntry_eq {p4info : P4Info} (hp : ResolvesTables p4info vlanTableNames)
    (vlanId : UInt16) (insertEntry : Bool) :
    configVlanEntry vlanId p4info insertEntry = (vlanUpdate hp vlanId).program insertEntry := by
  change _ = writeInOrder (updateType insertEntry) (vlanEntries p4info vlanId insertEntry)
  rw [vlanEntries, writeInOrder, writeInOrder_singleton]
  rfl

/-! ### Receive tunnels and source ports -/

/-- The update of a supported receive tunnel. -/
def rxTunnelUpdate (p4info : P4Info) {tunnelInfo : TunnelInfo} (hsupported : SupportedTunnel tunnelInfo) :
    OrderedUpdate :=
  .single (prepareRxTunnelSrcPortTableEntry {} tunnelInfo p4info) (by
    rw [prepareRxTunnelSrcPortTableEntry_eq hsupported, prepareRxTunnelSrcPortTableEntry_eq hsupported,
      encoder_key, encoder_key])

/-- A receive tunnel is configured by its update. -/
theorem writeRxTunnelSrcPortTableEntry_eq (p4info : P4Info) {tunnelInfo : TunnelInfo}
    (hsupported : SupportedTunnel tunnelInfo) (insertEntry : Bool) :
    writeRxTunnelSrcPortTableEntry tunnelInfo p4info insertEntry =
      (rxTunnelUpdate p4info hsupported).program insertEntry :=
  (writeInOrder_singleton _ _).symm

/-- The update of a source port. -/
def srcPortUpdate (p4info : P4Info) (portInfo : SrcPortInfo) : OrderedUpdate :=
  .single (encodeSrcPortTableEntry {} portInfo p4info) rfl

/-- The source port of a tunnel is configured by its update. -/
theorem writeTunnelSrcPortEntry_eq (p4info : P4Info) (portInfo : SrcPortInfo) (insertEntry : Bool) :
    writeTunnelSrcPortEntry portInfo p4info insertEntry =
      (srcPortUpdate p4info portInfo).program insertEntry :=
  (writeInOrder_singleton _ _).symm

/-- The result of looking up a port in given tables. -/
def hostPortIn (p4info : P4Info) (srcPort : UInt32) (s : Tables) : StatusOr UInt32 :=
  readReply (encodeTxAccVsiTableEntry {} srcPort p4info) s >>= hostPort p4info

/-- A source-port entry is never a tx_acc_vsi entry: it has a priority. -/
theorem srcPortKey_ne_txAccVsiKey (p4info : P4Info) (portInfo : SrcPortInfo) (srcPort : UInt32) :
    (encodeTxAccVsiTableEntry {} srcPort p4info).key ∉ (srcPortUpdate p4info portInfo).keys := by
  intro hmem
  have hpriority : (0 : Int32) = 1 := congrArg TableKey.priority (List.mem_singleton.mp hmem)
  exact absurd hpriority (by decide)

/-- A lookup leaves the tables alone. -/
theorem run_getTxAccVsiPort (p4info : P4Info) (srcPort : UInt32) (s : Tables) :
    (getTxAccVsiPort p4info srcPort).run tableServer s = (hostPortIn p4info srcPort s, s) := by
  change ((tableServer (.read _) s).1 >>= hostPort p4info, (tableServer (.read _) s).2) = _
  rw [tableServer_read]
  rfl

/-- The update of a VSI's source port is the update of its host port. -/
theorem run_configSrcPortEntry (p4info : P4Info) (portInfo : SrcPortInfo) (insertEntry : Bool)
    (s : Tables) {hostSp : UInt32} (hport : hostPortIn p4info portInfo.srcPort s = .ok hostSp) :
    (configSrcPortEntry portInfo p4info insertEntry).run tableServer s =
      ((srcPortUpdate p4info { portInfo with srcPort := hostSp }).program insertEntry).run tableServer s := by
  rw [configSrcPortEntry, Program.run_bind, run_getTxAccVsiPort, hport, ← writeTunnelSrcPortEntry_eq]
  rfl

/-! ### The test pipeline and a sample tunnel -/

/-- The tables and the actions of the P4Info that the ES2K tests load which the updates name. The
termination tables have no bridge field there, so the encoders store the identifier -1 for it. -/
def es2kPipeline : P4Info :=
  es2kP4Info.restrict
    [40240205, 44842501, 46342225, 43337754, 36796227, 42508227, 40763773, 39675860, 46225003,
      34318005, 41319073, 47977422, 42283616, 47370391, 40980035, 37624107, 34173274, 34525815,
      47484925, 34601307, 49097500, 40981078, 40312237, 38884256, 33606489, 37403444, 50085764]
    [31624713, 31163719, 25342798, 26749366, 31208923, 26412051, 31983357, 19193142, 23849990,
      23736116, 24842266, 17483375, 33478945, 20733968, 26114242, 30345128, 28284062, 25818889,
      26665268, 29610186, 27347188, 28308555, 27842378, 31953264, 25073902, 24137163, 25667542,
      32890467, 31939992]

/-- The test pipeline knows the ES2K tables under different identifiers. -/
theorem es2kPipeline_resolves : ResolvesTables es2kPipeline es2kTableNames where
  known := by decide +kernel
  distinct := by decide +kernel

/-- A VXLAN tunnel between two IPv4 endpoints on a native tagged port. -/
def vxlanTunnel : TunnelInfo :=
  { localIp := ⟨afInet, 24, ⟨#v[0x0100a8c0, 0, 0, 0]⟩⟩, remoteIp := ⟨afInet, 24, ⟨#v[0x0200a8c0, 0, 0, 0]⟩⟩
    dstPort := 0xb512, vni := 7, vlanInfo := ⟨.nativeTagged, 1⟩, bridgeId := 1
    tunnelType := ovsTunnelVxlan }

/-- The sample tunnel is supported. -/
theorem vxlanTunnel_supported : SupportedTunnel vxlanTunnel where
  tunnelType := Or.inl rfl
  families := Or.inl rfl

end NetworkingRecipe.Ovsp4rt.Es2k
