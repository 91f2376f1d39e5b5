import NetworkingRecipe.Ovsp4rt.Es2k.Updates

/-!
# Deleting what was inserted

An insertion of a tunnel, a VLAN, or a source port into tables without its keys, followed by
the deletion of the same input, restores the tables. The deletion finds the entries because
every encoder builds the same key for both.
-/

namespace NetworkingRecipe.Ovsp4rt.Es2k

open P4Runtime

/-- An update of the tunnel, VLAN, or source-port tables. -/
inductive Operation where
  | tunnel (tunnelInfo : TunnelInfo)
  | rxTunnel (tunnelInfo : TunnelInfo)
  | tunnelSrcPort (portInfo : SrcPortInfo)
  | vlan (vlanId : UInt16)
  | srcPort (portInfo : SrcPortInfo)
  deriving DecidableEq, Repr

namespace Operation

/-- The program of an operation. -/
def program (p4info : P4Info) (insertEntry : Bool) : Operation → TableProgram Status
  | tunnel info => configTunnelEntry info p4info insertEntry
  | rxTunnel info => writeRxTunnelSrcPortTableEntry info p4info insertEntry
  | tunnelSrcPort info => writeTunnelSrcPortEntry info p4info insertEntry
  | vlan vlanId => configVlanEntry vlanId p4info insertEntry
  | srcPort info => configSrcPortEntry info p4info insertEntry

/-- A tunnel must be supported; every other input is. -/
def Supported : Operation → Prop
  | tunnel info => SupportedTunnel info
  | rxTunnel info => SupportedTunnel info
  | _ => True

/-- The tx_acc_vsi entry of a VSI is configured. -/
def PortConfigured (p4info : P4Info) (s : Tables) : Operation → Prop
  | srcPort info => ∃ hostSp, hostPortIn p4info info.srcPort s = .ok hostSp
  | _ => True

/-- The keys that an operation writes; those of a VSI depend on its host port. -/
def keys (p4info : P4Info) (s : Tables) : Operation → List TableKey
  | tunnel info => (tunnelEntries p4info info true).map TableEntry.key
  | rxTunnel info => [(prepareRxTunnelSrcPortTableEntry {} info p4info true).key]
  | tunnelSrcPort info => [(encodeSrcPortTableEntry {} info p4info true).key]
  | vlan vlanId => (vlanEntries p4info vlanId true).map TableEntry.key
  | srcPort info =>
    match hostPortIn p4info info.srcPort s with
    | .ok hostSp => [(encodeSrcPortTableEntry {} { info with srcPort := hostSp } p4info true).key]
    | .error _ => []

end Operation

/-- Insertion and deletion of a list of entries restore tables without its keys. -/
theorem insert_delete_of_absent (update : OrderedUpdate) {s : Tables} (habsent : update.Absent s) :
    ∃ t, (update.program true).run tableServer s = (okStatus, t) ∧
      (update.program false).run tableServer t = (okStatus, s) := by
  have hready : update.Ready true s := habsent
  exact ⟨update.complete true s, hready.run, hready.run_opposite_complete⟩

/-- Insertion and deletion of a VSI's source port restore tables without its key. -/
theorem insert_delete_srcPort (p4info : P4Info) (portInfo : SrcPortInfo) {s : Tables} {hostSp : UInt32}
    (hport : hostPortIn p4info portInfo.srcPort s = .ok hostSp)
    (habsent : (srcPortUpdate p4info { portInfo with srcPort := hostSp }).Absent s) :
    ∃ t, (configSrcPortEntry portInfo p4info true).run tableServer s = (okStatus, t) ∧
      (configSrcPortEntry portInfo p4info false).run tableServer t = (okStatus, s) := by
  obtain ⟨t, hinsert, hdelete⟩ := insert_delete_of_absent _ habsent
  have ht : t = (srcPortUpdate p4info { portInfo with srcPort := hostSp }).complete true s := by
    have hready : (srcPortUpdate p4info { portInfo with srcPort := hostSp }).Ready true s := habsent
    rw [hready.run] at hinsert
    exact (congrArg Prod.snd hinsert).symm
  have hport' : hostPortIn p4info portInfo.srcPort t = .ok hostSp := by
    rw [hostPortIn, readReply, ht, OrderedUpdate.complete, UpdateType.performAll_of_not_mem,
      ← readReply, ← hostPortIn, hport]
    rw [OrderedUpdate.entries_key]
    exact srcPortKey_ne_txAccVsiKey p4info _ portInfo.srcPort
  refine ⟨t, ?_, ?_⟩
  · rw [run_configSrcPortEntry p4info portInfo true s hport, hinsert]
  · rw [run_configSrcPortEntry p4info portInfo false t hport', hdelete]

/-- Insertion and deletion of an operation restore tables without its keys. -/
theorem insert_delete_operation {p4info : P4Info} (hp : ResolvesTables p4info es2kTableNames)
    {op : Operation} (hsupported : op.Supported) {s : Tables} (hport : op.PortConfigured p4info s)
    (habsent : ∀ k ∈ op.keys p4info s, s k = none) :
    ∃ t, (op.program p4info true).run tableServer s = (okStatus, t) ∧
      (op.program p4info false).run tableServer t = (okStatus, s) := by
  cases op with
  | tunnel info =>
    have hp' : ResolvesTables p4info tunnelTableNames := hp.sublist tunnelTableNames_sublist
    simp only [Operation.program, configTunnelEntry_eq hp' hsupported]
    exact insert_delete_of_absent (tunnelUpdate hp' hsupported) habsent
  | rxTunnel info =>
    simp only [Operation.program, writeRxTunnelSrcPortTableEntry_eq p4info hsupported]
    exact insert_delete_of_absent (rxTunnelUpdate p4info hsupported) habsent
  | tunnelSrcPort info =>
    simp only [Operation.program, writeTunnelSrcPortEntry_eq]
    exact insert_delete_of_absent (srcPortUpdate p4info info) habsent
  | vlan vlanId =>
    have hp' : ResolvesTables p4info vlanTableNames := hp.sublist vlanTableNames_sublist
    simp only [Operation.program, configVlanEntry_eq hp']
    exact insert_delete_of_absent (vlanUpdate hp' vlanId) habsent
  | srcPort info =>
    obtain ⟨hostSp, hhost⟩ := hport
    apply insert_delete_srcPort p4info info hhost
    intro k hk
    apply habsent
    rw [Operation.keys, hhost]
    exact hk

/-! ### The encoders -/

/-- The encoders of the entries that are inserted and deleted, applied to fresh entries. -/
def entryEncoders (p4info : P4Info) (learnInfo : MacLearningInfo) (tunnelInfo : TunnelInfo)
    (vlanId : UInt16) (portInfo : SrcPortInfo) (ipInfo : IpMacMapInfo) : List (Bool → TableEntry) :=
  TunnelTable.all.map (fun table => table.encoder {} tunnelInfo p4info) ++
    [encodeVlanPushTableEntry {} vlanId p4info, encodeVlanPopTableEntry {} vlanId p4info,
     encodeSrcPortTableEntry {} portInfo p4info, encodeSrcIpMacMapTableEntry {} ipInfo p4info,
     encodeDstIpMacMapTableEntry {} ipInfo p4info, encodeFdbSmacTableEntry {} learnInfo p4info,
     encodeFdbTxVlanTableEntry {} learnInfo p4info, encodeFdbRxVlanTableEntry {} learnInfo p4info,
     encodeFdbTableEntryforV4VxlanTunnel {} learnInfo p4info,
     encodeFdbTableEntryforV4GeneveTunnel {} learnInfo p4info,
     encodeL2ToTunnelV4 {} learnInfo p4info, encodeL2ToTunnelV6 {} learnInfo p4info]

/-- Every encoder builds the same key for both directions, and no action for a deletion. -/
theorem entryEncoders_key (p4info : P4Info) (learnInfo : MacLearningInfo) (tunnelInfo : TunnelInfo)
    (vlanId : UInt16) (portInfo : SrcPortInfo) (ipInfo : IpMacMapInfo) :
    ∀ encode ∈ entryEncoders p4info learnInfo tunnelInfo vlanId portInfo ipInfo,
      (encode true).key = (encode false).key ∧ (encode false).action = none := by
  intro encode hmem
  rcases List.mem_append.mp hmem with htunnel | hother
  · obtain ⟨table, -, rfl⟩ := List.mem_map.mp htunnel
    rw [encoder_key, encoder_key]
    exact ⟨rfl, encoder_delete_action p4info table tunnelInfo⟩
  · simp only [List.mem_cons, List.not_mem_nil, or_false] at hother
    rcases hother with rfl | rfl | rfl | rfl | rfl | rfl | rfl | rfl | rfl | rfl | rfl | rfl <;>
      exact ⟨rfl, rfl⟩

/-- Deletion undoes insertion: every encoder builds one key for both directions, and an insertion into
tables without its keys, followed by the deletion of the same input, succeeds twice and restores the
tables. -/
theorem delete_undoes_insert :
    (∀ p4info learnInfo tunnelInfo vlanId portInfo ipInfo,
      ∀ encode ∈ entryEncoders p4info learnInfo tunnelInfo vlanId portInfo ipInfo,
        (encode true).key = (encode false).key ∧ (encode false).action = none) ∧
    ∀ p4info, ResolvesTables p4info es2kTableNames → ∀ op : Operation, op.Supported → ∀ s : Tables,
      op.PortConfigured p4info s → (∀ k ∈ op.keys p4info s, s k = none) →
      ∃ t, (op.program p4info true).run tableServer s = (okStatus, t) ∧
        (op.program p4info false).run tableServer t = (okStatus, s) :=
  ⟨entryEncoders_key, fun _ hp _ hsupported _ hport habsent =>
    insert_delete_operation hp hsupported hport habsent⟩

/-- The source port of a VSI and a tunnel can be inserted and deleted in the test pipeline. -/
theorem delete_undoes_insert_sample :
    (∃ t, (configSrcPortEntry ⟨1, 10, 19⟩ es2kPipeline true).run tableServer vsiTables = (okStatus, t) ∧
      (configSrcPortEntry ⟨1, 10, 19⟩ es2kPipeline false).run tableServer t = (okStatus, vsiTables)) ∧
    ∃ t, (configTunnelEntry vxlanTunnel es2kPipeline true).run tableServer vsiTables = (okStatus, t) ∧
      (configTunnelEntry vxlanTunnel es2kPipeline false).run tableServer t = (okStatus, vsiTables) :=
  ⟨delete_undoes_insert.2 es2kPipeline es2kPipeline_resolves (.srcPort ⟨1, 10, 19⟩) trivial vsiTables
      ⟨21, by decide +kernel⟩ (by decide +kernel),
    delete_undoes_insert.2 es2kPipeline es2kPipeline_resolves (.tunnel vxlanTunnel) vxlanTunnel_supported
      vsiTables trivial (by decide +kernel)⟩

end NetworkingRecipe.Ovsp4rt.Es2k
