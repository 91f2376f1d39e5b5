import NetworkingRecipe.Ovsp4rt.Api
import NetworkingRecipe.Ovsp4rt.Es2k.FdbRequests
import NetworkingRecipe.Ovsp4rt.Es2k.IpMacMap
import NetworkingRecipe.Ovsp4rt.Es2k.Updates

/-!
# Requests that name a table

A request with an empty entry names no table, and as a read it asks for every entry of the
server. An update sends one exactly when none of its encoders fits the input: its
preparation function then leaves the entry as it was initialized, and the entry is sent
all the same.

The results hold for every server, because they are about every request that an update can
send.
-/

namespace NetworkingRecipe.Ovsp4rt

open P4Runtime Interaction

namespace Es2k

/-- A key with the identifier of a table and a match list that is not empty. -/
structure Addressed (p4info : P4Info) (key : TableKey) : Prop where
  table : ∃ table ∈ p4info.tables, key.tableId = table.preamble.id
  matchList : key.matchList ≠ []

/-- The empty entry names nothing. -/
theorem not_addressed_empty (p4info : P4Info) : ¬ Addressed p4info ({} : TableEntry).key :=
  fun h => h.matchList rfl

/-- A resolved name has the identifier of a table. -/
theorem exists_table_of_resolves {p4info : P4Info} {names : List String} (hp : ResolvesTables p4info names)
    {name : String} (hname : name ∈ names) :
    ∃ table ∈ p4info.tables, (getTableId p4info name).toUInt32 = table.preamble.id := by
  obtain ⟨known, hknown, hsame⟩ := hp.known name hname
  cases hfound : p4info.tables.find? fun table => table.preamble.name == name with
  | none => simpa [hsame] using List.find?_eq_none.mp hfound known hknown
  | some table =>
    refine ⟨table, List.mem_of_find?_eq_some hfound, ?_⟩
    rw [getTableId, hfound]
    exact UInt32.toUInt32_toInt32 _

/-- A key under the name of a resolved table is addressed if it matches on anything. -/
theorem addressed_of_name {p4info : P4Info} {names : List String} (hp : ResolvesTables p4info names)
    {name : String} (hname : name ∈ names) {key : TableKey}
    (hid : key.tableId = (getTableId p4info name).toUInt32) (hlist : key.matchList ≠ []) :
    Addressed p4info key where
  table := by
    obtain ⟨table, hmem, htable⟩ := exists_table_of_resolves hp hname
    exact ⟨table, hmem, hid.trans htable⟩
  matchList := hlist

/-! ### The keys of the encoders -/

section Keys

variable {p4info : P4Info} (hp : ResolvesTables p4info es2kTableNames)

include hp

/-- The keys of learned addresses are addressed. -/
theorem addressed_fdbKey (table : FdbTable) (mac : MacAddr) (bridgeId : UInt8) :
    Addressed p4info (fdbKey p4info table mac bridgeId) := by
  refine addressed_of_name hp (fdbTableNames_sublist.subset table.name_mem) ?_ ?_
  · cases table <;> rfl
  · cases table <;> exact List.cons_ne_nil _ _

/-- The keys of tunnels are addressed. -/
theorem addressed_tunnelKey (table : TunnelTable) (tunnelInfo : TunnelInfo) :
    Addressed p4info (tunnelKey p4info table tunnelInfo) := by
  refine addressed_of_name hp (tunnelTableNames_sublist.subset (List.mem_map_of_mem table.mem_all))
    (tunnelKey_tableId p4info table tunnelInfo) ?_
  rcases table with ⟨_ | _, _ | _, _ | _⟩ | ⟨_ | _, _ | _⟩ | ⟨_ | _⟩ | ⟨_ | _⟩ <;>
    exact List.cons_ne_nil _ _

/-- The key of a port lookup is addressed. -/
theorem addressed_txAccVsiKey (srcPort : UInt32) : Addressed p4info (txAccVsiKey p4info srcPort) :=
  addressed_of_name hp (by simp [es2kTableNames]) rfl (List.cons_ne_nil _ _)

/-- The keys of a VLAN are addressed. -/
theorem addressed_vlanEntries (vlanId : UInt16) (insertEntry : Bool) :
    ∀ entry ∈ vlanEntries p4info vlanId insertEntry, Addressed p4info entry.key := by
  intro entry hmem
  have hkey := List.mem_map_of_mem (f := TableEntry.key) hmem
  rw [vlanEntries_key, List.mem_cons, List.mem_singleton] at hkey
  rcases hkey with hkey | hkey <;> rw [hkey]
  · exact addressed_of_name hp (vlanTableNames_sublist.subset List.mem_cons_self) rfl (List.cons_ne_nil _ _)
  · exact addressed_of_name hp
      (vlanTableNames_sublist.subset (List.mem_cons_of_mem _ List.mem_cons_self)) rfl (List.cons_ne_nil _ _)

/-- The key of a source port is addressed. -/
theorem addressed_srcPort (portInfo : SrcPortInfo) (insertEntry : Bool) :
    Addressed p4info (encodeSrcPortTableEntry {} portInfo p4info insertEntry).key := by
  have hname : sourcePortToBridgeMapTable ∈ es2kTableNames := by simp [es2kTableNames]
  rw [encodeSrcPortTableEntry, setAction_key]
  exact addressed_of_name hp hname rfl (List.cons_ne_nil _ _)

/-- The keys of the address map are addressed. -/
theorem addressed_ipMacMapKey (direction : Direction) (addr : UInt32) :
    Addressed p4info (direction.key p4info addr) := by
  refine addressed_of_name hp (ipMacMapTableNames_sublist.subset ?_) rfl (List.cons_ne_nil _ _)
  cases direction <;> simp [ipMacMapTableNames, Direction.names]

/-! ### The requests of the updates -/

/-- The writes of a deletion are addressed. -/
theorem deleteBody_addressed (learnInfo : MacLearningInfo) :
    (deleteBody p4info learnInfo).Sends fun r => Addressed p4info r.key := by
  refine Program.sends_sendAll _ _ _ fun r hmem => ?_
  obtain ⟨table, -, rfl⟩ := List.mem_map.mp hmem
  exact addressed_fdbKey hp table learnInfo.macAddr learnInfo.bridgeId

/-- The writes of a supported record are addressed. -/
theorem insertRequests_addressed {learnInfo : MacLearningInfo} (hsupported : SupportedType learnInfo)
    (tables : List FdbTable) :
    (Program.sendAll (insertRequests p4info learnInfo tables) okStatus : TableProgram Status).Sends
      fun r => Addressed p4info r.key := by
  refine Program.sends_sendAll _ _ _ fun r hmem => ?_
  obtain ⟨table, -, rfl⟩ := List.mem_map.mp hmem
  rw [TableRequest.key, fdbInsertEntry_key p4info learnInfo hsupported]
  exact addressed_fdbKey hp table learnInfo.macAddr learnInfo.bridgeId

/-- What follows the port lookup of a VLAN insertion is addressed. -/
theorem vlanInsertTail_addressed {learnInfo : MacLearningInfo} (htunnel : learnInfo.isTunnel = false)
    (hostSp : StatusOr UInt32) :
    (vlanInsertTail p4info learnInfo hostSp).Sends fun r => Addressed p4info r.key := by
  cases hostSp with
  | error status => trivial
  | ok hostSp =>
    refine insertRequests_addressed hp (fun h => ?_) [.tx, .smac]
    exact absurd (htunnel.symm.trans h) Bool.false_ne_true

/-- What follows the existence read of a supported insertion is addressed. -/
theorem insertBody_addressed {learnInfo : MacLearningInfo} (hsupported : SupportedType learnInfo) :
    (insertBody p4info learnInfo).Sends fun r => Addressed p4info r.key := by
  rw [insertBody]
  by_cases htunnel : learnInfo.isTunnel = true
  · rw [if_pos htunnel]
    exact insertRequests_addressed hp hsupported (tunnelTables learnInfo)
  · rw [if_neg htunnel]
    have hrx : Addressed p4info (fdbInsertEntry p4info learnInfo .rx).key := by
      rw [fdbInsertEntry_key p4info learnInfo hsupported]
      exact addressed_fdbKey hp .rx learnInfo.macAddr learnInfo.bridgeId
    exact ⟨hrx, fun _ => ⟨addressed_txAccVsiKey hp learnInfo.srcPort, fun lookup =>
      vlanInsertTail_addressed hp (Bool.eq_false_iff.mpr htunnel) _⟩⟩

/-- The requests of a forwarding-database call are addressed if an insertion has a supported tunnel type. -/
theorem configFdbEntry_addressed (learnInfo : MacLearningInfo) (insertEntry : Bool)
    (hsupported : insertEntry = true → SupportedType learnInfo) :
    (configFdbEntry learnInfo p4info insertEntry).Sends fun r => Addressed p4info r.key := by
  cases insertEntry with
  | true =>
    rw [configFdbEntry_insert p4info learnInfo (hsupported rfl)]
    refine ⟨addressed_fdbKey hp .tx learnInfo.macAddr learnInfo.bridgeId, fun reply => ?_⟩
    beta_reduce
    split
    · trivial
    · exact insertBody_addressed hp (hsupported rfl)
  | false =>
    rw [configFdbEntry_delete]
    refine ⟨addressed_fdbKey hp .tunnelV4 learnInfo.macAddr learnInfo.bridgeId, fun reply => ?_⟩
    beta_reduce
    split
    · exact deleteBody_addressed hp _
    · exact ⟨addressed_fdbKey hp .tunnelV6 learnInfo.macAddr learnInfo.bridgeId,
        fun reply => deleteBody_addressed hp _⟩

/-- The writes of a supported tunnel are addressed. -/
theorem configTunnelEntry_addressed {tunnelInfo : TunnelInfo} (hsupported : SupportedTunnel tunnelInfo)
    (insertEntry : Bool) :
    (configTunnelEntry tunnelInfo p4info insertEntry).Sends fun r => Addressed p4info r.key := by
  rw [configTunnelEntry_eq_writeInOrder]
  refine sends_writeInOrder _ _ fun entry hmem => ?_
  have hkey := List.mem_map_of_mem (f := TableEntry.key) hmem
  rw [tunnelEntries_key p4info hsupported] at hkey
  obtain ⟨table, -, hkey⟩ := List.mem_map.mp hkey
  rw [TableRequest.key, ← hkey]
  exact addressed_tunnelKey hp table tunnelInfo

/-- The write of a receive tunnel is addressed if its two addresses belong to one known family. -/
theorem writeRxTunnelSrcPortTableEntry_addressed {tunnelInfo : TunnelInfo}
    (hfamilies : tunnelInfo.bothFamilies afInet = true ∨ tunnelInfo.bothFamilies afInet6 = true)
    (insertEntry : Bool) :
    (writeRxTunnelSrcPortTableEntry tunnelInfo p4info insertEntry).Sends fun r => Addressed p4info r.key := by
  refine ⟨?_, fun _ => trivial⟩
  change Addressed p4info (prepareRxTunnelSrcPortTableEntry {} tunnelInfo p4info insertEntry).key
  rw [prepareRxTunnelSrcPortTableEntry, prepareByFamily]
  split
  · have hkey := encoder_key p4info (.rx .v4) tunnelInfo insertEntry
    exact hkey ▸ addressed_tunnelKey hp (.rx .v4) tunnelInfo
  · rename_i hv4
    rw [if_pos (hfamilies.resolve_left hv4)]
    have hkey := encoder_key p4info (.rx .v6) tunnelInfo insertEntry
    exact hkey ▸ addressed_tunnelKey hp (.rx .v6) tunnelInfo

/-- The writes of a VLAN are addressed. -/
theorem configVlanEntry_addressed (vlanId : UInt16) (insertEntry : Bool) :
    (configVlanEntry vlanId p4info insertEntry).Sends fun r => Addressed p4info r.key := by
  rw [configVlanEntry_eq (hp.sublist vlanTableNames_sublist)]
  exact sends_writeInOrder _ _ (addressed_vlanEntries hp vlanId insertEntry)

/-- The requests of a source-port update are addressed. -/
theorem configSrcPortEntry_addressed (portInfo : SrcPortInfo) (insertEntry : Bool) :
    (configSrcPortEntry portInfo p4info insertEntry).Sends fun r => Addressed p4info r.key := by
  have hlookup : (getTxAccVsiPort p4info portInfo.srcPort).Sends fun r => Addressed p4info r.key :=
    ⟨addressed_txAccVsiKey hp portInfo.srcPort, fun _ => trivial⟩
  refine hlookup.bind fun hostSp => ?_
  cases hostSp with
  | error status => trivial
  | ok hostSp => exact ⟨addressed_srcPort hp _ insertEntry, fun _ => trivial⟩

/-- The requests of one direction of an address-map update are addressed. -/
theorem config_addressed (direction : Direction) (ipInfo : IpMacMapInfo) (insertEntry : Bool) :
    (direction.config ipInfo p4info insertEntry).Sends fun r => Addressed p4info r.key := by
  have hkey (insertEntry : Bool) : Addressed p4info (direction.encode ipInfo p4info insertEntry).key := by
    rw [Direction.encode_key]
    exact addressed_ipMacMapKey hp direction _
  have hwrite : (direction.write ipInfo p4info insertEntry).Sends fun r => Addressed p4info r.key := by
    rw [Direction.write, writeIfValid]
    split
    · exact ⟨hkey insertEntry, fun _ => trivial⟩
    · trivial
  rw [Direction.config_eq]
  split
  · refine ⟨hkey false, fun reply => ?_⟩
    change (if _ then _ else _ : TableProgram Unit).Sends _
    split
    · trivial
    · exact hwrite
  · exact hwrite

/-- The requests of an address-map update are addressed. -/
theorem configIpMacMapEntry_addressed (ipInfo : IpMacMapInfo) (insertEntry : Bool) :
    (configIpMacMapEntry ipInfo p4info insertEntry).Sends fun r => Addressed p4info r.key := by
  rw [configIpMacMapEntry_eq]
  exact (config_addressed hp .source ipInfo insertEntry).bind fun _ =>
    (config_addressed hp .destination ipInfo insertEntry).bind fun _ => trivial

end Keys

end Es2k

/-! ### The updates of the API functions -/

/-- The functions of the ES2K target. -/
def ApiFunction.isEs2k : ApiFunction → Bool
  | .dpdkFdb _ | .dpdkTunnel _ => false
  | _ => true

/-- Some table applies to the input of a call: an insertion of a tunnel-learned address has a known tunnel
type, a tunnel has a known type and addresses of one known family, and so has a receive tunnel, whose type
does not matter. -/
def ApiCall.TableApplies (call : ApiCall) : Prop :=
  match call.function with
  | .es2kFdb learnInfo => call.insertEntry = true → Es2k.SupportedType learnInfo
  | .es2kTunnel tunnelInfo => Es2k.SupportedTunnel tunnelInfo
  | .es2kRxTunnelSrc tunnelInfo =>
    tunnelInfo.bothFamilies afInet = true ∨ tunnelInfo.bothFamilies afInet6 = true
  | _ => True

section Updates

variable {p4info : P4Info} {call : ApiCall}

/-- The requests of a call are addressed if a table applies to its input. -/
theorem ApiCall.config_addressed (hp : ResolvesTables p4info Es2k.es2kTableNames)
    (hes2k : call.function.isEs2k = true) (happlies : call.TableApplies) :
    (call.config p4info).Sends fun r => Es2k.Addressed p4info r.key := by
  obtain ⟨function, insertEntry, grpcAddr⟩ := call
  cases function with
  | es2kFdb learnInfo => exact Es2k.configFdbEntry_addressed hp learnInfo insertEntry happlies
  | es2kTunnel tunnelInfo => exact Es2k.configTunnelEntry_addressed hp happlies insertEntry
  | es2kVlan vlanId => exact Es2k.configVlanEntry_addressed hp vlanId insertEntry
  | es2kSrcPort portInfo => exact Es2k.configSrcPortEntry_addressed hp portInfo insertEntry
  | es2kTunnelSrcPort portInfo => exact ⟨Es2k.addressed_srcPort hp portInfo insertEntry, fun _ => trivial⟩
  | es2kRxTunnelSrc tunnelInfo =>
    exact Es2k.writeRxTunnelSrcPortTableEntry_addressed hp happlies insertEntry
  | es2kIpMacMap ipInfo => exact Es2k.configIpMacMapEntry_addressed hp ipInfo insertEntry
  | dpdkFdb learnInfo => cases hes2k
  | dpdkTunnel tunnelInfo => cases hes2k

/-- A tunnel entry of an unknown type is left as it was initialized. -/
theorem Es2k.prepareByTunnelType_of_unknown (vxlan geneve : Es2k.TunnelEncoder) (entry : TableEntry)
    {tunnelInfo : TunnelInfo} (insertEntry : Bool)
    (htype : ¬ (tunnelInfo.tunnelType = ovsTunnelVxlan ∨ tunnelInfo.tunnelType = ovsTunnelGeneve)) :
    Es2k.prepareByTunnelType vxlan geneve entry tunnelInfo p4info insertEntry = entry := by
  rw [not_or] at htype
  rw [Es2k.prepareByTunnelType, if_neg htype.1, if_neg htype.2]

/-- A tunnel entry of different or unknown families is left as it was initialized. -/
theorem Es2k.prepareByFamily_of_unknown (v4 v6 : Es2k.TunnelEncoder) (entry : TableEntry)
    {tunnelInfo : TunnelInfo} (insertEntry : Bool)
    (hfamilies : ¬ (tunnelInfo.bothFamilies afInet = true ∨ tunnelInfo.bothFamilies afInet6 = true)) :
    Es2k.prepareByFamily v4 v6 entry tunnelInfo p4info insertEntry = entry := by
  rw [not_or] at hfamilies
  rw [Es2k.prepareByFamily, if_neg hfamilies.1, if_neg hfamilies.2]

/-- The encapsulation entry of an unsupported tunnel is left as it was initialized. -/
theorem Es2k.prepareEncapTableEntry_of_unsupported (entry : TableEntry) {tunnelInfo : TunnelInfo}
    (insertEntry : Bool) (hunsupported : ¬ Es2k.SupportedTunnel tunnelInfo) :
    Es2k.prepareEncapTableEntry entry tunnelInfo p4info insertEntry = entry := by
  by_cases hfamilies : tunnelInfo.bothFamilies afInet = true ∨ tunnelInfo.bothFamilies afInet6 = true
  · have htype : ¬ (tunnelInfo.tunnelType = ovsTunnelVxlan ∨ tunnelInfo.tunnelType = ovsTunnelGeneve) :=
      fun htype => hunsupported ⟨htype, hfamilies⟩
    simp only [Es2k.prepareEncapTableEntry, Es2k.prepareByFamily, Es2k.prepareByVlanMode,
      Es2k.prepareV4EncapAndVlanPopTableEntry, Es2k.prepareV4EncapTableEntry,
      Es2k.prepareV6EncapAndVlanPopTableEntry, Es2k.prepareV6EncapTableEntry,
      Es2k.prepareByTunnelType_of_unknown _ _ entry insertEntry htype, ite_self]
  · exact Es2k.prepareByFamily_of_unknown _ _ entry insertEntry hfamilies

/-- The first request of a call is empty if no table applies to its input. -/
theorem ApiCall.first_request_empty (hnone : ¬ call.TableApplies) :
    ∃ r rest, call.config p4info = .request r rest ∧ r.key = ({} : TableEntry).key := by
  obtain ⟨function, insertEntry, grpcAddr⟩ := call
  cases function with
  | es2kFdb learnInfo =>
    obtain ⟨hinsert, hunsupported⟩ := Classical.not_imp.mp hnone
    obtain ⟨htunnel, htype⟩ := Classical.not_imp.mp hunsupported
    obtain rfl : insertEntry = true := hinsert
    have hconfig : config ⟨.es2kFdb learnInfo, true, grpcAddr⟩ p4info =
        Es2k.configFdbTunnelEntry learnInfo true p4info := if_pos htunnel
    refine ⟨_, _, hconfig.trans rfl, ?_⟩
    rw [not_or] at htype
    rw [TableRequest.key, Es2k.prepareFdbTableV4TunnelEntry, if_neg htype.1, if_neg htype.2]
  | es2kTunnel tunnelInfo =>
    exact ⟨_, _, rfl, congrArg TableEntry.key
      (Es2k.prepareEncapTableEntry_of_unsupported {} insertEntry hnone)⟩
  | es2kRxTunnelSrc tunnelInfo =>
    exact ⟨_, _, rfl, congrArg TableEntry.key
      (Es2k.prepareByFamily_of_unknown _ _ {} insertEntry hnone)⟩
  | es2kVlan vlanId => exact absurd trivial hnone
  | es2kSrcPort portInfo => exact absurd trivial hnone
  | es2kTunnelSrcPort portInfo => exact absurd trivial hnone
  | es2kIpMacMap ipInfo => exact absurd trivial hnone
  | dpdkFdb learnInfo => exact absurd trivial hnone
  | dpdkTunnel tunnelInfo => exact absurd trivial hnone

/-- Every request of a call is addressed, and a call whose input no table applies to is answered with an
error and without a request. -/
def NoEmptyRequest {State : Type} (handle : Handler TableRequest TableReply State) (p4info : P4Info)
    (call : ApiCall) (s : State) : Prop :=
  (∀ r ∈ (call.config p4info).requests handle s, Es2k.Addressed p4info r.key) ∧
    (¬ call.TableApplies → (call.config p4info).requests handle s = [] ∧
      ∃ status, ((call.config p4info).run handle s).1 = .error status)

/-- An ES2K call sends no empty request exactly if a table applies to its input, whatever the server does
and for every P4Info that resolves the ES2K tables. -/
theorem noEmptyRequest_iff (hp : ResolvesTables p4info Es2k.es2kTableNames)
    (hes2k : call.function.isEs2k = true) {State : Type} (handle : Handler TableRequest TableReply State)
    (s : State) : NoEmptyRequest handle p4info call s ↔ call.TableApplies := by
  constructor
  · rintro ⟨hrequests, -⟩
    by_contra hnone
    obtain ⟨r, rest, hconfig, hempty⟩ : ∃ r rest, call.config p4info = .request r rest ∧ r.key = _ :=
      call.first_request_empty hnone
    rw [hconfig] at hrequests
    exact Es2k.not_addressed_empty p4info (hempty ▸ hrequests r List.mem_cons_self)
  · intro happlies
    exact ⟨(call.config_addressed hp hes2k happlies).forall_requests handle s,
      fun hnone => absurd happlies hnone⟩

/-- In empty tables of the test pipeline, the insertion of the sample tunnel sends no empty request. -/
theorem noEmptyRequest_sample :
    NoEmptyRequest tableServer Es2k.es2kPipeline ⟨.es2kTunnel Es2k.vxlanTunnel, true, "localhost:9559"⟩
      Es2k.emptyTables :=
  (noEmptyRequest_iff Es2k.es2kPipeline_resolves rfl tableServer Es2k.emptyTables).mpr
    Es2k.vxlanTunnel_supported

/-- The insertion of an address learned from a tunnel of unknown type. -/
def unknownTunnelInsertion : ApiCall :=
  ⟨.es2kFdb { isTunnel := true }, true, "localhost:9559"⟩

/-- A server that finds an entry for every read. -/
def holdsSomething : Handler TableRequest TableReply Unit
  | .read entry, _ => (.ok [entry], ())
  | .write _ _, _ => (okStatus, ())

/-- With a server that holds some entry, the insertion of an address learned from a tunnel of unknown type
asks for all entries, writes nothing, and reports OK. -/
theorem unknown_tunnel_reads_everything :
    ¬ NoEmptyRequest holdsSomething Es2k.es2kPipeline unknownTunnelInsertion () ∧
      (unknownTunnelInsertion.config Es2k.es2kPipeline).requests holdsSomething () = [.read {}] ∧
      ((unknownTunnelInsertion.config Es2k.es2kPipeline).run holdsSomething ()).1 = okStatus := by
  refine ⟨fun h => ?_, rfl, rfl⟩
  exact Es2k.not_addressed_empty _ (h.1 (.read {}) List.mem_cons_self)

end Updates

end NetworkingRecipe.Ovsp4rt
