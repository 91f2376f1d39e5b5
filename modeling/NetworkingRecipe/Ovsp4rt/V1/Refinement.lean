import NetworkingRecipe.Interaction.Agreement
import NetworkingRecipe.Ovsp4rt.V1.HostPort

/-!
# The v3 core sends what the v1 core sends

The API functions of the v1 core return nothing, so they are compared with the v3 core by
the requests they send. The two cores agree piece by piece: their writes and reads are the
same requests, their branches test the same replies, and they go on with the same entries.

They differ in two places. For an insertion of a tunnel of unknown type, the first read of v1
fails without a request, and the writes follow; v3 sends that read with an empty entry. The
port decoders give different numbers, of which only the low byte reaches a forwarding entry;
it is the same byte when the server returns one entry with a port of four bytes.
-/

namespace NetworkingRecipe.Ovsp4rt.V1

open Interaction P4Runtime
open Interaction.Program (Agree)
open V2 (Target EntryM Builds)
open V2.EntryM (build)

/-! ### What the comparison asks of a server -/

/-- A response of one entry whose port parameter has four bytes. -/
def OnePort (p4info : P4Info) (readResponse : ReadResponse) : Prop :=
  ∃ tableEntry value, readResponse = [tableEntry] ∧ portValue p4info tableEntry = some value ∧
    value.length = 4

/-- A reply to a table request: a successful tx_acc_vsi read returns one port of four bytes. -/
def Admissible (p4info : P4Info) : (r : TableRequest) → TableReply r → Prop
  | .read entry, reply => ∀ sp readResponse, entry = Es2k.encodeTxAccVsiTableEntry {} sp p4info →
      (reply : StatusOr ReadResponse) = .ok readResponse → OnePort p4info readResponse
  | .write _ _, _ => True

/-- A reply on the wire of a server with the given P4Info: a tx_acc_vsi read that ends well returned one
port of four bytes. -/
def Served (p4info : P4Info) : (r : WireRequest) → WireReply r → Prop
  | .getForwardingPipelineConfig _ _, reply => reply.2 = p4info
  | .read _ entry, reply => ∀ sp, entry = Es2k.encodeTxAccVsiTableEntry {} sp p4info →
      reply.2 = okStatus → OnePort p4info reply.1.flatten
  | _, _ => True

/-- Two updates that send the same requests while the replies are admissible. -/
abbrev SendsAlike {A B : Type} (p4info : P4Info) (p : TableProgram A) (q : TableProgram B) : Prop :=
  Agree (Admissible p4info) (fun _ _ => True) p q

/-- One write, and the rest only if it succeeded, keeps the agreement. -/
theorem SendsAlike.whenOk {p4info : P4Info} (first : TableProgram Status) {next : TableProgram Status}
    {next' : TableProgram Unit} (h : SendsAlike p4info next next') :
    SendsAlike p4info
      (do match ← first with
          | .error status => pure (.error status)
          | .ok () => next)
      (do match ← first with
          | .error _ => pure ()
          | .ok () => next') := by
  refine Agree.bind_same fun status => ?_
  cases status with
  | error status => exact .done trivial
  | ok result => exact h

/-! ### Writes and reads -/

/-- The inline key is the prologue. -/
theorem encodeL2FwdTxKey_eq (target : Target) (learnInfo : MacLearningInfo) (p4info : P4Info) :
    encodeL2FwdTxKey target learnInfo p4info = V2.encodeL2FwdTxTablePrologue target learnInfo p4info := by
  cases target <;> rfl

/-- The VLAN-learned l2_fwd_tx entries have the statements of the v2 core. -/
theorem encodeFdbTxVlanTableEntry_eq (target : Target) :
    encodeFdbTxVlanTableEntry target = V2.encodeFdbTxVlanTableEntry target := by
  funext learnInfo p4info insertEntry
  rw [encodeFdbTxVlanTableEntry, encodeL2FwdTxKey_eq, V2.encodeFdbTxVlanTableEntry]

/-- The VXLAN-learned l2_fwd_tx entries have the statements of the v2 core. -/
theorem encodeFdbTableEntryforV4VxlanTunnel_eq (target : Target) :
    encodeFdbTableEntryforV4VxlanTunnel target = V2.encodeFdbTableEntryforV4VxlanTunnel target := by
  funext learnInfo p4info insertEntry
  rw [encodeFdbTableEntryforV4VxlanTunnel, encodeL2FwdTxKey_eq, V2.encodeFdbTableEntryforV4VxlanTunnel]

/-- The Geneve-learned l2_fwd_tx entries have the statements of the v2 core. -/
theorem encodeFdbTableEntryforV4GeneveTunnel_eq (target : Target) :
    encodeFdbTableEntryforV4GeneveTunnel target = V2.encodeFdbTableEntryforV4GeneveTunnel target := by
  funext learnInfo p4info insertEntry
  rw [encodeFdbTableEntryforV4GeneveTunnel, encodeL2FwdTxKey_eq, V2.encodeFdbTableEntryforV4GeneveTunnel]

/-- The tunnel-learned l2_fwd_tx entries agree: deleting as VXLAN builds the key and nothing else. -/
theorem builds_encodeFdbTunnelTableEntry :
    Builds (encodeFdbTunnelTableEntry .es2k) Es2k.prepareFdbTunnelTableEntry := by
  intro learnInfo p4info insertEntry
  simp only [encodeFdbTunnelTableEntry, Es2k.prepareFdbTunnelTableEntry,
    encodeFdbTableEntryforV4VxlanTunnel_eq, encodeFdbTableEntryforV4GeneveTunnel_eq]
  split_ifs with hvxlan hgeneve hdelete
  · exact V2.builds_encodeFdbTableEntryforV4VxlanTunnel_es2k learnInfo p4info insertEntry
  · exact V2.builds_encodeFdbTableEntryforV4GeneveTunnel_es2k learnInfo p4info insertEntry
  · rw [Bool.not_eq_true'] at hdelete
    subst hdelete
    rfl
  · rfl

/-- The read before an insertion of a tunnel of a known type is the same request. -/
theorem readFdbTunnelTableEntry_eq (learnInfo : MacLearningInfo) (p4info : P4Info)
    (htype : learnInfo.tnlInfo.tunnelType = ovsTunnelVxlan ∨
      learnInfo.tnlInfo.tunnelType = ovsTunnelGeneve) :
    readFdbTunnelTableEntry learnInfo p4info true = Es2k.readFdbTunnelTableEntry learnInfo p4info true := by
  simp only [readFdbTunnelTableEntry, Es2k.readFdbTunnelTableEntry, Es2k.prepareFdbTableV4TunnelEntry,
    encodeFdbTableEntryforV4VxlanTunnel_eq, encodeFdbTableEntryforV4GeneveTunnel_eq]
  split_ifs with hvxlan hgeneve
  · exact V2.builds_encodeFdbTableEntryforV4VxlanTunnel_es2k.readEntry learnInfo p4info
  · exact V2.builds_encodeFdbTableEntryforV4GeneveTunnel_es2k.readEntry learnInfo p4info
  · exact absurd htype (not_or.mpr ⟨hvxlan, hgeneve⟩)

/-! ### The port lookup -/

/-- Two lookups that fail together or find ports with one low byte. -/
def SamePort : StatusOr UInt32 → StatusOr UInt32 → Prop
  | .ok a, .ok b => a.toUInt8 = b.toUInt8
  | .error _, .error _ => True
  | _, _ => False

/-- On one port of four bytes, both decoders have the fourth byte as low byte. -/
theorem samePort_of_onePort (pastEnd : PastEnd) {p4info : P4Info} {readResponse : ReadResponse}
    (hone : OnePort p4info readResponse) :
    SamePort (Es2k.hostPort p4info readResponse)
      (.ok (decodeHostSp pastEnd (portParamId p4info) readResponse)) := by
  obtain ⟨tableEntry, value, rfl, hvalue, hlength⟩ := hone
  have hvalues : portValues p4info [tableEntry] = [value] := by
    rw [portValues, List.filterMap_cons_some hvalue, List.filterMap_nil]
  rw [hostPort_eq, decodeHostSp_eq, hvalues]
  change (Es2k.decodeHostPort value).toUInt8 = (shiftInBytes pastEnd 0 value).toUInt8
  rw [toUInt8_decodeHostPort, toUInt8_shiftInBytes]
  obtain ⟨_, _, _, _, rfl⟩ := List.length_eq_four.mp hlength
  rfl

/-- The port lookups send the same read and find ports with one low byte. -/
theorem agree_getTxAccVsiPort (pastEnd : PastEnd) (p4info : P4Info) (srcPort : UInt32) :
    Agree (Admissible p4info) SamePort (Es2k.getTxAccVsiPort p4info srcPort)
      (readHostSp pastEnd srcPort p4info) := by
  apply Agree.request
  intro reply hreply
  cases reply with
  | error status => exact .done trivial
  | ok readResponse => exact .done (samePort_of_onePort pastEnd (hreply srcPort readResponse rfl rfl))

/-- A forwarding entry only takes the low byte of its source port. -/
theorem encodeFdbTxVlanTableEntry_congr (learnInfo : MacLearningInfo) (p4info : P4Info)
    (insertEntry : Bool) {a b : UInt32} (h : a.toUInt8 = b.toUInt8) :
    Es2k.encodeFdbTxVlanTableEntry {} { learnInfo with srcPort := a } p4info insertEntry =
      Es2k.encodeFdbTxVlanTableEntry {} { learnInfo with srcPort := b } p4info insertEntry := by
  have hbyte : encodeByteValue [a] = encodeByteValue [b] := congrArg (fun byte => [byte]) h
  simp only [Es2k.encodeFdbTxVlanTableEntry, Es2k.fdbTxVlanAction, hbyte]
  rfl

/-! ### Updates -/

/-- The writes of the source MAC entry agree. -/
theorem writeFdbSmacTableEntry_eq (learnInfo : MacLearningInfo) (p4info : P4Info) (insertEntry : Bool) :
    writeFdbSmacTableEntry learnInfo p4info insertEntry =
      Es2k.writeFdbSmacTableEntry learnInfo p4info insertEntry :=
  V2.builds_encodeFdbSmacTableEntry.writeEntry learnInfo p4info insertEntry

/-- The probes of a deletion agree and find out the same. -/
theorem probeTunnelTables_eq (learnInfo : MacLearningInfo) (p4info : P4Info) :
    probeTunnelTables learnInfo p4info = Es2k.updateFdbTunnelInfo learnInfo p4info :=
  V2.updateFdbTunnelInfo_eq learnInfo p4info

/-- The writes for a tunnel-learned address agree. -/
theorem sendsAlike_writeFdbTunnelEntries (learnInfo : MacLearningInfo) (p4info : P4Info)
    (insertEntry : Bool) :
    SendsAlike p4info (Es2k.writeFdbTunnelEntries learnInfo insertEntry p4info)
      (writeFdbTunnelEntries learnInfo p4info insertEntry) := by
  have htunnel : writeFdbTunnelTableEntry .es2k learnInfo p4info insertEntry =
      Es2k.writeFdbTunnelTableEntry learnInfo p4info insertEntry :=
    builds_encodeFdbTunnelTableEntry.writeEntry learnInfo p4info insertEntry
  have hl2 : writeL2TunnelTableEntry learnInfo p4info insertEntry =
      Es2k.writeL2TunnelTableEntry learnInfo p4info insertEntry :=
    V2.builds_prepareL2TunnelTableEntry.writeEntry learnInfo p4info insertEntry
  rw [writeFdbTunnelEntries, htunnel, hl2, writeFdbSmacTableEntry_eq, Es2k.writeFdbTunnelEntries]
  exact .bind_same fun _ => .bind_same fun _ => .bind_same fun _ => .done trivial

/-- The last writes for a VLAN-learned address agree on ports with one low byte. -/
theorem sendsAlike_writeFdbVlanEntries (learnInfo : MacLearningInfo) (p4info : P4Info)
    (insertEntry : Bool) {a b : UInt32} (h : a.toUInt8 = b.toUInt8) :
    SendsAlike p4info (Es2k.writeFdbVlanEntries { learnInfo with srcPort := a } insertEntry p4info)
      (writeFdbVlanEntries { learnInfo with srcPort := b } p4info insertEntry) := by
  have htx : writeFdbTxVlanTableEntry .es2k { learnInfo with srcPort := b } p4info insertEntry =
      Es2k.writeFdbTxVlanTableEntry { learnInfo with srcPort := a } p4info insertEntry := by
    rw [writeFdbTxVlanTableEntry, encodeFdbTxVlanTableEntry_eq, Es2k.writeFdbTxVlanTableEntry,
      encodeFdbTxVlanTableEntry_congr learnInfo p4info insertEntry h]
    exact V2.builds_encodeFdbTxVlanTableEntry_es2k.writeEntry _ p4info insertEntry
  rw [writeFdbVlanEntries, htx, writeFdbSmacTableEntry_eq, Es2k.writeFdbVlanEntries]
  exact .bind_same fun _ => .bind_same fun _ => .done trivial

/-- The tunnel branches agree when an insertion has a known tunnel type. -/
theorem sendsAlike_configFdbTunnel (learnInfo : MacLearningInfo) (p4info : P4Info) (insertEntry : Bool)
    (htype : insertEntry = true → learnInfo.tnlInfo.tunnelType = ovsTunnelVxlan ∨
      learnInfo.tnlInfo.tunnelType = ovsTunnelGeneve) :
    SendsAlike p4info (Es2k.configFdbTunnelEntry learnInfo insertEntry p4info)
      (configFdbTunnel learnInfo p4info insertEntry) := by
  cases insertEntry with
  | false => exact sendsAlike_writeFdbTunnelEntries learnInfo p4info false
  | true =>
    rw [configFdbTunnel, Es2k.configFdbTunnelEntry, if_pos rfl, if_pos rfl,
      readFdbTunnelTableEntry_eq learnInfo p4info (htype rfl)]
    refine .bind_same fun statusOrReadResponse => ?_
    cases statusOrReadResponse with
    | ok readResponse => exact .done trivial
    | error status => exact sendsAlike_writeFdbTunnelEntries learnInfo p4info true

/-- The VLAN branches agree. -/
theorem sendsAlike_configFdbVlan (pastEnd : PastEnd) (learnInfo : MacLearningInfo) (p4info : P4Info)
    (insertEntry : Bool) :
    SendsAlike p4info (Es2k.configFdbVlanEntry learnInfo insertEntry p4info)
      (configFdbVlan pastEnd learnInfo p4info insertEntry) := by
  cases insertEntry with
  | false => exact sendsAlike_writeFdbVlanEntries learnInfo p4info false rfl
  | true =>
    have hread : readFdbVlanTableEntry learnInfo p4info true =
        Es2k.readFdbVlanTableEntry learnInfo p4info true := by
      rw [readFdbVlanTableEntry, encodeFdbTxVlanTableEntry_eq]
      exact V2.builds_encodeFdbTxVlanTableEntry_es2k.readEntry learnInfo p4info
    have hrx : writeFdbRxVlanTableEntry .es2k learnInfo p4info true =
        Es2k.writeFdbRxVlanTableEntry learnInfo p4info true :=
      V2.builds_encodeFdbRxVlanTableEntry_es2k.writeEntry learnInfo p4info true
    rw [configFdbVlan, Es2k.configFdbVlanEntry, if_pos rfl, if_pos rfl, hread]
    refine .bind_same fun statusOrReadResponse => ?_
    cases statusOrReadResponse with
    | ok readResponse => exact .done trivial
    | error status =>
      change SendsAlike p4info (Es2k.writeFdbRxVlanTableEntry learnInfo p4info true >>= fun _ =>
          (Es2k.updateFdbSrcPortInfo learnInfo p4info >>= _))
        (writeFdbRxVlanTableEntry .es2k learnInfo p4info true >>= fun _ =>
          (readHostSp pastEnd learnInfo.srcPort p4info >>= _))
      rw [hrx, Es2k.updateFdbSrcPortInfo, Program.bind_assoc]
      refine .bind_same fun _ => (agree_getTxAccVsiPort pastEnd p4info learnInfo.srcPort).bind ?_
      intro port hostSp hsame
      cases port with
      | error status =>
        cases hostSp with
        | error status' => exact .done trivial
        | ok b => exact absurd hsame not_false
      | ok a =>
        cases hostSp with
        | error status' => exact absurd hsame not_false
        | ok b => exact sendsAlike_writeFdbVlanEntries learnInfo p4info true hsame

/-- The updates of a learned address agree on ES2K when a tunnel insertion has a known type. -/
theorem sendsAlike_configFdbEntry_es2k (pastEnd : PastEnd) (learnInfo : MacLearningInfo)
    (p4info : P4Info) (insertEntry : Bool)
    (htype : insertEntry = true → learnInfo.isTunnel = true →
      learnInfo.tnlInfo.tunnelType = ovsTunnelVxlan ∨ learnInfo.tnlInfo.tunnelType = ovsTunnelGeneve) :
    SendsAlike p4info (Es2k.configFdbEntry learnInfo p4info insertEntry)
      (configFdbEntry pastEnd .es2k learnInfo p4info insertEntry) := by
  have hbranch (learnInfo : MacLearningInfo) (htype : insertEntry = true → learnInfo.isTunnel = true →
      learnInfo.tnlInfo.tunnelType = ovsTunnelVxlan ∨ learnInfo.tnlInfo.tunnelType = ovsTunnelGeneve) :
      SendsAlike p4info
        (if learnInfo.isTunnel then Es2k.configFdbTunnelEntry learnInfo insertEntry p4info
          else Es2k.configFdbVlanEntry learnInfo insertEntry p4info)
        (if learnInfo.isTunnel then configFdbTunnel learnInfo p4info insertEntry
          else configFdbVlan pastEnd learnInfo p4info insertEntry) := by
    split_ifs with htunnel
    · exact sendsAlike_configFdbTunnel learnInfo p4info insertEntry fun h => htype h htunnel
    · exact sendsAlike_configFdbVlan pastEnd learnInfo p4info insertEntry
  cases insertEntry with
  | true => exact hbranch learnInfo htype
  | false =>
    change SendsAlike p4info (Es2k.updateFdbTunnelInfo learnInfo p4info >>= _)
      (probeTunnelTables learnInfo p4info >>= _)
    rw [probeTunnelTables_eq]
    exact .bind_same fun learnInfo => hbranch learnInfo fun h => absurd h (by simp)

/-- The updates of a learned address agree on DPDK. -/
theorem sendsAlike_configFdbEntry_dpdk (pastEnd : PastEnd) (learnInfo : MacLearningInfo)
    (p4info : P4Info) (insertEntry : Bool) :
    SendsAlike p4info (Dpdk.configFdbEntry learnInfo p4info insertEntry)
      (configFdbEntry pastEnd .dpdk learnInfo p4info insertEntry) := by
  have htunnel : writeFdbTunnelTableEntry .dpdk learnInfo p4info insertEntry =
      Dpdk.writeFdbTunnelTableEntry learnInfo p4info insertEntry := by
    rw [writeFdbTunnelTableEntry, encodeFdbTunnelTableEntry, encodeFdbTableEntryforV4VxlanTunnel_eq]
    exact V2.builds_encodeFdbTableEntryforV4VxlanTunnel_dpdk.writeEntry learnInfo p4info insertEntry
  have htx : writeFdbTxVlanTableEntry .dpdk learnInfo p4info insertEntry =
      Dpdk.writeFdbTxVlanTableEntry learnInfo p4info insertEntry := by
    rw [writeFdbTxVlanTableEntry, encodeFdbTxVlanTableEntry_eq]
    exact V2.builds_encodeFdbTxVlanTableEntry_dpdk.writeEntry learnInfo p4info insertEntry
  have hrx : writeFdbRxVlanTableEntry .dpdk learnInfo p4info insertEntry =
      Dpdk.writeFdbRxVlanTableEntry learnInfo p4info insertEntry :=
    V2.builds_encodeFdbRxVlanTableEntry_dpdk.writeEntry learnInfo p4info insertEntry
  simp only [configFdbEntry, Dpdk.configFdbEntry, htunnel, htx, hrx]
  split_ifs with hisTunnel hisVlan
  · exact .replace_result _ ()
  · exact .whenOk _ (.replace_result _ ())
  · exact .done trivial

/-- The tunnel updates agree on ES2K. -/
theorem sendsAlike_configTunnelEntry_es2k (tunnelInfo : TunnelInfo) (p4info : P4Info)
    (insertEntry : Bool) :
    SendsAlike p4info (Es2k.configTunnelEntry tunnelInfo p4info insertEntry)
      (configTunnelEntry .es2k tunnelInfo p4info insertEntry) := by
  have hencap : writeEncapTableEntry .es2k tunnelInfo p4info insertEntry =
      Es2k.writeEncapTableEntry tunnelInfo p4info insertEntry :=
    V2.builds_prepareEncapTableEntry.writeEntry tunnelInfo p4info insertEntry
  have hdecap : writeDecapTableEntry tunnelInfo p4info insertEntry =
      Es2k.writeDecapTableEntry tunnelInfo p4info insertEntry :=
    V2.builds_prepareDecapTableEntry.writeEntry tunnelInfo p4info insertEntry
  have hterm : writeTunnelTermTableEntry .es2k tunnelInfo p4info insertEntry =
      Es2k.writeTunnelTermTableEntry tunnelInfo p4info insertEntry :=
    V2.builds_prepareTunnelTermTableEntry.writeEntry tunnelInfo p4info insertEntry
  simp only [configTunnelEntry, Es2k.configTunnelEntry, hencap, hdecap, hterm]
  exact .whenOk _ (.whenOk _ (.replace_result _ ()))

/-- The tunnel updates agree on DPDK. -/
theorem sendsAlike_configTunnelEntry_dpdk (tunnelInfo : TunnelInfo) (p4info : P4Info)
    (insertEntry : Bool) :
    SendsAlike p4info (Dpdk.configTunnelEntry tunnelInfo p4info insertEntry)
      (configTunnelEntry .dpdk tunnelInfo p4info insertEntry) := by
  have hencap : writeEncapTableEntry .dpdk tunnelInfo p4info insertEntry =
      Dpdk.writeEncapTableEntry tunnelInfo p4info insertEntry :=
    V2.builds_encodeVxlanEncapTableEntry_dpdk.writeEntry tunnelInfo p4info insertEntry
  have hterm : writeTunnelTermTableEntry .dpdk tunnelInfo p4info insertEntry =
      Dpdk.writeTunnelTermTableEntry tunnelInfo p4info insertEntry :=
    V2.builds_encodeTunnelTermTableEntry_dpdk.writeEntry tunnelInfo p4info insertEntry
  simp only [configTunnelEntry, Dpdk.configTunnelEntry, hencap, hterm]
  exact .whenOk _ (.replace_result _ ())

/-- The VLAN updates agree. -/
theorem sendsAlike_configVlanEntry (vlanId : UInt16) (p4info : P4Info) (insertEntry : Bool) :
    SendsAlike p4info (Es2k.configVlanEntry vlanId p4info insertEntry)
      (configVlanEntry vlanId p4info insertEntry) := by
  have hpush : writeVlanPushTableEntry vlanId p4info insertEntry =
      Es2k.writeVlanPushTableEntry vlanId p4info insertEntry :=
    V2.builds_encodeVlanPushTableEntry.writeEntry vlanId p4info insertEntry
  have hpop : writeVlanPopTableEntry vlanId p4info insertEntry =
      Es2k.writeVlanPopTableEntry vlanId p4info insertEntry :=
    V2.builds_encodeVlanPopTableEntry.writeEntry vlanId p4info insertEntry
  simp only [configVlanEntry, Es2k.configVlanEntry, hpush, hpop]
  exact .whenOk _ (.replace_result _ ())

/-- The tunnel source-port updates agree. -/
theorem sendsAlike_configTunnelSrcPortEntry (tnlSp : SrcPortInfo) (p4info : P4Info)
    (insertEntry : Bool) :
    SendsAlike p4info (Es2k.writeTunnelSrcPortEntry tnlSp p4info insertEntry)
      (configTunnelSrcPortEntry tnlSp p4info insertEntry) := by
  rw [← V2.writeTunnelSrcPortEntry_eq]
  exact .replace_result _ ()

/-- The receive-tunnel updates agree. -/
theorem sendsAlike_configRxTunnelSrcEntry (tunnelInfo : TunnelInfo) (p4info : P4Info)
    (insertEntry : Bool) :
    SendsAlike p4info (Es2k.writeRxTunnelSrcPortTableEntry tunnelInfo p4info insertEntry)
      (configRxTunnelSrcEntry tunnelInfo p4info insertEntry) := by
  rw [← V2.writeRxTunnelSrcPortTableEntry_eq]
  exact .replace_result _ ()

/-- The address-map updates agree: v1 is the v2 update without its status. -/
theorem sendsAlike_configIpMacMapEntry (ipInfo : IpMacMapInfo) (p4info : P4Info) (insertEntry : Bool) :
    SendsAlike p4info (Es2k.configIpMacMapEntry ipInfo p4info insertEntry)
      (configIpMacMapEntry ipInfo p4info insertEntry) := by
  have hdst : SendsAlike p4info (V2.writeDstIfValid ipInfo p4info insertEntry)
      (writeDstIfValid ipInfo p4info insertEntry) := by
    rw [V2.writeDstIfValid, writeDstIfValid]
    split_ifs
    · exact .bind_same fun _ => .done trivial
    · exact .done trivial
  have htry : SendsAlike p4info (V2.tryDstip ipInfo p4info insertEntry)
      (tryDstip ipInfo p4info insertEntry) := by
    rw [V2.tryDstip, tryDstip]
    split_ifs
    · refine .bind_same fun statusOrReadResponse => ?_
      cases statusOrReadResponse with
      | ok readResponse => exact .done trivial
      | error status => exact hdst
    · exact hdst
  have hsrc : SendsAlike p4info (V2.writeSrcIfValid ipInfo p4info insertEntry)
      (writeSrcIfValid ipInfo p4info insertEntry) := by
    rw [V2.writeSrcIfValid, writeSrcIfValid]
    split_ifs
    · exact .bind_same fun _ => htry
    · exact htry
  rw [← V2.configIpMacMapEntry_eq, V2.configIpMacMapEntry, configIpMacMapEntry]
  split_ifs
  · refine .bind_same fun statusOrReadResponse => ?_
    cases statusOrReadResponse with
    | ok readResponse => exact htry
    | error status => exact hsrc
  · exact hsrc

/-! ### Calls -/

/-- The calls that both cores serve alike: not the source port of a VSI, and no insertion of a tunnel
of unknown type. -/
def Comparable (call : ApiCall) : Prop :=
  match call.function with
  | .es2kFdb learnInfo => call.insertEntry = true → learnInfo.isTunnel = true →
      learnInfo.tnlInfo.tunnelType = ovsTunnelVxlan ∨ learnInfo.tnlInfo.tunnelType = ovsTunnelGeneve
  | .es2kSrcPort _ => False
  | _ => True

/-- The v1 update of a call. -/
def config (pastEnd : PastEnd) (call : ApiCall) (p4info : P4Info) : TableProgram Unit :=
  match call.function with
  | .es2kFdb info => configFdbEntry pastEnd .es2k info p4info call.insertEntry
  | .es2kTunnel info => configTunnelEntry .es2k info p4info call.insertEntry
  | .es2kVlan vlanId => configVlanEntry vlanId p4info call.insertEntry
  | .es2kSrcPort info => configSrcPortEntry pastEnd info p4info call.insertEntry
  | .es2kTunnelSrcPort info => configTunnelSrcPortEntry info p4info call.insertEntry
  | .es2kRxTunnelSrc info => configRxTunnelSrcEntry info p4info call.insertEntry
  | .es2kIpMacMap info => configIpMacMapEntry info p4info call.insertEntry
  | .dpdkFdb info => configFdbEntry pastEnd .dpdk info p4info call.insertEntry
  | .dpdkTunnel info => configTunnelEntry .dpdk info p4info call.insertEntry

/-- Every v1 call is the common frame around its own update. -/
theorem program_eq (pastEnd : PastEnd) (flags : Flags) (call : ApiCall) :
    program pastEnd flags call = withSession flags (config pastEnd call) call.grpcAddr := by
  obtain ⟨function, insertEntry, grpcAddr⟩ := call
  cases function <;> rfl

/-- The updates of a comparable call agree. -/
theorem sendsAlike_config (pastEnd : PastEnd) (call : ApiCall) (p4info : P4Info)
    (hcall : Comparable call) : SendsAlike p4info (call.config p4info) (config pastEnd call p4info) := by
  obtain ⟨function, insertEntry, grpcAddr⟩ := call
  cases function with
  | es2kFdb info => exact sendsAlike_configFdbEntry_es2k pastEnd info p4info insertEntry hcall
  | es2kTunnel info => exact sendsAlike_configTunnelEntry_es2k info p4info insertEntry
  | es2kVlan vlanId => exact sendsAlike_configVlanEntry vlanId p4info insertEntry
  | es2kSrcPort info => exact hcall.elim
  | es2kTunnelSrcPort info => exact sendsAlike_configTunnelSrcPortEntry info p4info insertEntry
  | es2kRxTunnelSrc info => exact sendsAlike_configRxTunnelSrcEntry info p4info insertEntry
  | es2kIpMacMap info => exact sendsAlike_configIpMacMapEntry info p4info insertEntry
  | dpdkFdb info => exact sendsAlike_configFdbEntry_dpdk pastEnd info p4info insertEntry
  | dpdkTunnel info => exact sendsAlike_configTunnelEntry_dpdk info p4info insertEntry

/-- A session turns the replies of a served wire into admissible ones. -/
theorem agree_sendTableRequest (flags : Flags) (p4info : P4Info) (session : OvsP4rtSession)
    (r : TableRequest) :
    Agree (Served p4info) (fun a b => a = b ∧ Admissible p4info r a)
      ((Client flags).sendTableRequest session r) ((Client flags).sendTableRequest session r) := by
  cases r with
  | write type entry => exact .request _ fun reply _ => .done ⟨rfl, trivial⟩
  | read entry =>
    refine .request (WireRequest.read session.deviceId.toUInt64 entry) fun out hserved => ?_
    obtain ⟨parts, status⟩ := out
    cases status with
    | error status => exact .done ⟨rfl, fun sp readResponse _ hok => by cases hok⟩
    | ok result =>
      refine .done ⟨rfl, fun sp readResponse hentry hok => ?_⟩
      cases hok
      exact hserved sp hentry rfl

/-- The frames of both cores agree around agreeing updates. -/
theorem agree_withSession (flags : Flags) (p4info : P4Info) {update : P4Info → TableProgram Status}
    {update' : P4Info → TableProgram Unit} (grpcAddr : String)
    (h : SendsAlike p4info (update p4info) (update' p4info)) :
    Agree (Served p4info) (fun _ _ => True) ((Client flags).doConfig update grpcAddr)
      (withSession flags update' grpcAddr) := by
  refine .bind_same fun created => ?_
  cases created with
  | error status => exact .done trivial
  | ok session =>
    refine .request (WireRequest.getForwardingPipelineConfig session.deviceId.toUInt64 .p4infoAndCookie)
      fun out hserved => ?_
    obtain ⟨status, config⟩ := out
    obtain rfl : config = p4info := hserved
    exact h.interpret (agree_sendTableRequest flags config session)

/-- Against every server whose successful tx_acc_vsi reads return one port of four bytes, a comparable
call of the v1 core sends the requests of the v3 core. -/
theorem v1_sends_v3_requests {State : Type} (pastEnd : PastEnd) (flags : Flags) (call : ApiCall)
    (p4info : P4Info) (handle : Handler WireRequest WireReply State) (s : State)
    (hcall : Comparable call)
    (hserver : ∀ step ∈ (call.program flags).exchange handle s, Served p4info step.1 step.2) :
    (program pastEnd flags call).requests handle s = (call.program flags).requests handle s := by
  rw [ApiCall.program_eq] at hserver ⊢
  rw [program_eq]
  exact (agree_withSession flags p4info call.grpcAddr
    (sendsAlike_config pastEnd call p4info hcall)).requests_eq handle s hserver

/-- Replies of a server with an empty P4Info whose tx_acc_vsi entries carry port 128 and which holds no
other entry. -/
def onePortReplies : (r : WireRequest) → WireReply r
  | .read _ entry =>
    if entry.matchList.length = 1 then
      ([[{ action := some ⟨0, [⟨0xffffffff, [0, 0, 0, 0x80]⟩]⟩ }]], okStatus)
    else ([], .error ⟨.notFound, "entry does not exist"⟩)
  | r => acceptingReplies 1 {} r

/-- Every reply of that server is one that the comparison allows. -/
theorem served_onePortReplies (r : WireRequest) : Served {} r (onePortReplies r) := by
  cases r with
  | read deviceId entry =>
    intro sp hentry _
    subst hentry
    exact ⟨_, [0, 0, 0, 0x80], rfl, by decide, rfl⟩
  | getForwardingPipelineConfig deviceId responseType => rfl
  | _ => trivial

/-- The insertion of a VLAN-learned address with port 128: eleven requests from both cores. -/
theorem v1_sends_v3_requests_vlan :
    let call : ApiCall := ⟨.es2kFdb { srcPort := 24 }, true, "localhost:9559"⟩
    let handle : Handler WireRequest WireReply Unit := fun r s => (onePortReplies r, s)
    (program (fun _ _ => 0) {} call).requests handle () = (call.program {}).requests handle () ∧
      ((call.program {}).requests handle ()).length = 11 :=
  ⟨v1_sends_v3_requests _ _ _ {} _ _ (fun _ h => absurd h (by decide))
    (Program.forall_exchange_of_forall_reply (fun r _ => served_onePortReplies r) _ _),
   by decide +kernel⟩

end NetworkingRecipe.Ovsp4rt.V1
