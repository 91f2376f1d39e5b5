import NetworkingRecipe.Ovsp4rt.V2.EncoderAgreement
import NetworkingRecipe.Ovsp4rt.V2.Config

/-!
# The v3 core refines the v2 core

Function by function, the v2 core is the same program over table requests as the v3 core of
the chosen target: the preparation functions build the same entries, the port lookups find
the same port, and the updates send, branch, and return alike. A call of either core is then
the same program on the wire, so no server can tell them apart.
-/

namespace NetworkingRecipe.Ovsp4rt.V2

open Interaction P4Runtime EntryM

/-! ### Entries -/

section Preparation

variable {vxlan geneve : TunnelStatements} {vxlanEncoder geneveEncoder : Es2k.TunnelEncoder}

/-- The choice by tunnel type keeps the agreement. -/
theorem Builds.prepareByTunnelType (hvxlan : Builds vxlan vxlanEncoder)
    (hgeneve : Builds geneve geneveEncoder) :
    Builds (prepareByTunnelType vxlan geneve)
      (Es2k.prepareByTunnelType vxlanEncoder geneveEncoder) := by
  intro tunnelInfo p4info insertEntry
  simp only [V2.prepareByTunnelType, Es2k.prepareByTunnelType]
  split_ifs
  · exact hvxlan tunnelInfo p4info insertEntry
  · exact hgeneve tunnelInfo p4info insertEntry
  · rfl

/-- The choice by address family keeps the agreement. -/
theorem Builds.prepareByFamily (hv4 : Builds vxlan vxlanEncoder) (hv6 : Builds geneve geneveEncoder) :
    Builds (prepareByFamily vxlan geneve) (Es2k.prepareByFamily vxlanEncoder geneveEncoder) := by
  intro tunnelInfo p4info insertEntry
  simp only [V2.prepareByFamily, Es2k.prepareByFamily, TunnelInfo.bothFamilies, Bool.and_eq_true,
    beq_iff_eq]
  split_ifs
  · exact hv4 tunnelInfo p4info insertEntry
  · exact hv6 tunnelInfo p4info insertEntry
  · rfl

/-- The choice by VLAN mode keeps the agreement. -/
theorem Builds.prepareByVlanMode (mode : P4VlanMode) (hin : Builds vxlan vxlanEncoder)
    (hout : Builds geneve geneveEncoder) :
    Builds (prepareByVlanMode mode vxlan geneve)
      (Es2k.prepareByVlanMode mode vxlanEncoder geneveEncoder) := by
  intro tunnelInfo p4info insertEntry
  simp only [V2.prepareByVlanMode, Es2k.prepareByVlanMode]
  split_ifs
  · exact hin tunnelInfo p4info insertEntry
  · exact hout tunnelInfo p4info insertEntry

end Preparation

/-- The encapsulation entries agree on ES2K. -/
theorem builds_prepareEncapTableEntry : Builds prepareEncapTableEntry Es2k.prepareEncapTableEntry :=
  .prepareByFamily
    (.prepareByVlanMode _
      (.prepareByTunnelType builds_encodeVxlanEncapAndVlanPopTableEntry
        builds_encodeGeneveEncapAndVlanPopTableEntry)
      (.prepareByTunnelType builds_encodeVxlanEncapTableEntry_es2k builds_encodeGeneveEncapTableEntry))
    (.prepareByVlanMode _
      (.prepareByTunnelType builds_encodeV6VxlanEncapAndVlanPopTableEntry
        builds_encodeV6GeneveEncapAndVlanPopTableEntry)
      (.prepareByTunnelType builds_encodeV6VxlanEncapTableEntry builds_encodeV6GeneveEncapTableEntry))

/-- The decapsulation entries agree. -/
theorem builds_prepareDecapTableEntry : Builds prepareDecapTableEntry Es2k.prepareDecapTableEntry :=
  .prepareByVlanMode _
    (.prepareByTunnelType builds_encodeVxlanDecapModTableEntry builds_encodeGeneveDecapModTableEntry)
    (.prepareByTunnelType builds_encodeVxlanDecapModAndVlanPushTableEntry
      builds_encodeGeneveDecapModAndVlanPushTableEntry)

/-- The tunnel-termination entries agree on ES2K. -/
theorem builds_prepareTunnelTermTableEntry :
    Builds prepareTunnelTermTableEntry Es2k.prepareTunnelTermTableEntry :=
  .prepareByFamily builds_encodeTunnelTermTableEntry_es2k builds_encodeV6TunnelTermTableEntry

/-- The receive-tunnel entries agree. -/
theorem builds_prepareRxTunnelSrcPortTableEntry :
    Builds prepareRxTunnelSrcPortTableEntry Es2k.prepareRxTunnelSrcPortTableEntry :=
  .prepareByFamily builds_encodeRxTunnelTableEntry builds_encodeV6RxTunnelTableEntry

/-- The entries of the tunnel tables for learned addresses agree. -/
theorem builds_prepareL2TunnelTableEntry :
    Builds prepareL2TunnelTableEntry Es2k.prepareL2TunnelTableEntry := by
  intro learnInfo p4info insertEntry
  simp only [prepareL2TunnelTableEntry, Es2k.prepareL2TunnelTableEntry, TunnelInfo.bothFamilies,
    Bool.and_eq_true, beq_iff_eq]
  split_ifs
  · exact builds_encodeL2ToTunnelV6 learnInfo p4info insertEntry
  · exact builds_encodeL2ToTunnelV4 learnInfo p4info insertEntry

/-- The l2_fwd_tx entries of tunnel-learned addresses agree on ES2K. -/
theorem builds_prepareFdbTunnelTableEntry :
    Builds prepareFdbTunnelTableEntry Es2k.prepareFdbTunnelTableEntry := by
  intro learnInfo p4info insertEntry
  simp only [prepareFdbTunnelTableEntry, Es2k.prepareFdbTunnelTableEntry]
  split_ifs
  · exact builds_encodeFdbTableEntryforV4VxlanTunnel_es2k learnInfo p4info insertEntry
  · exact builds_encodeFdbTableEntryforV4GeneveTunnel_es2k learnInfo p4info insertEntry
  · rfl
  · rfl

/-- The keys read before a tunnel-learned address is inserted agree. -/
theorem build_prepareFdbTableV4TunnelEntry (learnInfo : MacLearningInfo) (p4info : P4Info)
    (insertEntry testing : Bool) :
    build (prepareFdbTableV4TunnelEntry learnInfo p4info insertEntry testing) =
      Es2k.prepareFdbTableV4TunnelEntry {} learnInfo p4info insertEntry testing := by
  simp only [prepareFdbTableV4TunnelEntry, Es2k.prepareFdbTableV4TunnelEntry]
  split_ifs
  · exact builds_encodeFdbTableEntryforV4VxlanTunnel_es2k learnInfo p4info testing
  · exact builds_encodeFdbTableEntryforV4GeneveTunnel_es2k learnInfo p4info testing
  · rfl

/-- Writing what the statements build is writing what the encoder computes. -/
theorem Builds.writeEntry {Info : Type} {statements : Info → P4Info → Bool → EntryM Unit}
    {encoder : TableEntry → Info → P4Info → Bool → TableEntry} (h : Builds statements encoder)
    (info : Info) (p4info : P4Info) (insertEntry : Bool) :
    writeEntry insertEntry (statements info p4info insertEntry) =
      sendWriteRequest (updateType insertEntry) (encoder {} info p4info insertEntry) :=
  congrArg (sendWriteRequest (updateType insertEntry)) (h info p4info insertEntry)

/-- Reading the key that the statements build is reading the key that the encoder computes. -/
theorem Builds.readEntry {Info : Type} {statements : Info → P4Info → Bool → EntryM Unit}
    {encoder : TableEntry → Info → P4Info → Bool → TableEntry} (h : Builds statements encoder)
    (info : Info) (p4info : P4Info) :
    readEntry (statements info p4info false) = sendReadRequest (encoder {} info p4info false) :=
  congrArg sendReadRequest (h info p4info false)

/-! ### The port lookup -/

/-- The byte loop decodes a big-endian number. -/
theorem decodeBytes_eq (value : Bytes) (hostSp : UInt32) :
    decodeBytes hostSp value =
      value.foldl (fun (hostSp : UInt32) (byte : UInt8) => (hostSp <<< 8) ||| (byte.toUInt32 &&& 0xff))
        hostSp := by
  induction value generalizing hostSp with
  | nil => rfl
  | cons byte rest ih => exact ih _

/-- The parameter loop finds the first port parameter. -/
theorem findInParams_eq (paramId : Int32) (params : List ActionParam) :
    findInParams paramId params =
      (params.find? fun param => param.paramId == paramId.toUInt32).map
        fun param => Es2k.decodeHostPort param.value := by
  induction params with
  | nil => rfl
  | cons param rest ih =>
    rw [findInParams, List.find?_cons]
    by_cases hid : param.paramId = paramId.toUInt32
    · rw [if_pos hid, beq_iff_eq.mpr hid]
      exact congrArg some (decodeBytes_eq param.value 0)
    · rw [if_neg hid, beq_eq_false_iff_ne.mpr hid]
      exact ih

/-- The entity loop finds the first entity with a port parameter. -/
theorem findInEntities_eq (paramId : Int32) (readResponse : ReadResponse) :
    findInEntities paramId readResponse = Es2k.findHostPort paramId readResponse := by
  induction readResponse with
  | nil => rfl
  | cons tableEntry rest ih =>
    rw [findInEntities, findInParams_eq, ih, Es2k.findHostPort, Es2k.findHostPort, List.findSome?_cons]
    cases List.find? (fun param => param.paramId == paramId.toUInt32)
      (tableEntry.action.getD {}).params <;> rfl

/-- The reads before the port lookups agree. -/
theorem readTxAccVsiTableEntry_eq (sp : UInt32) (p4info : P4Info) :
    readTxAccVsiTableEntry sp p4info = Es2k.readTxAccVsiTableEntry sp p4info :=
  congrArg sendReadRequest (build_encodeTxAccVsiTableEntry sp p4info)

/-- The port lookups agree. -/
theorem getTxAccVsiPort_eq (p4info : P4Info) (srcPort : UInt32) :
    getTxAccVsiPort p4info srcPort = Es2k.getTxAccVsiPort p4info srcPort := by
  rw [getTxAccVsiPort, readTxAccVsiTableEntry_eq, Es2k.getTxAccVsiPort]
  apply congrArg (Es2k.readTxAccVsiTableEntry srcPort p4info >>= ·)
  funext reply
  cases reply with
  | error status => rfl
  | ok readResponse =>
    have hport : (Except.ok readResponse >>= Es2k.hostPort p4info) =
        Es2k.hostPort p4info readResponse := rfl
    dsimp only
    rw [findInEntities_eq, hport, Es2k.hostPort]
    cases Es2k.findHostPort _ readResponse <;> rfl

/-! ### Updates -/

/-- The probes and updates of the tunnel flag agree. -/
theorem updateFdbTunnelInfo_eq (learnInfo : MacLearningInfo) (p4info : P4Info) :
    updateFdbTunnelInfo learnInfo p4info = Es2k.updateFdbTunnelInfo learnInfo p4info := by
  have hv4 : readL2ToTunnelV4TableEntry learnInfo p4info =
      Es2k.readL2ToTunnelV4TableEntry learnInfo p4info :=
    builds_encodeL2ToTunnelV4.readEntry learnInfo p4info
  have hv6 (learnInfo : MacLearningInfo) : readL2ToTunnelV6TableEntry learnInfo p4info =
      Es2k.readL2ToTunnelV6TableEntry learnInfo p4info :=
    builds_encodeL2ToTunnelV6.readEntry learnInfo p4info
  simp only [updateFdbTunnelInfo, Es2k.updateFdbTunnelInfo, hv4, hv6, Es2k.markV6Tunnel]

/-- The replacements of the source port agree. -/
theorem updateFdbSrcPortInfo_eq (learnInfo : MacLearningInfo) (p4info : P4Info) :
    updateFdbSrcPortInfo learnInfo p4info = Es2k.updateFdbSrcPortInfo learnInfo p4info := by
  rw [updateFdbSrcPortInfo, Es2k.updateFdbSrcPortInfo, getTxAccVsiPort_eq]
  apply congrArg (Es2k.getTxAccVsiPort p4info learnInfo.srcPort >>= ·)
  funext hostSp
  cases hostSp <;> rfl

/-- The writes of the source MAC entry agree. -/
theorem writeFdbSmacTableEntry_eq (learnInfo : MacLearningInfo) (p4info : P4Info) (insertEntry : Bool) :
    writeFdbSmacTableEntry learnInfo p4info insertEntry =
      Es2k.writeFdbSmacTableEntry learnInfo p4info insertEntry :=
  builds_encodeFdbSmacTableEntry.writeEntry learnInfo p4info insertEntry

/-- The writes of a tunnel-learned address agree. -/
theorem writeFdbTunnelEntries_eq (learnInfo : MacLearningInfo) (insertEntry : Bool) (p4info : P4Info) :
    writeFdbTunnelEntries learnInfo insertEntry p4info =
      Es2k.writeFdbTunnelEntries learnInfo insertEntry p4info := by
  have htunnel : writeFdbTunnelTableEntry .es2k learnInfo p4info insertEntry =
      Es2k.writeFdbTunnelTableEntry learnInfo p4info insertEntry :=
    builds_prepareFdbTunnelTableEntry.writeEntry learnInfo p4info insertEntry
  have hl2 : writeL2TunnelTableEntry learnInfo p4info insertEntry =
      Es2k.writeL2TunnelTableEntry learnInfo p4info insertEntry :=
    builds_prepareL2TunnelTableEntry.writeEntry learnInfo p4info insertEntry
  rw [writeFdbTunnelEntries, htunnel, hl2, writeFdbSmacTableEntry_eq, Es2k.writeFdbTunnelEntries]

/-- The last writes of a VLAN-learned address agree. -/
theorem writeFdbVlanEntries_eq (learnInfo : MacLearningInfo) (insertEntry : Bool) (p4info : P4Info) :
    writeFdbVlanEntries learnInfo insertEntry p4info =
      Es2k.writeFdbVlanEntries learnInfo insertEntry p4info := by
  have htx : writeFdbTxVlanTableEntry .es2k learnInfo p4info insertEntry =
      Es2k.writeFdbTxVlanTableEntry learnInfo p4info insertEntry :=
    builds_encodeFdbTxVlanTableEntry_es2k.writeEntry learnInfo p4info insertEntry
  rw [writeFdbVlanEntries, htx, writeFdbSmacTableEntry_eq, Es2k.writeFdbVlanEntries]

/-- The updates of a tunnel-learned address agree. -/
theorem configFdbTunnelEntry_eq (learnInfo : MacLearningInfo) (insertEntry : Bool) (p4info : P4Info) :
    configFdbTunnelEntry learnInfo insertEntry p4info =
      Es2k.configFdbTunnelEntry learnInfo insertEntry p4info := by
  have hread : readFdbTunnelTableEntry learnInfo p4info true =
      Es2k.readFdbTunnelTableEntry learnInfo p4info true :=
    congrArg sendReadRequest (build_prepareFdbTableV4TunnelEntry learnInfo p4info false false)
  simp only [configFdbTunnelEntry, Es2k.configFdbTunnelEntry, hread, writeFdbTunnelEntries_eq]

/-- The updates of a VLAN-learned address agree. -/
theorem configFdbVlanEntry_eq (learnInfo : MacLearningInfo) (insertEntry : Bool) (p4info : P4Info) :
    configFdbVlanEntry learnInfo insertEntry p4info =
      Es2k.configFdbVlanEntry learnInfo insertEntry p4info := by
  have hread : readFdbVlanTableEntry learnInfo p4info true =
      Es2k.readFdbVlanTableEntry learnInfo p4info true :=
    builds_encodeFdbTxVlanTableEntry_es2k.readEntry learnInfo p4info
  have hrx : writeFdbRxVlanTableEntry .es2k learnInfo p4info insertEntry =
      Es2k.writeFdbRxVlanTableEntry learnInfo p4info insertEntry :=
    builds_encodeFdbRxVlanTableEntry_es2k.writeEntry learnInfo p4info insertEntry
  simp only [configFdbVlanEntry, hread, hrx, updateFdbSrcPortInfo_eq, writeFdbVlanEntries_eq]
  rfl

/-- The updates of a learned address agree on ES2K. -/
theorem configFdbEntry_es2k (learnInfo : MacLearningInfo) (p4info : P4Info) (insertEntry : Bool) :
    configFdbEntry .es2k learnInfo p4info insertEntry =
      Es2k.configFdbEntry learnInfo p4info insertEntry := by
  simp only [configFdbEntry, Es2k.configFdbEntry, updateFdbTunnelInfo_eq, configFdbTunnelEntry_eq,
    configFdbVlanEntry_eq]

/-- The updates of a learned address agree on DPDK. -/
theorem configFdbEntry_dpdk (learnInfo : MacLearningInfo) (p4info : P4Info) (insertEntry : Bool) :
    configFdbEntry .dpdk learnInfo p4info insertEntry =
      Dpdk.configFdbEntry learnInfo p4info insertEntry := by
  have htunnel : writeFdbTunnelTableEntry .dpdk learnInfo p4info insertEntry =
      Dpdk.writeFdbTunnelTableEntry learnInfo p4info insertEntry :=
    builds_encodeFdbTableEntryforV4VxlanTunnel_dpdk.writeEntry learnInfo p4info insertEntry
  have htx : writeFdbTxVlanTableEntry .dpdk learnInfo p4info insertEntry =
      Dpdk.writeFdbTxVlanTableEntry learnInfo p4info insertEntry :=
    builds_encodeFdbTxVlanTableEntry_dpdk.writeEntry learnInfo p4info insertEntry
  have hrx : writeFdbRxVlanTableEntry .dpdk learnInfo p4info insertEntry =
      Dpdk.writeFdbRxVlanTableEntry learnInfo p4info insertEntry :=
    builds_encodeFdbRxVlanTableEntry_dpdk.writeEntry learnInfo p4info insertEntry
  simp only [configFdbEntry, htunnel, htx, hrx]
  rfl

/-- The tunnel updates agree on ES2K. -/
theorem configTunnelEntry_es2k (tunnelInfo : TunnelInfo) (p4info : P4Info) (insertEntry : Bool) :
    configTunnelEntry .es2k tunnelInfo p4info insertEntry =
      Es2k.configTunnelEntry tunnelInfo p4info insertEntry := by
  have hencap : writeEncapTableEntry .es2k tunnelInfo p4info insertEntry =
      Es2k.writeEncapTableEntry tunnelInfo p4info insertEntry :=
    builds_prepareEncapTableEntry.writeEntry tunnelInfo p4info insertEntry
  have hdecap : writeDecapTableEntry tunnelInfo p4info insertEntry =
      Es2k.writeDecapTableEntry tunnelInfo p4info insertEntry :=
    builds_prepareDecapTableEntry.writeEntry tunnelInfo p4info insertEntry
  have hterm : writeTunnelTermTableEntry .es2k tunnelInfo p4info insertEntry =
      Es2k.writeTunnelTermTableEntry tunnelInfo p4info insertEntry :=
    builds_prepareTunnelTermTableEntry.writeEntry tunnelInfo p4info insertEntry
  simp only [configTunnelEntry, hencap, hdecap, hterm]
  rfl

/-- The tunnel updates agree on DPDK. -/
theorem configTunnelEntry_dpdk (tunnelInfo : TunnelInfo) (p4info : P4Info) (insertEntry : Bool) :
    configTunnelEntry .dpdk tunnelInfo p4info insertEntry =
      Dpdk.configTunnelEntry tunnelInfo p4info insertEntry := by
  have hencap : writeEncapTableEntry .dpdk tunnelInfo p4info insertEntry =
      Dpdk.writeEncapTableEntry tunnelInfo p4info insertEntry :=
    builds_encodeVxlanEncapTableEntry_dpdk.writeEntry tunnelInfo p4info insertEntry
  have hterm : writeTunnelTermTableEntry .dpdk tunnelInfo p4info insertEntry =
      Dpdk.writeTunnelTermTableEntry tunnelInfo p4info insertEntry :=
    builds_encodeTunnelTermTableEntry_dpdk.writeEntry tunnelInfo p4info insertEntry
  simp only [configTunnelEntry, hencap, hterm]
  rfl

/-- The VLAN updates agree. -/
theorem configVlanEntry_eq (vlanId : UInt16) (p4info : P4Info) (insertEntry : Bool) :
    configVlanEntry vlanId p4info insertEntry = Es2k.configVlanEntry vlanId p4info insertEntry := by
  have hpush : writeVlanPushTableEntry vlanId p4info insertEntry =
      Es2k.writeVlanPushTableEntry vlanId p4info insertEntry :=
    builds_encodeVlanPushTableEntry.writeEntry vlanId p4info insertEntry
  have hpop : writeVlanPopTableEntry vlanId p4info insertEntry =
      Es2k.writeVlanPopTableEntry vlanId p4info insertEntry :=
    builds_encodeVlanPopTableEntry.writeEntry vlanId p4info insertEntry
  simp only [configVlanEntry, hpush, hpop]
  rfl

/-- The source-port updates agree. -/
theorem configSrcPortEntry_eq (portInfo : SrcPortInfo) (p4info : P4Info) (insertEntry : Bool) :
    configSrcPortEntry portInfo p4info insertEntry =
      Es2k.configSrcPortEntry portInfo p4info insertEntry := by
  have hwrite (portInfo : SrcPortInfo) : writeVsiSrcPortTableEntry portInfo p4info insertEntry =
      Es2k.writeVsiSrcPortTableEntry portInfo p4info insertEntry :=
    builds_encodeSrcPortTableEntry.writeEntry portInfo p4info insertEntry
  simp only [configSrcPortEntry, getTxAccVsiPort_eq, hwrite]
  rfl

/-- The tunnel source-port updates agree. -/
theorem writeTunnelSrcPortEntry_eq (portInfo : SrcPortInfo) (p4info : P4Info) (insertEntry : Bool) :
    writeTunnelSrcPortEntry portInfo p4info insertEntry =
      Es2k.writeTunnelSrcPortEntry portInfo p4info insertEntry :=
  builds_encodeSrcPortTableEntry.writeEntry portInfo p4info insertEntry

/-- The receive-tunnel updates agree. -/
theorem writeRxTunnelSrcPortTableEntry_eq (tunnelInfo : TunnelInfo) (p4info : P4Info)
    (insertEntry : Bool) :
    writeRxTunnelSrcPortTableEntry tunnelInfo p4info insertEntry =
      Es2k.writeRxTunnelSrcPortTableEntry tunnelInfo p4info insertEntry :=
  builds_prepareRxTunnelSrcPortTableEntry.writeEntry tunnelInfo p4info insertEntry

/-- From the label on, the address-map updates agree. -/
theorem tryDstip_eq (ipInfo : IpMacMapInfo) (p4info : P4Info) (insertEntry : Bool) :
    tryDstip ipInfo p4info insertEntry = (do
      Es2k.configDstIpMacMap ipInfo p4info insertEntry
      pure okStatus) := by
  have hread : readVmDstTableEntry ipInfo p4info = Es2k.readVmDstTableEntry ipInfo p4info :=
    builds_encodeDstIpMacMapTableEntry.readEntry ipInfo p4info
  have hwrite : writeDstIpMacMapTableEntry ipInfo p4info insertEntry =
      Es2k.writeDstIpMacMapTableEntry ipInfo p4info insertEntry :=
    builds_encodeDstIpMacMapTableEntry.writeEntry ipInfo p4info insertEntry
  have hvalid : writeDstIfValid ipInfo p4info insertEntry = (do
      Es2k.writeIfValid ipInfo (Es2k.writeDstIpMacMapTableEntry ipInfo p4info insertEntry)
      pure okStatus) := by
    rw [writeDstIfValid, hwrite, Es2k.writeIfValid]
    split <;> rfl
  rw [tryDstip, hread, hvalid, Es2k.configDstIpMacMap]
  cases insertEntry with
  | false => rfl
  | true =>
    apply congrArg (Program.request _)
    funext reply
    cases reply <;> rfl

/-- The address-map updates agree: the jump skips what the structured update skips. -/
theorem configIpMacMapEntry_eq (ipInfo : IpMacMapInfo) (p4info : P4Info) (insertEntry : Bool) :
    configIpMacMapEntry ipInfo p4info insertEntry =
      Es2k.configIpMacMapEntry ipInfo p4info insertEntry := by
  have hread : readVmSrcTableEntry ipInfo p4info = Es2k.readVmSrcTableEntry ipInfo p4info :=
    builds_encodeSrcIpMacMapTableEntry.readEntry ipInfo p4info
  have hwrite : writeSrcIpMacMapTableEntry ipInfo p4info insertEntry =
      Es2k.writeSrcIpMacMapTableEntry ipInfo p4info insertEntry :=
    builds_encodeSrcIpMacMapTableEntry.writeEntry ipInfo p4info insertEntry
  have hvalid : writeSrcIfValid ipInfo p4info insertEntry = (do
      Es2k.writeIfValid ipInfo (Es2k.writeSrcIpMacMapTableEntry ipInfo p4info insertEntry)
      tryDstip ipInfo p4info insertEntry) := by
    rw [writeSrcIfValid, hwrite, Es2k.writeIfValid]
    split <;> rfl
  rw [configIpMacMapEntry, hread, hvalid, Es2k.configIpMacMapEntry, Es2k.configSrcIpMacMap, ← tryDstip_eq]
  cases insertEntry with
  | false => rfl
  | true =>
    apply congrArg (Program.request _)
    funext reply
    cases reply <;> rfl

/-! ### Calls -/

/-- A call is the same program in both cores. -/
theorem program_eq (flags : Flags) (call : ApiCall) : program flags call = call.program flags := by
  obtain ⟨function, insertEntry, grpcAddr⟩ := call
  cases function with
  | es2kFdb info => simp only [program, doConfigFdbEntry, configFdbEntry_es2k]; rfl
  | es2kTunnel info => simp only [program, doConfigTunnelEntry, configTunnelEntry_es2k]; rfl
  | es2kVlan vlanId => simp only [program, doConfigVlanEntry, configVlanEntry_eq]; rfl
  | es2kSrcPort info => simp only [program, doConfigSrcPortEntry, configSrcPortEntry_eq]; rfl
  | es2kTunnelSrcPort info =>
    simp only [program, doConfigTunnelSrcPortEntry, writeTunnelSrcPortEntry_eq]; rfl
  | es2kRxTunnelSrc info =>
    simp only [program, doConfigRxTunnelSrcEntry, writeRxTunnelSrcPortTableEntry_eq]; rfl
  | es2kIpMacMap info => simp only [program, doConfigIpMacMapEntry, configIpMacMapEntry_eq]; rfl
  | dpdkFdb info => simp only [program, doConfigFdbEntry, configFdbEntry_dpdk]; rfl
  | dpdkTunnel info => simp only [program, doConfigTunnelEntry, configTunnelEntry_dpdk]; rfl

/-- Whatever the server answers, a call of the v3 core sends the requests of the v2 core, sees the same
replies, and returns the same status. -/
theorem v3_refines_v2 {State : Type} (flags : Flags) (call : ApiCall)
    (handle : Handler WireRequest WireReply State) (s : State) :
    (call.program flags).exchange handle s = (program flags call).exchange handle s ∧
      (call.program flags).requests handle s = (program flags call).requests handle s ∧
      ((call.program flags).run handle s).1 = ((program flags call).run handle s).1 := by
  rw [program_eq]
  exact ⟨rfl, rfl, rfl⟩

end NetworkingRecipe.Ovsp4rt.V2
