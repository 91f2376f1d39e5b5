import NetworkingRecipe.Ovsp4rt.Es2k.FdbKeys

/-!
# The requests of a forwarding-database call

`ConfigFdbEntry` in terms of what it asks the server. An insertion is one existence read
followed by insertions into the tables of the record; a deletion is one or two probes
followed by deletions of bare keys. Later results about single calls, faulty servers, and
interleavings all start from these equations and never unfold the encoders again.
-/

namespace NetworkingRecipe.Ovsp4rt.Es2k

open P4Runtime Interaction

/-- The tunnel types that a tunnel-learned record may have. -/
def SupportedType (learnInfo : MacLearningInfo) : Prop :=
  learnInfo.isTunnel = true →
    learnInfo.tnlInfo.tunnelType = ovsTunnelVxlan ∨ learnInfo.tnlInfo.tunnelType = ovsTunnelGeneve

/-- The entry that an insertion of a record writes into a table. -/
def fdbInsertEntry (p4info : P4Info) (learnInfo : MacLearningInfo) : FdbTable → TableEntry
  | .tx =>
    if learnInfo.isTunnel then prepareFdbTunnelTableEntry {} learnInfo p4info true
    else encodeFdbTxVlanTableEntry {} learnInfo p4info true
  | .rx => encodeFdbRxVlanTableEntry {} learnInfo p4info true
  | .smac => encodeFdbSmacTableEntry {} learnInfo p4info true
  | .tunnelV4 => encodeL2ToTunnelV4 {} learnInfo p4info true
  | .tunnelV6 => encodeL2ToTunnelV6 {} learnInfo p4info true

/-- Insertions of a record into the listed tables. -/
def insertRequests (p4info : P4Info) (learnInfo : MacLearningInfo) (tables : List FdbTable) :
    List TableRequest :=
  tables.map fun table => .write .insert (fdbInsertEntry p4info learnInfo table)

/-- Deletions of a record's keys from the listed tables. -/
def deleteRequests (p4info : P4Info) (learnInfo : MacLearningInfo) (tables : List FdbTable) :
    List TableRequest :=
  tables.map fun table =>
    .write .delete (fdbKeyEntry p4info table learnInfo.macAddr learnInfo.bridgeId)

/-- The tables that a tunnel insertion writes, in order. -/
def tunnelTables (learnInfo : MacLearningInfo) : List FdbTable :=
  [.tx, tunnelTableOf learnInfo, .smac]

/-- The tables that a deletion clears, in order, once the record has been updated. -/
def deletedTables (learnInfo : MacLearningInfo) : List FdbTable :=
  if learnInfo.isTunnel then tunnelTables learnInfo else [.tx, .smac]

/-- A supported record is written under its own keys. -/
theorem fdbInsertEntry_key (p4info : P4Info) (learnInfo : MacLearningInfo)
    (hsupported : SupportedType learnInfo) (table : FdbTable) :
    (fdbInsertEntry p4info learnInfo table).key =
      fdbKey p4info table learnInfo.macAddr learnInfo.bridgeId := by
  cases table with
  | tx =>
    rw [fdbInsertEntry]
    cases htunnel : learnInfo.isTunnel with
    | true =>
      rw [if_pos rfl]
      unfold prepareFdbTunnelTableEntry
      split
      · exact encodeFdbTableEntryforTunnel_key learnInfo p4info true vxlanUnderlayActions
      · rw [if_pos ((hsupported htunnel).resolve_left ‹_›)]
        exact encodeFdbTableEntryforTunnel_key learnInfo p4info true geneveUnderlayActions
    | false =>
      rw [if_neg Bool.false_ne_true]
      exact encodeFdbTxVlanTableEntry_key learnInfo p4info true
  | rx => exact encodeFdbRxVlanTableEntry_key learnInfo p4info true
  | smac => exact encodeFdbSmacTableEntry_key learnInfo p4info true
  | tunnelV4 => rfl
  | tunnelV6 => rfl

/-- The entry written into the l2_to_tunnel table that the families select. -/
theorem prepareL2TunnelTableEntry_insert (p4info : P4Info) (learnInfo : MacLearningInfo) :
    prepareL2TunnelTableEntry {} learnInfo p4info true =
      fdbInsertEntry p4info learnInfo (tunnelTableOf learnInfo) := by
  unfold prepareL2TunnelTableEntry tunnelTableOf
  split <;> rfl

/-- The bare entry deleted from the l2_to_tunnel table that the families select. -/
theorem prepareL2TunnelTableEntry_delete (p4info : P4Info) (learnInfo : MacLearningInfo) :
    prepareL2TunnelTableEntry {} learnInfo p4info false =
      fdbKeyEntry p4info (tunnelTableOf learnInfo) learnInfo.macAddr learnInfo.bridgeId := by
  unfold prepareL2TunnelTableEntry tunnelTableOf
  split <;> rfl

/-- A deletion always names the bare l2_fwd_tx key, whatever the tunnel type. -/
theorem prepareFdbTunnelTableEntry_delete (p4info : P4Info) (learnInfo : MacLearningInfo) :
    prepareFdbTunnelTableEntry {} learnInfo p4info false =
      fdbKeyEntry p4info .tx learnInfo.macAddr learnInfo.bridgeId := by
  unfold prepareFdbTunnelTableEntry
  split
  · rfl
  · split <;> rfl

/-- The existence read of a supported tunnel record asks for the bare l2_fwd_tx key. -/
theorem prepareFdbTableV4TunnelEntry_read (p4info : P4Info) (learnInfo : MacLearningInfo)
    (htype : learnInfo.tnlInfo.tunnelType = ovsTunnelVxlan ∨
      learnInfo.tnlInfo.tunnelType = ovsTunnelGeneve) :
    prepareFdbTableV4TunnelEntry {} learnInfo p4info false false =
      fdbKeyEntry p4info .tx learnInfo.macAddr learnInfo.bridgeId := by
  unfold prepareFdbTableV4TunnelEntry
  rcases htype with htype | htype <;> simp only [htype] <;> rfl

/-- What a VLAN insertion does with the result of its port lookup. -/
def vlanInsertTail (p4info : P4Info) (learnInfo : MacLearningInfo) : StatusOr UInt32 → TableProgram Status
  | .error status => .done (.error status)
  | .ok hostSp =>
    .sendAll (insertRequests p4info { learnInfo with srcPort := hostSp } [.tx, .smac]) okStatus

/-- What a VLAN insertion does after its existence read. -/
def vlanInsertBody (p4info : P4Info) (learnInfo : MacLearningInfo) : TableProgram Status :=
  .request (.write .insert (fdbInsertEntry p4info learnInfo .rx)) fun _ =>
    .request (.read (encodeTxAccVsiTableEntry {} learnInfo.srcPort p4info)) fun reply =>
      vlanInsertTail p4info learnInfo ((reply : StatusOr ReadResponse) >>= hostPort p4info)

/-- What an insertion does after its existence read. -/
def insertBody (p4info : P4Info) (learnInfo : MacLearningInfo) : TableProgram Status :=
  if learnInfo.isTunnel then
    .sendAll (insertRequests p4info learnInfo (tunnelTables learnInfo)) okStatus
  else vlanInsertBody p4info learnInfo

/-- A tunnel insertion sends the insertions of its tables. -/
theorem writeFdbTunnelEntries_insert (p4info : P4Info) (learnInfo : MacLearningInfo)
    (htunnel : learnInfo.isTunnel = true) :
    writeFdbTunnelEntries learnInfo true p4info =
      .sendAll (insertRequests p4info learnInfo (tunnelTables learnInfo)) okStatus := by
  simp only [writeFdbTunnelEntries, writeFdbTunnelTableEntry, writeL2TunnelTableEntry,
    prepareL2TunnelTableEntry_insert]
  simp only [insertRequests, tunnelTables, List.map_cons, List.map_nil, fdbInsertEntry, htunnel, if_true]
  rfl

/-- The last writes of a VLAN insertion. -/
theorem writeFdbVlanEntries_insert (p4info : P4Info) (learnInfo : MacLearningInfo)
    (htunnel : learnInfo.isTunnel = false) :
    writeFdbVlanEntries learnInfo true p4info =
      .sendAll (insertRequests p4info learnInfo [.tx, .smac]) okStatus := by
  simp only [insertRequests, List.map_cons, List.map_nil, fdbInsertEntry, htunnel, Bool.false_eq_true, if_false]
  rfl

/-- The port lookup is one read of the tx_acc_vsi key. -/
theorem updateFdbSrcPortInfo_bind {A : Type} (p4info : P4Info) (learnInfo : MacLearningInfo)
    (next : StatusOr MacLearningInfo → TableProgram A) :
    updateFdbSrcPortInfo learnInfo p4info >>= next =
      .request (.read (encodeTxAccVsiTableEntry {} learnInfo.srcPort p4info)) fun reply =>
        next (((reply : StatusOr ReadResponse) >>= hostPort p4info).map fun hostSp =>
          { learnInfo with srcPort := hostSp }) := rfl

/-- A VLAN insertion that did not find its key writes the l2_fwd_rx entry, looks up the port, and stops if
there is none. -/
theorem configFdbVlanEntry_lookup (p4info : P4Info) (learnInfo : MacLearningInfo) :
    configFdbVlanEntry learnInfo true p4info =
      .request (.read (encodeFdbTxVlanTableEntry {} learnInfo p4info false)) fun reply =>
        if (reply : StatusOr ReadResponse).isOk then .done okStatus
        else .request (.write .insert (encodeFdbRxVlanTableEntry {} learnInfo p4info true)) fun _ =>
          .request (.read (encodeTxAccVsiTableEntry {} learnInfo.srcPort p4info)) fun lookup =>
            match (lookup : StatusOr ReadResponse) >>= hostPort p4info with
            | .error status => .done (.error status)
            | .ok hostSp => writeFdbVlanEntries { learnInfo with srcPort := hostSp } true p4info := by
  simp only [configFdbVlanEntry, readFdbVlanTableEntry, writeFdbRxVlanTableEntry, if_true,
    sendReadRequest_bind, sendWriteRequest_bind, updateFdbSrcPortInfo_bind, Program.pure_eq_done]
  congr 1
  funext reply
  congr 2
  funext _
  congr 1
  funext lookup
  cases (lookup : StatusOr ReadResponse) >>= hostPort p4info <;> rfl

/-- A VLAN insertion that did not find its key continues with the l2_fwd_rx write. -/
theorem configFdbVlanEntry_insert (p4info : P4Info) (learnInfo : MacLearningInfo)
    (htunnel : learnInfo.isTunnel = false) :
    configFdbVlanEntry learnInfo true p4info =
      .request (.read (fdbKeyEntry p4info .tx learnInfo.macAddr learnInfo.bridgeId)) fun reply =>
        if (reply : StatusOr ReadResponse).isOk then .done okStatus
        else vlanInsertBody p4info learnInfo := by
  rw [configFdbVlanEntry_lookup]
  congr 1
  funext reply
  congr 1
  rw [vlanInsertBody]
  congr 1
  funext _
  congr 1
  funext lookup
  cases hport : ((lookup : StatusOr ReadResponse) >>= hostPort p4info) with
  | error status => rfl
  | ok hostSp => exact writeFdbVlanEntries_insert p4info { learnInfo with srcPort := hostSp } htunnel

/-- An insertion reads the l2_fwd_tx key and stops there if it is present. -/
theorem configFdbEntry_insert (p4info : P4Info) (learnInfo : MacLearningInfo)
    (hsupported : SupportedType learnInfo) :
    configFdbEntry learnInfo p4info true =
      .request (.read (fdbKeyEntry p4info .tx learnInfo.macAddr learnInfo.bridgeId)) fun reply =>
        if (reply : StatusOr ReadResponse).isOk then .done okStatus
        else insertBody p4info learnInfo := by
  rw [configFdbEntry, insertBody]
  cases htunnel : learnInfo.isTunnel with
  | true =>
    simp only [Bool.not_true, Bool.false_eq_true, if_false, if_true, Program.pure_eq_done,
      Program.done_bind, htunnel, configFdbTunnelEntry, readFdbTunnelTableEntry,
      sendReadRequest_bind, writeFdbTunnelEntries_insert p4info learnInfo htunnel]
    rw [prepareFdbTableV4TunnelEntry_read p4info learnInfo (hsupported htunnel)]
    rfl
  | false =>
    simp only [Bool.not_true, Bool.false_eq_true, if_false, Program.pure_eq_done,
      Program.done_bind, htunnel]
    exact configFdbVlanEntry_insert p4info learnInfo htunnel

/-- What a deletion does after its probes. -/
def deleteBody (p4info : P4Info) (learnInfo : MacLearningInfo) : TableProgram Status :=
  .sendAll (deleteRequests p4info learnInfo (deletedTables learnInfo)) okStatus

/-- The writes of a tunnel deletion. -/
theorem configFdbTunnelEntry_delete (p4info : P4Info) (learnInfo : MacLearningInfo)
    (htunnel : learnInfo.isTunnel = true) :
    configFdbTunnelEntry learnInfo false p4info = deleteBody p4info learnInfo := by
  simp only [configFdbTunnelEntry, Bool.false_eq_true, if_false, writeFdbTunnelEntries,
    writeFdbTunnelTableEntry, writeL2TunnelTableEntry, prepareL2TunnelTableEntry_delete,
    prepareFdbTunnelTableEntry_delete]
  simp only [deleteBody, deletedTables, htunnel, if_true]
  rfl

/-- The writes of a VLAN deletion. -/
theorem configFdbVlanEntry_delete (p4info : P4Info) (learnInfo : MacLearningInfo)
    (htunnel : learnInfo.isTunnel = false) :
    configFdbVlanEntry learnInfo false p4info = deleteBody p4info learnInfo := by
  simp only [configFdbVlanEntry, deleteBody, deletedTables, htunnel, Bool.false_eq_true, if_false]
  rfl

/-- Whatever the record, the writes of a deletion are those of its updated tables. -/
theorem configFdbEntry_deleteBody (p4info : P4Info) (learnInfo : MacLearningInfo) :
    (if learnInfo.isTunnel then configFdbTunnelEntry learnInfo false p4info
      else configFdbVlanEntry learnInfo false p4info) = deleteBody p4info learnInfo := by
  cases htunnel : learnInfo.isTunnel with
  | true => exact configFdbTunnelEntry_delete p4info learnInfo htunnel
  | false => exact configFdbVlanEntry_delete p4info learnInfo htunnel

/-- The probes: the IPv4 tunnel table, then the IPv6 one unless the record is a tunnel record
by then. -/
theorem updateFdbTunnelInfo_eq (p4info : P4Info) (learnInfo : MacLearningInfo) :
    updateFdbTunnelInfo learnInfo p4info =
      .request (.read (fdbKeyEntry p4info .tunnelV4 learnInfo.macAddr learnInfo.bridgeId)) fun reply =>
        if (reply : StatusOr ReadResponse).isOk || learnInfo.isTunnel then
          .done { learnInfo with isTunnel := true }
        else
          .request (.read (fdbKeyEntry p4info .tunnelV6 learnInfo.macAddr learnInfo.bridgeId))
            fun reply => .done
              (if (reply : StatusOr ReadResponse).isOk then markV6Tunnel learnInfo else learnInfo) := by
  rw [updateFdbTunnelInfo, readL2ToTunnelV4TableEntry, sendReadRequest_bind]
  congr 1
  funext reply
  cases hfound : (reply : StatusOr ReadResponse).isOk with
  | true => rfl
  | false =>
    cases htunnel : learnInfo.isTunnel with
    | true =>
      have hsame : { learnInfo with isTunnel := true } = learnInfo := by
        rw [← htunnel]
      simp only [Bool.false_eq_true, if_false, htunnel, Bool.not_true, Bool.or_true, if_true, hsame]
      rfl
    | false =>
      simp only [Bool.false_eq_true, if_false, htunnel, Bool.not_false, if_true, Bool.or_false,
        readL2ToTunnelV6TableEntry, sendReadRequest_bind]
      congr 1
      funext reply
      split <;> rfl

/-- A deletion probes the tunnel tables and clears the tables of the record so updated. -/
theorem configFdbEntry_delete (p4info : P4Info) (learnInfo : MacLearningInfo) :
    configFdbEntry learnInfo p4info false =
      .request (.read (fdbKeyEntry p4info .tunnelV4 learnInfo.macAddr learnInfo.bridgeId)) fun reply =>
        if (reply : StatusOr ReadResponse).isOk || learnInfo.isTunnel then
          deleteBody p4info { learnInfo with isTunnel := true }
        else
          .request (.read (fdbKeyEntry p4info .tunnelV6 learnInfo.macAddr learnInfo.bridgeId))
            fun reply =>
              deleteBody p4info
                (if (reply : StatusOr ReadResponse).isOk then markV6Tunnel learnInfo else learnInfo) := by
  have hbody : configFdbEntry learnInfo p4info false =
      updateFdbTunnelInfo learnInfo p4info >>= deleteBody p4info := by
    simp only [configFdbEntry, configFdbEntry_deleteBody]
    rfl
  rw [hbody, updateFdbTunnelInfo_eq, Program.request_bind]
  congr 1
  funext reply
  split <;> rfl

end NetworkingRecipe.Ovsp4rt.Es2k
