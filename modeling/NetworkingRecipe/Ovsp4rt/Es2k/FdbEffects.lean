import NetworkingRecipe.Ovsp4rt.Es2k.FdbRequests

/-!
# The effect of a forwarding-database call on the tables

Run alone against the map model, an insertion adds a list of pairs and a deletion clears a
list of keys. Which ones is decided by the tables before the call: an insertion looks at
the l2_fwd_tx key and at the port of its VSI, a deletion at the two tunnel keys.
-/

namespace NetworkingRecipe.Ovsp4rt.Es2k

open P4Runtime Interaction

/-- The keys of an address in the listed tables. -/
def fdbKeys (p4info : P4Info) (mac : MacAddr) (bridgeId : UInt8) (tables : List FdbTable) :
    List TableKey :=
  tables.map fun table => fdbKey p4info table mac bridgeId

/-- The pairs that insertions of a record into the listed tables add. -/
def insertPairs (p4info : P4Info) (learnInfo : MacLearningInfo) (tables : List FdbTable) :
    List (TableKey × Option Action) :=
  tables.map fun table =>
    (fdbKey p4info table learnInfo.macAddr learnInfo.bridgeId,
      (fdbInsertEntry p4info learnInfo table).action)

/-- Only keys of the record are added. -/
theorem insertPairs_keys (p4info : P4Info) (learnInfo : MacLearningInfo) (tables : List FdbTable) :
    (insertPairs p4info learnInfo tables).map Prod.fst =
      fdbKeys p4info learnInfo.macAddr learnInfo.bridgeId tables := by
  rw [insertPairs, List.map_map]
  rfl

/-- A key of an address is among those of the listed tables when its table is listed. -/
theorem mem_fdbKeys_iff {p4info : P4Info} (hp : ResolvesTables p4info fdbTableNames) (mac : MacAddr)
    (bridgeId : UInt8) (tables : List FdbTable) (table : FdbTable) :
    fdbKey p4info table mac bridgeId ∈ fdbKeys p4info mac bridgeId tables ↔ table ∈ tables := by
  rw [fdbKeys, List.mem_map]
  refine ⟨fun ⟨table', hmem, hkey⟩ => ?_, fun hmem => ⟨table, hmem, rfl⟩⟩
  rwa [← fdbKey_table hp hkey]

/-- After insertions of a record into the listed tables, a key of its address is present when it was
before or its table is listed. -/
theorem insertAll_insertPairs_ne_none_iff {p4info : P4Info} (hp : ResolvesTables p4info fdbTableNames)
    (learnInfo : MacLearningInfo) (tables : List FdbTable) (s : Tables) (table : FdbTable) :
    s.insertAll (insertPairs p4info learnInfo tables)
        (fdbKey p4info table learnInfo.macAddr learnInfo.bridgeId) ≠ none ↔
      s (fdbKey p4info table learnInfo.macAddr learnInfo.bridgeId) ≠ none ∨ table ∈ tables := by
  rw [Store.insertAll_ne_none_iff, insertPairs_keys, mem_fdbKeys_iff hp]

/-! ### Insertion -/

/-- The port that an insertion finds for its source port. -/
def portLookup (p4info : P4Info) (s : Tables) (learnInfo : MacLearningInfo) : StatusOr UInt32 :=
  readReply (encodeTxAccVsiTableEntry {} learnInfo.srcPort p4info) s >>= hostPort p4info

/-- What an insertion will do: its status, the record it writes, and the tables it writes. -/
structure InsertPlan where
  status : Status
  record : MacLearningInfo
  tables : List FdbTable

/-- What an insertion will do once it has not found its l2_fwd_tx key. -/
def bodyPlan (p4info : P4Info) (s : Tables) (learnInfo : MacLearningInfo) : InsertPlan :=
  if learnInfo.isTunnel then ⟨okStatus, learnInfo, tunnelTables learnInfo⟩
  else match portLookup p4info s learnInfo with
    | .error status => ⟨.error status, learnInfo, [.rx]⟩
    | .ok hostSp => ⟨okStatus, { learnInfo with srcPort := hostSp }, [.rx, .tx, .smac]⟩

/-- The tables before the call decide what an insertion will do. -/
def insertPlan (p4info : P4Info) (s : Tables) (learnInfo : MacLearningInfo) : InsertPlan :=
  if (s (fdbKey p4info .tx learnInfo.macAddr learnInfo.bridgeId)).isSome then ⟨okStatus, learnInfo, []⟩
  else bodyPlan p4info s learnInfo

section PlanCases

variable {p4info : P4Info} {s : Tables} {learnInfo : MacLearningInfo}

/-- An insertion that finds its l2_fwd_tx key writes nothing. -/
theorem insertPlan_present (htx : s (fdbKey p4info .tx learnInfo.macAddr learnInfo.bridgeId) ≠ none) :
    insertPlan p4info s learnInfo = ⟨okStatus, learnInfo, []⟩ := by
  rw [insertPlan, if_pos (Option.isSome_iff_ne_none.mpr htx)]

/-- An insertion that does not find its l2_fwd_tx key goes on. -/
theorem insertPlan_absent (htx : s (fdbKey p4info .tx learnInfo.macAddr learnInfo.bridgeId) = none) :
    insertPlan p4info s learnInfo = bodyPlan p4info s learnInfo := by
  rw [insertPlan, htx, Option.isSome_none, if_neg Bool.false_ne_true]

/-- A new tunnel-learned address is written into its tunnel tables. -/
theorem bodyPlan_tunnel (htunnel : learnInfo.isTunnel = true) :
    bodyPlan p4info s learnInfo = ⟨okStatus, learnInfo, tunnelTables learnInfo⟩ := by
  rw [bodyPlan, if_pos htunnel]

/-- A new VLAN-learned address whose port is unknown is only written into l2_fwd_rx. -/
theorem bodyPlan_vlan_error (htunnel : learnInfo.isTunnel = false) {status : Error}
    (hport : portLookup p4info s learnInfo = .error status) :
    bodyPlan p4info s learnInfo = ⟨.error status, learnInfo, [.rx]⟩ := by
  rw [bodyPlan, if_neg (Bool.eq_false_iff.mp htunnel), hport]

/-- A new VLAN-learned address whose port is known is written into three tables. -/
theorem bodyPlan_vlan_ok (htunnel : learnInfo.isTunnel = false) {hostSp : UInt32}
    (hport : portLookup p4info s learnInfo = .ok hostSp) :
    bodyPlan p4info s learnInfo =
      ⟨okStatus, { learnInfo with srcPort := hostSp }, [.rx, .tx, .smac]⟩ := by
  rw [bodyPlan, if_neg (Bool.eq_false_iff.mp htunnel), hport]

/-- The record that is written has the address of the given one. -/
theorem bodyPlan_record (p4info : P4Info) (s : Tables) (learnInfo : MacLearningInfo) :
    (bodyPlan p4info s learnInfo).record.macAddr = learnInfo.macAddr ∧
      (bodyPlan p4info s learnInfo).record.bridgeId = learnInfo.bridgeId := by
  unfold bodyPlan
  split
  · exact ⟨rfl, rfl⟩
  · split <;> exact ⟨rfl, rfl⟩

/-- What an insertion goes on to do depends on the key of its port lookup only. -/
theorem bodyPlan_congr {t : Tables}
    (hvsi : s (txAccVsiKey p4info learnInfo.srcPort) = t (txAccVsiKey p4info learnInfo.srcPort)) :
    bodyPlan p4info s learnInfo = bodyPlan p4info t learnInfo := by
  have hport : portLookup p4info s learnInfo = portLookup p4info t learnInfo := by
    rw [portLookup, portLookup, readReply, readReply]
    exact congrArg (fun held => (tableAct (.read _) held).1 >>= hostPort p4info) hvsi
  rw [bodyPlan, bodyPlan, hport]

end PlanCases

/-- The pairs that an insertion adds. -/
def plannedPairs (p4info : P4Info) (s : Tables) (learnInfo : MacLearningInfo) :
    List (TableKey × Option Action) :=
  insertPairs p4info (insertPlan p4info s learnInfo).record (insertPlan p4info s learnInfo).tables

/-- The written record has the address of the given one. -/
theorem insertPlan_record (p4info : P4Info) (s : Tables) (learnInfo : MacLearningInfo) :
    (insertPlan p4info s learnInfo).record.macAddr = learnInfo.macAddr ∧
      (insertPlan p4info s learnInfo).record.bridgeId = learnInfo.bridgeId := by
  unfold insertPlan
  split
  · exact ⟨rfl, rfl⟩
  · exact bodyPlan_record p4info s learnInfo

/-- An insertion adds keys of its own address only. -/
theorem plannedPairs_keys (p4info : P4Info) (s : Tables) (learnInfo : MacLearningInfo) :
    (plannedPairs p4info s learnInfo).map Prod.fst =
      fdbKeys p4info learnInfo.macAddr learnInfo.bridgeId (insertPlan p4info s learnInfo).tables := by
  obtain ⟨hmac, hbridge⟩ := insertPlan_record p4info s learnInfo
  rw [plannedPairs, insertPairs_keys, hmac, hbridge]

/-- After an insertion a key of its address is present when it was before or its table is
planned. -/
theorem insertAll_plannedPairs_ne_none_iff {p4info : P4Info} (hp : ResolvesTables p4info fdbTableNames)
    (s : Tables) (learnInfo : MacLearningInfo) (table : FdbTable) :
    s.insertAll (plannedPairs p4info s learnInfo)
        (fdbKey p4info table learnInfo.macAddr learnInfo.bridgeId) ≠ none ↔
      s (fdbKey p4info table learnInfo.macAddr learnInfo.bridgeId) ≠ none ∨
        table ∈ (insertPlan p4info s learnInfo).tables := by
  rw [Store.insertAll_ne_none_iff, plannedPairs_keys, mem_fdbKeys_iff hp]

/-- The tables whose write is not rejected: one mark for each write, in order. -/
def acceptedTables : List FdbTable → List Bool → List FdbTable
  | [], _ => []
  | table :: tables, faults =>
    if faults.headD false then acceptedTables tables faults.tail
    else table :: acceptedTables tables faults.tail

/-- The first write is accepted unless the first mark rejects it. -/
theorem acceptedTables_cons (table : FdbTable) (tables : List FdbTable) (faults : List Bool) :
    acceptedTables (table :: tables) faults =
      if faults.headD false then acceptedTables tables faults.tail
      else table :: acceptedTables tables faults.tail := rfl

/-- Without rejections all writes are accepted. -/
theorem acceptedTables_of_no_fault (tables : List FdbTable) (faults : List Bool)
    (hfaults : ∀ fault ∈ faults, fault = false) : acceptedTables tables faults = tables := by
  induction tables generalizing faults with
  | nil => rfl
  | cons table tables ih =>
    have hhead : faults.headD false = false := by
      cases faults with
      | nil => rfl
      | cons fault faults => exact hfaults fault List.mem_cons_self
    rw [acceptedTables, hhead, if_neg Bool.false_ne_true,
      ih faults.tail fun fault hmem => hfaults fault (List.mem_of_mem_tail hmem)]

/-- Writing a list of tables under rejections adds the pairs of the accepted ones. -/
theorem run_faulty_insertRequests (p4info : P4Info) (learnInfo : MacLearningInfo)
    (hsupported : SupportedType learnInfo) (tables : List FdbTable) (s : Tables) (faults : List Bool) :
    (Program.sendAll (insertRequests p4info learnInfo tables) okStatus).run faultyServer (s, faults) =
      (okStatus, (s.insertAll (insertPairs p4info learnInfo (acceptedTables tables faults)),
        faults.drop tables.length)) := by
  induction tables generalizing s faults with
  | nil => rfl
  | cons table tables ih =>
    have hrest := ih (if faults.headD false then s else
      s.insert (fdbKey p4info table learnInfo.macAddr learnInfo.bridgeId)
        (fdbInsertEntry p4info learnInfo table).action) faults.tail
    rw [insertRequests, List.map_cons, ← insertRequests, Program.sendAll_cons, Program.run_request,
      faultyServer_insert, fdbInsertEntry_key p4info learnInfo hsupported, hrest, List.drop_tail,
      List.length_cons, acceptedTables]
    split <;> rfl

/-- A port lookup is unaffected by an insertion into the forwarding database. -/
theorem portLookup_insert (p4info : P4Info) (s : Tables) (learnInfo : MacLearningInfo)
    (table : FdbTable) (mac : MacAddr) (bridgeId : UInt8) (action : Option Action) :
    portLookup p4info (s.insert (fdbKey p4info table mac bridgeId) action) learnInfo =
      portLookup p4info s learnInfo := by
  rw [portLookup, portLookup, readReply, readReply, Store.insert_of_ne]
  exact txAccVsiKey_ne_fdbKey p4info learnInfo.srcPort table mac bridgeId

/-- The body of a VLAN insertion writes l2_fwd_rx, and the other two tables if the port lookup
succeeds. -/
theorem run_faulty_vlanInsertBody (p4info : P4Info) (learnInfo : MacLearningInfo)
    (htunnel : learnInfo.isTunnel = false) (s : Tables) (faults : List Bool) :
    (vlanInsertBody p4info learnInfo).run faultyServer (s, faults) =
      match portLookup p4info s learnInfo with
      | .error status => (.error status,
          (s.insertAll (insertPairs p4info learnInfo (acceptedTables [.rx] faults)), faults.drop 1))
      | .ok hostSp => (okStatus, (s.insertAll (insertPairs p4info { learnInfo with srcPort := hostSp }
          (acceptedTables [.rx, .tx, .smac] faults)), faults.drop 3)) := by
  have hkey : (fdbInsertEntry p4info learnInfo .rx).key =
      fdbKey p4info .rx learnInfo.macAddr learnInfo.bridgeId :=
    encodeFdbRxVlanTableEntry_key learnInfo p4info true
  have hlookup : portLookup p4info (if faults.headD false then s else
      s.insert (fdbKey p4info .rx learnInfo.macAddr learnInfo.bridgeId)
        (fdbInsertEntry p4info learnInfo .rx).action) learnInfo = portLookup p4info s learnInfo := by
    split
    · rfl
    · exact portLookup_insert p4info s learnInfo .rx learnInfo.macAddr learnInfo.bridgeId _
  rw [vlanInsertBody, Program.run_request, Program.run_request, faultyServer_insert, faultyServer_read,
    hkey]
  change (vlanInsertTail p4info learnInfo (portLookup p4info _ learnInfo)).run faultyServer _ = _
  rw [hlookup]
  cases portLookup p4info s learnInfo with
  | error status =>
    rw [vlanInsertTail, acceptedTables]
    cases faults.headD false <;> simp [acceptedTables, insertPairs, Store.insertAll]
  | ok hostSp =>
    have hsupported : SupportedType { learnInfo with srcPort := hostSp } := by
      intro h
      rw [htunnel] at h
      cases h
    rw [vlanInsertTail, run_faulty_insertRequests p4info _ hsupported, List.drop_tail,
      acceptedTables_cons .rx [.tx, .smac]]
    cases faults.headD false <;> rfl

/-- An insertion under rejections returns its planned status and adds the accepted ones of its
planned pairs. -/
theorem run_faulty_configFdbEntry_insert (p4info : P4Info) (learnInfo : MacLearningInfo)
    (hsupported : SupportedType learnInfo) (s : Tables) (faults : List Bool) :
    (configFdbEntry learnInfo p4info true).run faultyServer (s, faults) =
      ((insertPlan p4info s learnInfo).status,
        (s.insertAll (insertPairs p4info (insertPlan p4info s learnInfo).record
          (acceptedTables (insertPlan p4info s learnInfo).tables faults)),
        faults.drop (insertPlan p4info s learnInfo).tables.length)) := by
  rw [configFdbEntry_insert p4info learnInfo hsupported, Program.run_request, faultyServer_read,
    isOk_readReply, insertPlan]
  change (if (s (fdbKey p4info .tx learnInfo.macAddr learnInfo.bridgeId)).isSome then _ else _ :
    TableProgram Status).run faultyServer (s, faults) = _
  cases (s (fdbKey p4info .tx learnInfo.macAddr learnInfo.bridgeId)).isSome with
  | true => rfl
  | false =>
    simp only [Bool.false_eq_true, if_false, insertBody, bodyPlan]
    by_cases htunnel : learnInfo.isTunnel = true
    · rw [if_pos htunnel, if_pos htunnel]
      exact run_faulty_insertRequests p4info learnInfo hsupported _ s faults
    · rw [if_neg htunnel, if_neg htunnel,
        run_faulty_vlanInsertBody p4info learnInfo (Bool.eq_false_iff.mpr htunnel)]
      split <;> rfl

/-- An insertion adds its planned pairs and returns its planned status. -/
theorem run_configFdbEntry_insert (p4info : P4Info) (learnInfo : MacLearningInfo)
    (hsupported : SupportedType learnInfo) (s : Tables) :
    (configFdbEntry learnInfo p4info true).run tableServer s =
      ((insertPlan p4info s learnInfo).status, s.insertAll (plannedPairs p4info s learnInfo)) := by
  have hnone : ∀ fault ∈ ([] : List Bool), fault = false := fun _ hmem => absurd hmem List.not_mem_nil
  obtain ⟨hstatus, htables⟩ := run_faultyServer_of_no_fault (configFdbEntry learnInfo p4info true) s []
    hnone
  rw [run_faulty_configFdbEntry_insert p4info learnInfo hsupported,
    acceptedTables_of_no_fault _ [] hnone] at hstatus htables
  exact Prod.ext hstatus.symm htables.symm

/-! ### Deletion -/

/-- The record of a deletion after its probes. -/
def probedRecord (p4info : P4Info) (s : Tables) (learnInfo : MacLearningInfo) : MacLearningInfo :=
  if (s (fdbKey p4info .tunnelV4 learnInfo.macAddr learnInfo.bridgeId)).isSome || learnInfo.isTunnel then
    { learnInfo with isTunnel := true }
  else if (s (fdbKey p4info .tunnelV6 learnInfo.macAddr learnInfo.bridgeId)).isSome then
    markV6Tunnel learnInfo
  else learnInfo

/-- The tables that a deletion clears. -/
def clearedTables (p4info : P4Info) (s : Tables) (learnInfo : MacLearningInfo) : List FdbTable :=
  deletedTables (probedRecord p4info s learnInfo)

/-- The probes keep the address. -/
theorem probedRecord_address (p4info : P4Info) (s : Tables) (learnInfo : MacLearningInfo) :
    (probedRecord p4info s learnInfo).macAddr = learnInfo.macAddr ∧
      (probedRecord p4info s learnInfo).bridgeId = learnInfo.bridgeId := by
  unfold probedRecord
  split
  · exact ⟨rfl, rfl⟩
  · split <;> exact ⟨rfl, rfl⟩

/-- A deletion runs the deletions of its probed record. -/
theorem run_configFdbEntry_delete_body (p4info : P4Info) (learnInfo : MacLearningInfo) (s : Tables) :
    (configFdbEntry learnInfo p4info false).run tableServer s =
      (deleteBody p4info (probedRecord p4info s learnInfo)).run tableServer s := by
  rw [configFdbEntry_delete, Program.run_request, tableServer_read, isOk_readReply, probedRecord]
  change (if (s (fdbKey p4info .tunnelV4 learnInfo.macAddr learnInfo.bridgeId)).isSome ||
    learnInfo.isTunnel then _ else _ : TableProgram Status).run tableServer s = _
  split
  · rfl
  · rw [Program.run_request, tableServer_read, isOk_readReply]
    rfl

/-- Clearing a list of tables clears its keys. -/
theorem run_deleteBody (p4info : P4Info) (learnInfo : MacLearningInfo) (s : Tables) :
    (deleteBody p4info learnInfo).run tableServer s =
      (okStatus, s.eraseAll
        (fdbKeys p4info learnInfo.macAddr learnInfo.bridgeId (deletedTables learnInfo))) := by
  rw [deleteBody, Program.run_sendAll, deleteRequests]
  refine Prod.ext rfl ?_
  generalize deletedTables learnInfo = tables
  induction tables generalizing s with
  | nil => rfl
  | cons table tables ih =>
    simp only [List.map_cons, List.foldl_cons, tableServer_delete]
    exact ih _

/-- A deletion clears the keys of its cleared tables and returns OK. -/
theorem run_configFdbEntry_delete (p4info : P4Info) (learnInfo : MacLearningInfo) (s : Tables) :
    (configFdbEntry learnInfo p4info false).run tableServer s =
      (okStatus, s.eraseAll
        (fdbKeys p4info learnInfo.macAddr learnInfo.bridgeId (clearedTables p4info s learnInfo))) := by
  obtain ⟨hmac, hbridge⟩ := probedRecord_address p4info s learnInfo
  rw [run_configFdbEntry_delete_body, run_deleteBody, hmac, hbridge, clearedTables]

/-- Every deletion clears l2_fwd_tx and l2_fwd_smac, never l2_fwd_rx. -/
theorem mem_clearedTables_of_hasBridge (p4info : P4Info) (s : Tables) (deleted : MacLearningInfo)
    (table : FdbTable) (htable : table.hasBridge = true) :
    table ∈ clearedTables p4info s deleted ↔ table = .tx ∨ table = .smac := by
  unfold clearedTables deletedTables tunnelTables tunnelTableOf
  split
  · split <;> cases table <;> first | decide | cases htable
  · simp

/-- The tables cleared for a record that does not say how the address was learned. -/
theorem clearedTables_unmarked (p4info : P4Info) (s : Tables) (learnInfo : MacLearningInfo)
    (htunnel : learnInfo.isTunnel = false) (hfamilies : learnInfo.tnlInfo.bothFamilies afInet6 = false) :
    clearedTables p4info s learnInfo =
      if (s (fdbKey p4info .tunnelV4 learnInfo.macAddr learnInfo.bridgeId)).isSome then
        [.tx, .tunnelV4, .smac]
      else if (s (fdbKey p4info .tunnelV6 learnInfo.macAddr learnInfo.bridgeId)).isSome then
        [.tx, .tunnelV6, .smac]
      else [.tx, .smac] := by
  rw [clearedTables, probedRecord, htunnel, Bool.or_false]
  split
  · simp only [deletedTables, if_true, tunnelTables, tunnelTableOf, hfamilies, Bool.false_eq_true, if_false]
  · split
    · rfl
    · rw [deletedTables, htunnel]
      rfl

/-- The tables cleared for an address without tunnel entries. -/
theorem clearedTables_absent (p4info : P4Info) (s : Tables) (learnInfo : MacLearningInfo)
    (htunnel : learnInfo.isTunnel = false)
    (hv4 : s (fdbKey p4info .tunnelV4 learnInfo.macAddr learnInfo.bridgeId) = none)
    (hv6 : s (fdbKey p4info .tunnelV6 learnInfo.macAddr learnInfo.bridgeId) = none) :
    clearedTables p4info s learnInfo = [.tx, .smac] := by
  simp only [clearedTables, probedRecord, hv4, hv6, htunnel, Option.isSome_none, Bool.or_self,
    Bool.false_eq_true, if_false, deletedTables]

end NetworkingRecipe.Ovsp4rt.Es2k
