import NetworkingRecipe.Ovsp4rt.Es2k.FdbEffects

/-!
# Learning an address and forgetting it again

An insertion followed by a deletion of the same address on the same bridge. A
tunnel-learned address leaves no trace, although the deleting record does not say how the
address was learned. A VLAN-learned address leaves its l2_fwd_rx entry behind, because the
deletion never names that table.
-/

namespace NetworkingRecipe.Ovsp4rt.Es2k

open P4Runtime Interaction

/-- The tables after an insertion of one record and a deletion of another. -/
def insertThenDelete (p4info : P4Info) (inserted deleted : MacLearningInfo) (s : Tables) : Tables :=
  ((configFdbEntry deleted p4info false).run tableServer
    ((configFdbEntry inserted p4info true).run tableServer s).2).2

/-- The pairs of a VLAN insertion start with the l2_fwd_rx pair and continue with keys that a
deletion clears. -/
theorem plannedPairs_vlan (p4info : P4Info) (s : Tables) (learnInfo : MacLearningInfo)
    (htunnel : learnInfo.isTunnel = false)
    (htx : s (fdbKey p4info .tx learnInfo.macAddr learnInfo.bridgeId) = none) :
    ∃ rest, plannedPairs p4info s learnInfo =
        (fdbKey p4info .rx learnInfo.macAddr learnInfo.bridgeId,
          (fdbInsertEntry p4info learnInfo .rx).action) :: rest ∧
      ∀ k ∈ rest.map Prod.fst,
        k ∈ fdbKeys p4info learnInfo.macAddr learnInfo.bridgeId [.tx, .smac] := by
  rw [plannedPairs, insertPlan_absent htx]
  cases hport : portLookup p4info s learnInfo with
  | error status =>
    rw [bodyPlan_vlan_error htunnel hport]
    exact ⟨[], rfl, fun k hk => absurd hk List.not_mem_nil⟩
  | ok hostSp =>
    rw [bodyPlan_vlan_ok htunnel hport]
    exact ⟨_, rfl, fun k hk => hk⟩

/-- A VLAN insertion writes no tunnel table. -/
theorem tunnelTable_not_mem_vlan_tables (p4info : P4Info) (s : Tables) (learnInfo : MacLearningInfo)
    (htunnel : learnInfo.isTunnel = false) (table : FdbTable) (hbridge : table.hasBridge = false) :
    table ∉ (insertPlan p4info s learnInfo).tables := by
  have hne : table ≠ .tx ∧ table ≠ .rx ∧ table ≠ .smac := by
    refine ⟨?_, ?_, ?_⟩ <;> rintro rfl <;> cases hbridge
  rw [insertPlan]
  split
  · exact List.not_mem_nil
  · cases hport : portLookup p4info s learnInfo with
    | error status =>
      rw [bodyPlan_vlan_error htunnel hport]
      simpa using hne.2.1
    | ok hostSp =>
      rw [bodyPlan_vlan_ok htunnel hport]
      simpa using ⟨hne.2.1, hne.1, hne.2.2⟩

/-- Inserting and deleting a VLAN-learned address leaves the l2_fwd_rx entry behind, so the tables
are never what they were. -/
theorem insertThenDelete_vlan_keeps_rx (p4info : P4Info) (hp : ResolvesTables p4info fdbTableNames)
    (s : Tables) (inserted deleted : MacLearningInfo)
    (hinserted : inserted.isTunnel = false) (hdeleted : deleted.isTunnel = false)
    (hmac : deleted.macAddr = inserted.macAddr) (hbridge : deleted.bridgeId = inserted.bridgeId)
    (habsent : ∀ table, s (fdbKey p4info table inserted.macAddr inserted.bridgeId) = none) :
    insertThenDelete p4info inserted deleted s =
        s.insert (fdbKey p4info .rx inserted.macAddr inserted.bridgeId)
          (fdbInsertEntry p4info inserted .rx).action ∧
      insertThenDelete p4info inserted deleted s ≠ s := by
  have hsupported : SupportedType inserted := fun h => by rw [hinserted] at h; cases h
  have hfinal : insertThenDelete p4info inserted deleted s =
      s.insert (fdbKey p4info .rx inserted.macAddr inserted.bridgeId)
        (fdbInsertEntry p4info inserted .rx).action := by
    have hkeep (table : FdbTable) (htable : table.hasBridge = false) :
        s.insertAll (plannedPairs p4info s inserted)
          (fdbKey p4info table deleted.macAddr deleted.bridgeId) = none := by
      rw [hmac, hbridge, ← not_ne_iff, insertAll_plannedPairs_ne_none_iff hp, habsent]
      simpa using tunnelTable_not_mem_vlan_tables p4info s inserted hinserted table htable
    rw [insertThenDelete, run_configFdbEntry_insert p4info inserted hsupported,
      run_configFdbEntry_delete,
      clearedTables_absent p4info _ deleted hdeleted (hkeep .tunnelV4 rfl) (hkeep .tunnelV6 rfl),
      hmac, hbridge]
    obtain ⟨rest, hpairs, hrest⟩ := plannedPairs_vlan p4info s inserted hinserted (habsent .tx)
    rw [hpairs]
    refine Store.eraseAll_insertAll (s.insert _ _) rest _ hrest fun k hk => ?_
    obtain ⟨table, htable, rfl⟩ := List.mem_map.mp hk
    rw [Store.insert_of_ne, habsent]
    apply fdbKey_ne hp
    rintro rfl
    simp at htable
  refine ⟨hfinal, fun hsame => ?_⟩
  have hrx := congrFun (hfinal.symm.trans hsame) (fdbKey p4info .rx inserted.macAddr inserted.bridgeId)
  rw [Store.insert_self, habsent] at hrx
  cases hrx

/-- The round trip of a VLAN record changes the tables that it started from. -/
theorem insertThenDelete_vlanRecord_ne :
    (∀ table, vsiTables (fdbKey fdbPipeline table vlanRecord.macAddr vlanRecord.bridgeId) = none) ∧
      vsiTables (txAccVsiKey fdbPipeline vlanRecord.srcPort) ≠ none ∧ vlanRecord.isTunnel = false ∧
      ¬ insertThenDelete fdbPipeline vlanRecord vlanRecord vsiTables = vsiTables := by
  refine ⟨fun table => by cases table <;> decide, by decide, rfl, fun hsame => ?_⟩
  have hrx := congrFun hsame (fdbKey fdbPipeline .rx vlanRecord.macAddr vlanRecord.bridgeId)
  revert hrx
  decide

/-- The l2_fwd_rx entry that the round trip of a VLAN record leaves behind. -/
theorem insertThenDelete_vlanRecord :
    insertThenDelete fdbPipeline vlanRecord vlanRecord vsiTables =
        vsiTables.insert (fdbKey fdbPipeline .rx vlanRecord.macAddr vlanRecord.bridgeId)
          (fdbInsertEntry fdbPipeline vlanRecord .rx).action ∧
      insertThenDelete fdbPipeline vlanRecord vlanRecord vsiTables ≠ vsiTables :=
  insertThenDelete_vlan_keeps_rx fdbPipeline fdbPipeline_resolves vsiTables vlanRecord vlanRecord rfl rfl
    rfl rfl fun table => by cases table <;> decide

/-- Inserting a tunnel-learned address and deleting it with a record that only names it restores
the tables. -/
theorem insertThenDelete_tunnel (p4info : P4Info) (hp : ResolvesTables p4info fdbTableNames)
    (s : Tables) (inserted deleted : MacLearningInfo) (hinserted : inserted.isTunnel = true)
    (htype : inserted.tnlInfo.tunnelType = ovsTunnelVxlan ∨
      inserted.tnlInfo.tunnelType = ovsTunnelGeneve)
    (hdeleted : deleted.isTunnel = false) (hfamilies : deleted.tnlInfo.bothFamilies afInet6 = false)
    (hmac : deleted.macAddr = inserted.macAddr) (hbridge : deleted.bridgeId = inserted.bridgeId)
    (habsent : ∀ table, table ≠ .rx → s (fdbKey p4info table inserted.macAddr inserted.bridgeId) = none) :
    insertThenDelete p4info inserted deleted s = s := by
  have htables : (insertPlan p4info s inserted).tables = tunnelTables inserted := by
    rw [insertPlan_absent (habsent .tx (by decide)), bodyPlan_tunnel hinserted]
  have hpresent (table : FdbTable) (hne : table ≠ .rx) :
      (s.insertAll (plannedPairs p4info s inserted)
        (fdbKey p4info table deleted.macAddr deleted.bridgeId)).isSome =
          decide (table ∈ tunnelTables inserted) := by
    rw [hmac, hbridge, Bool.eq_iff_iff, decide_eq_true_iff, Option.isSome_iff_ne_none,
      insertAll_plannedPairs_ne_none_iff hp, habsent table hne, htables]
    simp
  have hcleared : clearedTables p4info (s.insertAll (plannedPairs p4info s inserted)) deleted =
      tunnelTables inserted := by
    rw [clearedTables_unmarked p4info _ deleted hdeleted hfamilies, hpresent .tunnelV4 (by decide),
      hpresent .tunnelV6 (by decide)]
    unfold tunnelTables tunnelTableOf
    cases inserted.tnlInfo.bothFamilies afInet6 <;> rfl
  rw [insertThenDelete, run_configFdbEntry_insert p4info inserted fun _ => htype,
    run_configFdbEntry_delete, hcleared, hmac, hbridge]
  apply Store.eraseAll_insertAll
  · intro k hk
    rwa [plannedPairs_keys, htables] at hk
  · intro k hk
    obtain ⟨table, htable, rfl⟩ := List.mem_map.mp hk
    apply habsent
    rintro rfl
    revert htable
    unfold tunnelTables tunnelTableOf
    split <;> decide

/-- The round trip of an IPv6 tunnel record over tables that hold a tx_acc_vsi entry. -/
theorem insertThenDelete_tunnelRecord :
    insertThenDelete fdbPipeline tunnelV6Record (bareRecord tunnelV6Record.macAddr tunnelV6Record.bridgeId)
      vsiTables = vsiTables :=
  insertThenDelete_tunnel fdbPipeline fdbPipeline_resolves vsiTables tunnelV6Record _ rfl (Or.inr rfl)
    rfl rfl rfl rfl fun table _ => by cases table <;> decide

end NetworkingRecipe.Ovsp4rt.Es2k
