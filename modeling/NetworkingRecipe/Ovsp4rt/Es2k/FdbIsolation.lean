import NetworkingRecipe.Ovsp4rt.Es2k.FdbCalls

/-!
# What calls for other addresses and bridges leave alone

The keys of l2_fwd_tx, l2_fwd_rx, and l2_fwd_smac carry the bridge, so calls for another
address or another bridge never reach them. The tunnel tables are keyed by the MAC address
alone: all bridges share one entry, which a deletion for any of them clears.
-/

namespace NetworkingRecipe.Ovsp4rt.Es2k

open P4Runtime Interaction

/-- The entries that a deletion with this record removes. -/
def removedEntries (p4info : P4Info) (s : Tables) (deleted : MacLearningInfo) :
    Set (TableKey × Option Action) :=
  {entry | s entry.1 = some entry.2 ∧ FdbCall.after p4info ⟨deleted, false⟩ s entry.1 = none}

/-- A deletion removes the entries of its cleared tables. -/
theorem mem_removedEntries_iff (p4info : P4Info) (s : Tables) (deleted : MacLearningInfo)
    (k : TableKey) (action : Option Action) :
    (k, action) ∈ removedEntries p4info s deleted ↔
      s k = some action ∧ k ∈ fdbKeys p4info deleted.macAddr deleted.bridgeId
        (clearedTables p4info s deleted) := by
  rw [removedEntries, Set.mem_ofPred_eq, FdbCall.after_delete p4info rfl, Store.eraseAll_apply]
  refine and_congr_right fun hs => ?_
  split
  · exact iff_of_true rfl ‹_›
  · rw [hs]
    exact iff_of_false (Option.some_ne_none _) ‹_›

/-- The tables that a deletion clears depend on the tunnel keys only. -/
theorem clearedTables_congr (p4info : P4Info) (s t : Tables) (deleted : MacLearningInfo)
    (hv4 : s (fdbKey p4info .tunnelV4 deleted.macAddr deleted.bridgeId) =
      t (fdbKey p4info .tunnelV4 deleted.macAddr deleted.bridgeId))
    (hv6 : s (fdbKey p4info .tunnelV6 deleted.macAddr deleted.bridgeId) =
      t (fdbKey p4info .tunnelV6 deleted.macAddr deleted.bridgeId)) :
    clearedTables p4info s deleted = clearedTables p4info t deleted := by
  rw [clearedTables, clearedTables, probedRecord, probedRecord, hv4, hv6]

/-- Between two states that agree on the per-bridge keys of a pair, a deletion for the pair removes
the same entries outside the tunnel tables. -/
theorem removedEntries_congr_of_ne {p4info : P4Info} {s t : Tables} {deleted : MacLearningInfo}
    (hagree : ∀ table, table.hasBridge = true →
      s (fdbKey p4info table deleted.macAddr deleted.bridgeId) =
        t (fdbKey p4info table deleted.macAddr deleted.bridgeId))
    {k : TableKey} (hv4 : k ≠ fdbKey p4info .tunnelV4 deleted.macAddr deleted.bridgeId)
    (hv6 : k ≠ fdbKey p4info .tunnelV6 deleted.macAddr deleted.bridgeId) (action : Option Action)
    (hmem : (k, action) ∈ removedEntries p4info s deleted) :
    (k, action) ∈ removedEntries p4info t deleted := by
  obtain ⟨hs, hkey⟩ := (mem_removedEntries_iff p4info s deleted k action).mp hmem
  obtain ⟨table, hcleared, rfl⟩ := List.mem_map.mp hkey
  have htable : table.hasBridge = true := by
    cases table with
    | tunnelV4 => exact absurd rfl hv4
    | tunnelV6 => exact absurd rfl hv6
    | _ => rfl
  rw [mem_removedEntries_iff, ← hagree table htable]
  exact ⟨hs, List.mem_map_of_mem ((mem_clearedTables_of_hasBridge p4info t deleted table htable).mpr
    ((mem_clearedTables_of_hasBridge p4info s deleted table htable).mp hcleared))⟩

/-- Between two states that agree on all keys of a pair, a deletion for the pair removes the same
entries. -/
theorem removedEntries_congr {p4info : P4Info} {s t : Tables} {deleted : MacLearningInfo}
    (hagree : ∀ table, s (fdbKey p4info table deleted.macAddr deleted.bridgeId) =
      t (fdbKey p4info table deleted.macAddr deleted.bridgeId)) :
    removedEntries p4info s deleted = removedEntries p4info t deleted := by
  ext ⟨k, action⟩
  rw [mem_removedEntries_iff, mem_removedEntries_iff,
    clearedTables_congr p4info s t deleted (hagree .tunnelV4) (hagree .tunnelV6)]
  refine and_congr_left fun hkey => ?_
  obtain ⟨table, -, rfl⟩ := List.mem_map.mp hkey
  rw [hagree]

end NetworkingRecipe.Ovsp4rt.Es2k
