import NetworkingRecipe.Ovsp4rt.Dpdk.ConfigEntries
import NetworkingRecipe.Ovsp4rt.Dpdk.P4Info
import NetworkingRecipe.P4Runtime.OrderedWrites

/-!
# The DPDK updates as ordered writes

The updates of a tunnel and of a VLAN-learned address write two tables each, in the same
order and under the same keys whether they insert or delete.
-/

namespace NetworkingRecipe.Ovsp4rt.Dpdk

open P4Runtime

/-- The tables of the DPDK target. -/
def dpdkTableNames : List String :=
  [l2FwdTxTable, l2FwdRxWithTunnelTable, vxlanEncapModTable, ipv4TunnelTermTable]

/-- Two entries of different tables, written in order. -/
def pairUpdate {p4info : P4Info} (hp : ResolvesTables p4info dpdkTableNames) (first second : Bool → TableEntry)
    {name name' : String} (hnames : name ∈ dpdkTableNames ∧ name' ∈ dpdkTableNames ∧ name ≠ name')
    (hfirst : ∀ insertEntry, (first insertEntry).key = (first false).key ∧
      (first insertEntry).tableId = (getTableId p4info name).toUInt32)
    (hsecond : ∀ insertEntry, (second insertEntry).key = (second false).key ∧
      (second insertEntry).tableId = (getTableId p4info name').toUInt32) : OrderedUpdate where
  entries insertEntry := [first insertEntry, second insertEntry]
  key_eq := by
    simp only [List.map_cons, List.map_nil, (hfirst true).1, (hsecond true).1]
  nodup := by
    obtain ⟨hmem, hmem', hne⟩ := hnames
    have hkey : (first true).key ≠ (second true).key := by
      intro h
      have hid := congrArg TableKey.tableId h
      change (first true).tableId = (second true).tableId at hid
      rw [(hfirst true).2, (hsecond true).2] at hid
      exact hne (hp.name_eq hmem hmem' hid)
    simpa using hkey

/-! ### Tunnels -/

/-- The entries of a tunnel, in the order in which they are written. -/
def tunnelEntries (p4info : P4Info) (tunnelInfo : TunnelInfo) (insertEntry : Bool) : List TableEntry :=
  [prepareV4EncapTableEntry {} tunnelInfo p4info insertEntry,
   encodeTunnelTermTableEntry {} tunnelInfo p4info insertEntry]

/-- The update of a tunnel. -/
def tunnelUpdate {p4info : P4Info} (hp : ResolvesTables p4info dpdkTableNames) (tunnelInfo : TunnelInfo) :
    OrderedUpdate :=
  pairUpdate hp (prepareV4EncapTableEntry {} tunnelInfo p4info)
    (encodeTunnelTermTableEntry {} tunnelInfo p4info)
    (show vxlanEncapModTable ∈ _ ∧ ipv4TunnelTermTable ∈ _ ∧ _ by decide)
    (fun insertEntry => by cases insertEntry <;> exact ⟨rfl, rfl⟩)
    (fun insertEntry => by cases insertEntry <;> exact ⟨rfl, rfl⟩)

/-- A tunnel is configured by its update. -/
theorem configTunnelEntry_eq {p4info : P4Info} (hp : ResolvesTables p4info dpdkTableNames)
    (tunnelInfo : TunnelInfo) (insertEntry : Bool) :
    configTunnelEntry tunnelInfo p4info insertEntry = (tunnelUpdate hp tunnelInfo).program insertEntry := by
  change _ = writeInOrder (updateType insertEntry) [_, _]
  rw [writeInOrder, writeInOrder_singleton]
  rfl

/-! ### VLAN-learned addresses -/

/-- The entries of a VLAN-learned address, in the order in which they are written. -/
def fdbVlanEntries (p4info : P4Info) (learnInfo : MacLearningInfo) (insertEntry : Bool) : List TableEntry :=
  [encodeFdbTxVlanTableEntry {} learnInfo p4info insertEntry,
   encodeFdbRxVlanTableEntry {} learnInfo p4info insertEntry]

/-- The update of a VLAN-learned address. -/
def fdbVlanUpdate {p4info : P4Info} (hp : ResolvesTables p4info dpdkTableNames)
    (learnInfo : MacLearningInfo) : OrderedUpdate :=
  pairUpdate hp (encodeFdbTxVlanTableEntry {} learnInfo p4info)
    (encodeFdbRxVlanTableEntry {} learnInfo p4info)
    (show l2FwdTxTable ∈ _ ∧ l2FwdRxWithTunnelTable ∈ _ ∧ _ by decide)
    (fun insertEntry => by cases insertEntry <;> exact ⟨rfl, rfl⟩)
    (fun insertEntry => by cases insertEntry <;> exact ⟨rfl, rfl⟩)

/-- A VLAN-learned address is configured by its update. -/
theorem configFdbEntry_eq {p4info : P4Info} (hp : ResolvesTables p4info dpdkTableNames)
    {learnInfo : MacLearningInfo} (htunnel : learnInfo.isTunnel = false) (hvlan : learnInfo.isVlan = true)
    (insertEntry : Bool) :
    configFdbEntry learnInfo p4info insertEntry = (fdbVlanUpdate hp learnInfo).program insertEntry := by
  change _ = writeInOrder (updateType insertEntry) [_, _]
  rw [writeInOrder, writeInOrder_singleton, configFdbEntry, htunnel, hvlan]
  rfl

/-! ### The test pipeline -/

/-- The test pipeline knows the DPDK tables under different identifiers. -/
theorem dpdkP4Info_resolves : ResolvesTables dpdkP4Info dpdkTableNames where
  known := by decide +kernel
  distinct := by decide +kernel

end NetworkingRecipe.Ovsp4rt.Dpdk
